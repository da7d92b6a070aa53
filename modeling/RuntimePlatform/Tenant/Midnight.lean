import RuntimePlatform.Tenant.Scripts

/-!
The daily token counts of both stores over runs which pass midnight. A request in flight at
midnight is closed on the day after; what it gives back is then taken from that day's count.
-/

namespace RuntimePlatform.Tenant

/-- Each store is exact in every state of a run just when every step of the run loses nothing; the one in Redis as long
as it prints its counts in full. -/
theorem daily_tokens_exact_iff {S : Type} (process redis : Spending S) (now : ℤ) (events : List (Event S)) :
    (Runs.EveryState (step (TenantAttributionStore.backend process)) (Exact (TenantAttributionStore.backend process))
        (World.start (TenantAttributionStore.backend process) now) events ↔
      Runs.EveryStep (step (TenantAttributionStore.backend process)) (Kept (TenantAttributionStore.backend process))
        (World.start (TenantAttributionStore.backend process) now) events) ∧
    (Printed (events.map Event.tokens) →
      (Runs.EveryState (step (RedisTenantAttributionStore.backend redis))
          (Exact (RedisTenantAttributionStore.backend redis))
          (World.start (RedisTenantAttributionStore.backend redis) now) events ↔
        Runs.EveryStep (step (RedisTenantAttributionStore.backend redis))
          (Kept (RedisTenantAttributionStore.backend redis))
          (World.start (RedisTenantAttributionStore.backend redis) now) events)) :=
  ⟨exact_iff_kept (TenantAttributionStore.counts process) now events,
    fun _ => exact_iff_kept (RedisTenantAttributionStore.counts redis) now events⟩

/-- Spends which are whole numbers. -/
def wholeSpending : Spending ℤ where
  zero := 0
  add a b := a + b
  sub a b := a - b
  clamp a := max 0 a
  delta a b := a - b

/-- A request of one hundred tokens is refunded a second after midnight, behind one of fifty. -/
def acrossMidnight : List (Event ℤ) :=
  [.reserve 0 "finance" 100 0 0 "first", .wait 2000, .reserve 1 "finance" 50 0 0 "second", .refund 1 0]

theorem refund_across_midnight :
    ¬ Runs.EveryState (step (TenantAttributionStore.backend wholeSpending))
        (Exact (TenantAttributionStore.backend wholeSpending))
        (World.start (TenantAttributionStore.backend wholeSpending) 86399000) acrossMidnight ∧
    ¬ Runs.EveryState (step (RedisTenantAttributionStore.backend wholeSpending))
        (Exact (RedisTenantAttributionStore.backend wholeSpending))
        (World.start (RedisTenantAttributionStore.backend wholeSpending) 86399000) acrossMidnight := by
  constructor
  · intro every
    have last := Runs.everyState_iff.mp every acrossMidnight [] rfl "finance"
    exact absurd last (by decide +kernel)
  · intro every
    have last := Runs.everyState_iff.mp every acrossMidnight [] rfl "finance"
    exact absurd last (by decide +kernel)

end RuntimePlatform.Tenant
