import RuntimePlatform.Tenant.Backend

/-!
The tenant counters of one process. Every operation first prunes the window of the last minute,
and starts the counts of a team afresh when they are of another day.
-/

namespace RuntimePlatform.Tenant

def WINDOW_SECONDS : ℤ := 60

structure TenantUsage (S : Type) where
  request_times : List ℤ
  tokens_today : ℤ
  spend_usd : S
  /-- No day before the first use. -/
  tokens_day : Option ℤ

/-- `_usage`, where a team without usage has that of a new one, and `_members`. -/
structure TenantAttributionStore (S : Type) where
  usage : String → TenantUsage S
  members : String → Option ℤ

def prune_window (times : List ℤ) (now : ℤ) : List ℤ :=
  times.dropWhile fun time => decide (time < now - WINDOW_SECONDS * 1000)

variable {S : Type} (F : Spending S)

def TenantUsage.new : TenantUsage S := ⟨[], 0, F.zero, none⟩

namespace TenantAttributionStore

def empty : TenantAttributionStore S := ⟨fun _ => .new F, fun _ => none⟩

/-- `_get`; the caller writes what becomes of the usage. -/
def get (store : TenantAttributionStore S) (now asked : ℤ) (team : String) : TenantUsage S :=
  let usage := store.usage team
  let request_times := prune_window usage.request_times now
  if usage.tokens_day = some asked then { usage with request_times := request_times }
  else ⟨request_times, 0, F.zero, some asked⟩

def put (store : TenantAttributionStore S) (team : String) (usage : TenantUsage S) : TenantAttributionStore S :=
  { store with usage := Function.update store.usage team usage }

def reserve_request (store : TenantAttributionStore S) (now asked : ℤ) (team : String)
    (input_tokens output_tokens : ℕ) (spend_usd : S) (member_id : String) :
    TenantAttributionStore S × QuotaReservation S :=
  let usage := store.get F now asked team
  let token_delta := input_tokens + output_tokens
  let usage := { usage with
    request_times := usage.request_times ++ [now]
    tokens_today := usage.tokens_today + token_delta
    spend_usd := F.add usage.spend_usd spend_usd }
  let store := store.put team usage
  ({ store with members := Function.update store.members member_id (some now) },
    ⟨team, member_id, token_delta, spend_usd, usage.request_times.length, usage.tokens_today, usage.spend_usd⟩)

def refund_reservation (store : TenantAttributionStore S) (now asked : ℤ) (reservation : QuotaReservation S) :
    TenantAttributionStore S :=
  let usage := store.get F now asked reservation.team
  let request_times := match store.members reservation.member_id with
    | some stamp => usage.request_times.erase stamp
    | none => usage.request_times
  let store := store.put reservation.team { usage with
    request_times := request_times
    tokens_today := max 0 (usage.tokens_today - reservation.reserved_tokens)
    spend_usd := F.clamp (F.sub usage.spend_usd reservation.reserved_spend_usd) }
  { store with members := Function.update store.members reservation.member_id none }

def reconcile_usage (store : TenantAttributionStore S) (now asked : ℤ) (reservation : QuotaReservation S)
    (actual_input_tokens actual_output_tokens : ℕ) (actual_spend_usd : S) : TenantAttributionStore S × ℤ × S :=
  let usage := store.get F now asked reservation.team
  let actual_tokens := actual_input_tokens + actual_output_tokens
  let token_delta : ℤ := actual_tokens - reservation.reserved_tokens
  let spend_delta := F.delta actual_spend_usd reservation.reserved_spend_usd
  let tokens_today := max 0 (usage.tokens_today + token_delta)
  let spend_usd := F.clamp (F.add usage.spend_usd spend_delta)
  (store.put reservation.team { usage with tokens_today := tokens_today, spend_usd := spend_usd },
    tokens_today, spend_usd)

def usage_snapshot (store : TenantAttributionStore S) (now : ℤ) (team : String) : ℕ × ℤ :=
  let usage := store.get F now (today now) team
  (usage.request_times.length, usage.tokens_today)

def spend_snapshot (store : TenantAttributionStore S) (now : ℤ) (team : String) : S :=
  (store.get F now (today now) team).spend_usd

/-- The store behind the interface; it awaits nothing. -/
def backend : TenantAttributionBackend (TenantAttributionStore S) S where
  empty := empty F
  awaits := false
  reserve_request := reserve_request F
  refund_reservation := refund_reservation F
  reconcile_usage := reconcile_usage F
  usage_snapshot := usage_snapshot F
  spend_snapshot := spend_snapshot F

variable {F}

/-- The tokens which the usage of a team has for a day. -/
def tokensOn (usage : TenantUsage S) (day : ℤ) : ℤ := if usage.tokens_day = some day then usage.tokens_today else 0

theorem get_tokens (store : TenantAttributionStore S) (now asked : ℤ) (team : String) :
    (store.get F now asked team).tokens_today = tokensOn (store.usage team) asked := by
  simp only [get, tokensOn]
  split
  · rfl
  · rfl

theorem get_day (store : TenantAttributionStore S) (now asked : ℤ) (team : String) :
    (store.get F now asked team).tokens_day = some asked := by
  simp only [get]
  split
  · assumption
  · rfl

theorem count_eq (store : TenantAttributionStore S) (now : ℤ) (team : String) :
    (backend F).count store now team = tokensOn (store.usage team) (today now) := get_tokens store now (today now) team

/-- The counts are of no later day. -/
def Dated (store : TenantAttributionStore S) (now : ℤ) : Prop :=
  ∀ team day, (store.usage team).tokens_day = some day → day ≤ today now

/-- What a write of the usage of one team does to the counts of all. -/
theorem counted_write {store written : TenantAttributionStore S} {now : ℤ} (dated : Dated store now) {team : String}
    {usage : TenantUsage S} (writes : written.usage = Function.update store.usage team usage)
    (day : usage.tokens_day = some (today now)) : Dated written now ∧ ∀ other,
      (backend F).count written now other =
        if other = team then usage.tokens_today else (backend F).count store now other := by
  refine ⟨fun other d same => ?_, fun other => ?_⟩
  · rw [writes] at same
    by_cases here : other = team
    · rw [here, Function.update_self, day] at same
      exact (Option.some.inj same).ge
    · rw [Function.update_of_ne here] at same
      exact dated other d same
  · rw [count_eq, count_eq, writes]
    by_cases here : other = team
    · rw [here, Function.update_self, if_pos rfl]
      exact if_pos day
    · rw [Function.update_of_ne here, if_neg here]

/-- The store counts as the interface asks. -/
theorem counts (F : Spending S) : Counts (backend F) Dated where
  empty now := ⟨fun _ _ bad => (nomatch bad), fun _ => rfl⟩
  wait store now ms dated := by
    refine ⟨fun team day same => (dated team day same).trans (today_mono ms), fun team => ?_⟩
    rw [count_eq, count_eq]
    by_cases same : today (now + ms) = today now
    · rw [if_pos same, same]
    · rw [if_neg same]
      refine if_neg fun later => same ?_
      exact le_antisymm (dated team _ later) (today_mono ms)
  reserve store now asked team input_tokens output_tokens spend_usd member_id dated may := by
    obtain rfl := may.2 rfl
    have writes : (reserve_request F store now (today now) team input_tokens output_tokens spend_usd
        member_id).1.usage = Function.update store.usage team _ := rfl
    obtain ⟨kept, counted⟩ := counted_write (F := F) dated writes (get_day store now _ team)
    refine ⟨kept, ⟨rfl, rfl⟩, fun other => (counted other).trans ?_⟩
    rw [if_pos rfl, count_eq store now team, ← get_tokens (F := F) store now]
  refund store now asked reservation dated may := by
    obtain rfl := may.2 rfl
    have writes : (refund_reservation F store now (today now) reservation).usage =
        Function.update store.usage reservation.team _ := rfl
    obtain ⟨kept, counted⟩ := counted_write (F := F) dated writes (get_day store now _ reservation.team)
    refine ⟨kept, fun other => (counted other).trans ?_⟩
    by_cases here : other = reservation.team
    · rw [here, if_pos rfl, if_pos ⟨rfl, rfl⟩, count_eq, ← get_tokens (F := F) store now]
    · rw [if_neg here, if_neg fun both => here both.1]
  reconcile store now asked reservation actual_input_tokens actual_output_tokens actual_spend_usd dated may := by
    obtain rfl := may.2 rfl
    have writes : (reconcile_usage F store now (today now) reservation actual_input_tokens actual_output_tokens
        actual_spend_usd).1.usage = Function.update store.usage reservation.team _ := rfl
    obtain ⟨kept, counted⟩ := counted_write (F := F) dated writes (get_day store now _ reservation.team)
    refine ⟨kept, fun other => (counted other).trans ?_⟩
    by_cases here : other = reservation.team
    · rw [here, if_pos rfl, if_pos rfl, if_pos rfl, count_eq, ← get_tokens (F := F) store now]
    · rw [if_neg here, if_neg here]

end TenantAttributionStore
end RuntimePlatform.Tenant
