import RuntimePlatform.Budget.ScriptLedger
import RuntimePlatform.Budget.MemoryLedger

/-!
How far a scope can go over its budget. A settle of a live reservation overruns by
its estimate error. A settle of an expired one overruns by its whole amount, since
the room it once held may have been given to others.
-/

namespace RuntimePlatform.Budget
open Ledger
variable {ι : Type}

/-- The settles of the current window, each with the estimate its reservation was
admitted with, and late exactly when the reservation has lapsed. -/
structure WindowCharges (log : List (Event ι)) (charges : List (Charge ι)) : Prop where
  settles : charges.map (fun c => (c.id, c.actual)) = (sinceReset log).filterMap Event.charge?
  admitted : ∀ c ∈ charges, .admitted c.id c.estimate ∈ log
  late_iff : ∀ c ∈ charges, c.late = true ↔ .lapsed c.id ∈ log

/-- What a legal log says about the ledger it replays to. -/
structure Recorded (log : List (Event ι)) (L : Ledger ι) : Prop where
  issued : ∀ id ∈ L.issued, .admitted id (L.estimate id) ∈ log
  lapsed : ∀ id, .lapsed id ∈ log → id ∈ L.issued ∧ id ∉ L.live
  late : ∀ id ∈ L.late, .lapsed id ∈ log
  admitted : ∀ c ∈ L.charges, .admitted c.id c.estimate ∈ log
  late_iff : ∀ c ∈ L.charges, c.late = true ↔ .lapsed c.id ∈ log

section Log
variable {cap : ℤ} {log : List (Event ι)} {L : Ledger ι}

theorem Recorded.weaken (recorded : Recorded log L) (e : Event ι) (quiet : ∀ id, e ≠ .lapsed id)
    {L' : Ledger ι} (issued : L'.issued = L.issued) (estimate : L'.estimate = L.estimate)
    (live : L'.live ⊆ L.live) (late : L'.late ⊆ L.late) (charges : L'.charges ⊆ L.charges) :
    Recorded (log ++ [e]) L' where
  issued id member := by
    rw [estimate]
    exact List.mem_append_left _ (recorded.issued id (issued ▸ member))
  lapsed id member := by
    rcases List.mem_append.mp member with old | last
    · obtain ⟨known, gone⟩ := recorded.lapsed id old
      exact ⟨issued ▸ known, fun h => gone (live h)⟩
    · exact absurd (List.mem_singleton.mp last).symm (quiet id)
  late id member := List.mem_append_left _ (recorded.late id (late member))
  admitted c member := List.mem_append_left _ (recorded.admitted c (charges member))
  late_iff c member := by
    rw [recorded.late_iff c (charges member), List.mem_append, List.mem_singleton]
    exact ⟨.inl, fun h => h.resolve_right fun last => quiet c.id last.symm⟩

theorem Ledger.Sound.charge_settled (sound : L.Sound cap) : ∀ c ∈ L.charges, c.id ∈ L.settled :=
  fun _ member => sound.charges_settled.subset (List.mem_map_of_mem member)

variable [DecidableEq ι]

theorem Recorded.admit (recorded : Recorded log L) {id : ι} {estimate : ℤ}
    (legal : L.Legal cap (.admitted id estimate)) :
    Recorded (log ++ [.admitted id estimate]) (L.apply (.admitted id estimate)) where
  issued j member := by
    by_cases same : j = id
    · subst same
      simp only [Ledger.apply, Function.update_self, List.mem_append, List.mem_singleton, or_true]
    · simp only [Ledger.apply, Function.update_of_ne same]
      exact List.mem_append_left _
        (recorded.issued j ((Finset.mem_insert.mp member).resolve_left same))
  lapsed j member := by
    simp only [List.mem_append, List.mem_singleton, reduceCtorEq, or_false] at member
    obtain ⟨known, gone⟩ := recorded.lapsed j member
    refine ⟨Finset.mem_insert_of_mem known, fun h => ?_⟩
    rcases Finset.mem_insert.mp h with rfl | live
    · exact legal.1 known
    · exact gone live
  late j member := List.mem_append_left _ (recorded.late j member)
  admitted c member := List.mem_append_left _ (recorded.admitted c member)
  late_iff c member := by
    simp only [recorded.late_iff c member, List.mem_append, List.mem_singleton, reduceCtorEq, or_false]

theorem Recorded.lapse (sound : L.Sound cap) (recorded : Recorded log L) {id : ι}
    (legal : L.Legal cap (.lapsed id)) :
    Recorded (log ++ [.lapsed id]) (L.apply (.lapsed id)) where
  issued j member := List.mem_append_left _ (recorded.issued j member)
  lapsed j member := by
    rcases List.mem_append.mp member with old | last
    · obtain ⟨known, gone⟩ := recorded.lapsed j old
      exact ⟨known, fun h => gone (Finset.mem_of_mem_erase h)⟩
    · cases List.mem_singleton.mp last
      exact ⟨sound.live_issued legal, Finset.notMem_erase id _⟩
  late j member := by
    rcases Finset.mem_insert.mp member with rfl | old
    · exact List.mem_append_right _ List.mem_cons_self
    · exact List.mem_append_left _ (recorded.late j old)
  admitted c member := List.mem_append_left _ (recorded.admitted c member)
  late_iff c member := by
    rw [recorded.late_iff c member, List.mem_append, List.mem_singleton]
    refine ⟨.inl, fun h => h.resolve_right fun last => ?_⟩
    -- a settled id is not live any more, so it is not the one which lapses
    cases last
    exact (sound.settled_gone _ (sound.charge_settled c member)).1 legal

theorem Recorded.charge (sound : L.Sound cap) (recorded : Recorded log L) {id : ι} {actual : ℤ}
    (legal : L.Legal cap (.charged id actual)) :
    Recorded (log ++ [.charged id actual]) (L.apply (.charged id actual)) where
  issued j member := List.mem_append_left _ (recorded.issued j member)
  lapsed j member := by
    simp only [List.mem_append, List.mem_singleton, reduceCtorEq, or_false] at member
    obtain ⟨known, gone⟩ := recorded.lapsed j member
    exact ⟨known, fun h => gone (Finset.mem_of_mem_erase h)⟩
  late j member := List.mem_append_left _ (recorded.late j (Finset.mem_of_mem_erase member))
  admitted c member := by
    rcases List.mem_cons.mp member with rfl | old
    · have known : id ∈ L.issued := legal.1.elim (sound.live_issued ·) (sound.late_issued ·)
      exact List.mem_append_left _ (recorded.issued id known)
    · exact List.mem_append_left _ (recorded.admitted c old)
  late_iff c member := by
    simp only [List.mem_append, List.mem_singleton, reduceCtorEq, or_false]
    rcases List.mem_cons.mp member with rfl | old
    · simp only [decide_eq_true_eq]
      refine ⟨recorded.late id, fun lapsed => legal.1.resolve_left (recorded.lapsed id lapsed).2⟩
    · exact recorded.late_iff c old

theorem recorded_replay (nonneg : 0 ≤ cap) (log : List (Event ι))
    (legal : LegalLog cap Ledger.empty log) : Recorded log (Ledger.empty.replay log) := by
  induction log using List.reverseRecOn with
  | nil =>
      refine ⟨?_, ?_, ?_, ?_, ?_⟩ <;> intro x member <;> simp [Ledger.empty] at member
  | append_singleton log e ih =>
      obtain ⟨before, step, _⟩ := legalLog_append.mp legal
      have recorded := ih before
      have sound := (sound_empty nonneg).replay before
      rw [replay_concat]
      cases e with
      | admitted id estimate => exact recorded.admit step
      | lapsed id => exact recorded.lapse sound step
      | forgotten id =>
          exact recorded.weaken (.forgotten id) (fun _ bad => by cases bad) rfl rfl subset_rfl
            (Finset.erase_subset id _) (List.Subset.refl _)
      | charged id actual => exact recorded.charge sound step
      | reset =>
          exact recorded.weaken .reset (fun _ bad => by cases bad) rfl rfl subset_rfl subset_rfl (List.nil_subset _)
      | dropped =>
          exact recorded.weaken .dropped (fun _ bad => by cases bad) rfl rfl (Finset.empty_subset _)
            (Finset.empty_subset _) (List.nil_subset _)

theorem windowCharges_replay (nonneg : 0 ≤ cap) (log : List (Event ι))
    (legal : LegalLog cap Ledger.empty log) :
    WindowCharges log (Ledger.empty.replay log).charges := by
  have recorded := recorded_replay nonneg log legal
  exact ⟨charges_replay log, recorded.admitted, recorded.late_iff⟩

end Log

/-- The bound over a run: the budget, and the overrun of the settles of the current
window. It is the budget alone when those settles were prompt and within their estimates. -/
def OverspendBound (budget committed reserved : ℤ) (log : List (Event ι)) : Prop :=
  ∃ charges, WindowCharges log charges ∧
    committed + reserved ≤ budget + (charges.map Charge.overrun).sum ∧
    ((∀ c ∈ charges, .lapsed c.id ∉ log ∧ c.actual ≤ c.estimate) → committed + reserved ≤ budget)

theorem Charge.overrun_eq_zero {c : Charge ι} (prompt : c.late = false)
    (within : c.actual ≤ c.estimate) : c.overrun = 0 := by
  simp only [Charge.overrun, prompt, Bool.false_eq_true, if_false, Charge.excess]
  exact max_eq_left (by omega)

variable [DecidableEq ι]

theorem overspendBound_replay {budget : ℤ} (nonneg : 0 ≤ budget) (log : List (Event ι))
    (legal : LegalLog budget Ledger.empty log) :
    OverspendBound budget (Ledger.empty.replay log).committed
      (Ledger.empty.replay log).reserved log := by
  have total := ((sound_empty nonneg).replay legal).total_le
  have charges := windowCharges_replay nonneg log legal
  refine ⟨_, charges, total, fun prompt => ?_⟩
  have none : (Ledger.empty.replay log).overrun = 0 := by
    refine List.sum_eq_zero fun x member => ?_
    obtain ⟨c, here, rfl⟩ := List.mem_map.mp member
    obtain ⟨held, within⟩ := prompt c here
    refine Charge.overrun_eq_zero ?_ within
    rw [Bool.eq_false_iff, ne_eq, charges.late_iff c here]
    exact held
  linarith

/-- Over every run of either backend, committed and reserved spend together stay
within the budget and the overrun of the settles of the current window. -/
theorem overspend_bound (budget : ℤ) (nonneg : 0 ≤ budget) :
    (∀ calls : List (MemoryCall ι), ((memory budget).drawnIds calls).Nodup →
      let state := ((memory budget).run calls).getD .new
      OverspendBound budget state.committedMicros state.reservedMicros ((memory budget).log calls)) ∧
    ∀ calls : List (RedisCall ι), ((redis budget).drawnIds calls).Nodup →
      ∃ w, loadWindow ((redis budget).run calls) = some w ∧
        OverspendBound budget w.committed w.reserved ((redis budget).log calls) := by
  constructor
  · intro calls fresh state
    obtain ⟨legal, rep⟩ := (memory_refines le_rfl).legal nonneg fresh
    have represents : state.Represents ((memory budget).ledger calls) := rep
    rw [represents.committed, represents.reserved]
    exact overspendBound_replay nonneg _ legal
  · intro calls fresh
    obtain ⟨legal, rep⟩ := (redis_refines le_rfl).legal nonneg fresh
    obtain ⟨windowStart, loaded⟩ := rep.window
    exact ⟨_, loaded, overspendBound_replay nonneg _ legal⟩

/-! A late settle on top of the reservation that took its room, on a budget of 100. -/

def lateMemory : List (MemoryCall ℕ) :=
  [.reserve 1000 60000 100 1 60, .reserve 2000 60000 100 2 60, .settle 1 100 2010 60000]

def lateRedis : List (RedisCall ℕ) :=
  [.reserve 1000 1000 60000 100 1 60, .reserve 2000 2000 60000 100 2 60, .settle 1 100 2010 60000]

theorem overspend_bound_late :
    (((memory 100).run lateMemory).getD .new).reservedMicros ≤ 200 ∧
      OverspendBound 100 (((memory 100).run lateMemory).getD .new).committedMicros
        (((memory 100).run lateMemory).getD .new).reservedMicros ((memory 100).log lateMemory) :=
  ⟨by decide, (overspend_bound 100 (by decide)).1 lateMemory (by decide)⟩

/-- The estimate errors alone do not bound the spend: every settle here is within its
estimate, and the scope holds twice its budget on either backend. -/
theorem overspend_by_late_settle :
    (let state := ((memory 100).run lateMemory).getD .new
     state.committedMicros + state.reservedMicros >
      100 + ((((memory 100).ledger lateMemory).charges).map Charge.excess).sum) ∧
    (∀ c ∈ ((memory 100).ledger lateMemory).charges, c.actual ≤ c.estimate) ∧
    (∃ w, loadWindow ((redis 100).run lateRedis) = some w ∧
      w.committed + w.reserved >
        100 + ((((redis 100).ledger lateRedis).charges).map Charge.excess).sum) ∧
    ∀ c ∈ ((redis 100).ledger lateRedis).charges, c.actual ≤ c.estimate :=
  ⟨by decide, by decide, ⟨⟨100, 100, 1000⟩, rfl, by decide⟩, by decide⟩

end RuntimePlatform.Budget
