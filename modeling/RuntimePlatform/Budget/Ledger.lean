import Mathlib.Algebra.BigOperators.Group.Finset.Basic
import Mathlib.Algebra.Order.BigOperators.Group.Finset
import Mathlib.Data.Finset.Insert
import Mathlib.Algebra.BigOperators.Ring.Finset
import Mathlib.Tactic.Linarith

/-!
What the budget guard is for, apart from any store: a ledger of reservations
against one cap. A reservation is live until it is settled or its time runs out;
in the second case it is late, and may still be settled. The ledger is driven by
a log of events, and everything below follows from the log being legal.
-/

namespace RuntimePlatform.Budget

/-- One thing that happens to a scope. `reset` is the window rolling over,
`dropped` the loss of the whole stored scope. -/
inductive Event (ι : Type) where
  | admitted (id : ι) (estimate : ℤ)
  | lapsed (id : ι)
  | forgotten (id : ι)
  | charged (id : ι) (actual : ℤ)
  | reset
  | dropped

/-- The id and amount of a settle that took effect. -/
def Event.charge? {ι : Type} : Event ι → Option (ι × ℤ)
  | .charged id actual => some (id, actual)
  | _ => none

def Event.clears {ι : Type} : Event ι → Bool
  | .reset | .dropped => true
  | _ => false

/-- The events after the last one that clears the committed spend, newest first. -/
def sinceReset {ι : Type} (log : List (Event ι)) : List (Event ι) :=
  log.reverse.takeWhile fun e => !e.clears

/-- A settle that took effect; `late` when the reservation had already lapsed. -/
structure Charge (ι : Type) where
  id : ι
  estimate : ℤ
  actual : ℤ
  late : Bool
  deriving DecidableEq

/-- Spend above the estimate of the reservation. -/
def Charge.excess {ι : Type} (c : Charge ι) : ℤ := max 0 (c.actual - c.estimate)

/-- Spend for which the reservation held no room: all of it once the
reservation has lapsed, the excess before that. -/
def Charge.overrun {ι : Type} (c : Charge ι) : ℤ := if c.late then c.actual else c.excess

/-- `charges` are the settles since the last reset and `settled` the ids of all
settles of the run, newest first in both. `issued` are the ids ever admitted. -/
structure Ledger (ι : Type) where
  live : Finset ι
  late : Finset ι
  issued : Finset ι
  estimate : ι → ℤ
  charges : List (Charge ι)
  settled : List ι

namespace Ledger
variable {ι : Type}

def empty : Ledger ι := ⟨∅, ∅, ∅, fun _ => 0, [], []⟩

def committed (L : Ledger ι) : ℤ := (L.charges.map Charge.actual).sum

def reserved (L : Ledger ι) : ℤ := ∑ id ∈ L.live, L.estimate id

def overrun (L : Ledger ι) : ℤ := (L.charges.map Charge.overrun).sum

/-- The invariant of a ledger kept under one cap. -/
structure Sound (budget : ℤ) (L : Ledger ι) : Prop where
  apart : ∀ id ∈ L.live, id ∉ L.late
  live_issued : L.live ⊆ L.issued
  late_issued : L.late ⊆ L.issued
  estimate_nonneg : ∀ id ∈ L.issued, 0 ≤ L.estimate id
  actual_nonneg : ∀ c ∈ L.charges, 0 ≤ c.actual
  settled_issued : ∀ id ∈ L.settled, id ∈ L.issued
  settled_gone : ∀ id ∈ L.settled, id ∉ L.live ∧ id ∉ L.late
  settled_once : L.settled.Nodup
  charges_settled : (L.charges.map Charge.id).Sublist L.settled
  reserved_le : L.reserved ≤ budget
  total_le : L.committed + L.reserved ≤ budget + L.overrun

theorem sound_empty {budget : ℤ} (h : 0 ≤ budget) : (empty : Ledger ι).Sound budget where
  apart := by simp [empty]
  live_issued := by simp [empty]
  late_issued := by simp [empty]
  estimate_nonneg := by simp [empty]
  actual_nonneg := by simp [empty]
  settled_issued := by simp [empty]
  settled_gone := by simp [empty]
  settled_once := by simp [empty]
  charges_settled := by simp [empty]
  reserved_le := by simpa [empty, reserved] using h
  total_le := by simpa [empty, reserved, committed, overrun] using h

section Sums
variable {budget : ℤ} {L : Ledger ι}

theorem committed_nonneg (h : ∀ c ∈ L.charges, 0 ≤ c.actual) : 0 ≤ L.committed := by
  refine List.sum_nonneg fun a member => ?_
  obtain ⟨c, here, rfl⟩ := List.mem_map.mp member
  exact h c here

theorem estimate_le_reserved (sound : L.Sound budget) {id : ι} (h : id ∈ L.live) :
    L.estimate id ≤ L.reserved :=
  Finset.single_le_sum (fun j member => sound.estimate_nonneg j (sound.live_issued member)) h

theorem reserved_nonneg (sound : L.Sound budget) : 0 ≤ L.reserved :=
  Finset.sum_nonneg fun j member => sound.estimate_nonneg j (sound.live_issued member)

theorem overrun_nonneg (sound : L.Sound budget) : 0 ≤ L.overrun := by
  refine List.sum_nonneg fun a member => ?_
  obtain ⟨c, here, rfl⟩ := List.mem_map.mp member
  unfold Charge.overrun
  split
  · exact sound.actual_nonneg c here
  · exact le_max_left _ _

end Sums

variable [DecidableEq ι]

def apply (L : Ledger ι) : Event ι → Ledger ι
  | .admitted id estimate =>
      { L with
        live := insert id L.live
        issued := insert id L.issued
        estimate := Function.update L.estimate id estimate }
  | .lapsed id => { L with live := L.live.erase id, late := insert id L.late }
  | .forgotten id => { L with late := L.late.erase id }
  | .charged id actual =>
      { L with
        live := L.live.erase id
        late := L.late.erase id
        charges := ⟨id, L.estimate id, actual, decide (id ∈ L.late)⟩ :: L.charges
        settled := id :: L.settled }
  | .reset => { L with charges := [] }
  | .dropped => { L with live := ∅, late := ∅, charges := [] }

def replay (L : Ledger ι) (log : List (Event ι)) : Ledger ι := log.foldl apply L

/-- What a store may do next without breaking its purpose. -/
def Legal (budget : ℤ) (L : Ledger ι) : Event ι → Prop
  | .admitted id estimate =>
      id ∉ L.issued ∧ 0 ≤ estimate ∧ L.committed + L.reserved + estimate ≤ budget
  | .lapsed id => id ∈ L.live
  | .forgotten id => id ∈ L.late
  | .charged id actual => (id ∈ L.live ∨ id ∈ L.late) ∧ 0 ≤ actual
  | .reset | .dropped => True

def LegalLog (budget : ℤ) : Ledger ι → List (Event ι) → Prop
  | _, [] => True
  | L, e :: log => L.Legal budget e ∧ LegalLog budget (L.apply e) log

theorem reserved_admitted {L : Ledger ι} (id : ι) (estimate : ℤ) (h : id ∉ L.live) :
    (L.apply (.admitted id estimate)).reserved = L.reserved + estimate := by
  simp only [apply, reserved]
  rw [Finset.sum_insert h, Function.update_self, add_comm]
  congr 1
  refine Finset.sum_congr rfl fun j member => Function.update_of_ne ?_ _ _
  rintro rfl
  exact h member

theorem reserved_erase {L : Ledger ι} {id : ι} (h : id ∈ L.live) :
    ∑ j ∈ L.live.erase id, L.estimate j = L.reserved - L.estimate id := by
  rw [reserved, ← Finset.sum_erase_add _ _ h, add_sub_cancel_right]

theorem reserved_charged {L : Ledger ι} (id : ι) (actual : ℤ) :
    (L.apply (.charged id actual)).reserved =
      if id ∈ L.live then L.reserved - L.estimate id else L.reserved := by
  simp only [apply, reserved]
  split
  · next here => exact reserved_erase here
  · next absent => rw [Finset.erase_eq_of_notMem absent]

/-! Every legal event keeps the invariant, one case per event. -/
section Step
variable {budget : ℤ} {L : Ledger ι}

theorem Sound.admitted (sound : L.Sound budget) {id : ι} {estimate : ℤ}
    (legal : L.Legal budget (.admitted id estimate)) :
    (L.apply (.admitted id estimate)).Sound budget := by
  obtain ⟨fresh, nonneg, room⟩ := legal
  have absent : id ∉ L.live := fun member => fresh (sound.live_issued member)
  have total := reserved_admitted id estimate absent
  have spent := committed_nonneg sound.actual_nonneg
  refine ⟨?_, ?_, ?_, ?_, sound.actual_nonneg, ?_, ?_, sound.settled_once, sound.charges_settled,
    ?_, ?_⟩
  · intro j member
    rcases Finset.mem_insert.mp member with rfl | old
    · exact fun late => fresh (sound.late_issued late)
    · exact sound.apart j old
  · exact Finset.insert_subset_insert id sound.live_issued
  · exact sound.late_issued.trans (Finset.subset_insert id _)
  · intro j member
    by_cases same : j = id
    · subst same; simpa only [apply, Function.update_self] using nonneg
    · simp only [apply, Function.update_of_ne same]
      exact sound.estimate_nonneg j ((Finset.mem_insert.mp member).resolve_left same)
  · exact fun j member => Finset.mem_insert_of_mem (sound.settled_issued j member)
  · intro j member
    refine ⟨fun here => ?_, (sound.settled_gone j member).2⟩
    rcases Finset.mem_insert.mp here with rfl | old
    · exact fresh (sound.settled_issued j member)
    · exact (sound.settled_gone j member).1 old
  · rw [total]; linarith
  · rw [total]
    change L.committed + (L.reserved + estimate) ≤ budget + L.overrun
    linarith [overrun_nonneg sound]

theorem Sound.lapsed (sound : L.Sound budget) {id : ι} (legal : L.Legal budget (.lapsed id)) :
    (L.apply (.lapsed id)).Sound budget := by
  have here : id ∈ L.live := legal
  have nonneg := sound.estimate_nonneg id (sound.live_issued here)
  have total : (L.apply (.lapsed id)).reserved = L.reserved - L.estimate id := reserved_erase here
  refine ⟨?_, ?_, ?_, sound.estimate_nonneg, sound.actual_nonneg, sound.settled_issued, ?_,
    sound.settled_once, sound.charges_settled, ?_, ?_⟩
  · intro j member late
    obtain ⟨ne, old⟩ := Finset.mem_erase.mp member
    exact sound.apart j old ((Finset.mem_insert.mp late).resolve_left ne)
  · exact (Finset.erase_subset id _).trans sound.live_issued
  · exact Finset.insert_subset (sound.live_issued here) sound.late_issued
  · intro j member
    obtain ⟨notLive, notLate⟩ := sound.settled_gone j member
    refine ⟨fun h => notLive (Finset.mem_of_mem_erase h), fun h => ?_⟩
    rcases Finset.mem_insert.mp h with rfl | old
    · exact notLive here
    · exact notLate old
  · rw [total]; linarith [sound.reserved_le]
  · rw [total]
    change L.committed + (L.reserved - L.estimate id) ≤ budget + L.overrun
    linarith [sound.total_le]

theorem Sound.forgotten (sound : L.Sound budget) (id : ι) :
    (L.apply (.forgotten id)).Sound budget where
  apart j member late := sound.apart j member (Finset.mem_of_mem_erase late)
  live_issued := sound.live_issued
  late_issued := (Finset.erase_subset id _).trans sound.late_issued
  estimate_nonneg := sound.estimate_nonneg
  actual_nonneg := sound.actual_nonneg
  settled_issued := sound.settled_issued
  settled_gone j member :=
    ⟨(sound.settled_gone j member).1,
      fun late => (sound.settled_gone j member).2 (Finset.mem_of_mem_erase late)⟩
  settled_once := sound.settled_once
  charges_settled := sound.charges_settled
  reserved_le := sound.reserved_le
  total_le := sound.total_le

/-- Room freed by a settle is at most the charge less what it overruns. -/
theorem charged_total (sound : L.Sound budget) {id : ι} {actual : ℤ}
    (legal : L.Legal budget (.charged id actual)) :
    actual + (L.apply (.charged id actual)).reserved ≤
      L.reserved + Charge.overrun ⟨id, L.estimate id, actual, decide (id ∈ L.late)⟩ := by
  rw [reserved_charged]
  rcases legal.1 with live | late
  · have notLate := sound.apart id live
    have above := le_max_right 0 (actual - L.estimate id)
    simp only [if_pos live, Charge.overrun, notLate, decide_false, Bool.false_eq_true, if_false,
      Charge.excess]
    linarith
  · have notLive : id ∉ L.live := fun live => sound.apart id live late
    simp only [if_neg notLive, Charge.overrun, late, decide_true, if_true]
    linarith

theorem Sound.charged (sound : L.Sound budget) {id : ι} {actual : ℤ}
    (legal : L.Legal budget (.charged id actual)) :
    (L.apply (.charged id actual)).Sound budget := by
  obtain ⟨held, nonneg⟩ := legal
  have total := charged_total sound ⟨held, nonneg⟩
  have known : id ∈ L.issued := held.elim (sound.live_issued ·) (sound.late_issued ·)
  have unsettled : id ∉ L.settled := fun member =>
    held.elim (sound.settled_gone id member).1 (sound.settled_gone id member).2
  refine ⟨?_, ?_, ?_, sound.estimate_nonneg, ?_, ?_, ?_, ?_, ?_, ?_, ?_⟩
  · intro j member late
    exact sound.apart j (Finset.mem_of_mem_erase member) (Finset.mem_of_mem_erase late)
  · exact (Finset.erase_subset id _).trans sound.live_issued
  · exact (Finset.erase_subset id _).trans sound.late_issued
  · intro c member
    rcases List.mem_cons.mp member with rfl | old
    · exact nonneg
    · exact sound.actual_nonneg c old
  · intro j member
    rcases List.mem_cons.mp member with rfl | old
    · exact known
    · exact sound.settled_issued j old
  · intro j member
    rcases List.mem_cons.mp member with rfl | old
    · exact ⟨Finset.notMem_erase j _, Finset.notMem_erase j _⟩
    · obtain ⟨notLive, notLate⟩ := sound.settled_gone j old
      exact ⟨fun h => notLive (Finset.mem_of_mem_erase h),
        fun h => notLate (Finset.mem_of_mem_erase h)⟩
  · exact List.nodup_cons.mpr ⟨unsettled, sound.settled_once⟩
  · exact sound.charges_settled.cons_cons id
  · rw [reserved_charged]
    split
    · linarith [sound.reserved_le, sound.estimate_nonneg id known]
    · exact sound.reserved_le
  · simp only [apply, committed, overrun, List.map_cons, List.sum_cons] at total ⊢
    have old := sound.total_le
    simp only [committed, overrun] at old
    linarith

theorem Sound.reset (sound : L.Sound budget) : (L.apply .reset).Sound budget where
  apart := sound.apart
  live_issued := sound.live_issued
  late_issued := sound.late_issued
  estimate_nonneg := sound.estimate_nonneg
  actual_nonneg := by simp [apply]
  settled_issued := sound.settled_issued
  settled_gone := sound.settled_gone
  settled_once := sound.settled_once
  charges_settled := List.nil_sublist _
  reserved_le := sound.reserved_le
  total_le := by
    change 0 + L.reserved ≤ budget + 0
    linarith [sound.reserved_le]

theorem Sound.dropped (sound : L.Sound budget) : (L.apply .dropped).Sound budget := by
  have cap : 0 ≤ budget := (reserved_nonneg sound).trans sound.reserved_le
  exact {
    apart := by simp [apply]
    live_issued := by simp [apply]
    late_issued := by simp [apply]
    estimate_nonneg := sound.estimate_nonneg
    actual_nonneg := by simp [apply]
    settled_issued := sound.settled_issued
    settled_gone := by simp [apply]
    settled_once := sound.settled_once
    charges_settled := List.nil_sublist _
    reserved_le := by simpa [apply, reserved] using cap
    total_le := by simpa [apply, reserved, committed, overrun] using cap }

theorem Sound.apply (sound : L.Sound budget) {e : Event ι} (legal : L.Legal budget e) :
    (L.apply e).Sound budget := by
  cases e with
  | admitted id estimate => exact sound.admitted legal
  | lapsed id => exact sound.lapsed legal
  | forgotten id => exact sound.forgotten id
  | charged id actual => exact sound.charged legal
  | reset => exact sound.reset
  | dropped => exact sound.dropped

end Step

theorem Sound.replay {budget : ℤ} {L : Ledger ι} (sound : L.Sound budget) {log : List (Event ι)}
    (legal : LegalLog budget L log) : (L.replay log).Sound budget := by
  induction log generalizing L with
  | nil => exact sound
  | cons e log ih => exact ih (sound.apply legal.1) legal.2

@[simp] theorem replay_nil (L : Ledger ι) : L.replay [] = L := rfl

@[simp] theorem replay_cons (L : Ledger ι) (e : Event ι) (log : List (Event ι)) :
    L.replay (e :: log) = (L.apply e).replay log := rfl

theorem replay_append (L : Ledger ι) (log more : List (Event ι)) :
    L.replay (log ++ more) = (L.replay log).replay more := List.foldl_append

theorem legalLog_append {budget : ℤ} {L : Ledger ι} {log more : List (Event ι)} :
    LegalLog budget L (log ++ more) ↔ LegalLog budget L log ∧ LegalLog budget (L.replay log) more := by
  induction log generalizing L with
  | nil => simp [LegalLog]
  | cons e log ih => simp only [List.cons_append, LegalLog, ih, replay_cons, and_assoc]

/-! The two lists of a ledger which starts empty are read off its log. -/

theorem replay_concat (L : Ledger ι) (log : List (Event ι)) (e : Event ι) :
    L.replay (log ++ [e]) = (L.replay log).apply e := by
  rw [replay_append]; rfl

theorem charges_replay (log : List (Event ι)) :
    ((empty : Ledger ι).replay log).charges.map (fun c => (c.id, c.actual)) =
      (sinceReset log).filterMap Event.charge? := by
  induction log using List.reverseRecOn with
  | nil => rfl
  | append_singleton log e ih =>
      rw [replay_concat, sinceReset, List.reverse_append, List.reverse_singleton,
        List.singleton_append, List.takeWhile_cons]
      cases e with
      | charged id actual => exact congrArg ((id, actual) :: ·) ih
      | reset => rfl
      | dropped => rfl
      | admitted _ _ => exact ih
      | lapsed _ => exact ih
      | forgotten _ => exact ih

theorem committed_replay (log : List (Event ι)) :
    ((empty : Ledger ι).replay log).committed =
      (((sinceReset log).filterMap Event.charge?).map Prod.snd).sum := by
  rw [← charges_replay, List.map_map]
  rfl

theorem settled_replay (log : List (Event ι)) :
    ((empty : Ledger ι).replay log).settled = (log.reverse.filterMap Event.charge?).map Prod.fst := by
  induction log using List.reverseRecOn with
  | nil => rfl
  | append_singleton log e ih =>
      rw [replay_concat, List.reverse_append, List.reverse_singleton, List.singleton_append]
      cases e with
      | charged id actual => exact congrArg (id :: ·) ih
      | reset => exact ih
      | dropped => exact ih
      | admitted _ _ => exact ih
      | lapsed _ => exact ih
      | forgotten _ => exact ih

theorem issued_replay (L : Ledger ι) (events : List (Event ι)) {id : ι}
    (h : id ∈ (L.replay events).issued) :
    id ∈ L.issued ∨ ∃ estimate, Event.admitted id estimate ∈ events := by
  induction events generalizing L with
  | nil => exact .inl h
  | cons e events ih =>
      rcases ih (L.apply e) h with old | ⟨estimate, member⟩
      · cases e with
        | admitted j estimate =>
            rcases Finset.mem_insert.mp old with rfl | older
            · exact .inr ⟨estimate, List.mem_cons_self⟩
            · exact .inl older
        | lapsed _ => exact .inl old
        | forgotten _ => exact .inl old
        | charged _ _ => exact .inl old
        | reset => exact .inl old
        | dropped => exact .inl old
      · exact .inr ⟨estimate, List.mem_cons_of_mem e member⟩

/-! Several reservations lapsing, or several late ones forgotten, in one step. -/
section Lapsing
variable {budget : ℤ} {L : Ledger ι} {ids : List ι}

theorem replay_lapsed (L : Ledger ι) (ids : List ι) :
    L.replay (ids.map Event.lapsed) =
      { L with live := L.live \ ids.toFinset, late := L.late ∪ ids.toFinset } := by
  induction ids generalizing L with
  | nil => simp only [List.map_nil, replay_nil, List.toFinset_nil, Finset.sdiff_empty, Finset.union_empty]
  | cons id ids ih =>
      rw [List.map_cons, replay_cons, ih]
      simp only [apply, List.toFinset_cons]
      congr 1
      · ext j
        simp only [Finset.mem_sdiff, Finset.mem_erase, Finset.mem_insert]
        tauto
      · ext j
        simp only [Finset.mem_union, Finset.mem_insert]
        tauto

/-- Events which take one id each off a list of ids, and may do so for those on it, are legal one after the other. -/
theorem legal_each {taken : Ledger ι → Finset ι} {event : ι → Event ι}
    (legal : ∀ (L : Ledger ι) id, id ∈ taken L → L.Legal budget (event id))
    (takes : ∀ (L : Ledger ι) id, taken (L.apply (event id)) = (taken L).erase id) (held : ∀ id ∈ ids, id ∈ taken L)
    (nodup : ids.Nodup) : LegalLog budget L (ids.map event) := by
  induction ids generalizing L with
  | nil => trivial
  | cons id ids ih =>
      obtain ⟨first, rest⟩ := List.nodup_cons.mp nodup
      refine ⟨legal L id (held id List.mem_cons_self), ih (fun j member => ?_) rest⟩
      rw [takes]
      refine Finset.mem_erase.mpr ⟨?_, held j (List.mem_cons_of_mem id member)⟩
      rintro rfl
      exact first member

theorem legal_lapsed (held : ∀ id ∈ ids, id ∈ L.live) (nodup : ids.Nodup) :
    LegalLog budget L (ids.map Event.lapsed) :=
  legal_each (fun _ _ member => member) (fun _ _ => rfl) held nodup

theorem reserved_lapsed (held : ∀ id ∈ ids, id ∈ L.live) (nodup : ids.Nodup) :
    (L.replay (ids.map Event.lapsed)).reserved = L.reserved - (ids.map L.estimate).sum := by
  have sub : ids.toFinset ⊆ L.live := fun id member => held id (List.mem_toFinset.mp member)
  rw [replay_lapsed, ← List.sum_toFinset _ nodup]
  simp only [reserved]
  rw [← Finset.sum_sdiff sub, add_sub_cancel_right]

@[simp] theorem committed_lapsed (L : Ledger ι) (ids : List ι) :
    (L.replay (ids.map Event.lapsed)).committed = L.committed := by
  rw [replay_lapsed]; rfl

@[simp] theorem issued_lapsed (L : Ledger ι) (ids : List ι) :
    (L.replay (ids.map Event.lapsed)).issued = L.issued := by
  rw [replay_lapsed]

theorem replay_forgotten (L : Ledger ι) (ids : List ι) :
    L.replay (ids.map Event.forgotten) = { L with late := L.late \ ids.toFinset } := by
  induction ids generalizing L with
  | nil => simp only [List.map_nil, replay_nil, List.toFinset_nil, Finset.sdiff_empty]
  | cons id ids ih =>
      rw [List.map_cons, replay_cons, ih]
      simp only [apply, List.toFinset_cons]
      congr 1
      ext j
      simp only [Finset.mem_sdiff, Finset.mem_erase, Finset.mem_insert]
      tauto

theorem legal_forgotten (held : ∀ id ∈ ids, id ∈ L.late) (nodup : ids.Nodup) :
    LegalLog budget L (ids.map Event.forgotten) :=
  legal_each (fun _ _ member => member) (fun _ _ => rfl) held nodup

end Lapsing

end Ledger
end RuntimePlatform.Budget
