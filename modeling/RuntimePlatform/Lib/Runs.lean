import Mathlib.Algebra.Order.Monoid.Canonical.Defs
import Mathlib.Data.List.Basic

/-!
Runs of a machine which takes one event after another. Conditions on the steps are asked of the
state before each of them, and what every step keeps holds in every state on the way.
-/

namespace Runs
variable {σ α : Type*} (step : σ → α → σ)

def run (s : σ) (events : List α) : σ := events.foldl step s

/-- Every event of the run comes in a state which admits it. -/
def EveryStep (P : σ → α → Prop) : σ → List α → Prop
  | _, [] => True
  | s, e :: events => P s e ∧ EveryStep P (step s e) events

/-- Every state of the run, the first and the last included, has the property. -/
def EveryState (Q : σ → Prop) : σ → List α → Prop
  | s, [] => Q s
  | s, e :: events => Q s ∧ EveryState Q (step s e) events

instance decidableEveryStep (P : σ → α → Prop) [∀ s e, Decidable (P s e)] :
    ∀ s events, Decidable (EveryStep step P s events)
  | _, [] => isTrue trivial
  | s, e :: events =>
      have := decidableEveryStep P (step s e) events
      inferInstanceAs (Decidable (_ ∧ _))

variable {step}

@[simp] theorem run_append (s : σ) (before after : List α) :
    run step s (before ++ after) = run step (run step s before) after := List.foldl_append

theorem everyStep_append {P : σ → α → Prop} {s : σ} {before after : List α} :
    EveryStep step P s (before ++ after) ↔ EveryStep step P s before ∧ EveryStep step P (run step s before) after := by
  induction before generalizing s with
  | nil => exact (and_iff_right trivial).symm
  | cons e before ih =>
      simp only [List.cons_append, EveryStep, ih, run, List.foldl_cons, and_assoc]

theorem everyStep_and {P P' : σ → α → Prop} {s : σ} {events : List α} :
    EveryStep step (fun s e => P s e ∧ P' s e) s events ↔ EveryStep step P s events ∧ EveryStep step P' s events := by
  induction events generalizing s with
  | nil => exact (and_iff_left trivial).symm
  | cons e events ih =>
      simp only [EveryStep, ih]
      exact and_and_and_comm

/-- The states on the way are those which the parts of the run lead to. -/
theorem everyState_iff {Q : σ → Prop} {s : σ} {events : List α} :
    EveryState step Q s events ↔ ∀ before after, events = before ++ after → Q (run step s before) := by
  induction events generalizing s with
  | nil =>
      constructor
      · intro here before after split
        rw [(List.append_eq_nil_iff.mp split.symm).1]
        exact here
      · exact fun every => every [] [] rfl
  | cons e events ih =>
      constructor
      · rintro ⟨here, later⟩ before after split
        cases before with
        | nil => exact here
        | cons first before =>
            cases split
            exact ih.mp later before after rfl
      · intro every
        refine ⟨every [] _ rfl, ih.mpr fun before after split => ?_⟩
        exact every (e :: before) after (congrArg (List.cons e) split)

theorem EveryState.mono {Q R : σ → Prop} {s : σ} {events : List α} (every : EveryState step Q s events)
    (weaker : ∀ s, Q s → R s) : EveryState step R s events :=
  everyState_iff.mpr fun before after split => weaker _ (everyState_iff.mp every before after split)

/-- What every admitted step keeps holds in every state of an admitted run. -/
theorem everyState_of_keeps {P : σ → α → Prop} {I : σ → Prop} (keeps : ∀ s e, I s → P s e → I (step s e)) {s : σ}
    {events : List α} (start : I s) (admitted : EveryStep step P s events) : EveryState step I s events := by
  induction events generalizing s with
  | nil => exact start
  | cons e events ih => exact ⟨start, ih (keeps s e start admitted.1) admitted.2⟩

/-- What every step keeps holds in every state. -/
theorem everyState_of_invariant {I : σ → Prop} (keeps : ∀ s e, I s → I (step s e)) {s : σ} {events : List α}
    (start : I s) : EveryState step I s events := by
  induction events generalizing s with
  | nil => exact start
  | cons e events ih => exact ⟨start, ih (keeps s e start)⟩

/-- A property which a step of a reachable state keeps just when it is admitted. -/
theorem everyState_iff_everyStep {P : σ → α → Prop} {I Q : σ → Prop} (keeps : ∀ s e, I s → I (step s e))
    (exact_ : ∀ s e, I s → Q s → (Q (step s e) ↔ P s e)) {s : σ} {events : List α} (start : I s) (here : Q s) :
    EveryState step Q s events ↔ EveryStep step P s events := by
  induction events generalizing s with
  | nil => exact iff_of_true here trivial
  | cons e events ih =>
      constructor
      · rintro ⟨_, later⟩
        have next : Q (step s e) := everyState_iff.mp later [] events rfl
        exact ⟨(exact_ s e start here).mp next, (ih (keeps s e start) next).mp later⟩
      · rintro ⟨admitted, later⟩
        have next : Q (step s e) := (exact_ s e start here).mpr admitted
        exact ⟨here, (ih (keeps s e start) next).mpr later⟩

/-- A property which a step of a reachable state establishes only by keeping it, and keeps just when it is admitted,
holds at the end of the run just when every step was admitted. -/
theorem run_iff_everyStep {P : σ → α → Prop} {I Q : σ → Prop} (keeps : ∀ s e, I s → I (step s e))
    (exact_ : ∀ s e, I s → (Q (step s e) ↔ Q s ∧ P s e)) {s : σ} {events : List α} (start : I s) :
    Q (run step s events) ↔ Q s ∧ EveryStep step P s events := by
  induction events generalizing s with
  | nil => exact (and_iff_left trivial).symm
  | cons e events ih =>
      change Q (run step (step s e) events) ↔ Q s ∧ P s e ∧ EveryStep step P (step s e) events
      rw [ih (keeps s e start), exact_ s e start, and_assoc]

/-- What was paid in and what is there grow together, but for what a step loses. They are the same at the end just when
no step has lost anything. -/
theorem balanced_iff {M : Type*} [AddCommMonoid M] [PartialOrder M] [IsOrderedCancelAddMonoid M]
    [CanonicallyOrderedAdd M] {P : σ → α → Prop} {I : σ → Prop} (paid there : σ → M)
    (keeps : ∀ s e, I s → I (step s e))
    (moves : ∀ s e, I s → ∃ new lost, paid (step s e) = paid s + new ∧ there (step s e) + lost = there s + new ∧
      (lost = 0 ↔ P s e)) {s : σ} {events : List α} (start : I s) (equal : there s = paid s) :
    there (run step s events) = paid (run step s events) ↔ EveryStep step P s events := by
  refine (run_iff_everyStep (I := fun s => I s ∧ there s ≤ paid s) (Q := fun s => there s = paid s) ?_ ?_
    ⟨start, equal.le⟩).trans (and_iff_right equal)
  · rintro s e ⟨here, low⟩
    obtain ⟨new, lost, grown, moved, -⟩ := moves s e here
    refine ⟨keeps s e here, ?_⟩
    calc there (step s e) ≤ there (step s e) + lost := le_self_add
      _ = there s + new := moved
      _ ≤ paid s + new := add_le_add_left low new
      _ = paid (step s e) := grown.symm
  · rintro s e ⟨here, low⟩
    obtain ⟨new, lost, grown, moved, free⟩ := moves s e here
    rw [grown, ← free]
    constructor
    · intro same
      rw [same, add_right_comm] at moved
      have equal : paid s + lost = there s := add_right_cancel moved
      have back : there s = paid s := le_antisymm low (equal ▸ le_self_add)
      exact ⟨back, add_left_cancel ((equal.trans back).trans (add_zero _).symm)⟩
    · rintro ⟨same, none⟩
      rw [none, add_zero, same] at moved
      exact moved

section Answers
variable {σ α β : Type*} (perform : σ → α → β × σ)

/-- The answers to the chosen events of a run. -/
def answers (chosen : α → Bool) : σ → List α → List β
  | _, [] => []
  | s, e :: events =>
    let rest := answers chosen (perform s e).2 events
    if chosen e = true then (perform s e).1 :: rest else rest

variable {perform} {chosen kept : α → Bool} {R : σ → σ → Prop}

/-- Events which are left out of a run change none of the chosen answers, when they do not take the state out of a
relation which keeps these answers alike. -/
theorem answers_filter (aside : ∀ s s' e, R s s' → kept e = false → chosen e = false ∧ R (perform s e).2 s')
    (alike : ∀ s s' e, R s s' → kept e = true →
      (chosen e = true → (perform s e).1 = (perform s' e).1) ∧ R (perform s e).2 (perform s' e).2)
    {s s' : σ} (start : R s s') (events : List α) :
    answers perform chosen s events = answers perform chosen s' (events.filter kept) := by
  induction events generalizing s s' with
  | nil => rfl
  | cons e events ih =>
      by_cases stays : kept e = true
      · obtain ⟨same, related⟩ := alike s s' e start stays
        rw [List.filter_cons_of_pos stays]
        simp only [answers]
        rw [ih related]
        by_cases mine : chosen e = true
        · rw [if_pos mine, if_pos mine, same mine]
        · rw [if_neg mine, if_neg mine]
      · obtain ⟨other, related⟩ := aside s s' e start (Bool.eq_false_iff.mpr stays)
        rw [List.filter_cons_of_neg stays]
        simp only [answers]
        rw [other, ih related]
        exact if_neg Bool.false_ne_true

/-- A machine which another one simulates step by step gives the other's answers, and both end in related states. -/
theorem answers_simulated {τ γ : Type*} {perform' : τ → α → γ × τ} {R : σ → τ → Prop} (f : γ → β)
    (lockstep : ∀ s t e, R s t → (perform s e).1 = f (perform' t e).1 ∧ R (perform s e).2 (perform' t e).2)
    {s : σ} {t : τ} (start : R s t) (events : List α) :
    answers perform chosen s events = (answers perform' chosen t events).map f ∧
      R (run (fun s e => (perform s e).2) s events) (run (fun t e => (perform' t e).2) t events) := by
  induction events generalizing s t with
  | nil => exact ⟨rfl, start⟩
  | cons e events ih =>
      obtain ⟨same, related⟩ := lockstep s t e start
      obtain ⟨later, ends⟩ := ih related
      refine ⟨?_, ends⟩
      simp only [answers]
      rw [later]
      by_cases mine : chosen e = true
      · rw [if_pos mine, if_pos mine, same, List.map_cons]
      · rw [if_neg mine, if_neg mine]

theorem answers_append (s : σ) (before after : List α) : answers perform chosen s (before ++ after) =
    answers perform chosen s before ++ answers perform chosen (run (fun s e => (perform s e).2) s before) after := by
  induction before generalizing s with
  | nil => rfl
  | cons e before ih =>
      simp only [List.cons_append, answers]
      rw [ih]
      split
      · rfl
      · rfl

theorem answers_unchosen (s : σ) {events : List α} (others : ∀ e ∈ events, chosen e = false) :
    answers perform chosen s events = [] := by
  induction events generalizing s with
  | nil => rfl
  | cons e events ih =>
      obtain ⟨first, rest⟩ := List.forall_mem_cons.mp others
      simp only [answers]
      rw [first, if_neg Bool.false_ne_true]
      exact ih _ rest

end Answers

/-! A part of the state. -/

section Parts
variable {σ τ α γ : Type*}

/-- Some steps of a machine move a part of its state, as the steps of a machine of their own do; the others leave it. -/
structure Moves (step : σ → α → σ) (view : σ → τ) (pick : α → Option γ) (alone : τ → γ → τ) : Prop where
  mine : ∀ s e c, pick e = some c → view (step s e) = alone (view s) c
  aside : ∀ s e, pick e = none → view (step s e) = view s

/-- The part ends where the other machine ends on the picked steps. -/
theorem Moves.run {step : σ → α → σ} {view : σ → τ} {pick : α → Option γ} {alone : τ → γ → τ}
    (moves : Moves step view pick alone) (s : σ) (events : List α) :
    view (Runs.run step s events) = Runs.run alone (view s) (events.filterMap pick) := by
  induction events generalizing s with
  | nil => rfl
  | cons e events ih =>
      have later := ih (step s e)
      cases picked : pick e with
      | none =>
          rw [List.filterMap_cons_none picked, ← moves.aside s e picked]
          exact later
      | some c =>
          rw [moves.mine s e c picked] at later
          rw [List.filterMap_cons_some picked]
          exact later

end Parts

end Runs
