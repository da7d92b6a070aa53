import Mathlib.Data.List.Basic

/-!
Two machines driven by the same inputs. A history accompanies the run and says
which inputs may come next; a relation which every such input preserves, with equal
replies, makes the machines indistinguishable over whole runs.
-/

namespace Simulation
variable {α ρ σ τ γ : Type*}

/-- The replies of a run, in order; some inputs have none. -/
def replies (step : σ → α → Option ρ × σ) : σ → List α → List ρ
  | _, [] => []
  | s, a :: as => (step s a).1.toList ++ replies step (step s a).2 as

/-- Every input is allowed by the history of the inputs before it. -/
def Admissible (allowed : γ → α → Prop) (next : γ → α → γ) : γ → List α → Prop
  | _, [] => True
  | h, a :: as => allowed h a ∧ Admissible allowed next (next h a) as

instance decidableAdmissible (allowed : γ → α → Prop) (next : γ → α → γ)
    [∀ h a, Decidable (allowed h a)] : ∀ h as, Decidable (Admissible allowed next h as)
  | _, [] => isTrue trivial
  | h, a :: as =>
      have := decidableAdmissible allowed next (next h a) as
      inferInstanceAs (Decidable (_ ∧ _))

variable {allowed : γ → α → Prop} {next : γ → α → γ}
variable {left : σ → α → Option ρ × σ} {right : τ → α → Option ρ × τ} {R : γ → σ → τ → Prop}

theorem replies_eq
    (lockstep : ∀ h s t a, R h s t → allowed h a →
      (left s a).1 = (right t a).1 ∧ R (next h a) (left s a).2 (right t a).2)
    {h : γ} {s : σ} {t : τ} {as : List α} (related : R h s t)
    (admissible : Admissible allowed next h as) : replies left s as = replies right t as := by
  induction as generalizing h s t with
  | nil => rfl
  | cons a as ih =>
      obtain ⟨here, rest⟩ := admissible
      obtain ⟨same, related'⟩ := lockstep h s t a related here
      simp only [replies, same]
      rw [ih related' rest]

/-- A property of single replies holds of all replies of a run. -/
theorem forall_replies {P : ρ → Prop}
    (lockstep : ∀ h s t a, R h s t → allowed h a →
      (∀ r ∈ (left s a).1, P r) ∧ R (next h a) (left s a).2 (right t a).2)
    {h : γ} {s : σ} {t : τ} {as : List α} (related : R h s t)
    (admissible : Admissible allowed next h as) : ∀ r ∈ replies left s as, P r := by
  induction as generalizing h s t with
  | nil => exact fun r member => nomatch member
  | cons a as ih =>
      obtain ⟨here, rest⟩ := admissible
      obtain ⟨good, related'⟩ := lockstep h s t a related here
      intro r member
      rcases List.mem_append.mp member with first | later
      · exact good r (Option.mem_toList.mp first)
      · exact ih related' rest r later

end Simulation
