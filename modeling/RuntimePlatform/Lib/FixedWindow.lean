import Mathlib.Algebra.Order.Floor.Semiring
import Mathlib.Algebra.Order.Ring.Defs
import Mathlib.Data.List.Count
import Mathlib.Tactic.Linarith

/-!
A limiter which counts grants in one window at a time. A window begins with the first reading of the clock after the
last one is over. How many grants there can be in any span of time, and in all.
-/

namespace FixedWindow

structure Window (T : Type) where
  start : T
  used : ℕ

variable {T : Type} [LinearOrder T]

/-- How many of the grants were given from one time up to another. -/
def between (grants : List T) (first last : T) : ℕ := grants.countP fun t => decide (first ≤ t ∧ t < last)

/-- How many were given since a time. -/
def since (grants : List T) (first : T) : ℕ := grants.countP fun t => decide (first ≤ t)

theorem between_cons (t : T) (grants : List T) (first last : T) :
    between (t :: grants) first last = between grants first last + if first ≤ t ∧ t < last then 1 else 0 := by
  simp only [between, List.countP_cons, decide_eq_true_eq]

theorem since_cons (t : T) (grants : List T) (first : T) :
    since (t :: grants) first = since grants first + if first ≤ t then 1 else 0 := by
  simp only [since, List.countP_cons, decide_eq_true_eq]

/-- A span is cut at any time. -/
theorem between_le (grants : List T) (first middle last : T) :
    between grants first last ≤ between grants first middle + since grants middle := by
  induction grants with
  | nil => exact Nat.zero_le _
  | cons t rest ih =>
      rw [between_cons, between_cons, since_cons]
      by_cases inside : first ≤ t ∧ t < last
      · rw [if_pos inside]
        by_cases late : middle ≤ t
        · rw [if_pos late]
          omega
        · rw [if_pos ⟨inside.1, not_le.mp late⟩, if_neg late]
          omega
      · rw [if_neg inside]
        omega

theorem between_le_since (grants : List T) (first last : T) : between grants first last ≤ since grants first := by
  unfold between since
  apply List.countP_mono_left
  intro t _ inside
  rw [decide_eq_true_eq] at inside ⊢
  exact inside.1

theorem since_mono (grants : List T) {first later : T} (le : first ≤ later) : since grants later ≤ since grants first := by
  unfold since
  apply List.countP_mono_left
  intro t _ inside
  rw [decide_eq_true_eq] at inside ⊢
  exact le.trans inside

theorem since_eq_zero {grants : List T} {first : T} (early : ∀ t ∈ grants, t < first) : since grants first = 0 := by
  apply List.countP_eq_zero.mpr
  intro t member
  rw [decide_eq_true_eq, not_le]
  exact early t member

variable [Field T]

/-- The window which a reading of the clock falls into. -/
def Window.at_ (w : Window T) (period now : T) : Window T := if period ≤ now - w.start then ⟨now, 0⟩ else w

/-- One request for a grant, and the window after it. -/
def Window.take (w : Window T) (period : T) (limit : ℕ) (now : T) : Bool × Window T :=
  let current := w.at_ period now
  if limit ≤ current.used then (false, current) else (true, { current with used := current.used + 1 })

/-- What the window knows of the grants there have been until `now`. -/
structure Accounted (period : T) (limit : ℕ) (begin_ now : T) (w : Window T) (grants : List T) : Prop where
  until_now : ∀ t ∈ grants, t ≤ now
  begun : w.start ≤ now
  open_ : ∀ t ∈ grants, t < w.start + period
  used : since grants w.start = w.used
  bounded : w.used ≤ limit
  /-- The windows before this one: one period back there is at most one of them. -/
  before : ∀ first, w.start - period < first → between grants first w.start ≤ limit
  span : ∀ first, between grants first (first + period) ≤ 2 * limit
  total : ∃ rounds : ℕ, begin_ + rounds * period ≤ w.start ∧ grants.length ≤ limit * rounds + w.used

theorem accounted_start (period : T) (limit : ℕ) (begin_ : T) :
    Accounted period limit begin_ begin_ ⟨begin_, 0⟩ [] where
  until_now t member := absurd member List.not_mem_nil
  begun := le_refl _
  open_ t member := absurd member List.not_mem_nil
  used := rfl
  bounded := Nat.zero_le _
  before _ _ := Nat.zero_le _
  span _ := Nat.zero_le _
  total := ⟨0, by rw [Nat.cast_zero, zero_mul, add_zero], Nat.zero_le _⟩

variable {period begin_ now later : T} {limit : ℕ} {w : Window T} {grants : List T}

/-- Time passes. -/
theorem Accounted.wait (accounted : Accounted period limit begin_ now w grants) (le : now ≤ later) :
    Accounted period limit begin_ later w grants :=
  { accounted with
    until_now := fun t member => (accounted.until_now t member).trans le
    begun := accounted.begun.trans le }

variable [IsStrictOrderedRing T]

/-- The window of the reading, before it grants anything. -/
theorem Accounted.at_ (accounted : Accounted period limit begin_ now w grants) (positive : 0 < period) :
    Accounted period limit begin_ now (w.at_ period now) grants ∧ now < (w.at_ period now).start + period := by
  unfold Window.at_
  by_cases expired : period ≤ now - w.start
  · rw [if_pos expired]
    have early : ∀ t ∈ grants, t < now := by
      intro t member
      have := accounted.open_ t member
      linarith
    refine ⟨?_, by linarith⟩
    constructor
    · exact accounted.until_now
    · exact le_refl now
    · intro t member
      have := early t member
      linarith
    · exact since_eq_zero early
    · exact Nat.zero_le _
    · intro first close
      -- nothing is left of the windows before the last one
      calc between grants first now ≤ since grants first := between_le_since grants first now
        _ ≤ since grants w.start := since_mono grants (by linarith)
        _ ≤ limit := accounted.used ▸ accounted.bounded
    · exact accounted.span
    · obtain ⟨windows, passed, total⟩ := accounted.total
      refine ⟨windows + 1, ?_, ?_⟩
      · rw [Nat.cast_add, Nat.cast_one, add_mul, one_mul]
        linarith
      · have := accounted.bounded
        rw [mul_add, mul_one]
        omega
  · rw [if_neg expired]
    exact ⟨accounted, by linarith⟩

theorem Accounted.grant (accounted : Accounted period limit begin_ now w grants)
    (inside : now < w.start + period) (free : w.used < limit) :
    Accounted period limit begin_ now { w with used := w.used + 1 } (now :: grants) where
  until_now t member := by
    rcases List.mem_cons.mp member with rfl | old
    · exact le_refl t
    · exact accounted.until_now t old
  begun := accounted.begun
  open_ t member := by
    rcases List.mem_cons.mp member with rfl | old
    · exact inside
    · exact accounted.open_ t old
  used := by
    rw [since_cons, accounted.used, if_pos accounted.begun]
  bounded := free
  before first close := by
    rw [between_cons, if_neg fun here => absurd accounted.begun (not_le.mpr here.2)]
    exact accounted.before first close
  span first := by
    rw [between_cons]
    by_cases here : first ≤ now ∧ now < first + period
    · rw [if_pos here]
      have cut := between_le grants first w.start (first + period)
      have earlier := accounted.before first (by have := accounted.begun; linarith [here.2])
      have current := accounted.used
      omega
    · rw [if_neg here]
      exact accounted.span first
  total := by
    obtain ⟨windows, passed, total⟩ := accounted.total
    exact ⟨windows, passed, Nat.succ_le_succ total⟩

/-- One request keeps the account: what is granted is added to the grants. -/
theorem Accounted.take (accounted : Accounted period limit begin_ now w grants) (positive : 0 < period) :
    Accounted period limit begin_ now (w.take period limit now).2
      (if (w.take period limit now).1 then now :: grants else grants) := by
  obtain ⟨current, inside⟩ := accounted.at_ positive
  unfold Window.take
  by_cases full : limit ≤ (w.at_ period now).used
  · simp only [if_pos full, Bool.false_eq_true, if_false]
    exact current
  · simp only [if_neg full, if_true]
    exact current.grant inside (not_le.mp full)

/-- All grants so far, by the windows which have begun. -/
theorem Accounted.length_le [FloorSemiring T] (accounted : Accounted period limit begin_ now w grants)
    (positive : 0 < period) : grants.length ≤ limit * (⌊(now - begin_) / period⌋₊ + 1) := by
  obtain ⟨windows, passed, total⟩ := accounted.total
  have begun := accounted.begun
  have counted : windows ≤ ⌊(now - begin_) / period⌋₊ := by
    apply Nat.le_floor
    rw [le_div_iff₀ positive]
    linarith
  calc grants.length ≤ limit * windows + w.used := total
    _ ≤ limit * windows + limit := Nat.add_le_add_left accounted.bounded _
    _ = limit * (windows + 1) := by rw [mul_add, mul_one]
    _ ≤ limit * (⌊(now - begin_) / period⌋₊ + 1) := Nat.mul_le_mul_left limit (Nat.add_le_add_right counted 1)

end FixedWindow
