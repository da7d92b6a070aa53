import RuntimePlatform.Lib.Python
import Mathlib.Data.Int.Log
import Mathlib.Tactic.Linarith
import Mathlib.Tactic.FieldSimp
import Mathlib.Tactic.NormNum
import Mathlib.Tactic.Positivity
import Mathlib.Tactic.Ring

/-!
Rounding to a format with a fixed number of digits, ties to even, and the two formats
in use: the doubles of Python's `float` and the default context of its `decimal`.
Values are rationals; a number too large for its format overflows.
-/

namespace Python

/-- The nearest integer, and of two nearest ones the even one. -/
def halfEven (q : ℚ) : ℤ :=
  let f := ⌊q⌋
  if q - f < 1 / 2 then f
  else if 1 / 2 < q - f then f + 1
  else if f % 2 = 0 then f else f + 1

theorem halfEven_error (q : ℚ) : |(halfEven q : ℚ) - q| ≤ 1 / 2 := by
  have low : (⌊q⌋ : ℚ) ≤ q := Int.floor_le q
  simp only [halfEven]
  by_cases below : q - ⌊q⌋ < 1 / 2
  · rw [if_pos below, abs_le]
    constructor <;> linarith
  · have high : q < ⌊q⌋ + 1 := Int.lt_floor_add_one q
    rw [if_neg below]
    by_cases above : 1 / 2 < q - ⌊q⌋
    · rw [if_pos above, abs_le]
      push_cast
      constructor <;> linarith
    · rw [if_neg above]
      by_cases even : ⌊q⌋ % 2 = 0
      · rw [if_pos even, abs_le]
        constructor <;> linarith
      · rw [if_neg even, abs_le]
        push_cast
        constructor <;> linarith

@[simp] theorem halfEven_intCast (n : ℤ) : halfEven n = n := by
  simp only [halfEven, Int.floor_intCast, sub_self]
  rw [if_pos (by norm_num)]

/-- Numbers of at most `digits` digits in base `radix` times a power of it, the power being
at least `emin`. Magnitudes from `radix ^ emax` on overflow. -/
structure Format where
  radix : ℕ
  digits : ℕ
  emin : ℤ
  emax : ℤ
  one_lt_radix : 1 < radix

namespace Format
variable (F : Format)

/-- The exponent of the last digit kept. -/
def exponent (q : ℚ) : ℤ := max (Int.log F.radix |q| - (F.digits - 1)) F.emin

def round (q : ℚ) : ℚ := halfEven (q / (F.radix : ℚ) ^ F.exponent q) * (F.radix : ℚ) ^ F.exponent q

variable {F}

theorem radix_pos : (0 : ℚ) < F.radix := by
  have := F.one_lt_radix
  exact_mod_cast Nat.zero_lt_of_lt this

theorem round_error (q : ℚ) : |F.round q - q| ≤ (F.radix : ℚ) ^ F.exponent q / 2 := by
  have unit : (0 : ℚ) < (F.radix : ℚ) ^ F.exponent q := zpow_pos radix_pos _
  have scaled := halfEven_error (q / (F.radix : ℚ) ^ F.exponent q)
  have factored : F.round q - q =
      (halfEven (q / (F.radix : ℚ) ^ F.exponent q) - q / (F.radix : ℚ) ^ F.exponent q) *
        (F.radix : ℚ) ^ F.exponent q := by
    unfold round
    rw [sub_mul, div_mul_cancel₀ _ unit.ne']
  rw [factored, abs_mul, abs_of_pos unit]
  calc _ ≤ 1 / 2 * (F.radix : ℚ) ^ F.exponent q := mul_le_mul_of_nonneg_right scaled unit.le
    _ = _ := by ring

/-- A number with at most the format's digits is its own rounding. -/
theorem round_eq_self {q : ℚ} {n : ℤ} (h : q = n * (F.radix : ℚ) ^ F.exponent q) : F.round q = q := by
  have unit : (0 : ℚ) < (F.radix : ℚ) ^ F.exponent q := zpow_pos radix_pos _
  have quotient : q / (F.radix : ℚ) ^ F.exponent q = n := by
    rw [div_eq_iff unit.ne']
    exact h
  unfold round
  rw [quotient, halfEven_intCast, ← h]

@[simp] theorem round_zero : F.round 0 = 0 := round_eq_self (n := 0) (by simp)

/-- A power of the radix is in the format, unless it is too small. -/
theorem round_zpow {k : ℤ} (large : F.emin ≤ k - (F.digits - 1)) (some_digit : 1 ≤ F.digits) :
    F.round ((F.radix : ℚ) ^ k) = (F.radix : ℚ) ^ k := by
  have exponent : F.exponent ((F.radix : ℚ) ^ k) = k - (F.digits - 1) := by
    unfold Format.exponent
    rw [abs_of_pos (zpow_pos radix_pos k), Int.log_zpow F.one_lt_radix, max_eq_left large]
  refine round_eq_self (n := (F.radix : ℤ) ^ (F.digits - 1)) ?_
  rw [exponent]
  push_cast
  rw [← zpow_natCast, ← zpow_add₀ radix_pos.ne', Nat.cast_sub some_digit]
  congr 1
  push_cast
  ring

/-- A number with few enough digits is in the format, unless its last digit is too small. -/
theorem round_of_digits {q : ℚ} {j e : ℤ} (digits : q = j * (F.radix : ℚ) ^ e) (few : |j| < (F.radix : ℤ) ^ F.digits)
    (large : F.emin ≤ e) : F.round q = q := by
  by_cases zero : j = 0
  · rw [digits, zero, Int.cast_zero, zero_mul, round_zero]
  have unit : (0 : ℚ) < (F.radix : ℚ) ^ e := zpow_pos radix_pos e
  have size : |q| = |(j : ℚ)| * (F.radix : ℚ) ^ e := by
    rw [digits, abs_mul, abs_of_pos unit]
  have positive : 0 < |q| := by
    rw [size]
    exact mul_pos (abs_pos.mpr (Int.cast_ne_zero.mpr zero)) unit
  have bound : |q| < (F.radix : ℚ) ^ (F.digits + e : ℤ) := by
    rw [size, zpow_add₀ radix_pos.ne']
    refine mul_lt_mul_of_pos_right ?_ unit
    rw [zpow_natCast]
    exact_mod_cast few
  have short := (Int.lt_zpow_iff_log_lt F.one_lt_radix positive).mp bound
  have low : F.exponent q ≤ e := max_le (by omega) large
  refine round_eq_self (n := j * (F.radix : ℤ) ^ (e - F.exponent q).toNat) ?_
  have split : (F.radix : ℚ) ^ e = (F.radix : ℚ) ^ (e - F.exponent q).toNat * (F.radix : ℚ) ^ F.exponent q := by
    rw [← zpow_natCast, ← zpow_add₀ radix_pos.ne', Int.toNat_of_nonneg (sub_nonneg.mpr low), sub_add_cancel]
  calc q = j * (F.radix : ℚ) ^ e := digits
    _ = j * ((F.radix : ℚ) ^ (e - F.exponent q).toNat * (F.radix : ℚ) ^ F.exponent q) := by rw [← split]
    _ = _ := by
      push_cast
      ring

/-- Rounding moves a number by less than one part in `radix ^ (digits - 1)`, or by less
than the least unit. -/
theorem round_near (q : ℚ) :
    |F.round q - q| ≤ |q| * (F.radix : ℚ) ^ (1 - F.digits : ℤ) + (F.radix : ℚ) ^ F.emin := by
  have least : (0 : ℚ) < (F.radix : ℚ) ^ F.emin := zpow_pos radix_pos _
  by_cases zero : q = 0
  · rw [zero, round_zero, sub_self, abs_zero, zero_mul, zero_add]
    exact least.le
  have positive : 0 < |q| := abs_pos.mpr zero
  have shift : (0 : ℚ) < (F.radix : ℚ) ^ (1 - F.digits : ℤ) := zpow_pos radix_pos _
  have leading : (F.radix : ℚ) ^ (Int.log F.radix |q| - (F.digits - 1)) ≤
      |q| * (F.radix : ℚ) ^ (1 - F.digits : ℤ) := by
    rw [show Int.log F.radix |q| - (F.digits - 1) = Int.log F.radix |q| + (1 - F.digits) by ring,
      zpow_add₀ radix_pos.ne']
    exact mul_le_mul_of_nonneg_right (Int.zpow_log_le_self F.one_lt_radix positive) shift.le
  have unit : (F.radix : ℚ) ^ F.exponent q ≤
      |q| * (F.radix : ℚ) ^ (1 - F.digits : ℤ) + (F.radix : ℚ) ^ F.emin := by
    rcases max_choice (Int.log F.radix |q| - (F.digits - 1)) F.emin with high | low
    · rw [exponent, high]
      exact le_add_of_le_of_nonneg leading least.le
    · rw [exponent, low]
      exact le_add_of_nonneg_left (mul_pos positive shift).le
  have nonneg : (0 : ℚ) ≤ (F.radix : ℚ) ^ F.exponent q := (zpow_pos radix_pos _).le
  calc |F.round q - q| ≤ (F.radix : ℚ) ^ F.exponent q / 2 := round_error q
    _ ≤ (F.radix : ℚ) ^ F.exponent q := half_le_self nonneg
    _ ≤ _ := unit

end Format

/-- IEEE doubles. -/
def double : Format := ⟨2, 53, -1074, 1024, by norm_num⟩

/-- `decimal.DefaultContext`: precision 28, exponents up to 999999. -/
def decimalContext : Format := ⟨10, 28, -1000026, 1000000, by norm_num⟩

/-- Half a unit above the largest double, `2 ^ 1024 - 2 ^ 970`, is where rounding to a double
overflows. -/
def doubleOverflow : ℚ := (2 ^ 54 - 1) * 2 ^ 970

/-- `n / d` on integers: the nearest double, or `OverflowError`. -/
def trueDivide (n : ℤ) (d : ℕ) : Except Error ℚ :=
  if doubleOverflow ≤ |(n : ℚ) / d| then
    .error ⟨.arithmeticError, "integer division result too large for a float"⟩
  else .ok (double.round (n / d))

/-- `int(x * k)` for a double: the product is rounded to a double before it is cut off. -/
def intTimes : Double → ℕ → Except Error ℤ
  | .finite x, k =>
    if doubleOverflow ≤ |x.value * k| then
      .error ⟨.arithmeticError, "cannot convert float infinity to integer"⟩
    else
      let product := double.round (x.value * k)
      .ok (if product < 0 then ⌈product⌉ else ⌊product⌋)
  | .inf _, _ => .error ⟨.arithmeticError, "cannot convert float infinity to integer"⟩
  | .nan, _ => .error ⟨.valueError, "cannot convert float NaN to integer"⟩

inductive Decimal where
  | finite (q : ℚ)
  | inf (negative : Bool)
  | nan

namespace Decimal

/-- `Decimal(str(x))` -/
def ofFloat : Double → Decimal
  | .finite x => .finite x.printed
  | .inf negative => .inf negative
  | .nan => .nan

/-- A result in the default context, whose overflow trap is set. -/
def inContext (q : ℚ) : Except Error Decimal :=
  if (10 : ℚ) ^ (1000000 : ℕ) ≤ |decimalContext.round q| then .error ⟨.arithmeticError, "decimal.Overflow"⟩
  else .ok (.finite (decimalContext.round q))

def invalid : Except Error Decimal := .error ⟨.arithmeticError, "decimal.InvalidOperation"⟩

def mul : Decimal → Decimal → Except Error Decimal
  | nan, _ => .ok nan
  | _, nan => .ok nan
  | finite p, finite q => inContext (p * q)
  | inf a, inf b => .ok (inf (a != b))
  | inf a, finite q => if q = 0 then invalid else .ok (inf (a != decide (q < 0)))
  | finite p, inf b => if p = 0 then invalid else .ok (inf (decide (p < 0) != b))

def add : Decimal → Decimal → Except Error Decimal
  | nan, _ => .ok nan
  | _, nan => .ok nan
  | finite p, finite q => inContext (p + q)
  | inf a, inf b => if a = b then .ok (inf a) else invalid
  | inf a, finite _ => .ok (inf a)
  | finite _, inf b => .ok (inf b)

/-- `int(d.to_integral_value(rounding=...))` -/
def toInt (rounding : ℚ → ℤ) : Decimal → Except Error ℤ
  | finite q => .ok (rounding q)
  | inf _ => .error ⟨.arithmeticError, "cannot convert Infinity to integer"⟩
  | nan => .error ⟨.valueError, "cannot convert NaN to integer"⟩

/-- `Decimal(n) >= d` -/
def intGe (n : ℤ) : Decimal → Except Error Bool
  | finite q => .ok (decide (q ≤ n))
  | inf negative => .ok negative
  | nan => .error ⟨.arithmeticError, "decimal.InvalidOperation"⟩

/-- The context makes a number at most one part in `10 ^ 27` larger, or by less than one. -/
theorem round_le {q b : ℚ} (bounded : |q| ≤ b) : |decimalContext.round q| ≤ b + b / 10 ^ 27 + 1 := by
  have shift : (decimalContext.radix : ℚ) ^ (1 - decimalContext.digits : ℤ) = 1 / 10 ^ 27 := by
    change ((10 : ℕ) : ℚ) ^ (1 - (28 : ℕ) : ℤ) = _
    norm_num
  have least : (decimalContext.radix : ℚ) ^ decimalContext.emin ≤ 1 := by
    change ((10 : ℕ) : ℚ) ^ (-1000026 : ℤ) ≤ 1
    exact zpow_le_one_of_nonpos₀ (by norm_num) (by norm_num)
  have near := Format.round_near (F := decimalContext) q
  rw [shift] at near
  have split := abs_add_le q (decimalContext.round q - q)
  rw [add_sub_cancel] at split
  linarith

/-- Numbers far below the exponent limit do not overflow the context. -/
theorem inContext_ok {q : ℚ} (bounded : |q| ≤ 10 ^ 5000) : inContext q = .ok (.finite (decimalContext.round q)) := by
  refine if_neg (not_le.mpr (lt_of_le_of_lt (round_le bounded) ?_))
  have room : ∀ x : ℚ, 1 ≤ x → x + x / 10 ^ 27 + 1 < x * 10 := by
    intro x one
    linarith
  have step : (10 : ℚ) ^ 5000 + 10 ^ 5000 / 10 ^ 27 + 1 < 10 ^ 5001 :=
    lt_of_lt_of_eq (room _ (one_le_pow₀ (by norm_num))) (pow_succ 10 5000).symm
  exact lt_of_lt_of_le step (pow_le_pow_right₀ (by norm_num) (by norm_num))

theorem inContext_zero : inContext 0 = .ok (.finite 0) := by
  have small : |(0 : ℚ)| ≤ 10 ^ 5000 := by
    rw [abs_zero]
    exact pow_nonneg (by norm_num) _
  rw [inContext_ok small, Format.round_zero]

theorem inContext_pow {k : ℕ} (bounded : k ≤ 5000) : inContext (10 ^ k) = .ok (.finite (10 ^ k)) := by
  have nonneg : (0 : ℚ) ≤ 10 ^ k := pow_nonneg (by norm_num) k
  have small : |(10 : ℚ) ^ k| ≤ 10 ^ 5000 := by
    rw [abs_of_nonneg nonneg]
    exact pow_le_pow_right₀ (by norm_num) bounded
  have power : ((10 : ℚ) ^ k) = ((decimalContext.radix : ℚ) ^ (k : ℤ)) := (zpow_natCast _ _).symm
  rw [inContext_ok small, power, Format.round_zpow _ (by decide)]
  change (-1000026 : ℤ) ≤ (k : ℤ) - ((28 : ℕ) - 1)
  omega

theorem quiet_inContext (q : ℚ) : Except.Quiet (inContext q) := by
  unfold inContext
  split
  · exact Except.quiet_error (by decide)
  · exact Except.quiet_ok _

theorem quiet_mul (a b : Decimal) : Except.Quiet (a.mul b) := by
  have tested : ∀ (p : ℚ) (negative : Bool),
      Except.Quiet (if p = 0 then invalid else .ok (inf negative)) := by
    intro p negative
    split
    · exact Except.quiet_error (by decide)
    · exact Except.quiet_ok _
  cases a <;> cases b <;>
    first | exact quiet_inContext _ | exact Except.quiet_ok _ | exact tested _ _

theorem quiet_add (a b : Decimal) : Except.Quiet (a.add b) := by
  have tested : ∀ a b : Bool, Except.Quiet (if a = b then .ok (inf a) else invalid) := by
    intro a b
    split
    · exact Except.quiet_ok _
    · exact Except.quiet_error (by decide)
  cases a <;> cases b <;>
    first | exact quiet_inContext _ | exact Except.quiet_ok _ | exact tested _ _

theorem quiet_toInt (rounding : ℚ → ℤ) (d : Decimal) : Except.Quiet (d.toInt rounding) := by
  cases d <;> first | exact Except.quiet_ok _ | exact Except.quiet_error (by decide)

theorem quiet_intGe (n : ℤ) (d : Decimal) : Except.Quiet (d.intGe n) := by
  cases d <;> first | exact Except.quiet_ok _ | exact Except.quiet_error (by decide)

end Decimal

theorem quiet_trueDivide (n : ℤ) (d : ℕ) : Except.Quiet (trueDivide n d) := by
  unfold trueDivide
  split
  · exact Except.quiet_error (by decide)
  · exact Except.quiet_ok _

theorem trueDivide_ok {n : ℤ} {d : ℕ} (fits : |(n : ℚ) / d| < doubleOverflow) :
    trueDivide n d = .ok (double.round (n / d)) := if_neg (not_le.mpr fits)

theorem trueDivide_returns {n : ℤ} {d : ℕ} : (trueDivide n d).Returns ↔ |(n : ℚ) / d| < doubleOverflow := by
  unfold trueDivide
  by_cases beyond : doubleOverflow ≤ |(n : ℚ) / d|
  · rw [if_pos beyond]
    exact ⟨fun h => absurd h (Except.returns_error _), fun h => absurd beyond (not_le.mpr h)⟩
  · rw [if_neg beyond]
    exact ⟨fun _ => not_le.mp beyond, fun _ => Except.returns_ok _⟩

end Python
