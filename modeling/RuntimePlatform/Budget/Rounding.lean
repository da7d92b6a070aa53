import RuntimePlatform.Budget.FailClosed
import Mathlib.Algebra.Order.Floor.Ring

/-!
What rounding does to money. The estimate of a request is computed in the 28 digits of the decimal
context; what a request has cost is rounded to eight decimals of a dollar before it is rounded up to
micro-dollars. Prices and costs are rationals here.
-/

namespace RuntimePlatform.Budget
open Python Except

/-- The prices of a target, in dollars for a million tokens. -/
structure TargetPrices where
  input_cost_per_million : ℚ
  output_cost_per_million : ℚ
  input_nonneg : 0 ≤ input_cost_per_million
  output_nonneg : 0 ≤ output_cost_per_million

structure Usage where
  prompt_tokens : Option ℕ
  completion_tokens : Option ℕ

/-- Tokens times dollars for a million tokens: the cost in micro-dollars. -/
def exact_micros (input_tokens output_tokens : ℕ) (input_per_million output_per_million : ℚ) : ℚ :=
  input_tokens * input_per_million + output_tokens * output_per_million

/-- `round(q, 8)` -/
def round8 (q : ℚ) : ℚ := halfEven (q * 10 ^ 8) / 10 ^ 8

def request_cost (usage : Option Usage) (target : TargetPrices) : Option ℚ :=
  usage.map fun usage =>
    let input_tokens := usage.prompt_tokens.getD 0
    let output_tokens := usage.completion_tokens.getD 0
    round8 ((input_tokens * target.input_cost_per_million + output_tokens * target.output_cost_per_million) / 1000000)

/-- What `settle` commits: the charge, or without a cost the estimate. -/
def settled_micros (reserved_micros : ℤ) (actual_usd : Option ℚ) : Except Error ℤ :=
  match actual_usd with
  | none => .ok reserved_micros
  | some usd => do
    let micros ← Decimal.mul (.finite usd) (.finite MICROS)
    micros.toInt fun q => ⌈q⌉

def Usage.exact_micros (usage : Usage) (target : TargetPrices) : ℚ :=
  Budget.exact_micros (usage.prompt_tokens.getD 0) (usage.completion_tokens.getD 0) target.input_cost_per_million
    target.output_cost_per_million

/-! What is asked of the two amounts. -/

/-- The estimate is the exact cost, rounded up to a whole micro-dollar. -/
def EstimateCovers (policy : InferenceBudgetPolicy) (model : String) (input_tokens output_tokens : ℕ) (cost : ℚ) :
    Prop :=
  ∃ micros, policy.estimate_cost_micros model input_tokens output_tokens = .ok micros ∧ cost ≤ micros ∧
    (micros : ℚ) < cost + 1

/-- What is committed for a usage is at least its exact cost. -/
def SettlementCovers (reserved_micros : ℤ) (usage : Usage) (target : TargetPrices) : Prop :=
  ∃ micros, settled_micros reserved_micros (request_cost (some usage) target) = .ok micros ∧
    usage.exact_micros target ≤ micros

/-! When they hold. -/

/-- The context can hold the number, rounded. -/
def InRange (q : ℚ) : Prop := |decimalContext.round q| < (10 : ℚ) ^ (1000000 : ℕ)

/-- No whole number lies between the two. -/
def Unseparated (x y : ℚ) : Prop := ∀ k : ℤ, x ≤ k ↔ y ≤ k

/-- The two products, rounded to the digits of the context, and their sum, rounded again. -/
def in_digits (a b : ℚ) : ℚ := decimalContext.round (decimalContext.round a + decimalContext.round b)

/-- The context can hold the costs of the input and the output, and rounding carries their sum past no whole
micro-dollar. -/
def EstimateExact (input output : ℚ) : Prop :=
  InRange input ∧ InRange output ∧ InRange (decimalContext.round input + decimalContext.round output) ∧
    Unseparated (input + output) (in_digits input output)

/-- A cost in micro-dollars, rounded to two decimals of one. -/
def cents (cost : ℚ) : ℚ := halfEven (cost * 100) / 100

/-- The cost is whole, or its fraction of a micro-dollar is above half a hundredth. A cost of more than 26 places must
also be no larger than what the context makes of it. -/
def SettlementExact (cost : ℚ) : Prop :=
  if cost < 10 ^ 26 then Int.fract cost = 0 ∨ 1 / 200 < Int.fract cost
  else InRange (cents cost) ∧ cost ≤ ⌈decimalContext.round (cents cost)⌉

variable {a b q cost : ℚ}

theorem inContext_eq_ok {d : Decimal} :
    Decimal.inContext q = .ok d ↔ InRange q ∧ d = .finite (decimalContext.round q) := by
  unfold Decimal.inContext InRange
  by_cases large : (10 : ℚ) ^ (1000000 : ℕ) ≤ |decimalContext.round q|
  · rw [if_pos large]
    exact iff_of_false (fun bad => nomatch bad) fun both => absurd large (not_le.mpr both.1)
  · rw [if_neg large]
    constructor
    · intro same
      exact ⟨not_le.mp large, (Except.ok.inj same).symm⟩
    · intro both
      exact congrArg Except.ok both.2.symm

/-- The ceiling of a number close to the cost covers the cost by less than one just when no whole number separates
them. -/
theorem ceil_covers_iff : cost ≤ ⌈q⌉ ∧ (⌈q⌉ : ℚ) < cost + 1 ↔ Unseparated cost q := by
  constructor
  · rintro ⟨covered, close⟩ k
    constructor
    · intro above
      have strict : ((⌈q⌉ : ℤ) : ℚ) < ((k + 1 : ℤ) : ℚ) := by
        push_cast
        linarith
      exact Int.ceil_le.mp (Int.lt_add_one_iff.mp (Int.cast_lt.mp strict))
    · intro above
      exact covered.trans (Int.cast_le.mpr (Int.ceil_le.mpr above))
  · intro apart
    refine ⟨(apart ⌈q⌉).mpr (Int.le_ceil q), ?_⟩
    have low : ¬ cost ≤ ((⌈q⌉ - 1 : ℤ) : ℚ) := by
      intro above
      have below := Int.ceil_le.mpr ((apart _).mp above)
      omega
    push_cast at low
    linarith [not_le.mp low]

/-- What the estimate returns. -/
theorem estimate_cost_micros_eq_ok {policy : InferenceBudgetPolicy} {model : String} {price : ModelPrice}
    {input output : Finite} (priced : policy.price_for model = .ok price)
    (input_price : price.input_per_million = .finite input) (output_price : price.output_per_million = .finite output)
    (input_tokens output_tokens : ℕ) {micros : ℤ} :
    policy.estimate_cost_micros model input_tokens output_tokens = .ok micros ↔
      InRange (input_tokens * input.printed) ∧ InRange (output_tokens * output.printed) ∧
        InRange (decimalContext.round (input_tokens * input.printed) +
          decimalContext.round (output_tokens * output.printed)) ∧
        micros = ⌈in_digits (input_tokens * input.printed) (output_tokens * output.printed)⌉ := by
  have tokens : ∀ n : ℕ, ((max 0 (n : ℤ) : ℤ) : ℚ) = n := by
    intro n
    rw [max_eq_right (Int.natCast_nonneg n), Int.cast_natCast]
  unfold InferenceBudgetPolicy.estimate_cost_micros
  rw [priced, bind_ok, input_price, output_price, tokens, tokens]
  change (Decimal.inContext _ >>= fun _ => Decimal.inContext _ >>= _) = _ ↔ _
  rw [bind_eq_ok]
  constructor
  · rintro ⟨first, multiplied, rest⟩
    obtain ⟨in_range, rfl⟩ := inContext_eq_ok.mp multiplied
    obtain ⟨second, multiplied, rest⟩ := bind_eq_ok.mp rest
    obtain ⟨out_range, rfl⟩ := inContext_eq_ok.mp multiplied
    obtain ⟨total, added, rounded⟩ := bind_eq_ok.mp rest
    obtain ⟨sum_range, rfl⟩ := inContext_eq_ok.mp added
    exact ⟨in_range, out_range, sum_range, (Except.ok.inj rounded).symm⟩
  · rintro ⟨in_range, out_range, sum_range, rfl⟩
    refine ⟨_, inContext_eq_ok.mpr ⟨in_range, rfl⟩, bind_eq_ok.mpr ⟨_, inContext_eq_ok.mpr ⟨out_range, rfl⟩, ?_⟩⟩
    exact bind_eq_ok.mpr ⟨_, inContext_eq_ok.mpr ⟨sum_range, rfl⟩, rfl⟩

/-- Costs of few enough digits are exact in the context. -/
theorem estimate_exact_of_digits {k : ℕ} {i j : ℤ} (input : a = i * (10 : ℚ) ^ (-(k : ℤ)))
    (output : b = j * (10 : ℚ) ^ (-(k : ℤ))) (input_nonneg : 0 ≤ i) (output_nonneg : 0 ≤ j)
    (few : i + j < 10 ^ 28) (places : k ≤ 1000000) : EstimateExact a b := by
  have kept : ∀ {x : ℚ} {n : ℤ}, x = n * (10 : ℚ) ^ (-(k : ℤ)) → 0 ≤ n → n < 10 ^ 28 →
      decimalContext.round x = x ∧ InRange x := by
    intro x n digits nonneg small
    have same : decimalContext.round x = x := by
      refine Format.round_of_digits (F := decimalContext) digits ?_ ?_
      · rw [abs_of_nonneg nonneg]
        exact small
      · change (-1000026 : ℤ) ≤ _
        omega
    refine ⟨same, ?_⟩
    unfold InRange
    rw [same, digits, abs_of_nonneg (mul_nonneg (Int.cast_nonneg nonneg) (zpow_pos (by norm_num) _).le)]
    calc (n : ℚ) * (10 : ℚ) ^ (-(k : ℤ)) ≤ n * 1 :=
          mul_le_mul_of_nonneg_left (zpow_le_one_of_nonpos₀ (by norm_num) (by omega)) (Int.cast_nonneg nonneg)
      _ < 10 ^ 28 := by
          rw [mul_one]
          exact_mod_cast small
      _ ≤ 10 ^ 1000000 := pow_le_pow_right₀ (by norm_num) (by norm_num)
  obtain ⟨first, in_range⟩ := kept input input_nonneg (by omega)
  obtain ⟨second, out_range⟩ := kept output output_nonneg (by omega)
  have total : a + b = ((i + j : ℤ) : ℚ) * (10 : ℚ) ^ (-(k : ℤ)) := by
    rw [input, output]
    push_cast
    ring
  obtain ⟨third, sum_range⟩ := kept total (add_nonneg input_nonneg output_nonneg) few
  unfold EstimateExact in_digits
  rw [first, second, third]
  exact ⟨in_range, out_range, sum_range, fun _ => Iff.rfl⟩

/-! The settlement. -/

/-- The two decimals of a micro-dollar which are kept, and half of one which is lost. -/
theorem cents_covers_iff : cost ≤ ⌈cents cost⌉ ↔ Int.fract cost = 0 ∨ 1 / 200 < Int.fract cost := by
  have split := Int.self_sub_floor cost
  have low := Int.fract_nonneg cost
  unfold cents
  by_cases whole : Int.fract cost = 0
  · have same : cost * 100 = ((⌊cost⌋ * 100 : ℤ) : ℚ) := by
      push_cast
      linarith
    have kept : ((⌊cost⌋ * 100 : ℤ) : ℚ) / 100 = (⌊cost⌋ : ℤ) := by
      push_cast
      ring
    rw [same, halfEven_intCast, kept, Int.ceil_intCast]
    exact iff_of_true (by linarith) (Or.inl whole)
  · have positive := lt_of_le_of_ne low (Ne.symm whole)
    rw [or_iff_right whole]
    by_cases enough : 1 / 200 < Int.fract cost
    · refine iff_of_true ?_ enough
      have near := (abs_le.mp (halfEven_error (cost * 100))).1
      have above : ((⌊cost⌋ * 100 : ℤ) : ℚ) < (halfEven (cost * 100) : ℤ) := by
        push_cast
        linarith
      have strict : ((⌊cost⌋ : ℤ) : ℚ) < (halfEven (cost * 100) : ℚ) / 100 := by
        rw [lt_div_iff₀ (by norm_num)]
        push_cast at above ⊢
        exact above
      have next := Int.add_one_le_iff.mpr (Int.lt_ceil.mpr strict)
      have bound := (Int.lt_floor_add_one cost).le
      exact bound.trans (by exact_mod_cast next)
    · refine iff_of_false (fun covered => ?_) enough
      have floor : ⌊cost * 100⌋ = ⌊cost⌋ * 100 := by
        rw [Int.floor_eq_iff]
        push_cast
        constructor <;> linarith [not_lt.mp enough]
      have lost : halfEven (cost * 100) = ⌊cost⌋ * 100 := by
        have even : (⌊cost⌋ * 100) % 2 = 0 := by omega
        have below : ¬ (1 : ℚ) / 2 < cost * 100 - ((⌊cost⌋ * 100 : ℤ) : ℚ) := by
          push_cast
          linarith [not_lt.mp enough]
        simp only [halfEven, floor]
        rw [if_neg below, if_pos even, ite_self]
      have kept : ((⌊cost⌋ * 100 : ℤ) : ℚ) / 100 = (⌊cost⌋ : ℤ) := by
        push_cast
        ring
      rw [lost, kept, Int.ceil_intCast] at covered
      linarith

/-- Two decimals of a cost of at most 26 places are exact in the context. -/
theorem cents_in_context (nonneg : 0 ≤ cost) (small : cost < 10 ^ 26) :
    InRange (cents cost) ∧ decimalContext.round (cents cost) = cents cost := by
  have near := abs_le.mp (halfEven_error (cost * 100))
  have digits : cents cost = (halfEven (cost * 100) : ℤ) * (10 : ℚ) ^ (-2 : ℤ) := by
    unfold cents
    rw [zpow_neg, div_eq_mul_inv]
    norm_num
  have least : 0 ≤ halfEven (cost * 100) := by
    have bound : ((-1 : ℤ) : ℚ) < (halfEven (cost * 100) : ℤ) := by
      push_cast
      linarith [near.1]
    have := Int.cast_lt.mp bound
    omega
  have most : halfEven (cost * 100) ≤ 10 ^ 28 := by
    have bound : ((halfEven (cost * 100) : ℤ) : ℚ) < ((10 ^ 28 + 1 : ℤ) : ℚ) := by
      push_cast
      linarith [near.2]
    have := Int.cast_lt.mp bound
    omega
  have same : decimalContext.round (cents cost) = cents cost := by
    rcases lt_or_eq_of_le most with few | full
    · refine Format.round_of_digits (F := decimalContext) digits ?_ (by decide)
      rw [abs_of_nonneg least]
      exact few
    · have power : cents cost = ((decimalContext.radix : ℕ) : ℚ) ^ (26 : ℤ) := by
        rw [digits, full]
        change (((10 : ℤ) ^ 28 : ℤ) : ℚ) * _ = ((10 : ℕ) : ℚ) ^ (26 : ℤ)
        norm_num
      rw [power]
      exact Format.round_zpow (by decide) (by decide)
  refine ⟨?_, same⟩
  unfold InRange
  have bound : cents cost ≤ 10 ^ 26 := by
    unfold cents
    rw [div_le_iff₀ (by norm_num)]
    calc ((halfEven (cost * 100) : ℤ) : ℚ) ≤ ((10 ^ 28 : ℤ) : ℚ) := Int.cast_le.mpr most
      _ = 10 ^ 26 * 100 := by norm_num
  have positive : 0 ≤ cents cost := div_nonneg (Int.cast_nonneg least) (by norm_num)
  rw [same, abs_of_nonneg positive]
  exact bound.trans_lt (pow_lt_pow_right₀ (by norm_num) (by norm_num))

theorem Usage.exact_micros_nonneg (usage : Usage) (target : TargetPrices) : 0 ≤ usage.exact_micros target :=
  add_nonneg (mul_nonneg (Nat.cast_nonneg _) target.input_nonneg)
    (mul_nonneg (Nat.cast_nonneg _) target.output_nonneg)

/-- What the settlement of a usage commits. -/
theorem settled_micros_eq_ok {reserved_micros micros : ℤ} {usage : Usage} {target : TargetPrices} :
    settled_micros reserved_micros (request_cost (some usage) target) = .ok micros ↔
      InRange (cents (usage.exact_micros target)) ∧
        micros = ⌈decimalContext.round (cents (usage.exact_micros target))⌉ := by
  have dollars : round8 (usage.exact_micros target / 1000000) * (MICROS : ℚ) = cents (usage.exact_micros target) := by
    have scaled : usage.exact_micros target / 1000000 * 10 ^ 8 = usage.exact_micros target * 100 := by ring
    unfold round8 cents
    rw [scaled]
    change _ * ((1000000 : ℕ) : ℚ) = _
    push_cast
    ring
  change (Decimal.inContext (round8 (usage.exact_micros target / 1000000) * (MICROS : ℚ)) >>= _) = _ ↔ _
  rw [dollars, bind_eq_ok]
  constructor
  · rintro ⟨value, multiplied, rounded⟩
    obtain ⟨range, rfl⟩ := inContext_eq_ok.mp multiplied
    exact ⟨range, (Except.ok.inj rounded).symm⟩
  · rintro ⟨range, rfl⟩
    exact ⟨_, inContext_eq_ok.mpr ⟨range, rfl⟩, rfl⟩

theorem settlement_covers_iff (reserved_micros : ℤ) (usage : Usage) (target : TargetPrices) :
    SettlementCovers reserved_micros usage target ↔ SettlementExact (usage.exact_micros target) := by
  unfold SettlementCovers SettlementExact
  simp only [settled_micros_eq_ok, and_assoc, exists_and_left, exists_eq_left]
  by_cases small : usage.exact_micros target < 10 ^ 26
  · obtain ⟨range, same⟩ := cents_in_context (usage.exact_micros_nonneg target) small
    rw [if_pos small, same, and_iff_right range, cents_covers_iff]
  · rw [if_neg small]

theorem estimate_covers_iff {policy : InferenceBudgetPolicy} {model : String} {price : ModelPrice}
    {input output : Finite} (priced : policy.price_for model = .ok price)
    (input_price : price.input_per_million = .finite input) (output_price : price.output_per_million = .finite output)
    (input_tokens output_tokens : ℕ) :
    EstimateCovers policy model input_tokens output_tokens
        (exact_micros input_tokens output_tokens input.printed output.printed) ↔
      EstimateExact (input_tokens * input.printed) (output_tokens * output.printed) := by
  unfold EstimateCovers EstimateExact
  simp only [estimate_cost_micros_eq_ok priced input_price output_price, and_assoc, exists_and_left,
    exists_eq_left, ceil_covers_iff]
  rfl

/-- The estimate is right, and the settlement covers the cost, exactly when the roundings allow it. -/
theorem money_covered_iff (policy : InferenceBudgetPolicy) (model : String) (price : ModelPrice)
    (input output : Finite) (priced : policy.price_for model = .ok price)
    (input_price : price.input_per_million = .finite input) (output_price : price.output_per_million = .finite output)
    (input_tokens output_tokens : ℕ) (reserved_micros : ℤ) (usage : Usage) (target : TargetPrices) :
    (EstimateCovers policy model input_tokens output_tokens
          (exact_micros input_tokens output_tokens input.printed output.printed) ∧
        SettlementCovers reserved_micros usage target) ↔
      EstimateExact (input_tokens * input.printed) (output_tokens * output.printed) ∧
        SettlementExact (usage.exact_micros target) :=
  and_congr (estimate_covers_iff priced input_price output_price input_tokens output_tokens)
    (settlement_covers_iff reserved_micros usage target)

/-! One token at a price with a fraction. -/
section Runs

def targetAt (price : ℚ) (nonneg : 0 ≤ price) : TargetPrices := ⟨price, price, nonneg, nonneg⟩

/-- One prompt token. -/
def oneToken : Usage := ⟨some 1, none⟩

theorem exact_micros_oneToken (price : ℚ) (nonneg : 0 ≤ price) :
    oneToken.exact_micros (targetAt price nonneg) = price := by
  change ((1 : ℕ) : ℚ) * price + ((0 : ℕ) : ℚ) * price = price
  rw [Nat.cast_one, Nat.cast_zero, one_mul, zero_mul, add_zero]

theorem money_covered_dollar :
    EstimateCovers dollarPolicy "m" 3 0 (exact_micros 3 0 1 1) ∧
      SettlementCovers 3 oneToken (targetAt (3 / 2) (by norm_num)) := by
  refine (money_covered_iff dollarPolicy "m" ⟨dollar, dollar⟩ _ _ rfl rfl rfl 3 0 3 oneToken _).mpr ⟨?_, ?_⟩
  · refine estimate_exact_of_digits (k := 0) (i := 3) (j := 0) ?_ ?_ (by norm_num) le_rfl (by norm_num) (Nat.zero_le _)
    · change ((3 : ℕ) : ℚ) * 1 = _
      norm_num
    · change ((0 : ℕ) : ℚ) * 1 = _
      norm_num
  · have half : Int.fract (3 / 2 : ℚ) = 1 / 2 := by norm_num
    rw [exact_micros_oneToken]
    unfold SettlementExact
    rw [if_pos (by norm_num), half]
    exact Or.inr (by norm_num)

/-- A token at 0.004 dollars for a million costs 0.004 micro-dollars, and nothing is committed for it. -/
theorem token_uncharged :
    ¬ (EstimateCovers dollarPolicy "m" 1 0 (exact_micros 1 0 1 1) ∧
      SettlementCovers 1 oneToken (targetAt (1 / 250) (by norm_num))) := by
  rintro ⟨-, covered⟩
  have exactly := (settlement_covers_iff _ _ _).mp covered
  have small : Int.fract (1 / 250 : ℚ) = 1 / 250 := Int.fract_eq_self.mpr ⟨by norm_num, by norm_num⟩
  rw [exact_micros_oneToken] at exactly
  unfold SettlementExact at exactly
  rw [if_pos (by norm_num), small] at exactly
  rcases exactly with free | above
  · norm_num at free
  · norm_num at above

end Runs
end RuntimePlatform.Budget
