import RuntimePlatform.Budget.Guard

/-!
The guard fails closed: `reserve` admits a request, denies it, or raises. It raises
where the amount of the estimate does not fit a double, because the handlers convert
that amount once more; it admits replies of the store which `int()` reads as a grant.
These two conditions are exact.
-/

namespace RuntimePlatform.Budget
open Python Except

/-- The amount converts to dollars. -/
def FitsDouble (micros : ℤ) : Prop := |(micros : ℚ) / MICROS| < doubleOverflow

/-- A denial: a decision with a status of its own, and no reservation. -/
def Denies (outcome : Except Error Outcome) : Prop :=
  ∃ d, outcome = .ok (d, none) ∧ d.decision = .DENY ∧ (d.status_code = 429 ∨ d.status_code = 503)

def Admits (outcome : Except Error Outcome) : Prop :=
  ∃ d reservation, outcome = .ok (d, some reservation) ∧ d.decision = .ALLOW

/-- An exception which is no cancellation. -/
def Raises (outcome : Except Error Outcome) : Prop := ∃ e, outcome = .error e ∧ e.kind ≠ .cancelledError

def Cancelled {α : Type} (outcome : Except Error α) : Prop := ∃ e, outcome = .error e ∧ e.kind = .cancelledError

/-- `[1, committed >= 0, reserved >= 0]`, and what else the script returns after them. -/
def WellFormed : Value → Prop
  | .list (.int code :: .int committed :: .int reserved :: _) => code = 1 ∧ 0 ≤ committed ∧ 0 ≤ reserved
  | _ => False

/-- The reply reads as a grant under `int()`, with amounts that convert to dollars. -/
def ReadsAllow (T : Text) (reply : Value) : Prop :=
  ∃ committed reserved, readNumbers T reply = .ok ⟨1, committed, reserved⟩ ∧ 0 ≤ committed ∧ 0 ≤ reserved ∧
    FitsDouble committed ∧ FitsDouble reserved

/-- What the store gives to one reserve, if the reserve gets that far. -/
def InferenceBudgetGuard.storeReply (guard : InferenceBudgetGuard) (policy : InferenceBudgetPolicy)
    (call : ReserveCall) : Except Error Value := do
  let estimate_micros ← policy.estimate call
  raiseIf (estimate_micros < 0) ⟨.valueError, "negative estimate"⟩
  let (result, _) ← guard.answer (policy.budget call) estimate_micros
  .ok result

/-- A reservation only on a well-formed grant, else a denial; nothing raised but a cancellation. -/
def FailsClosed (reply : Except Error Value) (outcome : Except Error Outcome) : Prop :=
  Cancelled outcome ∨ Denies outcome ∨ Admits outcome ∧ ∃ v, reply = .ok v ∧ WellFormed v

/-- The tokens are priced at an amount which does not convert to dollars. -/
def Oversized (policy : InferenceBudgetPolicy) (call : ReserveCall) : Prop :=
  call.estimated_usd = none ∧ ∃ micros,
    policy.estimate_cost_micros call.model call.input_tokens call.output_tokens = .ok micros ∧ ¬ FitsDouble micros

/-- The store's reply is no well-formed grant, but reads as one, under a budget whose warning ratio is a number. -/
def Coerced (T : Text) (budget : ScopeBudget) (reply : Except Error Value) : Prop :=
  budget.soft_warning_ratio ≠ .nan ∧ ∃ v, reply = .ok v ∧ ReadsAllow T v ∧ ¬ WellFormed v

theorem Denies.not_raises {outcome : Except Error Outcome} (denies : Denies outcome) : ¬ Raises outcome := by
  rintro ⟨e, raised, _⟩
  obtain ⟨d, decided, _⟩ := denies
  cases raised.symm.trans decided

theorem Raises.not_failsClosed {reply : Except Error Value} {outcome : Except Error Outcome}
    (raises : Raises outcome) : ¬ FailsClosed reply outcome := by
  obtain ⟨e, raised, kind⟩ := raises
  rintro (⟨e', same, cancelled⟩ | denies | ⟨⟨d, reservation, decided, _⟩, _⟩)
  · cases raised.symm.trans same
    exact kind cancelled
  · exact denies.not_raises ⟨e, raised, kind⟩
  · cases raised.symm.trans decided

theorem raises_of_not_returns {outcome : Except Error Outcome} (quiet : Quiet outcome)
    (stuck : ¬ outcome.Returns) : Raises outcome := by
  cases outcome with
  | error e => exact ⟨e, rfl, quiet e rfl⟩
  | ok a => exact absurd (returns_ok a) stuck

/-! Amounts. -/
section Amounts

theorem maxDouble_le : maxDouble ≤ 10 ^ 987 := by
  unfold maxDouble
  calc ((2 : ℚ) ^ 54 - 2) * 2 ^ 970 ≤ 10 ^ 17 * 10 ^ 970 :=
        mul_le_mul (by norm_num) (pow_le_pow_left₀ (by norm_num) (by norm_num) _)
          (pow_nonneg (by norm_num) _) (by norm_num)
    _ = 10 ^ 987 := (pow_add 10 17 970).symm

/-- A finite double converts to micro-dollars: the context's exponent limit is far away. -/
theorem usd_to_micros_returns (rounding : ℚ → ℤ) (x : Finite) : ∃ n, usd_to_micros rounding (.finite x) = .ok n := by
  have product : |x.printed * MICROS| ≤ 10 ^ 5000 := by
    rw [abs_mul, abs_of_nonneg (by norm_num [MICROS] : (0 : ℚ) ≤ MICROS)]
    calc |x.printed| * MICROS ≤ 10 ^ 987 * MICROS :=
          mul_le_mul_of_nonneg_right (x.bounded.trans maxDouble_le) (by norm_num [MICROS])
      _ = 10 ^ (987 + 6) := by
          rw [pow_add]
          norm_num [MICROS]
      _ ≤ 10 ^ 5000 := pow_le_pow_right₀ (by norm_num) (by norm_num)
  exact ⟨rounding (decimalContext.round (x.printed * MICROS)),
    bind_eq_ok.mpr ⟨.finite (decimalContext.round (x.printed * MICROS)), Decimal.inContext_ok product, rfl⟩⟩

/-- Converting a double to micro-dollars gives at most the largest double's amount and a rounding. -/
theorem usd_to_micros_le {rounding : ℚ → ℤ} (near : ∀ q, |(rounding q : ℚ) - q| ≤ 1) {usd : Double} {n : ℤ}
    (converted : usd_to_micros rounding usd = .ok n) :
    |(n : ℚ)| ≤ maxDouble * MICROS + maxDouble * MICROS / 10 ^ 27 + 2 := by
  cases usd with
  | inf negative => cases converted
  | nan => cases converted
  | finite x =>
      obtain ⟨micros, scaled, rounded⟩ := bind_eq_ok.mp converted
      change Decimal.inContext (x.printed * MICROS) = .ok micros at scaled
      unfold Decimal.inContext at scaled
      split at scaled
      · cases scaled
      · cases scaled
        cases rounded
        have product : |x.printed * MICROS| ≤ maxDouble * MICROS := by
          rw [abs_mul, abs_of_nonneg (by norm_num [MICROS] : (0 : ℚ) ≤ MICROS)]
          exact mul_le_mul_of_nonneg_right x.bounded (by norm_num [MICROS])
        have context := Decimal.round_le product
        have last := near (decimalContext.round (x.printed * MICROS))
        have split := abs_add_le (decimalContext.round (x.printed * MICROS))
          (rounding (decimalContext.round (x.printed * MICROS)) - decimalContext.round (x.printed * MICROS))
        rw [add_sub_cancel] at split
        linarith

theorem ceil_near (q : ℚ) : |((⌈q⌉ : ℤ) : ℚ) - q| ≤ 1 := by
  have low := Int.le_ceil q
  have high := Int.ceil_lt_add_one q
  rw [abs_le]
  constructor <;> linarith

theorem floor_near (q : ℚ) : |((⌊q⌋ : ℤ) : ℚ) - q| ≤ 1 := by
  have low := Int.floor_le q
  have high := Int.lt_floor_add_one q
  rw [abs_le]
  constructor <;> linarith

/-- An estimate given in dollars always converts back. -/
theorem charge_fits {usd : Double} {n : ℤ} (converted : charge_to_micros usd = .ok n) : FitsDouble n := by
  have bound := usd_to_micros_le ceil_near converted
  have power : (1 : ℚ) ≤ 2 ^ 970 := one_le_pow₀ (by norm_num)
  unfold FitsDouble
  rw [abs_div, abs_of_pos (by norm_num [MICROS] : (0 : ℚ) < MICROS), div_lt_iff₀ (by norm_num [MICROS])]
  refine lt_of_le_of_lt bound ?_
  unfold maxDouble doubleOverflow MICROS
  generalize (2 : ℚ) ^ 970 = x at power
  push_cast
  linarith

theorem fitsDouble_zero : FitsDouble 0 := by
  unfold FitsDouble doubleOverflow
  rw [Int.cast_zero, zero_div, abs_zero]
  exact mul_pos (by norm_num) (pow_pos (by norm_num) _)

theorem quiet_usd_to_micros (rounding : ℚ → ℤ) (usd : Double) : Quiet (usd_to_micros rounding usd) := by
  cases usd with
  | finite x => exact (Decimal.quiet_mul _ _).bind fun _ => Decimal.quiet_toInt _ _
  | _ => exact quiet_error (by decide)

theorem quiet_estimate (policy : InferenceBudgetPolicy) (call : ReserveCall) : Quiet (policy.estimate call) := by
  unfold InferenceBudgetPolicy.estimate
  cases call.estimated_usd with
  | some usd => exact quiet_usd_to_micros _ usd
  | none =>
      refine Quiet.bind ?_ fun price => (Decimal.quiet_mul _ _).bind fun input =>
        (Decimal.quiet_mul _ _).bind fun output => (Decimal.quiet_add _ _).bind fun micros =>
          Decimal.quiet_toInt _ _
      unfold InferenceBudgetPolicy.price_for
      cases ((policy.prices.lookup call.model).or (policy.prices.lookup "*")).or
          (policy.prices.lookup "default") with
      | none => exact quiet_error (by decide)
      | some price => exact quiet_ok _

/-- A warning ratio lies above zero and is at most one, or is no number. -/
theorem ScopeBudget.ratio_finite {budget : ScopeBudget} (number : budget.soft_warning_ratio ≠ .nan) :
    ∃ x, budget.soft_warning_ratio = .finite x := by
  have positive := budget.ratio_pos
  have most := budget.ratio_le
  cases ratio : budget.soft_warning_ratio with
  | finite x => exact ⟨x, rfl⟩
  | inf negative =>
      rw [ratio] at positive most
      cases Eq.trans (Eq.symm positive) most
  | nan => exact absurd ratio number

/-- The soft threshold of a budget which converts is an ordinary decimal, if the ratio is a number. -/
theorem soft_threshold_ok {budget : ScopeBudget} {n : ℤ} (number : budget.soft_warning_ratio ≠ .nan)
    (converted : budget_to_micros budget.budget_usd = .ok n) :
    ∃ q, Decimal.mul (.finite n) (.ofFloat budget.soft_warning_ratio) = .ok (.finite q) := by
  obtain ⟨x, finite⟩ := budget.ratio_finite number
  rw [finite]
  refine ⟨_, Decimal.inContext_ok ?_⟩
  have bound := usd_to_micros_le floor_near converted
  have largest := maxDouble_le
  have one : (1 : ℚ) ≤ 10 ^ 987 := one_le_pow₀ (by norm_num)
  have ratio : |x.printed| ≤ 10 ^ 987 := x.bounded.trans largest
  have amount : |(n : ℚ)| ≤ 10 ^ 987 * 10 ^ 7 := by
    unfold MICROS at bound
    generalize (10 : ℚ) ^ 987 = y at largest one
    push_cast at bound
    linarith
  rw [abs_mul]
  calc |(n : ℚ)| * |x.printed| ≤ 10 ^ 987 * 10 ^ 7 * 10 ^ 987 :=
        mul_le_mul amount ratio (abs_nonneg _) (mul_nonneg (pow_nonneg (by norm_num) _) (by norm_num))
    _ = 10 ^ 1981 := by rw [← pow_add, ← pow_add]
    _ ≤ 10 ^ 5000 := pow_le_pow_right₀ (by norm_num) (by norm_num)

end Amounts

/-! The decisions. -/
section Decisions
variable {T : Text} {reason scope res_id : String} {status : ℕ} {budget : ScopeBudget}
  {policy : InferenceBudgetPolicy} {estimate committed reserved : ℤ} {reply : Value}

theorem quiet_deny_for : Quiet (deny_for reason status scope budget estimate policy reserved committed) :=
  (quiet_trueDivide _ _).bind fun _ => (quiet_trueDivide _ _).bind fun _ => (quiet_trueDivide _ _).bind fun _ =>
    quiet_ok _

/-- A denial is itself denied when one of its amounts does not convert. -/
theorem deny_for_returns : (deny_for reason status scope budget estimate policy reserved committed).Returns ↔
    FitsDouble estimate ∧ FitsDouble reserved ∧ FitsDouble committed := by
  unfold deny_for micros_to_usd FitsDouble
  simp only [returns_bind, returns_ok, and_true, ← trueDivide_returns]
  constructor
  · rintro ⟨_, first, _, second, _, third⟩
    exact ⟨⟨_, first⟩, ⟨_, second⟩, ⟨_, third⟩⟩
  · rintro ⟨⟨_, first⟩, ⟨_, second⟩, ⟨_, third⟩⟩
    exact ⟨_, first, _, second, _, third⟩

theorem deny_for_cases (reason : String) (listed : status = 429 ∨ status = 503) :
    Denies (deny_for reason status scope budget estimate policy reserved committed) ∨
      Raises (deny_for reason status scope budget estimate policy reserved committed) := by
  by_cases returned : (deny_for reason status scope budget estimate policy reserved committed).Returns
  · obtain ⟨outcome, returned⟩ := returned
    refine Or.inl ?_
    have inverted := returned
    unfold deny_for at inverted
    simp only [bind_eq_ok, ok.injEq] at inverted
    obtain ⟨_, _, _, _, _, _, rfl⟩ := inverted
    exact ⟨_, returned, rfl, listed⟩
  · exact Or.inr (raises_of_not_returns quiet_deny_for returned)

theorem denies_of_fits (listed : status = 429 ∨ status = 503) (fits : FitsDouble estimate) :
    Denies (deny_for reason status scope budget estimate policy 0 0) := by
  rcases deny_for_cases reason listed with denies | ⟨e, raised, _⟩
  · exact denies
  · obtain ⟨outcome, returned⟩ := deny_for_returns.mpr ⟨fits, fitsDouble_zero, fitsDouble_zero⟩
    cases raised.symm.trans returned

theorem raises_of_not_fits (large : ¬ FitsDouble estimate) :
    Raises (deny_for reason status scope budget estimate policy reserved committed) :=
  raises_of_not_returns quiet_deny_for fun returned => large (deny_for_returns.mp returned).1

/-- The handlers pass a cancellation on and turn every other exception into a denial. -/
theorem onError_cases (scope : String) (budget : ScopeBudget) (estimate : ℤ) (policy : InferenceBudgetPolicy)
    (e : Error) :
    (e.kind = .cancelledError ∧ onError scope budget estimate policy e = .error e) ∨
      e.kind ≠ .cancelledError ∧ ∃ reason,
        onError scope budget estimate policy e = deny_for reason 503 scope budget estimate policy 0 0 := by
  unfold onError
  cases kind : e.kind with
  | cancelledError => exact Or.inl ⟨rfl, rfl⟩
  | _ => exact Or.inr ⟨by decide, _, rfl⟩

theorem quiet_readNumbers (T : Text) (reply : Value) : Quiet (readNumbers T reply) := by
  have entry : ∀ i, Quiet (item reply i >>= T.int) := fun i => (quiet_item reply i).bind T.quiet_int
  exact (entry 0).bind fun _ => (entry 1).bind fun _ => (entry 2).bind fun _ => quiet_ok _

theorem quiet_admission : Quiet (admission scope budget estimate policy res_id committed reserved) :=
  (quiet_usd_to_micros _ _).bind fun _ => (Decimal.quiet_mul _ _).bind fun _ => (Decimal.quiet_intGe _ _).bind
    fun _ => (quiet_trueDivide _ _).bind fun _ => (quiet_trueDivide _ _).bind fun _ =>
      (quiet_trueDivide _ _).bind fun _ => quiet_ok _

theorem fits_of_admission (returned : (admission scope budget estimate policy res_id committed reserved).Returns) :
    FitsDouble estimate ∧ FitsDouble reserved ∧ FitsDouble committed := by
  unfold admission micros_to_usd at returned
  simp only [returns_bind] at returned
  obtain ⟨_, _, _, _, _, _, _, first, _, second, _, third, _⟩ := returned
  exact ⟨trueDivide_returns.mp ⟨_, first⟩, trueDivide_returns.mp ⟨_, second⟩, trueDivide_returns.mp ⟨_, third⟩⟩

/-- Amounts are not compared with a threshold which is no number. -/
theorem number_of_admission (returned : (admission scope budget estimate policy res_id committed reserved).Returns) :
    budget.soft_warning_ratio ≠ .nan := by
  intro undefined
  unfold admission at returned
  simp only [returns_bind, undefined] at returned
  obtain ⟨_, _, _, threshold, _, soft, _⟩ := returned
  cases threshold
  cases soft

theorem admits_of_fits {n : ℤ} (number : budget.soft_warning_ratio ≠ .nan)
    (converted : budget_to_micros budget.budget_usd = .ok n) (fits : FitsDouble estimate)
    (reservedFits : FitsDouble reserved) (committedFits : FitsDouble committed) :
    Admits (admission scope budget estimate policy res_id committed reserved) := by
  obtain ⟨q, threshold⟩ := soft_threshold_ok number converted
  have amounts : ∀ {m : ℤ}, FitsDouble m → micros_to_usd m = .ok (double.round (m / MICROS)) := trueDivide_ok
  unfold admission
  rw [converted, amounts fits, amounts reservedFits, amounts committedFits]
  refine ⟨_, _, bind_eq_ok.mpr ⟨_, rfl, bind_eq_ok.mpr ⟨_, threshold, rfl⟩⟩, rfl⟩

theorem interpret_eq_allowed {numbers : ReserveResult} :
    interpret numbers = .allowed committed reserved ↔
      numbers = ⟨1, committed, reserved⟩ ∧ 0 ≤ committed ∧ 0 ≤ reserved := by
  obtain ⟨code, c, r⟩ := numbers
  simp only [interpret, ReserveResult.mk.injEq]
  by_cases corrupt : (code ≠ 0 ∧ code ≠ 1) ∨ c < 0 ∨ r < 0
  · rw [if_pos corrupt]
    simp only [reduceCtorEq, false_iff]
    omega
  · rw [if_neg corrupt]
    by_cases exceeded : code = 0
    · rw [if_pos exceeded]
      simp only [reduceCtorEq, false_iff]
      omega
    · rw [if_neg exceeded, Interpreted.allowed.injEq]
      omega

/-- What `_interpret_reserve_result` can do: deny, hand an exception on, or admit a reply
which reads as a grant. -/
theorem interpret_cases (T : Text) (reply : Value) (scope : String) (budget : ScopeBudget) (estimate : ℤ)
    (policy : InferenceBudgetPolicy) (res_id : String) :
    (∃ reason status reserved committed, (status = 429 ∨ status = 503) ∧
      interpret_reserve_result T reply scope budget estimate policy res_id =
        deny_for reason status scope budget estimate policy reserved committed) ∨
    (∃ e, e.kind ≠ .cancelledError ∧
      interpret_reserve_result T reply scope budget estimate policy res_id = .error e) ∨
    ∃ committed reserved, readNumbers T reply = .ok ⟨1, committed, reserved⟩ ∧ 0 ≤ committed ∧ 0 ≤ reserved ∧
      interpret_reserve_result T reply scope budget estimate policy res_id =
        admission scope budget estimate policy res_id committed reserved := by
  unfold interpret_reserve_result
  cases read : readNumbers T reply with
  | error e =>
      by_cases caught : e.kind = .typeError ∨ e.kind = .valueError ∨ e.kind = .lookupError
      · exact Or.inl ⟨_, 503, 0, 0, Or.inr rfl, if_pos caught⟩
      · exact Or.inr (Or.inl ⟨e, quiet_readNumbers T reply e read, if_neg caught⟩)
  | ok numbers =>
      cases decided : interpret numbers with
      | corrupt => exact Or.inl ⟨"store_corrupt", 503, 0, 0, Or.inr rfl, by simp only [decided]⟩
      | exceeded c r => exact Or.inl ⟨"budget_exceeded", 429, r, c, Or.inl rfl, by simp only [decided]⟩
      | allowed c r =>
          obtain ⟨rfl, committedNonneg, reservedNonneg⟩ := interpret_eq_allowed.mp decided
          exact Or.inr (Or.inr ⟨c, r, rfl, committedNonneg, reservedNonneg, by simp only [decided]⟩)

/-- An estimate which does not convert makes every reading of the reply raise. -/
theorem interpret_raises (large : ¬ FitsDouble estimate) :
    Raises (interpret_reserve_result T reply scope budget estimate policy res_id) := by
  rcases interpret_cases T reply scope budget estimate policy res_id with ⟨_, _, _, _, _, same⟩ | ⟨e, kind, same⟩ |
      ⟨_, _, _, _, _, same⟩
  · rw [same]
    exact raises_of_not_fits large
  · exact ⟨e, same, kind⟩
  · rw [same]
    exact raises_of_not_returns quiet_admission fun returned => large (fits_of_admission returned).1

/-- A reply which reads as a grant is admitted. -/
theorem interpret_admits {n : ℤ} (fits : FitsDouble estimate) (reads : ReadsAllow T reply)
    (number : budget.soft_warning_ratio ≠ .nan) (converted : budget_to_micros budget.budget_usd = .ok n) :
    Admits (interpret_reserve_result T reply scope budget estimate policy res_id) := by
  obtain ⟨committed, reserved, read, committedNonneg, reservedNonneg, committedFits, reservedFits⟩ := reads
  have granted := interpret_eq_allowed.mpr
    ⟨(rfl : (⟨1, committed, reserved⟩ : ReserveResult) = _), committedNonneg, reservedNonneg⟩
  unfold interpret_reserve_result
  rw [read]
  simp only [granted]
  exact admits_of_fits number converted fits reservedFits committedFits

/-- Any other reply is not. -/
theorem interpret_refuses (unread : ¬ (ReadsAllow T reply ∧ budget.soft_warning_ratio ≠ .nan)) :
    Denies (interpret_reserve_result T reply scope budget estimate policy res_id) ∨
      Raises (interpret_reserve_result T reply scope budget estimate policy res_id) := by
  rcases interpret_cases T reply scope budget estimate policy res_id with
    ⟨_, _, _, _, listed, same⟩ | ⟨e, kind, same⟩ | ⟨c, r, read, committedNonneg, reservedNonneg, same⟩
  · rw [same]
    exact deny_for_cases _ listed
  · exact Or.inr ⟨e, same, kind⟩
  · rw [same]
    refine Or.inr (raises_of_not_returns quiet_admission fun returned => unread ?_)
    obtain ⟨_, reservedFits, committedFits⟩ := fits_of_admission returned
    exact ⟨⟨c, r, read, committedNonneg, reservedNonneg, committedFits, reservedFits⟩, number_of_admission returned⟩

end Decisions

/-! The whole call. -/
section Reserve
variable {guard : InferenceBudgetGuard} {policy : InferenceBudgetPolicy} {call : ReserveCall}

/-- The store is asked with the budget in micro-dollars, so that the budget converts when
there is a readable answer. -/
theorem answer_converts {budget : ScopeBudget} {estimate : ℤ} {v : Value} {id : String}
    (answered : guard.answer budget estimate = .ok (v, id)) (reads : ReadsAllow guard.text v) :
    ∃ n, budget_to_micros budget.budget_usd = .ok n := by
  unfold InferenceBudgetGuard.answer at answered
  cases backend : guard.store with
  | redis eval =>
      rw [backend] at answered
      obtain ⟨n, converted, _⟩ := bind_eq_ok.mp answered
      exact ⟨n, converted⟩
  | memory fault window =>
      rw [backend] at answered
      cases fault with
      | none =>
          obtain ⟨_, _, rest⟩ := bind_eq_ok.mp answered
          obtain ⟨n, converted, _⟩ := bind_eq_ok.mp rest
          exact ⟨n, converted⟩
      | some fault =>
          cases fault with
          | corrupt =>
              -- the simulated payload has one entry only
              cases answered
              obtain ⟨_, _, read, _⟩ := reads
              obtain ⟨_, _, rest⟩ := bind_eq_ok.mp read
              obtain ⟨_, second, _⟩ := bind_eq_ok.mp rest
              obtain ⟨_, missing, _⟩ := bind_eq_ok.mp second
              cases missing
          | unavailable => cases answered
          | timeout => cases answered

/-- Where the store answers, its answer is read, under the handlers. -/
theorem reserve_answered {micros : ℤ} {v : Value} {id : String} (configured : guard.policy = some policy)
    (estimated : policy.estimate call = .ok micros) (nonneg : ¬ micros < 0)
    (answered : guard.answer (policy.budget call) micros = .ok (v, id)) :
    guard.reserve call = tryCatch (interpret_reserve_result guard.text v (policy.scope_for call.tenant_id call.api_key).1
      (policy.budget call) micros policy id)
        (onError (policy.scope_for call.tenant_id call.api_key).1 (policy.budget call) micros policy) := by
  simp only [InferenceBudgetGuard.reserve, configured, InferenceBudgetGuard.reserveWith, estimated, bind_ok, raiseIf,
    if_neg nonneg, answered]

theorem storeReply_answered {micros : ℤ} {v : Value} {id : String} (estimated : policy.estimate call = .ok micros)
    (nonneg : ¬ micros < 0) (answered : guard.answer (policy.budget call) micros = .ok (v, id)) :
    guard.storeReply policy call = .ok v := by
  simp only [InferenceBudgetGuard.storeReply, estimated, bind_ok, raiseIf, if_neg nonneg, answered]

/-- A call whose reply reads as a grant is admitted. -/
theorem reserve_admits {micros : ℤ} {v : Value} {id : String} (configured : guard.policy = some policy)
    (estimated : policy.estimate call = .ok micros) (nonneg : ¬ micros < 0) (fits : FitsDouble micros)
    (answered : guard.answer (policy.budget call) micros = .ok (v, id)) (reads : ReadsAllow guard.text v)
    (number : (policy.budget call).soft_warning_ratio ≠ .nan) : Admits (guard.reserve call) := by
  obtain ⟨n, converted⟩ := answer_converts answered reads
  obtain ⟨d, reservation, admitted, allow⟩ := interpret_admits fits reads number converted
  refine ⟨d, reservation, ?_, allow⟩
  rw [reserve_answered configured estimated nonneg answered, admitted, tryCatch_ok]

theorem oversized_iff {micros : ℤ} (estimated : policy.estimate call = .ok micros) :
    Oversized policy call ↔ ¬ FitsDouble micros := by
  unfold InferenceBudgetPolicy.estimate at estimated
  unfold Oversized
  cases given : call.estimated_usd with
  | none =>
      rw [given] at estimated
      constructor
      · rintro ⟨_, m, same, large⟩
        cases estimated.symm.trans same
        exact large
      · intro large
        exact ⟨rfl, micros, estimated, large⟩
  | some usd =>
      rw [given] at estimated
      exact ⟨fun ⟨absent, _⟩ => (nomatch absent), fun large => absurd (charge_fits estimated) large⟩

theorem not_coerced_error {T : Text} {budget : ScopeBudget} {e : Error} : ¬ Coerced T budget (.error e) := by
  rintro ⟨_, v, same, _⟩
  cases same

theorem cancelled_error {α : Type} {e : Error} : Cancelled (.error e : Except Error α) ↔ e.kind = .cancelledError := by
  constructor
  · rintro ⟨e', same, kind⟩
    cases same
    exact kind
  · intro kind
    exact ⟨e, rfl, kind⟩

/-- After an exception of the estimate, the store or the reading, `reserve` fails closed
unless the denial of the handler raises. -/
theorem failsClosed_onError {reply : Except Error Value} {scope : String} {budget : ScopeBudget} {estimate : ℤ}
    {e : Error} (kind : e.kind ≠ .cancelledError) :
    FailsClosed reply (onError scope budget estimate policy e) ↔ FitsDouble estimate := by
  rcases onError_cases scope budget estimate policy e with ⟨cancelled, _⟩ | ⟨_, reason, same⟩
  · exact absurd cancelled kind
  · rw [same]
    by_cases fits : FitsDouble estimate
    · exact iff_of_true (Or.inr (Or.inl (denies_of_fits (Or.inr rfl) fits))) fits
    · exact iff_of_false (raises_of_not_fits fits).not_failsClosed fits

/-- The same with the condition in the terms of the main theorem. -/
theorem failsClosed_handled {scope : String} {budget : ScopeBudget} {estimate : ℤ} {e : Error}
    (estimated : policy.estimate call = .ok estimate) (kind : e.kind ≠ .cancelledError) :
    FailsClosed (.error e) (onError scope budget estimate policy e) ↔
      Cancelled (.error e : Except Error Value) ∨
        ¬ Oversized policy call ∧ ¬ Coerced guard.text (policy.budget call) (.error e) := by
  rw [failsClosed_onError kind, oversized_iff estimated, not_not, cancelled_error, or_iff_right kind,
    and_iff_left not_coerced_error]

theorem not_cancelled_ok {v : Value} : ¬ Cancelled (.ok v : Except Error Value) := by
  rintro ⟨e, same, _⟩
  cases same

/-- A call whose store answers: the estimate has to convert, and the reply to be well-formed
if it reads as a grant. -/
theorem failsClosed_answered {micros : ℤ} {v : Value} {id : String} (configured : guard.policy = some policy)
    (estimated : policy.estimate call = .ok micros) (nonneg : ¬ micros < 0)
    (answered : guard.answer (policy.budget call) micros = .ok (v, id)) :
    FailsClosed (guard.storeReply policy call) (guard.reserve call) ↔
      FitsDouble micros ∧ ¬ Coerced guard.text (policy.budget call) (.ok v) := by
  rw [reserve_answered configured estimated nonneg answered, storeReply_answered estimated nonneg answered]
  by_cases fits : FitsDouble micros
  · have handled : ∀ e, e.kind ≠ .cancelledError →
        Denies (onError (policy.scope_for call.tenant_id call.api_key).1 (policy.budget call) micros policy e) := by
      intro e kind
      rcases onError_cases (policy.scope_for call.tenant_id call.api_key).1 (policy.budget call) micros policy e with
          ⟨cancelled, _⟩ | ⟨_, reason, same⟩
      · exact absurd cancelled kind
      · exact same ▸ denies_of_fits (Or.inr rfl) fits
    by_cases granted : ReadsAllow guard.text v ∧ (policy.budget call).soft_warning_ratio ≠ .nan
    · -- the reply is admitted, so it has to be well-formed
      obtain ⟨reads, number⟩ := granted
      obtain ⟨n, converted⟩ := answer_converts answered reads
      obtain ⟨d, reservation, admitted, allow⟩ := interpret_admits fits reads number converted
      rw [admitted, tryCatch_ok]
      constructor
      · rintro (⟨e, same, _⟩ | ⟨d', same, deny, _⟩ | ⟨_, v', same, formed⟩)
        · cases same
        · cases same
        · cases same
          exact ⟨fits, fun ⟨_, w, same, _, malformed⟩ => by cases same; exact malformed formed⟩
      · rintro ⟨_, sound⟩
        refine Or.inr (Or.inr ⟨⟨d, reservation, rfl, allow⟩, v, rfl, ?_⟩)
        exact not_not.mp fun malformed => sound ⟨number, v, rfl, reads, malformed⟩
    · refine iff_of_true ?_ ⟨fits, fun ⟨number, w, same, allowed, _⟩ => by cases same; exact granted ⟨allowed, number⟩⟩
      rcases interpret_refuses granted with ⟨d, denied, deny⟩ | ⟨e, raised, kind⟩
      · rw [denied, tryCatch_ok]
        exact Or.inr (Or.inl ⟨d, rfl, deny⟩)
      · rw [raised, tryCatch_error]
        exact Or.inr (Or.inl (handled e kind))
  · obtain ⟨e, raised, kind⟩ := interpret_raises fits
    rw [raised, tryCatch_error]
    exact iff_of_false (fun closed => fits ((failsClosed_onError kind).mp closed)) fun sound => fits sound.1

/-- The guard fails closed on a call exactly when the store's answer is a cancellation, or the
priced tokens convert to dollars and the reply is not a malformed one that reads as a grant; where
the warning ratio is no number every grant is denied. -/
theorem reserve_fails_closed (guard : InferenceBudgetGuard) (policy : InferenceBudgetPolicy) (call : ReserveCall)
    (configured : guard.policy = some policy) :
    FailsClosed (guard.storeReply policy call) (guard.reserve call) ↔
      Cancelled (guard.storeReply policy call) ∨
        ¬ Oversized policy call ∧ ¬ Coerced guard.text (policy.budget call) (guard.storeReply policy call) := by
  cases estimated : policy.estimate call with
  | error e =>
      have kind : e.kind ≠ .cancelledError := quiet_estimate policy call e estimated
      have priced : ¬ Oversized policy call := by
        rintro ⟨absent, m, same, _⟩
        unfold InferenceBudgetPolicy.estimate at estimated
        rw [absent] at estimated
        cases estimated.symm.trans same
      simp only [InferenceBudgetGuard.reserve, configured, InferenceBudgetGuard.reserveWith,
        InferenceBudgetGuard.storeReply, estimated, bind_error]
      rw [failsClosed_onError kind]
      exact iff_of_true fitsDouble_zero (Or.inr ⟨priced, not_coerced_error⟩)
  | ok micros =>
      by_cases negative : micros < 0
      · simp only [InferenceBudgetGuard.reserve, configured, InferenceBudgetGuard.reserveWith,
          InferenceBudgetGuard.storeReply, estimated, bind_ok, raiseIf, if_pos negative, bind_error, tryCatch_error]
        exact failsClosed_handled estimated (by decide)
      · cases answered : guard.answer (policy.budget call) micros with
        | error e =>
            simp only [InferenceBudgetGuard.reserve, configured, InferenceBudgetGuard.reserveWith,
              InferenceBudgetGuard.storeReply, estimated, bind_ok, raiseIf, if_neg negative, answered, bind_error,
              tryCatch_error]
            by_cases kind : e.kind = .cancelledError
            · have passed : onError (policy.scope_for call.tenant_id call.api_key).1 (policy.budget call) micros
                  policy e = .error e := by
                simp only [onError, kind]
              exact iff_of_true (Or.inl ⟨e, passed, kind⟩) (Or.inl ⟨e, rfl, kind⟩)
            · exact failsClosed_handled estimated kind
        | ok found =>
            obtain ⟨v, id⟩ := found
            rw [failsClosed_answered configured estimated negative answered,
              storeReply_answered estimated negative answered, oversized_iff estimated, not_not,
              or_iff_right not_cancelled_ok]

end Reserve

/-! One policy, at a dollar per window and a dollar per million tokens. -/
section Runs

def Finite.ofBounded (q : ℚ) (nonneg : 0 ≤ q) (bounded : q ≤ 10 ^ 6) : Finite where
  value := q
  printed := q
  bounded := by
    rw [abs_of_nonneg nonneg]
    refine bounded.trans (le_trans ?_ (le_mul_of_one_le_right (by norm_num) (one_le_pow₀ (by norm_num))))
    norm_num

def dollar : Double := .finite (Finite.ofBounded 1 (by norm_num) (by norm_num))

def dollarBudget : ScopeBudget where
  budget_usd := dollar
  window_seconds := 3600
  soft_warning_ratio := .finite (Finite.ofBounded (4 / 5) (by norm_num) (by norm_num))
  reservation_ttl_seconds := .finite (Finite.ofBounded 120 (by norm_num) (by norm_num))
  budget_pos := by norm_num [dollar, Positive, Finite.ofBounded]
  window_pos := by norm_num
  ratio_pos := by norm_num [Positive, Finite.ofBounded]
  ratio_le := by norm_num [AtMostOne, Finite.ofBounded]
  ttl_pos := by norm_num [Positive, Finite.ofBounded]

def dollarPolicy : InferenceBudgetPolicy where
  version := "1"
  default := dollarBudget
  tenants := []
  prices := [("*", ⟨dollar, dollar⟩)]
  sha256 := "sha256:0"
  api_key_fingerprint _ := "0"

def dollarGuard (store : Store) : InferenceBudgetGuard := ⟨asciiText, some dollarPolicy, store, 1000, "r1"⟩

/-- A request for one dollar, and one for `10 ^ 400` tokens. -/
def dollarCall : ReserveCall := ⟨"acme", "m", 0, 0, none, some dollar⟩

def hugeCall : ReserveCall := ⟨"acme", "m", 0, 10 ^ 400, none, none⟩

theorem reserve_fails_closed_unavailable :
    FailsClosed ((dollarGuard (.memory (some .unavailable) none)).storeReply dollarPolicy dollarCall)
      ((dollarGuard (.memory (some .unavailable) none)).reserve dollarCall) := by
  refine (reserve_fails_closed _ dollarPolicy dollarCall rfl).mpr (Or.inr ⟨?_, ?_⟩)
  · rintro ⟨absent, _⟩
    cases absent
  · rintro ⟨_, v, answered, _⟩
    obtain ⟨_, _, rest⟩ := bind_eq_ok.mp answered
    obtain ⟨_, _, rest⟩ := bind_eq_ok.mp rest
    obtain ⟨_, unavailable, _⟩ := bind_eq_ok.mp rest
    cases unavailable

theorem estimate_dollarCall : dollarPolicy.estimate dollarCall = .ok (10 ^ 6) := by
  change (Decimal.inContext (1 * ((1000000 : ℕ) : ℚ)) >>= fun d => d.toInt fun q => ⌈q⌉) = _
  rw [show (1 : ℚ) * ((1000000 : ℕ) : ℚ) = 10 ^ 6 by norm_num, Decimal.inContext_pow (by norm_num)]
  change Except.ok ⌈(10 : ℚ) ^ 6⌉ = _
  norm_num

theorem budget_dollar : budget_to_micros dollar = .ok (10 ^ 6) := by
  change (Decimal.inContext (1 * ((1000000 : ℕ) : ℚ)) >>= fun d => d.toInt fun q => ⌊q⌋) = _
  rw [show (1 : ℚ) * ((1000000 : ℕ) : ℚ) = 10 ^ 6 by norm_num, Decimal.inContext_pow (by norm_num)]
  change Except.ok ⌊(10 : ℚ) ^ 6⌋ = _
  norm_num

theorem lifetime_dollar : ∃ ttl, intTimes dollarBudget.reservation_ttl_seconds 1000 = .ok ttl := by
  refine ⟨_, if_neg (not_le.mpr ?_)⟩
  have power : (1 : ℚ) ≤ 2 ^ 970 := one_le_pow₀ (by norm_num)
  change |(120 : ℚ) * (1000 : ℕ)| < (2 ^ 54 - 1) * 2 ^ 970
  generalize (2 : ℚ) ^ 970 = x at power
  rw [abs_of_nonneg (by norm_num)]
  push_cast
  linarith

theorem estimate_pow {k : ℕ} (small : k ≤ 5000) :
    dollarPolicy.estimate_cost_micros "m" 0 (10 ^ k) = .ok (10 ^ k) := by
  have input : Decimal.mul (.finite (max 0 0 : ℤ)) (.ofFloat dollar) = .ok (.finite 0) := by
    change Decimal.inContext (((max 0 0 : ℤ) : ℚ) * 1) = _
    rw [max_self, Int.cast_zero, zero_mul, Decimal.inContext_zero]
  have output : Decimal.mul (.finite (max 0 (10 ^ k) : ℤ)) (.ofFloat dollar) = .ok (.finite (10 ^ k)) := by
    change Decimal.inContext (((max 0 (10 ^ k) : ℤ) : ℚ) * 1) = _
    rw [max_eq_right (pow_nonneg (by norm_num) k), mul_one, Int.cast_pow, Int.cast_ofNat,
      Decimal.inContext_pow small]
  have total : Decimal.add (.finite 0) (.finite (10 ^ k)) = .ok (.finite (10 ^ k)) := by
    change Decimal.inContext (0 + 10 ^ k) = _
    rw [zero_add, Decimal.inContext_pow small]
  have whole : ((10 : ℚ) ^ k) = ((10 ^ k : ℤ) : ℚ) := by
    rw [Int.cast_pow, Int.cast_ofNat]
  have price : dollarPolicy.price_for "m" = .ok ⟨dollar, dollar⟩ := rfl
  unfold InferenceBudgetPolicy.estimate_cost_micros
  rw [price, bind_ok, input, bind_ok, output, bind_ok, total, bind_ok]
  simp only [Decimal.toInt]
  rw [whole, Int.ceil_intCast]

theorem large_not_fits : ¬ FitsDouble (10 ^ 400) := by
  have low : (2 : ℚ) ^ 970 ≤ 10 ^ 300 :=
    calc (2 : ℚ) ^ 970 = (2 ^ 97) ^ 10 := by rw [← pow_mul]
      _ ≤ (10 ^ 30) ^ 10 := pow_le_pow_left₀ (by norm_num) (by norm_num) _
      _ = 10 ^ 300 := by rw [← pow_mul]
  have high : (10 : ℚ) ^ 400 = 10 ^ 300 * 10 ^ 100 := by rw [← pow_add]
  have positive : (0 : ℚ) ≤ 10 ^ 300 := pow_nonneg (by norm_num) _
  unfold FitsDouble doubleOverflow MICROS
  rw [not_lt, Int.cast_pow, Int.cast_ofNat, high]
  generalize (2 : ℚ) ^ 970 = x at low
  generalize (10 : ℚ) ^ 300 = y at low positive
  rw [abs_of_nonneg (div_nonneg (mul_nonneg positive (by norm_num)) (by norm_num)), le_div_iff₀ (by norm_num)]
  push_cast
  linarith

/-- With a healthy in-process store, `reserve` raises on `10 ^ 400` tokens; and a store which
answers with the text `100` is taken to have granted the request. -/
theorem reserve_raises :
    ¬ FailsClosed ((dollarGuard (.memory none none)).storeReply dollarPolicy hugeCall)
      ((dollarGuard (.memory none none)).reserve hugeCall) ∧
    ¬ FailsClosed ((dollarGuard (.redis fun _ => .ok (.str "100"))).storeReply dollarPolicy dollarCall)
      ((dollarGuard (.redis fun _ => .ok (.str "100"))).reserve dollarCall) := by
  obtain ⟨ttl, lifetime⟩ := lifetime_dollar
  constructor
  · obtain ⟨v, answered⟩ : ∃ v, (dollarGuard (.memory none none)).answer (dollarPolicy.budget hugeCall)
        (10 ^ 400) = .ok (v, "r1") := by
      simp only [InferenceBudgetGuard.answer, dollarGuard]
      change ∃ v, (intTimes dollarBudget.reservation_ttl_seconds 1000 >>= fun t =>
        budget_to_micros dollar >>= fun b => _) = _
      rw [lifetime, bind_ok, budget_dollar, bind_ok]
      exact ⟨_, rfl⟩
    have estimated : dollarPolicy.estimate hugeCall = .ok (10 ^ 400) := by
      change dollarPolicy.estimate_cost_micros "m" 0 (10 ^ 400) = _
      exact estimate_pow (by norm_num)
    rw [failsClosed_answered rfl estimated (not_lt.mpr (pow_nonneg (by norm_num) _)) answered]
    exact fun sound => large_not_fits sound.1
  · have answered : (dollarGuard (.redis fun _ => .ok (.str "100"))).answer (dollarPolicy.budget dollarCall)
        (10 ^ 6) = .ok (.str "100", "r1") := by
      change (budget_to_micros dollar >>= fun b => intTimes dollarBudget.reservation_ttl_seconds 1000 >>=
        fun t => .ok (Value.str "100", "r1")) = _
      rw [budget_dollar, bind_ok, lifetime, bind_ok]
    rw [failsClosed_answered rfl estimate_dollarCall (by norm_num) answered]
    have number : (dollarPolicy.budget dollarCall).soft_warning_ratio ≠ .nan := by rintro ⟨⟩
    exact fun sound => sound.2 ⟨number, _, rfl, ⟨0, 0, rfl, le_rfl, le_rfl, fitsDouble_zero, fitsDouble_zero⟩, id⟩

end Runs
end RuntimePlatform.Budget
