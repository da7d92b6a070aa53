import RuntimePlatform.Lib.Decimal
import RuntimePlatform.Budget.Memory

/-!
`InferenceBudgetGuard.reserve`: the estimate, the call of the store, the reading of
the store's reply, and the handlers around them. Amounts in dollars are doubles,
computed from integer micro-dollars at the end.
-/

namespace RuntimePlatform.Budget
open Python Except

/-! The policy, as pydantic validates it. -/

/-- `Field(gt=0)`, which NaN passes. -/
def Positive : Double → Prop
  | .finite x => 0 < x.value
  | .inf negative => negative = false
  | .nan => True

/-- `Field(le=1.0)`, likewise. -/
def AtMostOne : Double → Prop
  | .finite x => x.value ≤ 1
  | .inf negative => negative = true
  | .nan => True

structure ModelPrice where
  input_per_million : Double
  output_per_million : Double

structure ScopeBudget where
  budget_usd : Double
  window_seconds : ℤ
  soft_warning_ratio : Double
  reservation_ttl_seconds : Double
  budget_pos : Positive budget_usd
  window_pos : 0 < window_seconds
  ratio_pos : Positive soft_warning_ratio
  ratio_le : AtMostOne soft_warning_ratio
  ttl_pos : Positive reservation_ttl_seconds

structure TenantBudgetPolicy extends ScopeBudget where
  api_keys : List (String × ScopeBudget)

structure InferenceBudgetPolicy where
  version : String
  default : ScopeBudget
  tenants : List (String × TenantBudgetPolicy)
  prices : List (String × ModelPrice)
  /-- `policy.sha256()`, the hash of the canonical document. -/
  sha256 : String
  api_key_fingerprint : String → String

namespace InferenceBudgetPolicy
variable (policy : InferenceBudgetPolicy)

def scope_for (tenant_id : String) (api_key : Option String) : String × ScopeBudget :=
  match policy.tenants.lookup tenant_id with
  | none => ("tenant:" ++ tenant_id, policy.default)
  | some tenant =>
    match (api_key.filter fun key => decide (key ≠ "")).bind fun key =>
        (tenant.api_keys.lookup key).map fun budget => (key, budget) with
    | some (key, budget) => ("key:" ++ tenant_id ++ ":" ++ policy.api_key_fingerprint key, budget)
    | none => ("tenant:" ++ tenant_id, tenant.toScopeBudget)

def price_for (model : String) : Except Error ModelPrice :=
  (((policy.prices.lookup model).or (policy.prices.lookup "*")).or (policy.prices.lookup "default")).elim
    (.error ⟨.lookupError, "'default'"⟩) .ok

/-- Tokens times dollars per million tokens is micro-dollars; rounded up. -/
def estimate_cost_micros (model : String) (input_tokens output_tokens : ℤ) : Except Error ℤ := do
  let price ← policy.price_for model
  let input ← Decimal.mul (.finite (max 0 input_tokens : ℤ)) (.ofFloat price.input_per_million)
  let output ← Decimal.mul (.finite (max 0 output_tokens : ℤ)) (.ofFloat price.output_per_million)
  let micros ← input.add output
  micros.toInt fun q => ⌈q⌉

end InferenceBudgetPolicy

/-! Dollars and micro-dollars. -/

def MICROS : ℕ := 1000000

def usd_to_micros (rounding : ℚ → ℤ) (usd : Double) : Except Error ℤ :=
  match Decimal.ofFloat usd with
  | .finite value => do
    let micros ← Decimal.mul (.finite value) (.finite MICROS)
    micros.toInt rounding
  | _ => .error ⟨.valueError, "non-finite USD amount"⟩

def charge_to_micros (usd : Double) : Except Error ℤ := usd_to_micros (fun q => ⌈q⌉) usd

def budget_to_micros (usd : Double) : Except Error ℤ := usd_to_micros (fun q => ⌊q⌋) usd

def micros_to_usd (micros : ℤ) : Except Error ℚ := trueDivide micros MICROS

/-! The guard. -/

inductive Decision where
  | ALLOW
  | DENY
  deriving DecidableEq, Repr

structure BudgetDecision where
  decision : Decision
  reason : String
  scope : String
  estimated_usd : ℚ
  reserved_usd : ℚ
  committed_usd : ℚ
  budget_usd : Double
  soft_warning : Bool
  reservation_id : Option String
  policy_version : String
  policy_sha256 : String
  status_code : ℕ

structure BudgetReservation where
  scope : String
  reservation_id : String
  reserved_micros : ℤ
  budget_usd : Double
  soft_warning : Bool
  policy_version : String
  policy_sha256 : String
  window_ms : ℤ
  executed : Bool
  settled : Bool

abbrev Outcome := BudgetDecision × Option BudgetReservation

/-- The arguments of the reserve script. -/
structure ReserveArgs where
  now_ms : ℤ
  window_ms : ℤ
  budget_micros : ℤ
  estimate_micros : ℤ
  res_id : String
  ttl_ms : ℤ

/-- The `simulate_store_*` switches. -/
inductive Fault where
  | unavailable
  | timeout
  | corrupt

/-- The store behind the guard: what `_eval` of the reserve script gives or raises, or the
in-process window of the scope. -/
inductive Store where
  | redis (eval : ReserveArgs → Except Error Value)
  | memory (fault : Option Fault) (window : Option (MemoryWindow String))

structure InferenceBudgetGuard where
  text : Text
  policy : Option InferenceBudgetPolicy
  store : Store
  clock_ms : ℤ
  /-- The next `uuid4`. -/
  uuid : String

/-- The arguments of `reserve`. -/
structure ReserveCall where
  tenant_id : String
  model : String
  input_tokens : ℤ
  output_tokens : ℤ
  api_key : Option String
  estimated_usd : Option Double

/-- The estimate of the call, before its sign is checked. -/
def InferenceBudgetPolicy.estimate (policy : InferenceBudgetPolicy) (call : ReserveCall) : Except Error ℤ :=
  match call.estimated_usd with
  | none => policy.estimate_cost_micros call.model call.input_tokens call.output_tokens
  | some usd => charge_to_micros usd

def InferenceBudgetPolicy.budget (policy : InferenceBudgetPolicy) (call : ReserveCall) : ScopeBudget :=
  (policy.scope_for call.tenant_id call.api_key).2

/-- `_deny_for` -/
def deny_for (reason : String) (status_code : ℕ) (scope : String) (budget : ScopeBudget) (estimate_micros : ℤ)
    (policy : InferenceBudgetPolicy) (reserved committed : ℤ) : Except Error Outcome := do
  let estimated_usd ← micros_to_usd estimate_micros
  let reserved_usd ← micros_to_usd reserved
  let committed_usd ← micros_to_usd committed
  .ok (⟨.DENY, reason, scope, estimated_usd, reserved_usd, committed_usd, budget.budget_usd, false, none,
    policy.version, policy.sha256, status_code⟩, none)

/-- `int(result[0])`, `int(result[1])`, `int(result[2])` -/
def readNumbers (T : Text) (result : Value) : Except Error ReserveResult := do
  let code ← item result 0 >>= T.int
  let committed ← item result 1 >>= T.int
  let reserved ← item result 2 >>= T.int
  .ok ⟨code, committed, reserved⟩

/-- The `ALLOW` at the end of `_interpret_reserve_result`. -/
def admission (scope : String) (budget : ScopeBudget) (estimate_micros : ℤ) (policy : InferenceBudgetPolicy)
    (res_id : String) (committed reserved : ℤ) : Except Error Outcome := do
  let budget_micros ← budget_to_micros budget.budget_usd
  let soft_threshold ← Decimal.mul (.finite budget_micros) (.ofFloat budget.soft_warning_ratio)
  let soft ← soft_threshold.intGe (committed + reserved)
  let estimated_usd ← micros_to_usd estimate_micros
  let reserved_usd ← micros_to_usd reserved
  let committed_usd ← micros_to_usd committed
  .ok (⟨.ALLOW, if soft then "soft_warning" else "within_budget", scope, estimated_usd, reserved_usd,
      committed_usd, budget.budget_usd, soft, some res_id, policy.version, policy.sha256, 200⟩,
    some ⟨scope, res_id, estimate_micros, budget.budget_usd, soft, policy.version, policy.sha256,
      budget.window_seconds * 1000, false, false⟩)

/-- `_interpret_reserve_result` -/
def interpret_reserve_result (T : Text) (result : Value) (scope : String) (budget : ScopeBudget)
    (estimate_micros : ℤ) (policy : InferenceBudgetPolicy) (res_id : String) : Except Error Outcome :=
  match readNumbers T result with
  | .error e =>
    if e.kind = .typeError ∨ e.kind = .valueError ∨ e.kind = .lookupError then
      deny_for "store_corrupt" 503 scope budget estimate_micros policy 0 0
    else .error e
  | .ok numbers =>
    match interpret numbers with
    | .corrupt => deny_for "store_corrupt" 503 scope budget estimate_micros policy 0 0
    | .exceeded committed reserved =>
      deny_for "budget_exceeded" 429 scope budget estimate_micros policy reserved committed
    | .allowed committed reserved => admission scope budget estimate_micros policy res_id committed reserved

/-- The handlers of `reserve`. -/
def onError (scope : String) (budget : ScopeBudget) (estimate_micros : ℤ) (policy : InferenceBudgetPolicy)
    (e : Error) : Except Error Outcome :=
  match e.kind with
  | .cancelledError => .error e
  | .timeoutError => deny_for "store_timeout" 503 scope budget estimate_micros policy 0 0
  | .typeError | .valueError | .arithmeticError =>
    deny_for "store_corrupt" 503 scope budget estimate_micros policy 0 0
  | _ => deny_for "store_unavailable" 503 scope budget estimate_micros policy 0 0

namespace InferenceBudgetGuard
variable (guard : InferenceBudgetGuard)

/-- What the store gives `_reserve_redis` or `_reserve_memory`, with the id of the reservation. -/
def answer (budget : ScopeBudget) (estimate_micros : ℤ) : Except Error (Value × String) :=
  match guard.store with
  | .redis eval => do
    let budget_micros ← budget_to_micros budget.budget_usd
    let ttl ← intTimes budget.reservation_ttl_seconds 1000
    let result ← eval ⟨guard.clock_ms, budget.window_seconds * 1000, budget_micros, estimate_micros,
      guard.uuid, max 1 ttl⟩
    .ok (result, guard.uuid)
  | .memory (some .unavailable) _ => .error ⟨.other, "simulated budget store unavailable"⟩
  | .memory (some .timeout) _ => .error ⟨.timeoutError, "simulated budget store timeout"⟩
  | .memory (some .corrupt) _ => .ok (.list [.str "corrupt"], "")
  | .memory none window => do
    let ttl ← intTimes budget.reservation_ttl_seconds 1000
    let budget_micros ← budget_to_micros budget.budget_usd
    let result := (reserveMemory guard.clock_ms (budget.window_seconds * 1000) budget_micros estimate_micros
      guard.uuid (max 1 ttl) window).1
    .ok (.list [.int result.code, .int result.committed, .int result.reserved], guard.uuid)

def reserveWith (policy : InferenceBudgetPolicy) (call : ReserveCall) : Except Error Outcome :=
  let scope := (policy.scope_for call.tenant_id call.api_key).1
  let budget := policy.budget call
  match policy.estimate call with
  | .error e => onError scope budget 0 policy e
  | .ok estimate_micros =>
    tryCatch (do
      raiseIf (estimate_micros < 0) ⟨.valueError, "negative estimate"⟩
      let (result, res_id) ← guard.answer budget estimate_micros
      interpret_reserve_result guard.text result scope budget estimate_micros policy res_id)
    (onError scope budget estimate_micros policy)

def reserve (call : ReserveCall) : Except Error Outcome :=
  match guard.policy with
  | none => .ok (⟨.ALLOW, "guard_disabled", "", 0, 0, 0, .finite .zero, false, none, "", "", 200⟩, none)
  | some policy => guard.reserveWith policy call

end InferenceBudgetGuard
end RuntimePlatform.Budget
