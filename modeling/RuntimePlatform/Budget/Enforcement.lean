import RuntimePlatform.Auth.JwtVerify
import RuntimePlatform.Budget.FailClosed
import RuntimePlatform.Lib.Runs

/-!
Where budgets are enforced: how the policy is loaded, the guard which `lifespan` starts the process with, and
`_reserve_inference_budget`, which every chat request passes.
-/

namespace RuntimePlatform.Budget
open Python Except Auth Runs

/-! The policy document. -/

/-- The fields of the document, before the validators of the class. The prices may be left out. -/
structure PolicyFields where
  version : String
  enabled : Bool
  default : ScopeBudget
  tenants : List (String × TenantBudgetPolicy)
  prices : Option (List (String × ModelPrice))

/-- A policy, and whether it is switched on. -/
structure BudgetDocument extends InferenceBudgetPolicy where
  enabled : Bool

/-- Why a document is not read: an `OSError`, a `TypeError` or a `ValueError`, or another exception. -/
inductive ReadError where
  | unreadable (text : String)
  | other (e : Error)

/-- What the loading raises. -/
inductive LoadError where
  /-- `BudgetPolicyError` -/
  | policy (message : String)
  | other (e : Error)

/-- What the process finds around it at one time. -/
structure World where
  env : Environ
  /-- `open(path, encoding="utf-8")` and `json.load` -/
  load : String → Except ReadError Value

/-- The standard library, and pydantic on the fields of the document. -/
structure PolicyLoader where
  text : Text
  loads : String → Except ReadError Value
  fields : Value → Except String PolicyFields
  /-- The text of pydantic's error for the message of a validator. -/
  validation_error : String → String
  sha256 : PolicyFields → String
  api_key_fingerprint : String → String

variable (L : PolicyLoader)

/-- `_require_default_price`, which is asked of prices that are given, not of the default. -/
def require_default_price : Option (List (String × ModelPrice)) → Prop
  | none => True
  | some prices => (prices.lookup "*").isSome = true ∨ (prices.lookup "default").isSome = true

instance : DecidablePred require_default_price
  | none => isTrue trivial
  | some prices =>
    inferInstanceAs (Decidable ((prices.lookup "*").isSome = true ∨ (prices.lookup "default").isSome = true))

def PolicyLoader.model_validate (data : Value) : Except String BudgetDocument := do
  let fields ← L.fields data
  raiseIf (¬ require_default_price fields.prices)
    (L.validation_error "prices must include '*' or 'default' fallback entry")
  raiseIf (strip fields.version = "") (L.validation_error "version must be non-empty")
  .ok { version := fields.version
        default := fields.default
        tenants := fields.tenants
        prices := fields.prices.getD []
        sha256 := L.sha256 fields
        api_key_fingerprint := L.api_key_fingerprint
        enabled := fields.enabled }

/-- `_load_raw_policy` -/
def PolicyLoader.load_raw_policy (world : World) : Except ReadError Value :=
  match world.env.stripped "INFERENCE_BUDGET_POLICY_FILE" with
  | some path => world.load path
  | none =>
    match world.env.stripped "INFERENCE_BUDGET_POLICY" with
    | some raw => L.loads raw
    | none => .ok .none

def malformed (text : String) : LoadError := .policy ("malformed inference budget policy: " ++ text)

/-- The body of `load_inference_budget_policy`. -/
def PolicyLoader.load_policy (world : World) : Except LoadError (Option BudgetDocument) :=
  if world.env.flag L.text "INFERENCE_BUDGET_ENABLED" = true then
    match L.load_raw_policy world with
    | .error (.unreadable text) => .error (malformed text)
    | .error (.other e) => .error (.other e)
    | .ok .none =>
      .error (.policy ("INFERENCE_BUDGET_ENABLED is set but INFERENCE_BUDGET_POLICY " ++
        "or INFERENCE_BUDGET_POLICY_FILE is missing"))
    | .ok data =>
      match L.model_validate data with
      | .error text => .error (malformed text)
      | .ok document => .ok (some document)
  else .ok none

/-- `lru_cache(maxsize=1)` of a function without arguments. What it raises is not kept. -/
def cached {ε α : Type} (body : Except ε α) : Option α → Except ε α × Option α
  | some value => (.ok value, some value)
  | none => (body, body.toOption)

/-! The process. -/

/-- What the process keeps: the value of `load_inference_budget_policy`, and in `app.state` the guard, here its policy,
and the error. -/
structure Gateway where
  cache : Option (Option BudgetDocument)
  budget_guard : Option BudgetDocument
  budget_policy_error : Option String

/-- `create_budget_guard`, with no policy given. -/
def PolicyLoader.create_budget_guard (world : World) (cache : Option (Option BudgetDocument)) :
    Except LoadError (Option BudgetDocument) × Option (Option BudgetDocument) :=
  cached (L.load_policy world) cache

/-- What `lifespan` does about the budget, in a new process. -/
def PolicyLoader.lifespan (world : World) : Except Error Gateway :=
  match L.create_budget_guard world none with
  | (.ok guard, cache) => .ok ⟨cache, guard, none⟩
  | (.error (.policy message), cache) => .ok ⟨cache, none, some message⟩
  | (.error (.other e), _) => .error e

/-! The requests. -/

/-- A request, with what is around the process when it comes and what the guard finds in the store. -/
structure Arrival where
  world : World
  headers : String → Option String
  tenant_id : String
  model : String
  input_tokens : ℤ
  output_tokens : ℤ
  store : Store
  clock_ms : ℤ
  uuid : String

/-- `request.headers.get("x-api-key") or request.headers.get("x-ai-api-key")` -/
def Arrival.api_key (a : Arrival) : Option String :=
  ((a.headers "x-api-key").filter fun key => decide (key ≠ "")).or (a.headers "x-ai-api-key")

def Arrival.call (a : Arrival) : ReserveCall :=
  ⟨a.tenant_id, a.model, a.input_tokens, a.output_tokens, a.api_key, none⟩

/-- The guard with this policy, as the request finds it. -/
def PolicyLoader.guard (document : BudgetDocument) (a : Arrival) : InferenceBudgetGuard :=
  ⟨L.text, some document.toInferenceBudgetPolicy, a.store, a.clock_ms, a.uuid⟩

/-- The error which is answered. A denial has its decision beside it. -/
structure BudgetError where
  status_code : ℕ
  error_type : String
  code : String
  message : String
  decision : Option BudgetDecision
  headers : List (String × String)

inductive Refusal where
  | http (e : BudgetError)
  | raised (e : Error)

def deny_headers (reason : String) : List (String × String) :=
  [("Retry-After", "1"), ("X-AI-Budget-Decision", "DENY"), ("X-AI-Budget-Reason", reason)]

/-- The codes of the reasons. -/
def codes : List (String × String) :=
  [("budget_exceeded", "inference_budget_exceeded"), ("store_unavailable", "budget_store_unavailable"),
    ("store_timeout", "budget_store_timeout"), ("store_corrupt", "budget_store_corrupt"),
    ("malformed_policy", "budget_policy_invalid"), ("guard_disabled_misconfigured", "budget_policy_invalid")]

/-- The texts which `_message_for` has for a reason. -/
def messages : List (String × String) :=
  [("budget_exceeded", "inference budget would be exceeded by this reservation"),
    ("store_unavailable", "inference budget store unavailable; fail-closed"),
    ("store_timeout", "inference budget store timed out; fail-closed"),
    ("store_corrupt", "inference budget store returned corrupt data; fail-closed"),
    ("malformed_policy", "inference budget policy is malformed; fail-closed")]

/-- `_message_for` -/
def message_for (decision : BudgetDecision) : String :=
  (messages.lookup decision.reason).getD ("inference budget denied: " ++ decision.reason)

def decision_to_http_exception (decision : BudgetDecision) : BudgetError where
  status_code := decision.status_code
  error_type := if decision.status_code = 429 then "rate_limit_error" else "api_error"
  code := (codes.lookup decision.reason).getD "inference_budget_denied"
  message := message_for decision
  decision := some decision
  headers := deny_headers decision.reason

def policy_invalid (message : String) : BudgetError where
  status_code := 503
  error_type := "api_error"
  code := "budget_policy_invalid"
  message := "inference budget policy is malformed; fail-closed: " ++ message
  decision := none
  headers := deny_headers "malformed_policy"

/-- The second half of `_reserve_inference_budget`, once there is a guard. -/
def PolicyLoader.reserve (document : BudgetDocument) (a : Arrival) : Except Refusal (Option BudgetReservation) :=
  if document.enabled = true then
    match (L.guard document a).reserve a.call with
    | .error e => .error (.raised e)
    | .ok (decision, reservation) =>
      if decision.decision = .DENY then .error (.http (decision_to_http_exception decision)) else .ok reservation
  else .ok none

/-- `_reserve_inference_budget` -/
def PolicyLoader.reserve_inference_budget (g : Gateway) (a : Arrival) :
    Except Refusal (Option BudgetReservation) × Gateway :=
  match g.budget_policy_error.filter fun message => decide (message ≠ "") with
  | some message => (.error (.http (policy_invalid message)), g)
  | none =>
    match g.budget_guard with
    | some document => (L.reserve document a, g)
    | none =>
      match cached (L.load_policy a.world) g.cache with
      | (.error (.policy message), cache) => (.error (.http (policy_invalid message)), { g with cache := cache })
      | (.error (.other e), cache) => (.error (.raised e), { g with cache := cache })
      | (.ok none, cache) => (.ok none, { g with cache := cache })
      | (.ok (some document), cache) =>
        (L.reserve document a, { g with cache := cache, budget_guard := some document })

def PolicyLoader.serve (g : Gateway) (a : Arrival) : Gateway := (L.reserve_inference_budget g a).2

/-! ## Enforcement -/

/-- The reasons of the guard's denials, with their statuses. -/
def denials : List (String × ℕ) :=
  [("budget_exceeded", 429), ("store_unavailable", 503), ("store_timeout", 503), ("store_corrupt", 503)]

/-- What a client is told. -/
def refusals : List (ℕ × String) :=
  [(429, "inference_budget_exceeded"), (503, "budget_store_unavailable"), (503, "budget_store_timeout"),
    (503, "budget_store_corrupt"), (503, "budget_policy_invalid")]

/-- A denial of the guard, for one of its reasons. -/
def Denial (d : BudgetDecision) (reserved : Option BudgetReservation) : Prop :=
  reserved = none ∧ d.decision = .DENY ∧ (d.reason, d.status_code) ∈ denials

/-- A grant to the scope of the caller, of what the call is estimated at. -/
def Grant (policy : InferenceBudgetPolicy) (call : ReserveCall) (d : BudgetDecision) (reservation : BudgetReservation) :
    Prop :=
  d.decision = .ALLOW ∧ reservation.scope = (policy.scope_for call.tenant_id call.api_key).1 ∧
    policy.estimate call = .ok reservation.reserved_micros ∧ 0 ≤ reservation.reserved_micros

/-- The budget is not enforced: the flag is not set, or the document says so. -/
def PolicyLoader.Off (world : World) : Prop :=
  world.env.flag L.text "INFERENCE_BUDGET_ENABLED" = false ∨
    ∃ document, L.load_policy world = .ok (some document) ∧ document.enabled = false

/-- The answers to a request, by what has been loaded at the start of the process. -/
inductive Answered (world : World) (a : Arrival) : Except Refusal (Option BudgetReservation) → Prop where
  | off (off : L.Off world) : Answered world a (.ok none)
  | granted {document : BudgetDocument} {d : BudgetDecision} {reservation : BudgetReservation}
      (loaded : L.load_policy world = .ok (some document)) (enabled : document.enabled = true)
      (returned : (L.guard document a).reserve a.call = .ok (d, some reservation))
      (grant : Grant document.toInferenceBudgetPolicy a.call d reservation) : Answered world a (.ok (some reservation))
  | denied {document : BudgetDocument} {d : BudgetDecision} (loaded : L.load_policy world = .ok (some document))
      (enabled : document.enabled = true) (listed : (d.reason, d.status_code) ∈ denials) :
      Answered world a (.error (.http (decision_to_http_exception d)))
  | raised {document : BudgetDocument} {e : Error} (loaded : L.load_policy world = .ok (some document))
      (enabled : document.enabled = true) (raised : (L.guard document a).reserve a.call = .error e) :
      Answered world a (.error (.raised e))
  | unloaded {message : String} (failed : L.load_policy world = .error (.policy message)) :
      Answered world a (.error (.http (policy_invalid message)))

/-! The decisions of the guard. -/
section Decisions
variable {guard : InferenceBudgetGuard} {policy : InferenceBudgetPolicy} {call : ReserveCall} {d : BudgetDecision}
  {r : Option BudgetReservation} {reason scope res_id : String} {status : ℕ} {budget : ScopeBudget}
  {estimate reserved committed : ℤ}

theorem deny_for_ok (denied : deny_for reason status scope budget estimate policy reserved committed = .ok (d, r)) :
    r = none ∧ d.decision = .DENY ∧ d.reason = reason ∧ d.status_code = status := by
  obtain ⟨_, _, denied⟩ := bind_eq_ok.mp denied
  obtain ⟨_, _, denied⟩ := bind_eq_ok.mp denied
  obtain ⟨_, _, denied⟩ := bind_eq_ok.mp denied
  cases denied
  exact ⟨rfl, rfl, rfl, rfl⟩

theorem denial_of_deny_for (listed : (reason, status) ∈ denials)
    (denied : deny_for reason status scope budget estimate policy reserved committed = .ok (d, r)) : Denial d r := by
  obtain ⟨nothing, deny, rfl, rfl⟩ := deny_for_ok denied
  exact ⟨nothing, deny, listed⟩

theorem onError_ok {e : Error} (handled : onError scope budget estimate policy e = .ok (d, r)) : Denial d r := by
  unfold onError at handled
  split at handled
  · cases handled
  all_goals exact denial_of_deny_for (by decide) handled

theorem admission_ok (admitted : admission scope budget estimate policy res_id committed reserved = .ok (d, r)) :
    d.decision = .ALLOW ∧ ∃ reservation, r = some reservation ∧ reservation.scope = scope ∧
      reservation.reservation_id = res_id ∧ reservation.reserved_micros = estimate := by
  obtain ⟨_, _, admitted⟩ := bind_eq_ok.mp admitted
  obtain ⟨_, _, admitted⟩ := bind_eq_ok.mp admitted
  obtain ⟨_, _, admitted⟩ := bind_eq_ok.mp admitted
  obtain ⟨_, _, admitted⟩ := bind_eq_ok.mp admitted
  obtain ⟨_, _, admitted⟩ := bind_eq_ok.mp admitted
  obtain ⟨_, _, admitted⟩ := bind_eq_ok.mp admitted
  cases admitted
  exact ⟨rfl, _, rfl, rfl, rfl, rfl⟩

theorem interpret_ok {T : Text} {result : Value}
    (interpreted : interpret_reserve_result T result scope budget estimate policy res_id = .ok (d, r)) :
    Denial d r ∨ ∃ committed reserved, readNumbers T result = .ok ⟨1, committed, reserved⟩ ∧
      admission scope budget estimate policy res_id committed reserved = .ok (d, r) := by
  unfold interpret_reserve_result at interpreted
  split at interpreted
  · split at interpreted
    · exact .inl (denial_of_deny_for (by decide) interpreted)
    · cases interpreted
  · next numbers read =>
      split at interpreted
      · exact .inl (denial_of_deny_for (by decide) interpreted)
      · exact .inl (denial_of_deny_for (by decide) interpreted)
      · next committed reserved allowed =>
          obtain ⟨rfl, _⟩ := interpret_eq_allowed.mp allowed
          exact .inr ⟨committed, reserved, read, interpreted⟩

theorem ok_of_tryCatch {ε α : Type} {tried : Except ε α} {handler : ε → Except ε α} {a : α}
    (caught : tryCatch tried handler = .ok a) : tried = .ok a ∨ ∃ e, handler e = .ok a := by
  cases tried with
  | ok value => exact .inl caught
  | error e => exact .inr ⟨e, caught⟩

theorem error_of_tryCatch {ε α : Type} {tried : Except ε α} {handler : ε → Except ε α} {e : ε}
    (caught : tryCatch tried handler = .error e) : ∃ e', handler e' = .error e := by
  cases tried with
  | ok value => cases caught
  | error e' => exact ⟨e', caught⟩

/-- What a guard with a policy returns is a denial for one of its reasons, or comes from a reply of the store which reads
as a grant. -/
theorem reserve_ok (configured : guard.policy = some policy) (returned : guard.reserve call = .ok (d, r)) :
    Denial d r ∨ ∃ estimate result res_id committed reserved,
      policy.estimate call = .ok estimate ∧ 0 ≤ estimate ∧
        guard.answer (policy.budget call) estimate = .ok (result, res_id) ∧
          readNumbers guard.text result = .ok ⟨1, committed, reserved⟩ ∧
            admission (policy.scope_for call.tenant_id call.api_key).1 (policy.budget call) estimate policy res_id
              committed reserved = .ok (d, r) := by
  simp only [InferenceBudgetGuard.reserve, configured, InferenceBudgetGuard.reserveWith] at returned
  cases estimated : policy.estimate call with
  | error e =>
      simp only [estimated] at returned
      exact .inl (onError_ok returned)
  | ok estimate =>
      simp only [estimated] at returned
      rcases ok_of_tryCatch returned with tried | ⟨e, handled⟩
      · obtain ⟨_, nonneg, tried⟩ := bind_eq_ok.mp tried
        obtain ⟨⟨result, res_id⟩, answered, interpreted⟩ := bind_eq_ok.mp tried
        rcases interpret_ok interpreted with denial | ⟨committed, reserved, read, admitted⟩
        · exact .inl denial
        · exact .inr ⟨estimate, result, res_id, committed, reserved, rfl, not_lt.mp (raiseIf_eq_ok.mp nonneg),
            answered, read, admitted⟩
      · exact .inl (onError_ok handled)

/-- It raises on a cancellation, and on tokens whose price does not convert to dollars. -/
theorem reserve_error {e : Error} (configured : guard.policy = some policy) (raised : guard.reserve call = .error e) :
    e.kind = .cancelledError ∨ Oversized policy call := by
  have handlers : ∀ {scope budget estimate e'}, FitsDouble estimate →
      onError scope budget estimate policy e' = .error e → e.kind = .cancelledError := by
    intro scope budget estimate e' fits handled
    rcases onError_cases scope budget estimate policy e' with ⟨cancelled, same⟩ | ⟨_, _, same⟩
    · cases same.symm.trans handled
      exact cancelled
    · obtain ⟨_, denied, _⟩ := denies_of_fits (.inr rfl) fits
      cases denied.symm.trans (same.symm.trans handled)
  simp only [InferenceBudgetGuard.reserve, configured, InferenceBudgetGuard.reserveWith] at raised
  cases estimated : policy.estimate call with
  | error e' =>
      simp only [estimated] at raised
      exact .inl (handlers fitsDouble_zero raised)
  | ok estimate =>
      simp only [estimated] at raised
      by_cases fits : FitsDouble estimate
      · obtain ⟨e', handled⟩ := error_of_tryCatch raised
        exact .inl (handlers fits handled)
      · exact .inr ((oversized_iff estimated).mpr fits)

/-- A guard with a policy decides: it denies for one of its reasons, or it grants. -/
theorem reserve_decides (configured : guard.policy = some policy) (returned : guard.reserve call = .ok (d, r)) :
    Denial d r ∨ ∃ reservation, r = some reservation ∧ Grant policy call d reservation := by
  rcases reserve_ok configured returned with denial | ⟨_, _, _, _, _, estimated, nonneg, _, _, admitted⟩
  · exact .inl denial
  · obtain ⟨allow, reservation, rfl, owner, _, rfl⟩ := admission_ok admitted
    exact .inr ⟨reservation, rfl, allow, owner, estimated, nonneg⟩

end Decisions

/-! The process. -/
section Process
variable {L} {world : World} {started : Gateway} {document : BudgetDocument}

theorem load_policy_none : L.load_policy world = .ok none ↔
    world.env.flag L.text "INFERENCE_BUDGET_ENABLED" = false := by
  unfold PolicyLoader.load_policy
  by_cases enabled : world.env.flag L.text "INFERENCE_BUDGET_ENABLED" = true
  · rw [if_pos enabled, enabled]
    apply iff_of_false _ Bool.true_eq_false_eq_False
    intro loaded
    split at loaded
    · cases loaded
    · cases loaded
    · cases loaded
    · split at loaded
      · cases loaded
      · cases loaded
  · rw [if_neg enabled]
    exact iff_of_true rfl (Bool.eq_false_iff.mpr enabled)

/-- Every error of the policy has a text, so that the test of the handler finds it. -/
theorem policy_message_ne {message : String} (failed : L.load_policy world = .error (.policy message)) :
    message ≠ "" := by
  rintro rfl
  have texts : ∀ {first second : String}, first ≠ "" → (first ++ second) ≠ "" := fun given empty =>
    given (String.append_eq_empty_iff.mp empty).1
  unfold PolicyLoader.load_policy at failed
  split at failed
  · split at failed
    · exact texts (by decide) (LoadError.policy.inj (Except.error.inj failed))
    · cases failed
    · exact texts (by decide) (LoadError.policy.inj (Except.error.inj failed))
    · split at failed
      · exact texts (by decide) (LoadError.policy.inj (Except.error.inj failed))
      · cases failed
  · cases failed

/-- A process starts with what the loading gives: with its value, which the cache then keeps, or with its error. -/
theorem lifespan_cases (ready : L.lifespan world = .ok started) :
    (∃ loaded, L.load_policy world = .ok loaded ∧ started = ⟨some loaded, loaded, none⟩) ∨
      ∃ message, L.load_policy world = .error (.policy message) ∧ started = ⟨none, none, some message⟩ := by
  unfold PolicyLoader.lifespan PolicyLoader.create_budget_guard cached at ready
  cases loading : L.load_policy world with
  | ok loaded =>
      rw [loading] at ready
      cases ready
      exact .inl ⟨loaded, rfl, rfl⟩
  | error e =>
      rw [loading] at ready
      cases e with
      | policy message =>
          cases ready
          exact .inr ⟨message, rfl, rfl⟩
      | other e => cases ready

/-- What a request is answered in a started process is settled by the loading at the start. -/
theorem answer_started (ready : L.lifespan world = .ok started) (a : Arrival) :
    L.reserve_inference_budget started a =
      (match L.load_policy world with
        | .error (.policy message) => .error (.http (policy_invalid message))
        | .ok (some document) => L.reserve document a
        | _ => .ok none, started) := by
  rcases lifespan_cases ready with ⟨loaded, loading, rfl⟩ | ⟨message, failed, rfl⟩
  · rw [loading]
    cases loaded with
    | none => rfl
    | some document => rfl
  · have given : (some message).filter (fun message => decide (message ≠ "")) = some message :=
      Option.filter_eq_some_iff.mpr ⟨rfl, decide_eq_true (policy_message_ne failed)⟩
    unfold PolicyLoader.reserve_inference_budget
    simp only [given, failed]

/-- No request changes what the process enforces. -/
theorem run_started (ready : L.lifespan world = .ok started) (before : List Arrival) :
    run L.serve started before = started := by
  induction before with
  | nil => rfl
  | cons a before ih =>
      have kept : L.serve started a = started := congrArg Prod.snd (answer_started ready a)
      rw [run, List.foldl_cons, kept]
      exact ih

theorem answered_reserve (a : Arrival) (loaded : L.load_policy world = .ok (some document)) :
    Answered L world a (L.reserve document a) := by
  unfold PolicyLoader.reserve
  cases enabled : document.enabled with
  | false =>
      rw [if_neg Bool.false_ne_true]
      exact .off (.inr ⟨document, loaded, enabled⟩)
  | true =>
      rw [if_pos rfl]
      cases returned : (L.guard document a).reserve a.call with
      | error e => exact .raised loaded enabled returned
      | ok outcome =>
          obtain ⟨d, r⟩ := outcome
          rcases reserve_decides rfl returned with ⟨_, deny, listed⟩ | ⟨reservation, rfl, grant⟩
          · dsimp only
            rw [if_pos deny]
            exact .denied loaded enabled listed
          · have allowed : d.decision ≠ .DENY := by
              rw [grant.1]
              decide
            dsimp only
            rw [if_neg allowed]
            exact .granted loaded enabled returned grant

/-- In a process which has been started every request is answered so, whatever was served before. -/
theorem answered_started (ready : L.lifespan world = .ok started) (before : List Arrival) (a : Arrival) :
    Answered L world a (L.reserve_inference_budget (run L.serve started before) a).1 := by
  rw [run_started ready, answer_started ready]
  rcases lifespan_cases ready with ⟨loaded, loading, _⟩ | ⟨message, failed, _⟩
  · rw [loading]
    cases loaded with
    | none => exact .off (.inl (load_policy_none.mp loading))
    | some document => exact answered_reserve a loading
  · rw [failed]
    exact .unloaded failed

theorem PolicyLoader.Off.disabled (off : L.Off world) (loaded : L.load_policy world = .ok (some document)) :
    document.enabled = false := by
  rcases off with unset | ⟨other, same, disabled⟩
  · cases (load_policy_none.mpr unset).symm.trans loaded
  · cases same.symm.trans loaded
    exact disabled

theorem PolicyLoader.Off.loads (off : L.Off world) {e : LoadError} : L.load_policy world ≠ .error e := by
  intro failed
  rcases off with unset | ⟨_, same, _⟩
  · cases (load_policy_none.mpr unset).symm.trans failed
  · cases same.symm.trans failed

/-- The client is told the reason of a denial, never that of a policy. -/
theorem denial_codes : ∀ denial ∈ denials,
    (denial.2, (codes.lookup denial.1).getD "inference_budget_denied") ∈ refusals ∧
      (codes.lookup denial.1).getD "inference_budget_denied" ≠ "budget_policy_invalid" := by
  decide

end Process

/-- A process enforces budgets as it was started, whatever comes of its environment and its files afterwards. A request
goes on without a reservation just when the guard was switched off at the start, and with one only when the guard of the
policy loaded then has granted the estimate to the scope of the caller. Where that policy could not be loaded every
request is refused for it, and every other refusal tells a reason of the guard; an exception passes only for a
cancellation, or for tokens whose price does not convert to dollars. -/
theorem budget_enforced (L : PolicyLoader) (world : World) (started : Gateway) (ready : L.lifespan world = .ok started)
    (before : List Arrival) (a : Arrival) :
    let answer := (L.reserve_inference_budget (run L.serve started before) a).1
    (answer = .ok none ↔ L.Off world) ∧
      (∀ reservation, answer = .ok (some reservation) → ∃ document d, L.load_policy world = .ok (some document) ∧
        document.enabled = true ∧ (L.guard document a).reserve a.call = .ok (d, some reservation) ∧
          Grant document.toInferenceBudgetPolicy a.call d reservation) ∧
      (∀ message, L.load_policy world = .error (.policy message) → answer = .error (.http (policy_invalid message))) ∧
      (∀ e, answer = .error (.http e) → (e.status_code, e.code) ∈ refusals ∧
        (e.code = "budget_policy_invalid" → ∃ message, L.load_policy world = .error (.policy message))) ∧
      ∀ e, answer = .error (.raised e) → ∃ document, L.load_policy world = .ok (some document) ∧
        document.enabled = true ∧ (e.kind = .cancelledError ∨ Oversized document.toInferenceBudgetPolicy a.call) := by
  intro answer
  have answered : Answered L world a answer := answered_started ready before a
  clear_value answer
  refine ⟨⟨fun passed => ?_, fun off => ?_⟩, fun reservation passed => ?_, fun message failed => ?_,
    fun e refused => ?_, fun e passed => ?_⟩
  · rw [passed] at answered
    cases answered with
    | off off => exact off
  · cases answered with
    | off => rfl
    | granted loaded enabled => cases enabled.symm.trans (off.disabled loaded)
    | denied loaded enabled => cases enabled.symm.trans (off.disabled loaded)
    | raised loaded enabled => cases enabled.symm.trans (off.disabled loaded)
    | unloaded failed => exact absurd failed off.loads
  · rw [passed] at answered
    cases answered with
    | granted loaded enabled returned grant => exact ⟨_, _, loaded, enabled, returned, grant⟩
  · cases answered with
    | off off => exact absurd failed off.loads
    | granted loaded => cases loaded.symm.trans failed
    | denied loaded => cases loaded.symm.trans failed
    | raised loaded => cases loaded.symm.trans failed
    | unloaded other =>
        cases other.symm.trans failed
        rfl
  · rw [refused] at answered
    cases answered with
    | denied loaded enabled listed =>
        obtain ⟨told, other⟩ := denial_codes _ listed
        exact ⟨told, fun policy => absurd policy other⟩
    | unloaded failed =>
        have told : (503, "budget_policy_invalid") ∈ refusals := by decide
        exact ⟨told, fun _ => ⟨_, failed⟩⟩
  · rw [passed] at answered
    cases answered with
    | raised loaded enabled raised => exact ⟨_, loaded, enabled, reserve_error rfl raised⟩

/-! The switch is turned off in the environment, after the start. -/

def dollarLoader : PolicyLoader where
  text := asciiText
  loads _ := .ok (.dict [])
  fields _ := .ok ⟨"1", true, dollarBudget, [], some [("*", ⟨dollar, dollar⟩)]⟩
  validation_error text := text
  sha256 _ := "sha256:0"
  api_key_fingerprint _ := "0"

def dollarDocument : BudgetDocument := { dollarPolicy with enabled := true }

def switchedOn : World where
  env name := ([("INFERENCE_BUDGET_ENABLED", "True"), ("INFERENCE_BUDGET_POLICY", "{}")] : List (String × String)).lookup
    name
  load _ := .error (.unreadable "no such file")

def switchedOff : World := { switchedOn with env _ := none }

def late : Arrival := ⟨switchedOff, fun _ => none, "acme", "m", 0, 0, .memory none none, 1000, "r1"⟩

theorem dollar_loaded : dollarLoader.load_policy switchedOn = .ok (some dollarDocument) := rfl

theorem budget_enforced_late : (dollarLoader.reserve_inference_budget
    (run dollarLoader.serve ⟨some (some dollarDocument), some dollarDocument, none⟩ [late]) late).1 ≠ .ok none := by
  intro passed
  have off := (budget_enforced dollarLoader switchedOn _ rfl [late] late).1.mp passed
  cases PolicyLoader.Off.disabled off dollar_loaded

end RuntimePlatform.Budget
