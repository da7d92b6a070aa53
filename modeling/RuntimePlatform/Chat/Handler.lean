import RuntimePlatform.Chat.Operations

/-!
The chat endpoint: `routers/chat.py` with `services/routing.py`, `services/completions.py`,
`streaming.py`, and the idempotent ends of leases and reservations. A request ends when
`serve` returns or raises: for a stream this is when the body generator has been closed.
Metrics, traces, headers and record fields which nothing reads are left out.
-/

namespace RuntimePlatform.Chat
open Python Coroutine Coroutine.Session

structure Gateway where
  text : Text
  sha256 : String → ℕ
  model_targets : List (String × ModelTarget)
  model_routes : List (String × ModelRoute)
  /-- Which parts `app.state` has, and which are switched on. -/
  has_global_admission : Bool
  has_admission : Bool
  has_circuit_breaker : Bool
  has_retry_budget : Bool
  has_tenant_store : Bool
  has_runtime_config : Bool
  has_usage_events : Bool
  governance_active : Bool
  response_evaluation : Bool
  embed_routing_metadata : Bool
  route_targets_exist : ∀ route ∈ model_routes, ∀ model ∈ route.2.model_names, (model_targets.lookup model).isSome

namespace Gateway

def target (G : Gateway) (model : String) : Option ModelTarget := G.model_targets.lookup model

def route (G : Gateway) (name : String) : Option ModelRoute := G.model_routes.lookup name

end Gateway

/-- A budget reservation, as far as the handler looks at it. -/
structure Reservation where
  reserved_micros : ℤ
  executed : Bool
  settled : Bool

structure Lease where
  mode : AdmissionMode
  released : Bool

/-- The objects of one request which change, and the variable `model`. -/
structure Locals where
  reservation : Option Reservation
  lease : Option Lease
  model : String

def Locals.initial : Locals := ⟨none, none, ""⟩

abbrev Handler := Session Locals Exc Op Op.Res

abbrev call (op : Op) : Handler op.Res := perform op

/-! Leases, the global slot and reservations. -/

def controller_release : AdmissionMode → Handler Unit
  | .local_ | .degraded => do
    call .lease_semaphore_release
    call .lease_leave
  | .fail_open => result ()
  | .redis => catching Exc.isException (do
      call .lease_evict
      call .lease_leave
      call .lease_count) fun _ => result ()

/-- `AdmissionLease.release`, and nothing without a lease. -/
def lease_release : Handler Unit := do
  match (← locals).lease with
  | none => result ()
  | some lease =>
    if lease.released then result ()
    else do
      change fun l => { l with lease := some { lease with released := true } }
      controller_release lease.mode

def global_acquire : Handler Unit := do
  call .global_enqueue
  let acquired ← attempt (call .semaphore_acquire)
  call (.global_dequeue acquired.isOk)
  lift acquired

def global_release : Handler Unit := do
  call .semaphore_release
  call .global_leave

/-- The micro-dollars of a settlement. An amount which is no number is the estimate. -/
def Settlement.actual_micros (reserved_micros : ℤ) : Settlement → Except Exc ℤ
  | release => .ok 0
  | settle none => .ok reserved_micros
  | settle (some (.finite x)) =>
    if x.value ≥ 0 then
      match Budget.charge_to_micros (.finite x) with
      | .ok micros => .ok micros
      | .error e => if e.kind = .typeError ∨ e.kind = .valueError then .ok reserved_micros else .error .raised
    else .ok reserved_micros
  | settle (some _) => .ok reserved_micros

/-- `BudgetReservation.release` and `BudgetReservation.settle`, and nothing without one. -/
def settle_once (how : Settlement) : Handler Unit := do
  match (← locals).reservation with
  | none => result ()
  | some reservation =>
    if reservation.settled then result ()
    else do
      change fun l => { l with reservation := some { reservation with settled := true } }
      let actual_micros ← lift (how.actual_micros reservation.reserved_micros)
      call (.settle how actual_micros)

def release_budget : Handler Unit := settle_once .release

def settle_budget (spend_usd : Option Double) : Handler Unit := settle_once (.settle spend_usd)

def mark_executed : Handler Unit := do
  match (← locals).reservation with
  | none => result ()
  | some reservation => do
    change fun l => { l with reservation := some { reservation with executed := true } }
    call .mark_executed

def abandon : Handler Unit := do
  match (← locals).reservation with
  | none => result ()
  | some reservation => if reservation.executed then settle_budget none else release_budget

def refund_quota (quota_reservation : Bool) : Handler Unit := when quota_reservation (call .refund_reservation)

/-- `_reconcile_quota`: without token fields the reservation stays. -/
def reconcile_quota (quota_reservation : Bool) (usage : Value) (spend_usd : Option Double) : Handler Unit :=
  match usage with
  | .dict entries =>
    when (quota_reservation && ((Entries.get entries "prompt_tokens").isSome ||
        (Entries.get entries "completion_tokens").isSome))
      (call (.reconcile_usage entries spend_usd))
  | _ => result ()

variable (G : Gateway)

/-- The two releases at the end of a request. -/
def release_slots : Handler Unit := do
  lease_release
  when G.has_global_admission global_release

/-! Selecting a backend. -/

def circuit_allows (model : Model) : Handler Bool :=
  if G.has_circuit_breaker then call (.allow model) else result true

/-- `circuit_allows(model) and await health_store.meets_score(model, threshold)` -/
def available (threshold : Option ℕ) (model : Model) : Handler Bool := do
  let allowed ← circuit_allows G model
  match threshold with
  | none => result allowed
  | some threshold => if allowed then call (.meets_score model threshold) else result false

def select_health_aware_backend (route : Option ModelRoute) (primary_model : Model)
    (fallback_model : Option String) : Handler (Model × Bool) := do
  let threshold := route.bind ModelRoute.min_health_score
  let primary ← available G threshold primary_model
  if primary then result (primary_model, false)
  else match fallback_model with
    | none => raise .noHealthyBackend
    | some fallback_model => do
      let fallback ← available G threshold (some fallback_model)
      if fallback then result (some fallback_model, true) else raise .noHealthyBackend

def select_cost_aware_backend (route : ModelRoute) (weights : RoutingWeights) (primary_model : Model)
    (fallback_model : Option String) : Handler (Model × Bool) :=
  match primary_model, fallback_model with
  | some primary, some fallback => do
    let first ← call (.routing_signal primary)
    let second ← call (.routing_signal fallback)
    let (selected, rerouted) ← lift (costAwareChoice G.model_targets weights (route.min_health_score.getD 0) primary
      [(primary, first), (fallback, second)])
    result (some selected, rerouted)
  | _, _ => result (primary_model, false)

/-- What the routing part of `_chat_completions_admitted` leaves behind. -/
structure Selection where
  route : Option ModelRoute
  model : Model
  fallback_model : Option String
  rerouted : Bool

/-- A route with weights is cost-aware. -/
def Selection.cost_rerouted (selection : Selection) : Bool :=
  selection.rerouted && (selection.route.bind ModelRoute.routing_policy).isSome

def Selection.health_rerouted (selection : Selection) : Bool :=
  selection.rerouted && (selection.route.bind ModelRoute.routing_policy).isNone

def select_backend (request_id : String) (requested_model : Model) : Handler Selection := do
  let route := requested_model.bind G.route
  let (model, fallback_model) ← lift (resolve_route G.sha256 route request_id requested_model)
  let (model, rerouted) ← catching (fun e => decide (e = .noHealthyBackend))
    (match route, route.bind ModelRoute.routing_policy with
      | some route, some weights => select_cost_aware_backend G route weights model fallback_model
      | route, _ => select_health_aware_backend G route model fallback_model)
    fun _ => raise (.httpException 503)
  result ⟨route, model, if rerouted then none else fallback_model, rerouted⟩

/-! Forwarding a completion. -/

/-- `raise_for_status` accepts the statuses from 200 to 299. -/
def raise_for_status (status_code : ℕ) : Except Exc Unit :=
  if 200 ≤ status_code ∧ status_code < 300 then .ok () else .error (.http (.status status_code))

/-- Whether a failed attempt may be followed by another. -/
def retryable : HttpError → Bool
  | .status code => decide (code ≥ 500)
  | _ => true

structure Completion where
  response : Response
  model : String
  fallback_used : Bool
  failed_models : List String

def consume_retry (fallback_used : Bool) : Handler Bool :=
  if fallback_used && G.has_retry_budget then call .consume else result true

/-- The body of the inner `try`. -/
def post_attempt (model : String) : Handler Response := do
  let response ← call (.post model)
  lift (raise_for_status response.status_code)
  result response

/-- The loop over the attempts; the flag of an attempt is `fallback_used`. -/
def attempts (failed_models : List String) : List (String × Bool) → Handler Completion
  | [] => raise .raised
  | (model, fallback_used) :: rest => do
    let allowed ← circuit_allows G (some model)
    if allowed then do
      let retry ← consume_retry G fallback_used
      if retry then do
        let answer ← attempt (post_attempt model)
        match answer with
        | .ok response => do
          when G.has_circuit_breaker (call (.record_success model))
          result ⟨response, model, fallback_used, failed_models⟩
        | .error (.http error) => do
          when G.has_circuit_breaker (call (.record_failure model))
          if rest.isEmpty || !retryable error then raise (.http error)
          else attempts (failed_models ++ [model]) rest
        | .error e => raise e
      else raise (.http .request)
    else if rest.isEmpty then raise (.http .request)
    else attempts (failed_models ++ [model]) rest

/-- The target of a model name; an empty name counts as none. -/
def target_of (model : Option String) : Option ModelTarget :=
  (model.filter fun model => decide (model ≠ "")).bind G.target

def post_completion_with_fallback (primary_model : String) (fallback_model : Option String) :
    Handler Completion :=
  attempts G [] ((primary_model, false) ::
    (fallback_model.filter fun model => (target_of G (some model)).isSome).toList.map fun model => (model, true))

/-! After the backend has been selected. -/

/-- What the stream's finaliser captures. -/
structure Stream where
  selected_model : String
  fallback_used : Bool
  quota_reservation : Bool

inductive Upstream where
  | streaming (stream : Stream)
  | answered (completion : Completion)

def record_failed : List String → Handler Unit
  | [] => result ()
  | failed_model :: rest => do
    call (.record_request failed_model false false)
    record_failed rest

def forward (selection : Selection) (model : String) : Handler Upstream := do
  mark_executed
  let completion ← post_completion_with_fallback G model selection.fallback_model
  record_failed completion.failed_models
  call (.record_request completion.model true (completion.fallback_used || selection.rerouted))
  result (.answered completion)

/-- The second try of the streaming branch, after a status from 500 on. -/
def stream_fallback (model : String) (fallback_model : Option String) (status_code : ℕ) :
    Handler (ℕ × String × Bool) :=
  match fallback_model.filter fun model => (target_of G (some model)).isSome with
  | some fallback_model =>
    if status_code ≥ 500 then do
      call .aclose
      call (.record_request model false false)
      change fun l => { l with model := fallback_model }
      call (.build_request fallback_model)
      let status_code ← call (.send fallback_model)
      result (status_code, fallback_model, true)
    else result (status_code, model, false)
  | none => result (status_code, model, false)

/-- The configured shadow, if it differs from the selected model and has a target. -/
def shadow_target (selection : Selection) (model : String) : Option String :=
  (resolve_shadow_backend selection.route model).filter fun shadow => (target_of G (some shadow)).isSome

def schedule_shadow (selection : Selection) (model : String) : Handler Unit :=
  match shadow_target G selection model with
  | some shadow => call (.schedule_shadow_traffic shadow)
  | none => result ()

def open_stream (quota_reservation : Bool) (selection : Selection) (model : String) : Handler Upstream := do
  call (.build_request model)
  mark_executed
  let status_code ← call (.send model)
  let (status_code, selected_model, stream_fallback_used) ←
    stream_fallback G model selection.fallback_model status_code
  lift (raise_for_status status_code)
  schedule_shadow G selection model
  call .streaming_response
  result (.streaming ⟨selected_model, stream_fallback_used || selection.rerouted, quota_reservation⟩)

/-- A refused or unaccepted request, for which the reservation is refunded. -/
def refused : Exc → Bool
  | .http .connect | .http (.status _) => true
  | _ => false

/-- `except httpx.HTTPError` -/
def upstream_error (error : Exc) : Handler Upstream := do
  let model := (← locals).model
  call (.record_request model false false)
  (if refused error then release_budget else settle_budget none)
  let _ ← call (.routing_signal model)
  call (.record_decision model .upstream_error)
  raise (.httpException 502)

/-- `upstream.json()` -/
def Response.json (response : Response) : Except Exc Value := response.content.elim (.error .raised) .ok

/-- `response.get` asks for a dict. -/
def asDict : Value → Except Exc Entries
  | .dict entries => .ok entries
  | _ => .error .raised

def routing_reason (cost_rerouted health_rerouted fallback_used : Bool) : String :=
  if cost_rerouted then "cost_aware"
  else if health_rerouted then "health_score"
  else if fallback_used then "fallback"
  else "primary"

/-- The metadata added to the body for older clients. -/
def embed_metadata (entries : Entries) (model : String) (fallback_flag : Bool) (reason : String) (health_score : ℕ)
    (estimated_cost : Option Double) : Entries :=
  if G.embed_routing_metadata then
    let marked := (((entries.set "selected_backend" (.str model)).set "fallback_used" (.bool fallback_flag)).set
      "routing_reason" (.str reason)).set "health_score" (.int health_score)
    match estimated_cost with
    | some cost => (marked.set "estimated_cost" (.float cost)).set "runtime_cost"
        (.dict [(.str "currency", .str "USD"), (.str "estimated", .float cost)])
    | none => marked
  else entries

inductive Reply where
  | json (content : Value)
  | stream (stream : Stream)

/-- The rest of the non-streaming path. -/
def complete (quota_reservation : Bool) (selection : Selection) (selected : String) (completion : Completion) :
    Handler Reply := do
  let content ← lift completion.response.json
  let signal ← call (.routing_signal completion.model)
  let entries ← lift (asDict content)
  let estimated_cost ← call (.request_cost (entries.orNone "usage") completion.model)
  reconcile_quota quota_reservation (entries.orNone "usage") estimated_cost
  settle_budget estimated_cost
  schedule_shadow G selection selected
  call (.record_decision completion.model .executed)
  when G.response_evaluation (call .submit_evaluation)
  when G.has_usage_events (call (.emit completion.model))
  release_slots G
  let reason := routing_reason selection.cost_rerouted selection.health_rerouted completion.fallback_used
  let content := Value.dict (embed_metadata G entries completion.model
    (completion.fallback_used || selection.rerouted) reason signal.health_score estimated_cost)
  call (.json_response content)
  result (.json content)

/-- From the selected backend on. A model without a target ends here. -/
def dispatch (quota_reservation stream : Bool) (selection : Selection) : Handler Reply :=
  match selection.model.filter fun model => (G.target model).isSome with
  | none => do
    release_budget
    raise (.httpException 404)
  | some model => do
    change fun l => { l with model := model }
    let upstream ← catching Exc.isHttp
      (if stream then open_stream G quota_reservation selection model else forward G selection model)
      upstream_error
    match upstream with
    | .streaming stream => result (.stream stream)
    | .answered completion => complete G quota_reservation selection model completion

/-! From the request's body to a reply. -/

/-- The key a requested model is in a dict; lists and dicts are no keys. -/
def hashed : Value → Except Exc Model
  | .str s => .ok (some s)
  | .list _ | .dict _ => .error .raised
  | _ => .ok none

/-- `str(requested_model or default)` -/
def named (requested_model : Value) (default : String) : String :=
  if requested_model.truthy then G.text.str requested_model else default

/-- The input tokens of one message. -/
def message_tokens : Value → ℤ
  | .dict message =>
    match Entries.get message "content" with
    | some (.str content) => max 1 ((content.length / 4 : ℕ) : ℤ)
    | _ => 0
  | _ => 0

def estimated_input_tokens (payload : Entries) : ℤ :=
  let total := match payload.get "messages" with
    | some (.list messages) => (messages.map message_tokens).sum
    | _ => 0
  if total = 0 then 1 else total

/-- The cap which one key asks for, if it reads as a positive number. -/
def token_cap (payload : Entries) (key : String) : Option ℤ :=
  match payload.orNone key with
  | .none | .bool _ => none
  | raw => match G.text.int raw with
    | .ok value => if value > 0 then some value else none
    | .error _ => none

def requested_output_tokens (payload : Entries) (default : ℤ) : ℤ :=
  ((token_cap G payload "max_completion_tokens").or (token_cap G payload "max_tokens")).getD default

/-- The exact price of the estimate is a float computation; the handler only passes it on. -/
def estimate_spend (estimate_model : String) (input_tokens output_tokens : ℤ) : Handler Double :=
  match G.target estimate_model with
  | some target => call (.estimated_spend target input_tokens output_tokens)
  | none => result (.finite .zero)

def reserve_budget (model : String) (input_tokens output_tokens : ℤ) : Handler Unit := do
  let reserved ← call (.reserve_inference_budget model input_tokens output_tokens)
  change fun l => { l with reservation := reserved.map fun micros => ⟨micros, false, false⟩ }

/-- Governance with the refund of the quota when it does not admit, then the routing. -/
def govern_and_select (request_id : String) (requested_model : Model) : Handler Selection := do
  when G.governance_active (do
    catching Exc.isException (call .enforce_governance) fun e => do
      refund_quota G.has_tenant_store
      raise e
    when G.has_runtime_config (call .observe_policy))
  select_backend G request_id requested_model

def chat_completions_admitted (request_id : String) (payload : Entries) (requested_model : Model) :
    Handler Reply := do
  let input_tokens := estimated_input_tokens payload
  let output_tokens := requested_output_tokens G payload (min input_tokens 512)
  let estimate_model := named G (payload.orNone "model") ""
  let spend_usd ← estimate_spend G estimate_model input_tokens output_tokens
  reserve_budget estimate_model input_tokens output_tokens
  when G.has_tenant_store (call (.reserve_request input_tokens output_tokens spend_usd))
  let selection ← catching Exc.isException (govern_and_select G request_id requested_model) fun e => do
    release_budget
    raise e
  dispatch G G.has_tenant_store (payload.orNone "stream").truthy selection

def read_body : Handler Entries := do
  let payload ← catching Exc.isException (call .request_json) fun _ => raise (.httpException 422)
  match payload with
  | .dict entries => result entries
  | _ => raise (.httpException 422)

def check_tenant (requested_model : Value) : Handler Model := do
  call .resolve_tenant_id
  call .load_tenant_policy_bundle
  let key ← lift (hashed requested_model)
  let allowed ← (if (key.bind G.route).isSome then
      (call (.route_allowed (G.text.str requested_model)) : Handler Bool)
    else call (.model_allowed (named G requested_model "")))
  if allowed then result key else raise (.httpException 403)

def acquire_lease (requested_model : Value) : Handler Unit := do
  let mode ← catching Exc.isException (call (.acquire_lease (named G requested_model "*"))) fun e => do
    when G.has_global_admission global_release
    raise e
  change fun l => { l with lease := some ⟨mode, false⟩ }

def chat_completions (request_id : String) : Handler Reply := do
  let payload ← read_body
  let key ← check_tenant G (payload.orNone "model")
  call .reject_if_draining
  when G.has_global_admission global_acquire
  when G.has_admission (acquire_lease G (payload.orNone "model"))
  catching Exc.isException (chat_completions_admitted G request_id payload key) fun e => do
    abandon
    release_slots G
    raise e

/-! The body of a streaming response. -/

inductive StreamOutcome where
  | success
  | empty_stream
  | client_disconnected
  | upstream_error_before_first_byte
  | upstream_interrupted
  deriving DecidableEq, Repr

def classify_stream_outcome (bytes_sent : ℕ) (saw_done : Bool) : Option Exc → StreamOutcome
  | none => if saw_done then .success else if bytes_sent = 0 then .empty_stream else .success
  | some .cancelled => .client_disconnected
  | some _ => if bytes_sent = 0 then .upstream_error_before_first_byte else .upstream_interrupted

structure StreamObservation where
  outcome : StreamOutcome
  usage : Option Entries

/-- What the loop over the chunks has counted when it ends. -/
def observation (relay : Relay) : StreamObservation where
  outcome := classify_stream_outcome (relay.chunks.map Chunk.length).sum (relay.chunks.any Chunk.has_done) relay.error
  usage := (relay.chunks.filterMap Chunk.usage).getLast?

def stream_cost (stream : Stream) (usage : Option Entries) : Handler (Option Double) :=
  match usage, G.target stream.selected_model with
  | some usage, some _ => call (.request_cost (.dict usage) stream.selected_model)
  | _, _ => result none

/-- The `try` of `_finalize_stream`. -/
def book_stream (stream : Stream) (observed : StreamObservation) : Handler Unit := do
  call (.record_request stream.selected_model (decide (observed.outcome = .success)) stream.fallback_used)
  let spend_usd ← stream_cost G stream observed.usage
  reconcile_quota stream.quota_reservation (observed.usage.elim .none .dict) spend_usd
  settle_budget spend_usd
  let _ ← call (.routing_signal stream.selected_model)
  call (.record_decision stream.selected_model .stream)
  when G.has_usage_events (call (.emit stream.selected_model))

/-- The `finally` of `_finalize_stream`. -/
def close_stream : Handler Unit := do
  settle_budget none
  release_slots G

def finalize_stream (stream : Stream) (observed : StreamObservation) : Handler Unit :=
  finishing (book_stream G stream observed) (close_stream G)

def observe_upstream_stream (stream : Stream) : Handler Unit := do
  let relay ← call .relay
  finishing (finalize_stream G stream (observation relay)) (call .aclose)
  match relay.error with
  | some e => raise e
  | none => result ()

/-- One chat request, to its end. -/
def serve (request_id : String) : Handler Unit := do
  let reply ← chat_completions G request_id
  match reply with
  | .json _ => result ()
  | .stream stream => do
    let started ← call .start_body
    if started then observe_upstream_stream G stream else result ()

end RuntimePlatform.Chat
