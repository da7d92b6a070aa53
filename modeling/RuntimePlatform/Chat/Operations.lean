import RuntimePlatform.Lib.Coroutine
import RuntimePlatform.Budget.Guard
import RuntimePlatform.Chat.Routing

/-!
What a chat request does step by step: the awaited calls, and the synchronous calls which
can raise or which touch shared state. Each step answers with a result or an exception;
which answers a step can have is `possible`, and what it does to the state shared by all
requests is `exec`. A section under an `asyncio.Lock` is one step, cancelled if at all
before it enters.
-/

namespace RuntimePlatform.Chat
open Python

inductive AdmissionMode where
  | redis
  | local_
  | degraded
  | fail_open
  deriving DecidableEq, Repr

/-- How a reservation is settled: `release()`, or `settle(actual_usd)`. -/
inductive Settlement where
  | release
  | settle (actual_usd : Option Double)

def Settlement.isRelease : Settlement → Bool
  | release => true
  | settle _ => false

inductive Enforcement where
  | executed
  | upstream_error
  | stream
  deriving DecidableEq, Repr

/-- An upstream reply; `content` is `none` where `json()` raises. -/
structure Response where
  status_code : ℕ
  content : Option Value

/-- One chunk of a stream: its length, whether it has `[DONE]`, and the usage it carries. -/
structure Chunk where
  length : ℕ
  has_done : Bool
  usage : Option Entries

/-- The chunks which were yielded, and the exception which ended the loop. -/
structure Relay where
  chunks : List Chunk
  error : Option Exc

inductive Op where
  | request_json
  | resolve_tenant_id
  | load_tenant_policy_bundle
  | route_allowed (route : String)
  | model_allowed (model : String)
  | reject_if_draining
  /-- The lock sections of `GlobalAdmissionController` and its semaphore. -/
  | global_enqueue
  | semaphore_acquire
  | global_dequeue (acquired : Bool)
  | semaphore_release
  | global_leave
  | acquire_lease (model : String)
  /-- The steps of `TenantAdmissionController._release`. -/
  | lease_semaphore_release
  | lease_evict
  | lease_leave
  | lease_count
  | estimated_spend (target : ModelTarget) (input_tokens output_tokens : ℤ)
  | reserve_inference_budget (model : String) (input_tokens output_tokens : ℤ)
  | mark_executed
  | settle (how : Settlement) (actual_micros : ℤ)
  | reserve_request (input_tokens output_tokens : ℤ) (spend_usd : Double)
  | refund_reservation
  | reconcile_usage (usage : Entries) (spend_usd : Option Double)
  | enforce_governance
  | observe_policy
  | meets_score (model : Model) (threshold : ℕ)
  | routing_signal (model : String)
  | allow (model : Model)
  | record_success (model : String)
  | record_failure (model : String)
  | consume
  | build_request (model : String)
  | post (model : String)
  | send (model : String)
  | aclose
  | record_request (model : String) (success fallback_used : Bool)
  | request_cost (usage : Value) (model : String)
  | schedule_shadow_traffic (model : String)
  | record_decision (selected_backend : String) (enforcement_outcome : Enforcement)
  | submit_evaluation
  | emit (backend : String)
  | streaming_response
  | json_response (content : Value)
  /-- Whether the server starts the body generator of a streaming response. -/
  | start_body
  | relay

namespace Op

@[reducible] def Res : Op → Type
  | request_json => Value
  | route_allowed _ | model_allowed _ | meets_score _ _ | allow _ | consume | start_body => Bool
  | acquire_lease _ => AdmissionMode
  | estimated_spend _ _ _ => Double
  | reserve_inference_budget _ _ _ => Option ℤ
  | routing_signal _ => Signal
  | post _ => Response
  | send _ => ℕ
  | request_cost _ _ => Option Double
  | relay => Relay
  | _ => Unit

abbrev Ans (op : Op) : Type := Except Exc op.Res

/-- The exceptions of a step. Synchronous steps are not cancelled; the ends of a lease, of a
reservation and of the global slot handle every other exception themselves; what goes to a
backend raises the exceptions of `httpx`. -/
def raises : Op → Exc → Bool
  | semaphore_release, _ | lease_semaphore_release, _ | mark_executed, _ | allow _, _ | record_success _, _
  | record_failure _, _ | schedule_shadow_traffic _, _ | start_body, _ | relay, _ => false
  | semaphore_acquire, e | global_dequeue _, e | global_leave, e | lease_leave, e | settle _ _, e | consume, e =>
    decide (e = .cancelled)
  | global_enqueue, e => decide (e = .cancelled ∨ e = .httpException 503)
  | post _, e | send _, e | aclose, e =>
    decide (e = .raised ∨ e = .cancelled ∨ e = .http .connect ∨ e = .http .request)
  | resolve_tenant_id, e | load_tenant_policy_bundle, e | route_allowed _, e | model_allowed _, e
  | reject_if_draining, e | estimated_spend _ _ _, e | observe_policy, e | build_request _, e
  | request_cost _ _, e | submit_evaluation, e | streaming_response, e | json_response _, e =>
    decide (e = .raised ∨ e = .httpException 503)
  | _, .cancelled | _, .raised | _, .httpException _ => true
  | _, _ => false

/-- `request_cost` is `None` without usage, a number with some usage blocks, and raises on
everything which is no dict. -/
def pricedAs : Value → Except Exc (Option Double) → Bool
  | .none, .ok none => true
  | .dict _, .ok (some _) => true
  | .none, _ => false
  | _, .error e => raises (.request_cost .none "") e
  | _, .ok _ => false

end Op

mutual
/-- No float in the value is an infinity or NaN, as `allow_nan=False` asks. -/
def isFinite : Value → Bool
  | .float (.finite _) => true
  | .float _ => false
  | .list items => areFinite items
  | .dict entries => entriesFinite entries
  | _ => true
def areFinite : List Value → Bool
  | [] => true
  | v :: rest => isFinite v && areFinite rest
def entriesFinite : List (Value × Value) → Bool
  | [] => true
  | (_, v) :: rest => isFinite v && entriesFinite rest
end

namespace Op

/-- Which answers a step can have. -/
def possible : (op : Op) → op.Ans → Bool
  | request_cost usage _, answer => pricedAs usage answer
  | json_response content, .ok _ => isFinite content
  | op, .error e => op.raises e
  | _, .ok _ => true

end Op

/-! The state which the requests share. -/

structure Shared where
  admission : GlobalAdmission
  breaker : CircuitBreaker

/-- What a step with its answer does at a clock reading, if it can have that answer there. -/
def exec (limits : AdmissionLimits) (config : BreakerConfig) : Coroutine.Exec ℚ Shared Op Op.Ans :=
  fun clock s op answer =>
    match op, answer with
    | .global_enqueue, .ok _ =>
      if s.admission.Sheds limits then none else some { s with admission := s.admission.enqueue }
    | .global_enqueue, .error (.httpException _) => if s.admission.Sheds limits then some s else none
    | .semaphore_acquire, .ok _ =>
      if 0 < s.admission.sem then some { s with admission := s.admission.take } else none
    | .global_dequeue acquired, .ok _ => some { s with admission := s.admission.dequeue acquired }
    | .semaphore_release, .ok _ => some { s with admission := s.admission.give }
    | .global_leave, .ok _ => some { s with admission := s.admission.leave }
    | .allow model, .ok admitted =>
      let (allowed, breaker) := s.breaker.allow config clock model
      if allowed = admitted then some { s with breaker := breaker } else none
    | .record_success model, .ok _ => some { s with breaker := s.breaker.record_success (some model) }
    | .record_failure model, .ok _ => some { s with breaker := s.breaker.record_failure config clock (some model) }
    | _, _ => some s

end RuntimePlatform.Chat
