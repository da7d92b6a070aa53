import RuntimePlatform.Budget.FailClosed
import RuntimePlatform.Chat.Handler

/-!
Frame rules of the chat handler. Steps are sorted into kinds; a part of the handler keeps
an assertion which every kind of step it performs keeps, whatever the protocol.
-/

namespace RuntimePlatform.Chat
open Python Coroutine Coroutine.Session

inductive Kind where
  | body
  | tenant
  | global
  | lease
  | reserve
  | execute
  | settle
  | quota
  | governance
  | health
  | breaker
  | retry
  | post
  | stream
  | traffic
  | cost
  | record
  | reply
  deriving DecidableEq, Repr

def Op.kind : Op → Kind
  | request_json => .body
  | resolve_tenant_id | load_tenant_policy_bundle | route_allowed _ | model_allowed _ | reject_if_draining => .tenant
  | global_enqueue | semaphore_acquire | global_dequeue _ | semaphore_release | global_leave => .global
  | acquire_lease _ | lease_semaphore_release | lease_evict | lease_leave | lease_count => .lease
  | reserve_inference_budget _ _ _ => .reserve
  | mark_executed => .execute
  | settle _ _ => .settle
  | estimated_spend _ _ _ | reserve_request _ _ _ | refund_reservation | reconcile_usage _ _ => .quota
  | enforce_governance | observe_policy => .governance
  | meets_score _ _ | routing_signal _ => .health
  | allow _ | record_success _ | record_failure _ => .breaker
  | consume => .retry
  | post _ => .post
  | build_request _ | send _ | aclose | streaming_response => .stream
  | record_request _ _ _ => .traffic
  | request_cost _ _ => .cost
  | schedule_shadow_traffic _ | record_decision _ _ | submit_evaluation | emit _ => .record
  | json_response _ | start_body | relay => .reply

abbrev Contract (H : Type) := Protocol Shared Op Op.Ans H

variable {σ H : Type} {P : Protocol σ Op Op.Ans H} {R : Locals → H → Prop} {X : Exc → Prop} {quiet : Kind → Prop}
  {α β : Type}

theorem raise_for_status_error {status_code : ℕ} {e : Exc} (raised : raise_for_status status_code = .error e) :
    e ≠ .cancelled := by
  unfold raise_for_status at raised
  by_cases accepted : 200 ≤ status_code ∧ status_code < 300
  · rw [if_pos accepted] at raised
    cases raised
  · rw [if_neg accepted] at raised
    cases raised
    exact fun same => (nomatch same)

theorem hashed_error {v : Value} {e : Exc} (raised : hashed v = .error e) : e ≠ .cancelled := by
  cases v with
  | list items =>
      cases raised
      decide
  | dict entries =>
      cases raised
      decide
  | _ => cases raised

theorem json_error {response : Response} {e : Exc} (raised : response.json = .error e) : e ≠ .cancelled := by
  unfold Response.json at raised
  cases content : response.content with
  | none =>
      rw [content] at raised
      cases raised
      decide
  | some v =>
      rw [content] at raised
      cases raised

theorem asDict_error {v : Value} {e : Exc} (raised : asDict v = .error e) : e ≠ .cancelled := by
  cases v with
  | dict entries => cases raised
  | _ =>
      cases raised
      decide

/-- Every settlement has an amount. -/
theorem Settlement.actual_micros_ok (how : Settlement) (reserved_micros : ℤ) :
    ∃ micros, how.actual_micros reserved_micros = .ok micros := by
  cases how with
  | release => exact ⟨0, rfl⟩
  | settle actual_usd =>
      cases actual_usd with
      | none => exact ⟨reserved_micros, rfl⟩
      | some usd =>
          cases usd with
          | finite x =>
              obtain ⟨micros, converted⟩ := Budget.usd_to_micros_returns (fun q => ⌈q⌉) x
              by_cases nonneg : x.value ≥ 0
              · exact ⟨micros, by simp only [actual_micros, if_pos nonneg, Budget.charge_to_micros, converted]⟩
              · exact ⟨reserved_micros, by simp only [actual_micros, if_neg nonneg]⟩
          | inf negative => exact ⟨reserved_micros, rfl⟩
          | nan => exact ⟨reserved_micros, rfl⟩

/-- A settlement raises what its step at the guard raises. -/
theorem settle_once_keeps (blind : ∀ l g reservation, R l g → R { l with reservation := reservation } g)
    {how : Settlement} (step : ∀ micros, (call (.settle how micros)).Keeps P R X) : (settle_once how).Keeps P R X := by
  refine keeps_locals.bind fun l => ?_
  cases l.reservation with
  | none => exact keeps_result
  | some reservation =>
      refine Keeps.ite (fun _ => keeps_result) fun _ => ?_
      refine (keeps_change fun l g kept => blind l g _ kept).bind fun _ => ?_
      refine (keeps_lift fun e raised => ?_).bind fun micros => step micros
      obtain ⟨micros, known⟩ := how.actual_micros_ok reservation.reserved_micros
      rw [known] at raised
      cases raised

theorem abandon_keeps (blind : ∀ l g reservation, R l g → R { l with reservation := reservation } g)
    (step : ∀ how micros, (call (.settle how micros)).Keeps P R X) : abandon.Keeps P R X := by
  refine keeps_locals.bind fun l => ?_
  cases l.reservation with
  | none => exact keeps_result
  | some reservation =>
      exact Keeps.ite (fun _ => settle_once_keeps blind (step _)) fun _ => settle_once_keeps blind (step _)

/-- The assertion `R` survives the quiet kinds of steps and says nothing of the variable
`model`; every exception but a cancellation is expected. -/
structure Frame (P : Protocol σ Op Op.Ans H) (R : Locals → H → Prop) (X : Exc → Prop) (quiet : Kind → Prop) :
    Prop where
  step : ∀ op : Op, quiet op.kind → (call op).Keeps P R X
  expected : ∀ e : Exc, e ≠ .cancelled → X e
  model : ∀ l g model, R l g → R { l with model := model } g

namespace Frame

theorem lift (frame : Frame P R X quiet) {x : Except Exc α} (known : ∀ e, x = .error e → e ≠ .cancelled) :
    (Session.lift x : Handler α).Keeps P R X := keeps_lift fun e raised => frame.expected e (known e raised)

theorem raise (frame : Frame P R X quiet) {e : Exc} (known : e ≠ .cancelled) :
    (Session.raise e : Handler α).Keeps P R X := keeps_raise (frame.expected e known)

/-- An `except` part whose handler keeps the assertion too. -/
theorem handled {body : Handler α} {test : Exc → Bool} {handler : Exc → Handler α}
    (first : body.Keeps P R X) (second : ∀ e, X e → (handler e).Keeps P R X) :
    (catching test body handler).Keeps P R X := first.catching (fun e _ => second e) fun _ _ => id

theorem setModel (frame : Frame P R X quiet) (model : String) :
    (change fun l => { l with model := model } : Handler Unit).Keeps P R X :=
  keeps_change fun l g kept => frame.model l g model kept

/-! Before the backend is known. -/

variable (frame : Frame P R X quiet) (G : Gateway)
include frame

theorem read_body (body : quiet .body) : read_body.Keeps P R X := by
  refine (handled (frame.step .request_json body) fun _ _ => frame.raise (by decide)).bind fun payload => ?_
  cases payload with
  | dict entries => exact keeps_result
  | _ => exact frame.raise (by decide)

theorem check_tenant (tenant : quiet .tenant) (requested_model : Value) :
    (check_tenant G requested_model).Keeps P R X := by
  refine (frame.step .resolve_tenant_id tenant).bind fun _ => ?_
  refine (frame.step .load_tenant_policy_bundle tenant).bind fun _ => ?_
  refine (frame.lift fun e raised => hashed_error raised).bind fun key => ?_
  refine (Keeps.ite (fun _ => frame.step (.route_allowed _) tenant) fun _ => frame.step (.model_allowed _) tenant).bind
    fun allowed => ?_
  exact Keeps.ite (fun _ => keeps_result) fun _ => frame.raise (by decide)

theorem refund_quota (quota : quiet .quota) (quota_reservation : Bool) :
    (refund_quota quota_reservation).Keeps P R X := Keeps.when fun _ => frame.step _ quota

theorem reconcile_quota (quota : quiet .quota) (quota_reservation : Bool) (usage : Value) (spend_usd : Option Double) :
    (reconcile_quota quota_reservation usage spend_usd).Keeps P R X := by
  cases usage with
  | dict entries => exact Keeps.when fun _ => frame.step _ quota
  | _ => exact keeps_result

theorem circuit_allows (breaker : quiet .breaker) (model : Model) : (circuit_allows G model).Keeps P R X :=
  Keeps.ite (fun _ => frame.step _ breaker) fun _ => keeps_result

theorem available (breaker : quiet .breaker) (health : quiet .health) (threshold : Option ℕ) (model : Model) :
    (available G threshold model).Keeps P R X := by
  refine (frame.circuit_allows G breaker model).bind fun allowed => ?_
  cases threshold with
  | none => exact keeps_result
  | some threshold => exact Keeps.ite (fun _ => frame.step _ health) fun _ => keeps_result

theorem select_health_aware_backend (breaker : quiet .breaker) (health : quiet .health) (route : Option ModelRoute)
    (primary_model : Model) (fallback_model : Option String) :
    (select_health_aware_backend G route primary_model fallback_model).Keeps P R X := by
  refine (frame.available G breaker health _ primary_model).bind fun primary => ?_
  refine Keeps.ite (fun _ => keeps_result) fun _ => ?_
  cases fallback_model with
  | none => exact frame.raise (by decide)
  | some fallback_model =>
      refine (frame.available G breaker health _ _).bind fun fallback => ?_
      exact Keeps.ite (fun _ => keeps_result) fun _ => frame.raise (by decide)

theorem select_cost_aware_backend (health : quiet .health) (route : ModelRoute) (weights : RoutingWeights)
    (primary_model : Model) (fallback_model : Option String) :
    (select_cost_aware_backend G route weights primary_model fallback_model).Keeps P R X := by
  cases primary_model with
  | none => exact keeps_result
  | some primary =>
      cases fallback_model with
      | none => exact keeps_result
      | some fallback =>
          refine (frame.step (.routing_signal primary) health).bind fun first => ?_
          refine (frame.step (.routing_signal fallback) health).bind fun second => ?_
          refine (frame.lift fun e raised => ?_).bind fun _ => keeps_result
          exact costAwareChoice_error raised

theorem select_backend (breaker : quiet .breaker) (health : quiet .health) (request_id : String)
    (requested_model : Model) : (select_backend G request_id requested_model).Keeps P R X := by
  refine (frame.lift fun e raised => resolve_route_error raised).bind fun resolved => ?_
  obtain ⟨model, fallback_model⟩ := resolved
  refine (handled ?_ fun _ _ => frame.raise (by decide)).bind fun _ => keeps_result
  cases requested_model.bind G.route with
  | none => exact frame.select_health_aware_backend G breaker health none model fallback_model
  | some route =>
      cases policy : route.routing_policy with
      | none =>
          simp only [Option.bind_some, policy]
          exact frame.select_health_aware_backend G breaker health (some route) model fallback_model
      | some weights =>
          simp only [Option.bind_some, policy]
          exact frame.select_cost_aware_backend G health route weights model fallback_model

theorem govern_and_select (governance : quiet .governance) (quota : quiet .quota) (breaker : quiet .breaker)
    (health : quiet .health) (request_id : String) (requested_model : Model) :
    (govern_and_select G request_id requested_model).Keeps P R X := by
  refine (Keeps.when fun _ => ?_).bind fun _ => frame.select_backend G breaker health request_id requested_model
  refine (handled (frame.step .enforce_governance governance) fun e listed => ?_).bind fun _ =>
    Keeps.when fun _ => frame.step .observe_policy governance
  exact (frame.refund_quota quota _).bind fun _ => keeps_raise listed

/-! The non-streaming path. -/

theorem consume_retry (retry : quiet .retry) (fallback_used : Bool) :
    (consume_retry G fallback_used).Keeps P R X := Keeps.ite (fun _ => frame.step .consume retry) fun _ => keeps_result

theorem post_attempt (post : quiet .post) (model : String) : (post_attempt model).Keeps P R X := by
  refine (frame.step (.post model) post).bind fun response => ?_
  exact (frame.lift fun e raised => raise_for_status_error raised).bind fun _ => keeps_result

theorem attempts (breaker : quiet .breaker) (retry : quiet .retry) (post : quiet .post) (failed_models : List String)
    (listed : List (String × Bool)) : (attempts G failed_models listed).Keeps P R X := by
  induction listed generalizing failed_models with
  | nil => exact frame.raise (by decide)
  | cons first rest ih =>
      obtain ⟨model, fallback_used⟩ := first
      refine (frame.circuit_allows G breaker (some model)).bind fun allowed => ?_
      refine Keeps.ite (fun _ => ?_) fun _ => Keeps.ite (fun _ => frame.raise (by decide)) fun _ => ih _
      refine (frame.consume_retry G retry fallback_used).bind fun retried => ?_
      refine Keeps.ite (fun _ => ?_) fun _ => frame.raise (by decide)
      refine (frame.post_attempt post model).attemptBind fun answer expected => ?_
      cases answer with
      | ok response => exact (Keeps.when fun _ => frame.step (.record_success model) breaker).bind fun _ => keeps_result
      | error e =>
          cases e with
          | http error =>
              refine (Keeps.when fun _ => frame.step (.record_failure model) breaker).bind fun _ => ?_
              exact Keeps.ite (fun _ => keeps_raise (expected _ rfl)) fun _ => ih _
          | _ => exact keeps_raise (expected _ rfl)

theorem record_failed (traffic : quiet .traffic) (failed_models : List String) :
    (record_failed failed_models).Keeps P R X := by
  induction failed_models with
  | nil => exact keeps_result
  | cons model rest ih => exact (frame.step (.record_request model false false) traffic).bind fun _ => ih

theorem schedule_shadow (record : quiet .record) (selection : Selection) (model : String) :
    (schedule_shadow G selection model).Keeps P R X := by
  unfold Chat.schedule_shadow
  cases shadow_target G selection model with
  | none => exact keeps_result
  | some shadow => exact frame.step (.schedule_shadow_traffic shadow) record

/-! The streaming path up to the response. -/

theorem stream_fallback (stream : quiet .stream) (traffic : quiet .traffic) (model : String)
    (fallback_model : Option String) (status_code : ℕ) :
    (stream_fallback G model fallback_model status_code).Keeps P R X := by
  unfold Chat.stream_fallback
  cases fallback_model.filter fun model => (target_of G (some model)).isSome with
  | none => exact keeps_result
  | some fallback =>
      refine Keeps.ite (fun _ => ?_) fun _ => keeps_result
      refine (frame.step .aclose stream).bind fun _ => ?_
      refine (frame.step (.record_request model false false) traffic).bind fun _ => ?_
      refine (frame.setModel fallback).bind fun _ => ?_
      refine (frame.step (.build_request fallback) stream).bind fun _ => ?_
      exact (frame.step (.send fallback) stream).bind fun _ => keeps_result

/-! Where the assertion says nothing of the reservation. -/

variable (blind : ∀ l g reservation, R l g → R { l with reservation := reservation } g)
include blind

theorem mark_executed (execute : quiet .execute) : mark_executed.Keeps P R X := by
  refine keeps_locals.bind fun l => ?_
  cases l.reservation with
  | none => exact keeps_result
  | some reservation =>
      exact (keeps_change fun l g kept => blind l g _ kept).bind fun _ => frame.step .mark_executed execute

theorem reserve_budget (reserve : quiet .reserve) (model : String) (input_tokens output_tokens : ℤ) :
    (reserve_budget model input_tokens output_tokens).Keeps P R X :=
  (frame.step (.reserve_inference_budget _ _ _) reserve).bind fun _ => keeps_change fun l g kept => blind l g _ kept

theorem settle_once (settle : quiet .settle) (how : Settlement) : (settle_once how).Keeps P R X :=
  settle_once_keeps blind fun micros => frame.step (.settle how micros) settle

theorem abandon (settle : quiet .settle) : abandon.Keeps P R X :=
  abandon_keeps blind fun how micros => frame.step (.settle how micros) settle

theorem forward (execute : quiet .execute) (breaker : quiet .breaker) (retry : quiet .retry) (post : quiet .post)
    (traffic : quiet .traffic) (selection : Selection) (model : String) :
    (forward G selection model).Keeps P R X := by
  refine (frame.mark_executed blind execute).bind fun _ => ?_
  refine (frame.attempts G breaker retry post [] _).bind fun completion => ?_
  refine (frame.record_failed traffic _).bind fun _ => ?_
  exact (frame.step (.record_request _ true _) traffic).bind fun _ => keeps_result

theorem open_stream (execute : quiet .execute) (stream : quiet .stream) (traffic : quiet .traffic)
    (record : quiet .record) (quota_reservation : Bool) (selection : Selection) (model : String) :
    (open_stream G quota_reservation selection model).Keeps P R X := by
  refine (frame.step (.build_request model) stream).bind fun _ => ?_
  refine (frame.mark_executed blind execute).bind fun _ => ?_
  refine (frame.step (.send model) stream).bind fun status_code => ?_
  refine (frame.stream_fallback G stream traffic model selection.fallback_model status_code).bind fun opened => ?_
  obtain ⟨status_code, selected_model, fallback_used⟩ := opened
  refine (frame.lift fun e raised => raise_for_status_error raised).bind fun _ => ?_
  refine (frame.schedule_shadow G record selection model).bind fun _ => ?_
  exact (frame.step .streaming_response stream).bind fun _ => keeps_result

theorem upstream_error (traffic : quiet .traffic) (settle : quiet .settle) (health : quiet .health)
    (record : quiet .record) (error : Exc) : (upstream_error error).Keeps P R X := by
  refine keeps_locals.bind fun l => ?_
  refine (frame.step (.record_request l.model false false) traffic).bind fun _ => ?_
  refine (Keeps.ite (fun _ => frame.settle_once blind settle _) fun _ => frame.settle_once blind settle _).bind
    fun _ => ?_
  refine (frame.step (.routing_signal l.model) health).bind fun _ => ?_
  exact (frame.step (.record_decision l.model .upstream_error) record).bind fun _ => frame.raise (by decide)

end Frame

/-! Where the assertion says nothing of the lease. -/
namespace Frame
variable (frame : Frame P R X quiet) (G : Gateway)
  (blindLease : ∀ l g lease, R l g → R { l with lease := lease } g)
include frame

theorem controller_release (lease : quiet .lease) (mode : AdmissionMode) :
    (controller_release mode).Keeps P R X := by
  have onSemaphore : (do call .lease_semaphore_release; call .lease_leave : Handler Unit).Keeps P R X :=
    (frame.step .lease_semaphore_release lease).bind fun _ => frame.step .lease_leave lease
  cases mode with
  | local_ => exact onSemaphore
  | degraded => exact onSemaphore
  | fail_open => exact keeps_result
  | redis =>
      refine handled ?_ fun _ _ => keeps_result
      refine (frame.step .lease_evict lease).bind fun _ => ?_
      exact (frame.step .lease_leave lease).bind fun _ => frame.step .lease_count lease

theorem global_release (global : quiet .global) : global_release.Keeps P R X :=
  (frame.step .semaphore_release global).bind fun _ => frame.step .global_leave global

theorem global_acquire (global : quiet .global) : global_acquire.Keeps P R X := by
  refine (frame.step .global_enqueue global).bind fun _ => ?_
  refine (frame.step .semaphore_acquire global).attemptBind fun acquired expected => ?_
  exact (frame.step (.global_dequeue acquired.isOk) global).bind fun _ => keeps_lift expected

include blindLease

theorem lease_release (lease : quiet .lease) : lease_release.Keeps P R X := by
  refine keeps_locals.bind fun l => ?_
  cases l.lease with
  | none => exact keeps_result
  | some held =>
      refine Keeps.ite (fun _ => keeps_result) fun _ => ?_
      exact (keeps_change fun l g kept => blindLease l g _ kept).bind fun _ => frame.controller_release lease held.mode

theorem release_slots (global : quiet .global) (lease : quiet .lease) : (release_slots G).Keeps P R X :=
  (frame.lease_release blindLease lease).bind fun _ => Keeps.when fun _ => frame.global_release global

theorem acquire_lease (global : quiet .global) (lease : quiet .lease) (requested_model : Value) :
    (acquire_lease G requested_model).Keeps P R X := by
  refine (handled (frame.step (.acquire_lease _) lease) fun e expected => ?_).bind fun mode =>
    keeps_change fun l g kept => blindLease l g _ kept
  exact (Keeps.when fun _ => frame.global_release global).bind fun _ => keeps_raise expected

end Frame

/-! Where the assertion says nothing of either, and every kind of step but those on the breaker is quiet. -/
namespace Frame
variable (frame : Frame P R X quiet) (G : Gateway)
  (blind : ∀ l g reservation, R l g → R { l with reservation := reservation } g)
  (blindLease : ∀ l g lease, R l g → R { l with lease := lease } g)
  (quietly : ∀ kind, kind ∉ [.breaker, .reserve] → quiet kind)
include frame quietly

theorem estimate_spend (estimate_model : String) (input_tokens output_tokens : ℤ) :
    (estimate_spend G estimate_model input_tokens output_tokens).Keeps P R X := by
  unfold Chat.estimate_spend
  cases G.target estimate_model with
  | none => exact keeps_result
  | some target => exact frame.step (.estimated_spend _ _ _) (quietly .quota (by decide))

include blind

theorem book_stream (stream : Stream) (observed : StreamObservation) :
    (book_stream G stream observed).Keeps P R X := by
  have priced : (stream_cost G stream observed.usage).Keeps P R X := by
    unfold stream_cost
    cases observed.usage with
    | none => exact keeps_result
    | some usage =>
        cases G.target stream.selected_model with
        | none => exact keeps_result
        | some target => exact frame.step (.request_cost _ _) (quietly .cost (by decide))
  refine (frame.step (.record_request _ _ _) (quietly .traffic (by decide))).bind fun _ => ?_
  refine priced.bind fun spend_usd => ?_
  refine (frame.reconcile_quota (quietly .quota (by decide)) _ _ _).bind fun _ => ?_
  refine (frame.settle_once blind (quietly .settle (by decide)) _).bind fun _ => ?_
  refine (frame.step (.routing_signal _) (quietly .health (by decide))).bind fun _ => ?_
  refine (frame.step (.record_decision _ _) (quietly .record (by decide))).bind fun _ => ?_
  exact Keeps.when fun _ => frame.step (.emit _) (quietly .record (by decide))

include blindLease

theorem complete (quota_reservation : Bool) (selection : Selection) (selected : String) (completion : Completion) :
    (complete G quota_reservation selection selected completion).Keeps P R X := by
  refine (frame.lift fun e raised => json_error raised).bind fun content => ?_
  refine (frame.step (.routing_signal _) (quietly .health (by decide))).bind fun signal => ?_
  refine (frame.lift fun e raised => asDict_error raised).bind fun entries => ?_
  refine (frame.step (.request_cost _ _) (quietly .cost (by decide))).bind fun cost => ?_
  refine (frame.reconcile_quota (quietly .quota (by decide)) _ _ _).bind fun _ => ?_
  refine (frame.settle_once blind (quietly .settle (by decide)) _).bind fun _ => ?_
  refine (frame.schedule_shadow G (quietly .record (by decide)) _ _).bind fun _ => ?_
  refine (frame.step (.record_decision _ _) (quietly .record (by decide))).bind fun _ => ?_
  refine (Keeps.when fun _ => frame.step .submit_evaluation (quietly .record (by decide))).bind fun _ => ?_
  refine (Keeps.when fun _ => frame.step (.emit _) (quietly .record (by decide))).bind fun _ => ?_
  refine (frame.release_slots G blindLease (quietly .global (by decide)) (quietly .lease (by decide))).bind fun _ => ?_
  exact (frame.step (.json_response _) (quietly .reply (by decide))).bind fun _ => keeps_result

/-- From the selected backend on, the breaker included. -/
theorem dispatch (breaker : quiet .breaker) (quota_reservation stream : Bool) (selection : Selection) :
    (dispatch G quota_reservation stream selection).Keeps P R X := by
  have traffic := quietly .traffic (by decide)
  have settle := quietly .settle (by decide)
  have execute := quietly .execute (by decide)
  have record := quietly .record (by decide)
  unfold Chat.dispatch
  cases selection.model.filter fun model => (G.target model).isSome with
  | none => exact (frame.settle_once blind settle _).bind fun _ => frame.raise (by decide)
  | some model =>
      refine (frame.setModel model).bind fun _ => ?_
      refine (handled (Keeps.ite (fun _ => ?_) fun _ => ?_) fun e _ => ?_).bind fun upstream => ?_
      · exact frame.open_stream G blind execute (quietly .stream (by decide)) traffic record quota_reservation selection
          model
      · exact frame.forward G blind execute breaker (quietly .retry (by decide)) (quietly .post (by decide)) traffic
          selection model
      · exact frame.upstream_error blind traffic settle (quietly .health (by decide)) record e
      · cases upstream with
        | streaming stream => exact keeps_result
        | answered completion =>
            exact frame.complete G blind blindLease quietly quota_reservation selection model completion

theorem observe_upstream_stream (expected : X .cancelled) (stream : Stream) :
    (observe_upstream_stream G stream).Keeps P R X := by
  have slots := frame.release_slots G blindLease (quietly .global (by decide)) (quietly .lease (by decide))
  refine (frame.step .relay (quietly .reply (by decide))).bind fun relay => ?_
  refine (Keeps.finishing (Keeps.finishing (frame.book_stream G blind quietly stream _) ?_)
    (frame.step .aclose (quietly .stream (by decide)))).bind fun _ => ?_
  · exact (frame.settle_once blind (quietly .settle (by decide)) _).bind fun _ => slots
  · cases relay.error with
    | none => exact keeps_result
    | some e =>
        by_cases cancelled : e = .cancelled
        · rw [cancelled]
          exact keeps_raise expected
        · exact frame.raise cancelled

/-- The whole request, when its admitted part keeps the assertion too. -/
theorem serve (expected : X .cancelled) (request_id : String) (admitted : ∀ payload requested_model,
    (chat_completions_admitted G request_id payload requested_model).Keeps P R X) :
    (serve G request_id).Keeps P R X := by
  have slots := frame.release_slots G blindLease (quietly .global (by decide)) (quietly .lease (by decide))
  have completions : (chat_completions G request_id).Keeps P R X := by
    refine (frame.read_body (quietly .body (by decide))).bind fun payload => ?_
    refine (frame.check_tenant G (quietly .tenant (by decide)) _).bind fun key => ?_
    refine (frame.step .reject_if_draining (quietly .tenant (by decide))).bind fun _ => ?_
    refine (Keeps.when fun _ => frame.global_acquire (quietly .global (by decide))).bind fun _ => ?_
    refine (Keeps.when fun _ => frame.acquire_lease G blindLease (quietly .global (by decide))
      (quietly .lease (by decide)) _).bind fun _ => ?_
    refine handled (admitted payload key) fun e listed => ?_
    refine (frame.abandon blind (quietly .settle (by decide))).bind fun _ => ?_
    exact slots.bind fun _ => keeps_raise listed
  refine completions.bind fun reply => ?_
  cases reply with
  | json content => exact keeps_result
  | stream stream =>
      refine (frame.step .start_body (quietly .reply (by decide))).bind fun started => ?_
      exact Keeps.ite (fun _ => frame.observe_upstream_stream G blind blindLease quietly expected stream)
        fun _ => keeps_result

end Frame

end RuntimePlatform.Chat
