import RuntimePlatform.Chat.Choice
import RuntimePlatform.Chat.Slots

/-!
What a request has passed before a backend is called for it: the policy of its tenant, the drain, the global slot, the
lease, the reservations of budget and quota, and the Control Plane; and which backends it can be sent to.
-/

namespace RuntimePlatform.Chat
open Python Coroutine Coroutine.Session

/-- What one request has been granted so far. -/
structure Clearance where
  /-- The `model` of the body. -/
  requested : Value
  /-- What the policy of the tenant allows: whether it is a route, and its name. -/
  granted : Option (Bool × String)
  undrained : Bool
  slot : Bool
  lease : Bool
  /-- What the guard has answered when it was asked for a reservation. -/
  reserved : Option (Option ℤ)
  executed : Bool
  settled : Bool
  quota : Bool
  governed : Bool
  /-- The backend which the breaker has let through last. -/
  admitted : Option Model

namespace Clearance

def start : Clearance := ⟨.none, none, false, false, false, none, false, false, false, false, none⟩

def next (g : Clearance) : (op : Op) → op.Ans → Clearance
  | .request_json, .ok (.dict payload) => { g with requested := Entries.orNone payload "model" }
  | .route_allowed route, .ok true => { g with granted := some (true, route) }
  | .model_allowed model, .ok true => { g with granted := some (false, model) }
  | .reject_if_draining, .ok _ => { g with undrained := true }
  | .semaphore_acquire, .ok _ => { g with slot := true }
  | .semaphore_release, _ => { g with slot := false }
  | .acquire_lease _, .ok _ => { g with lease := true }
  | .lease_semaphore_release, _ | .lease_evict, _ => { g with lease := false }
  | .reserve_inference_budget _ _ _, .ok reserved => { g with reserved := some reserved }
  | .mark_executed, _ => { g with executed := true }
  | .settle _ _, _ => { g with settled := true }
  | .reserve_request _ _ _, .ok _ => { g with quota := true }
  | .refund_reservation, _ => { g with quota := false }
  | .enforce_governance, .ok _ => { g with governed := true }
  | .allow model, .ok allowed => { g with admitted := if allowed then some model else none }
  | _, _ => g

/-- The clearance after some steps of a request. -/
def after (steps : List (Prog.Event Op Op.Ans)) : Clearance := steps.foldl (fun g e => g.next e.1 e.2) start

end Clearance

/-- The request asks for this name, its tenant may use it, and whatever the gateway has of the other checks has let the
request through and is still held. -/
structure Cleared (G : Gateway) (g : Clearance) (name : String) : Prop where
  requested : g.requested = .str name
  granted : g.granted = some ((G.route name).isSome, name)
  undrained : g.undrained = true
  slot : G.has_global_admission = true → g.slot = true
  lease : G.has_admission = true → g.lease = true
  reserved : g.reserved.isSome = true
  quota : G.has_tenant_store = true → g.quota = true
  governed : G.governance_active = true → g.governed = true

/-- A reservation which has been made is marked as executed, and not settled yet. -/
def Clearance.Charged (g : Clearance) : Prop :=
  ∀ micros, g.reserved = some (some micros) → g.executed = true ∧ g.settled = false

/-- What is asked of a call: nothing of a call which reaches no backend. -/
def Clearance.Permits (G : Gateway) (g : Clearance) : Op → Prop
  | .post model => ∃ name, Cleared G g name ∧ g.Charged ∧ G.Serves name model ∧
      (G.has_circuit_breaker = true → g.admitted = some (some model))
  | .send model => ∃ name, Cleared G g name ∧ g.Charged ∧ G.Serves name model
  | .schedule_shadow_traffic model => ∃ name, Cleared G g name ∧ G.Serves name model
  | _ => True

def mediation (G : Gateway) : Protocol Unit Op Op.Ans Clearance where
  start := .start
  next _ := Clearance.next
  known _ := True
  must := Clearance.Permits G
  may _ _ _ _ := True

namespace Mediation
open Choice
variable {G : Gateway} {l : Locals} {g : Clearance} {op : Op}

theorem lenient (g : Clearance) (op : Op) (closing : Closing op) : Clearance.Permits G g op := by
  cases op with
  | post | send | schedule_shadow_traffic => exact absurd closing id
  | _ => trivial

/-! Steps which leave a clearance as it is. -/

/-- Kinds of steps which grant nothing and take nothing away, but for the answer of the breaker. -/
def Aside (kind : Kind) : Prop := kind ∈ [.health, .breaker, .retry, .traffic, .cost, .reply]

instance (kind : Kind) : Decidable (Aside kind) := inferInstanceAs (Decidable (_ ∈ _))

theorem next_aside (aside : Aside op.kind) (answer : op.Ans) :
    ∃ admitted, g.next op answer = { g with admitted := admitted } := by
  cases op with
  | allow model =>
      cases answer with
      | ok allowed => exact ⟨_, rfl⟩
      | error e => exact ⟨g.admitted, rfl⟩
  | meets_score | routing_signal | record_success | record_failure | consume | record_request | request_cost
  | json_response | start_body | relay => exact ⟨g.admitted, rfl⟩
  | _ => simp [Aside, Op.kind] at aside

theorem permits_aside (aside : Aside op.kind) : Clearance.Permits G g op := by
  cases op with
  | post => exact absurd aside (by decide : ¬ Aside .post)
  | send => exact absurd aside (by decide : ¬ Aside .stream)
  | schedule_shadow_traffic => exact absurd aside (by decide : ¬ Aside .record)
  | _ => trivial

/-- An assertion which neither the variable `model` nor the answer of the breaker matters to. -/
structure Blind (R : Locals → Clearance → Prop) : Prop where
  model : ∀ l g model, R l g → R { l with model := model } g
  admitted : ∀ l g admitted, R l g → R l { g with admitted := admitted }

theorem aside_frame {R : Locals → Clearance → Prop} (blind : Blind R) :
    Frame (mediation G) R (fun _ => True) Aside where
  step op aside := by
    apply keeps_perform
    intro l g holds
    refine ⟨permits_aside aside, fun _ answer _ _ => ⟨?_, fun _ _ => trivial⟩⟩
    obtain ⟨admitted, same⟩ := next_aside (g := g) aside answer
    change R l (g.next op answer)
    rw [same]
    exact blind.admitted l g admitted holds
  expected _ _ := trivial
  model := blind.model

/-! From the body to the lease. -/

/-- What is known of a clearance when the tenant has been checked, by the key of the requested model. -/
structure Asked (G : Gateway) (key : Model) (g : Clearance) : Prop where
  requested : ∀ name, key = some name → g.requested = .str name
  granted : ∀ name, key = some name → g.granted = some ((G.route name).isSome, name)
  unsettled : g.settled = false

theorem read_body_gives :
    read_body.Meets (mediation G) l .start
      (Gives fun payload _ g => g = { Clearance.start with requested := payload.orNone "model" }) := by
  apply gives_bind (Q := fun payload _ g => ∀ entries, payload = .dict entries →
    g = { Clearance.start with requested := Entries.orNone entries "model" })
  · apply gives_catching _ (fun _ _ => trivial : ∀ (_ : Locals) (_ : Clearance), True) fun _ => raises_raise
    apply call_gives .request_json trivial
    intro _ payload entries same
    rw [same]
    rfl
  · intro payload l g read
    cases payload with
    | dict entries => exact read entries rfl
    | _ => trivial

theorem hashed_str {v : Value} {name : String} (key : hashed v = .ok (some name)) : v = .str name := by
  cases v with
  | str s =>
      cases key
      rfl
  | _ => cases key

theorem named_str (name : String) : named G (.str name) "" = name := by
  unfold named
  by_cases empty : name = ""
  · simp [Value.truthy, empty]
  · simp [Value.truthy, empty, Text.str]

theorem check_tenant_gives {requested_model : Value}
    (read : g = { Clearance.start with requested := requested_model }) :
    (check_tenant G requested_model).Meets (mediation G) l g (Gives fun key _ g => Asked G key g) := by
  apply gives_bind (call_gives .resolve_tenant_id trivial fun _ _ => rfl :
    (call .resolve_tenant_id).Meets (mediation G) l g (Gives fun _ _ g' => g' = g))
  intro _ l g same
  cases same
  apply gives_bind (call_gives .load_tenant_policy_bundle trivial fun _ _ => rfl :
    (call .load_tenant_policy_bundle).Meets (mediation G) l g (Gives fun _ _ g' => g' = g))
  intro _ l g same
  cases same
  apply gives_bind (Q := fun key _ g' => hashed requested_model = .ok key ∧ g' = g)
  · apply meets_lift.mpr
    cases hashed requested_model with
    | ok key => exact ⟨rfl, rfl⟩
    | error e => trivial
  · rintro key l g ⟨known, rfl⟩
    apply gives_bind (Q := fun allowed _ g => allowed = true → Asked G key g)
    · by_cases routed : (key.bind G.route).isSome = true
      · rw [if_pos routed]
        apply call_gives (.route_allowed _) trivial
        intro _ allowed yes
        rw [yes, read]
        refine ⟨fun name same => ?_, fun name same => ?_, rfl⟩
        · rw [same] at known
          exact hashed_str known
        · rw [same] at known routed
          rw [hashed_str known]
          have exists_ : (G.route name).isSome = true := routed
          simp only [mediation, Clearance.next, Text.str, exists_]
      · rw [if_neg routed]
        apply call_gives (.model_allowed _) trivial
        intro _ allowed yes
        rw [yes, read]
        refine ⟨fun name same => ?_, fun name same => ?_, rfl⟩
        · rw [same] at known
          exact hashed_str known
        · rw [same] at known routed
          rw [hashed_str known]
          have missing : (G.route name).isSome = false := Bool.eq_false_iff.mpr routed
          simp only [mediation, Clearance.next, named_str, missing]
    · intro allowed l g asked
      cases allowed with
      | true => exact asked rfl
      | false => trivial

/-- The tenant has been checked, and the request holds the slots which the gateway gives out. -/
structure Entered (G : Gateway) (key : Model) (g : Clearance) : Prop extends Asked G key g where
  undrained : g.undrained = true
  slot : G.has_global_admission = true → g.slot = true
  lease : G.has_admission = true → g.lease = true

theorem global_acquire_gives :
    global_acquire.Meets (mediation G) l g (Gives fun _ _ g' => g' = { g with slot := true }) := by
  apply gives_bind (call_gives .global_enqueue trivial fun _ _ => rfl : (call .global_enqueue).Meets (mediation G) l g
    (Gives fun _ _ g' => g' = g))
  intro _ l g same
  cases same
  rw [meets_bind, meets_attempt]
  apply meets_perform.mpr
  refine ⟨trivial, fun _ acquired _ _ => ?_⟩
  rw [after_ok]
  apply gives_bind (call_gives (.global_dequeue acquired.isOk) trivial fun _ _ => rfl :
    (call (.global_dequeue acquired.isOk)).Meets (mediation G) l _
      (Gives fun _ _ g' => g' = g.next .semaphore_acquire acquired))
  intro _ l g same
  cases same
  cases acquired with
  | ok _ => exact rfl
  | error e => trivial

theorem acquire_lease_gives {requested_model : Value} :
    (acquire_lease G requested_model).Meets (mediation G) l g (Gives fun _ _ g' => g' = { g with lease := true }) := by
  apply gives_bind (Q := fun _ _ g' => g' = { g with lease := true })
  · apply gives_catching _ (fun _ _ => trivial : ∀ (_ : Locals) (_ : Clearance), True)
    · intro e
      have released : Free (mediation G) (when G.has_global_admission global_release) :=
        Keeps.when fun _ => (free_frame lenient).global_release (by decide : Elsewhere .global)
      exact released.bindRaises fun _ => raises_raise
    · exact call_gives (.acquire_lease _) trivial fun _ _ => rfl
  · intro mode l' g' same
    exact same

/-! The reservations, the Control Plane and the choice of a backend. -/

/-- A reservation has been asked for, and what the handler holds is what the guard has answered. -/
structure Funded (G : Gateway) (key : Model) (l : Locals) (g : Clearance) : Prop extends Entered G key g where
  reserved : g.reserved = some (l.reservation.map Reservation.reserved_micros)
  quota : G.has_tenant_store = true → g.quota = true

theorem reserve_budget_gives {key : Model} {model : String} {input_tokens output_tokens : ℤ} (entered : Entered G key g) :
    (reserve_budget model input_tokens output_tokens).Meets (mediation G) l g (Gives fun _ l g =>
      Entered G key g ∧ g.reserved = some (l.reservation.map Reservation.reserved_micros)) := by
  apply gives_bind (call_gives (.reserve_inference_budget model input_tokens output_tokens) trivial fun _ reserved => rfl :
    (call (.reserve_inference_budget model input_tokens output_tokens)).Meets (mediation G) l g
      (Gives fun reserved _ g' => g' = { g with reserved := some reserved }))
  intro reserved l g' same
  cases same
  apply meets_change.mpr
  refine ⟨⟨⟨entered.requested, entered.granted, entered.unsettled⟩, entered.undrained, entered.slot, entered.lease⟩, ?_⟩
  cases reserved with
  | none => rfl
  | some micros => rfl

/-- Whatever the gateway has been set up to ask has let the request through. -/
structure Ready (G : Gateway) (key : Model) (l : Locals) (g : Clearance) : Prop extends Funded G key l g where
  governed : G.governance_active = true → g.governed = true

theorem ready_blind {key : Model} : Blind (Ready G key) where
  model _ _ _ ready := ⟨⟨ready.toEntered, ready.reserved, ready.quota⟩, ready.governed⟩
  admitted _ _ _ ready := ⟨⟨⟨⟨ready.requested, ready.granted, ready.unsettled⟩, ready.undrained, ready.slot, ready.lease⟩,
    ready.reserved, ready.quota⟩, ready.governed⟩

theorem govern_and_select_gives {key : Model} (funded : Funded G key l g) (request_id : String) :
    (govern_and_select G request_id key).Meets (mediation G) l g
      (Gives fun chosen l g => Ready G key l g ∧ Chosen G key chosen) := by
  apply gives_bind (Q := fun _ l g => Ready G key l g)
  · cases active : G.governance_active with
    | false => exact ⟨funded, fun on => absurd (active.symm.trans on) (by decide)⟩
    | true =>
        apply gives_bind (Q := fun _ l g => Ready G key l g)
        · apply gives_catching _ (fun _ _ => trivial : ∀ (_ : Locals) (_ : Clearance), True)
          · intro e
            have refunded : Free (mediation G) (refund_quota G.has_tenant_store) :=
              (free_frame lenient).refund_quota (by decide : Elsewhere .quota) _
            exact refunded.bindRaises fun _ => raises_raise
          · apply call_gives .enforce_governance trivial
            intro _ _
            exact ⟨⟨⟨⟨funded.requested, funded.granted, funded.unsettled⟩, funded.undrained, funded.slot, funded.lease⟩,
              funded.reserved, funded.quota⟩, fun _ => rfl⟩
        · intro _ l g ready
          cases G.has_runtime_config with
          | false => exact ready
          | true => exact call_gives .observe_policy trivial fun _ _ => ready
  · intro _ l g ready
    exact select_backend_gives (aside_frame ready_blind) (by decide : Aside .breaker) (by decide : Aside .health) ready
      request_id key

/-! The calls to a backend. -/

/-- A backend which the name stands for can be called. -/
def Sendable (G : Gateway) (name : String) (_ : Locals) (g : Clearance) : Prop := Cleared G g name ∧ g.Charged

theorem Ready.cleared {key : Model} (ready : Ready G key l g) {name : String} (named : key = some name) :
    Cleared G g name where
  requested := ready.requested name named
  granted := ready.granted name named
  undrained := ready.undrained
  slot := ready.slot
  lease := ready.lease
  reserved := by
    rw [ready.reserved]
    rfl
  quota := ready.quota
  governed := ready.governed

theorem sendable_blind {name : String} : Blind (Sendable G name) where
  model _ _ _ := id
  admitted _ _ _ sendable := by
    obtain ⟨cleared, charged⟩ := sendable
    exact ⟨⟨cleared.requested, cleared.granted, cleared.undrained, cleared.slot, cleared.lease, cleared.reserved,
      cleared.quota, cleared.governed⟩, charged⟩

theorem mark_executed_gives {key : Model} (ready : Ready G key l g) {name : String} (named : key = some name) :
    mark_executed.Meets (mediation G) l g (Gives fun _ => Sendable G name) := by
  have cleared := ready.cleared named
  apply gives_bind (meets_locals.mpr ⟨rfl, rfl⟩ : (locals : Handler Locals).Meets (mediation G) l g
    (Gives fun l₀ l' g' => l₀ = l ∧ g' = g))
  rintro l₀ l' g' ⟨rfl, rfl⟩
  cases held : l₀.reservation with
  | none =>
      refine ⟨cleared, fun micros reserved => ?_⟩
      rw [ready.reserved, held] at reserved
      cases reserved
  | some reservation =>
      apply gives_bind (meets_change.mpr rfl : (change fun l => { l with reservation := some _ } : Handler Unit).Meets
        (mediation G) l' g' (Gives fun _ _ g => g = g'))
      intro _ l g same
      cases same
      apply call_gives .mark_executed trivial
      intro _ _
      exact ⟨⟨cleared.requested, cleared.granted, cleared.undrained, cleared.slot, cleared.lease, cleared.reserved,
        cleared.quota, cleared.governed⟩, fun _ _ => ⟨rfl, ready.unsettled⟩⟩

theorem circuit_allows_meets {name : String} (sendable : Sendable G name l g) (model : Model) :
    (circuit_allows G model).Meets (mediation G) l g fun r l g => Sendable G name l g ∧
      (r = .ok true → G.has_circuit_breaker = true → g.admitted = some model) := by
  unfold circuit_allows
  cases breaker : G.has_circuit_breaker with
  | false => exact ⟨sendable, fun _ on => (nomatch on)⟩
  | true =>
      apply meets_perform.mpr
      refine ⟨trivial, fun _ answer _ _ => ?_⟩
      cases answer with
      | error e => exact ⟨sendable, fun same => (nomatch same)⟩
      | ok allowed =>
          refine ⟨sendable_blind.admitted l g _ sendable, fun same _ => ?_⟩
          cases same
          rfl

theorem post_attempt_meets {name model : String} (sendable : Sendable G name l g) (serves : G.Serves name model)
    (admitted : G.has_circuit_breaker = true → g.admitted = some (some model)) :
    (post_attempt model).Meets (mediation G) l g fun _ => Sendable G name := by
  apply meets_bind.mpr
  apply meets_perform.mpr
  refine ⟨⟨name, sendable.1, sendable.2, serves, admitted⟩, fun _ answer _ _ => ?_⟩
  cases answer with
  | error e => exact sendable
  | ok response =>
      rw [after_ok]
      apply meets_bind.mpr
      apply meets_lift.mpr
      cases raise_for_status response.status_code with
      | ok _ => exact sendable
      | error e => exact sendable

/-- Every attempt is made at a backend which the requested name stands for, and which the breaker has let through. -/
theorem attempts_keeps {name : String} (listed : List (String × Bool))
    (serves : ∀ entry ∈ listed, G.Serves name entry.1) (failed_models : List String) :
    (attempts G failed_models listed).Keeps (mediation G) (Sendable G name) fun _ => True := by
  have frame : Frame (mediation G) (Sendable G name) (fun _ => True) Aside := aside_frame sendable_blind
  induction listed generalizing failed_models with
  | nil => exact keeps_raise trivial
  | cons first rest ih =>
      obtain ⟨model, fallback_used⟩ := first
      have later := ih fun entry member => serves entry (List.mem_cons_of_mem _ member)
      intro l g sendable
      apply meets_bind.mpr
      apply (circuit_allows_meets sendable (some model)).mono
      intro r l g allowed
      cases r with
      | error e => exact ⟨allowed.1, fun _ _ => trivial⟩
      | ok admitted =>
          rw [after_ok]
          cases admitted with
          | false => exact Keeps.ite (fun _ => keeps_raise trivial) (fun _ => later _) l g allowed.1
          | true =>
              -- the retry budget leaves the answer of the breaker as it is
              have retry : (consume_retry G fallback_used).Keeps (mediation G)
                  (fun l g => Sendable G name l g ∧ (G.has_circuit_breaker = true → g.admitted = some (some model)))
                  fun _ => True := by
                apply Keeps.ite
                · intro _
                  exact keeps_perform fun l g holds => ⟨trivial, fun _ _ _ _ => ⟨holds, fun _ _ => trivial⟩⟩
                · intro _
                  exact keeps_result
              apply retry.bindMeets ⟨allowed.1, allowed.2 rfl⟩
              · intro e l g holds _
                exact ⟨holds.1, fun _ _ => trivial⟩
              · intro retried l g holds
                cases retried with
                | false => exact ⟨holds.1, fun _ _ => trivial⟩
                | true =>
                    apply meets_bind.mpr
                    apply meets_attempt.mpr
                    apply (post_attempt_meets holds.1 (serves _ List.mem_cons_self) holds.2).mono
                    intro answer l g sendable
                    cases answer with
                    | ok response =>
                        have recorded : (when G.has_circuit_breaker (call (.record_success model))).Keeps (mediation G)
                            (Sendable G name) fun _ => True :=
                          Keeps.when fun _ => frame.step (.record_success model) (by decide : Aside .breaker)
                        exact (recorded.bind fun _ => keeps_result) l g sendable
                    | error e =>
                        have recorded : (when G.has_circuit_breaker (call (.record_failure model))).Keeps (mediation G)
                            (Sendable G name) fun _ => True :=
                          Keeps.when fun _ => frame.step (.record_failure model) (by decide : Aside .breaker)
                        cases e with
                        | http error =>
                            exact (recorded.bind fun _ => Keeps.ite (fun _ => keeps_raise trivial) fun _ => later _)
                              l g sendable
                        | _ => exact ⟨sendable, fun _ _ => trivial⟩

/-- The shadow is another backend of the requested route. -/
theorem shadow_serves {key : Model} {selection : Selection} (chosen : Chosen G key selection) {name : String}
    (named : key = some name) {model shadow : String} (scheduled : shadow_target G selection model = some shadow) :
    G.Serves name shadow := by
  obtain ⟨resolved, target⟩ := Option.filter_eq_some_iff.mp scheduled
  refine ⟨?_, target_of_exists target⟩
  obtain ⟨configured, _⟩ := Option.filter_eq_some_iff.mp resolved
  rw [chosen.route, named, Option.bind_some] at configured
  obtain ⟨route, routed, listed⟩ := Option.bind_eq_some_iff.mp configured
  simp only [Gateway.backends, routed]
  exact route.shadow_listed listed

theorem fallback_serves {key : Model} {selection : Selection} (chosen : Chosen G key selection) {name : String}
    (named : key = some name) {fallback : String}
    (listed : selection.fallback_model.filter (fun model => (target_of G (some model)).isSome) = some fallback) :
    G.Serves name fallback := by
  obtain ⟨configured, target⟩ := Option.filter_eq_some_iff.mp listed
  obtain ⟨name', same, member⟩ := chosen.fallback fallback configured
  cases named.symm.trans same
  exact ⟨member, target_of_exists target⟩

theorem schedule_shadow_keeps {key : Model} {selection : Selection} (chosen : Chosen G key selection) {name : String}
    (named : key = some name) (model : String) {R : Locals → Clearance → Prop}
    (cleared : ∀ l g, R l g → Cleared G g name) :
    (schedule_shadow G selection model).Keeps (mediation G) R fun _ => True := by
  unfold schedule_shadow
  cases scheduled : shadow_target G selection model with
  | none => exact keeps_result
  | some shadow =>
      apply keeps_perform
      intro l g holds
      refine ⟨⟨name, cleared l g holds, shadow_serves chosen named scheduled⟩, fun _ answer _ _ =>
        ⟨?_, fun _ _ => trivial⟩⟩
      exact holds

theorem post_completion_with_fallback_keeps {key : Model} {selection : Selection} (chosen : Chosen G key selection)
    {name model : String} (named : key = some name) (serves : G.Serves name model) :
    (post_completion_with_fallback G model selection.fallback_model).Keeps (mediation G) (Sendable G name)
      fun _ => True := by
  apply attempts_keeps
  intro entry member
  rcases List.mem_cons.mp member with rfl | later
  · exact serves
  · obtain ⟨fallback, listed, rfl⟩ := List.mem_map.mp later
    exact fallback_serves chosen named (Option.mem_toList.mp listed)

theorem forward_gives {key : Model} (ready : Ready G key l g) {selection : Selection} (chosen : Chosen G key selection)
    {name model : String} (named : key = some name) (serves : G.Serves name model) :
    (forward G selection model).Meets (mediation G) l g
      (Gives fun upstream _ g => ∀ completion, upstream = .answered completion → Cleared G g name) := by
  have frame : Frame (mediation G) (Sendable G name) (fun _ => True) Aside := aside_frame sendable_blind
  apply gives_bind (mark_executed_gives ready named)
  intro _ l g sendable
  apply gives_bind ((post_completion_with_fallback_keeps chosen named serves).gives sendable)
  intro completion l g sendable
  apply gives_bind ((frame.record_failed (by decide : Aside .traffic) completion.failed_models).gives sendable)
  intro _ l g sendable
  apply gives_bind ((frame.step (.record_request _ true _) (by decide : Aside .traffic)).gives sendable)
  intro _ l g sendable completion _
  exact sendable.1

/-- The second try of a stream is made at the fallback of the requested route. -/
theorem stream_fallback_keeps {key : Model} {selection : Selection} (chosen : Chosen G key selection)
    {name : String} (named : key = some name) (model : String) (status_code : ℕ) :
    (stream_fallback G model selection.fallback_model status_code).Keeps (mediation G) (Sendable G name)
      fun _ => True := by
  have frame : Frame (mediation G) (Sendable G name) (fun _ => True) Aside := aside_frame sendable_blind
  unfold stream_fallback
  cases listed : selection.fallback_model.filter fun model => (target_of G (some model)).isSome with
  | none => exact keeps_result
  | some fallback =>
      have closed : (call .aclose).Keeps (mediation G) (Sendable G name) fun _ => True :=
        keeps_perform fun _ _ holds => ⟨trivial, fun _ _ _ _ => ⟨holds, fun _ _ => trivial⟩⟩
      have built : (call (.build_request fallback)).Keeps (mediation G) (Sendable G name) fun _ => True :=
        keeps_perform fun _ _ holds => ⟨trivial, fun _ _ _ _ => ⟨holds, fun _ _ => trivial⟩⟩
      have sent : (call (.send fallback)).Keeps (mediation G) (Sendable G name) fun _ => True :=
        keeps_perform fun _ _ holds => ⟨⟨name, holds.1, holds.2, fallback_serves chosen named listed⟩,
          fun _ _ _ _ => ⟨holds, fun _ _ => trivial⟩⟩
      apply Keeps.ite
      · intro _
        apply closed.bind
        intro _
        apply (frame.step (.record_request model false false) (by decide : Aside .traffic)).bind
        intro _
        apply (frame.setModel fallback).bind
        intro _
        apply built.bind
        intro _
        apply sent.bind
        intro _
        exact keeps_result
      · intro _
        exact keeps_result

theorem open_stream_gives {key : Model} (ready : Ready G key l g) {selection : Selection} (chosen : Chosen G key selection)
    {name model : String} (named : key = some name) (serves : G.Serves name model) (quota_reservation : Bool) :
    (open_stream G quota_reservation selection model).Meets (mediation G) l g
      (Gives fun upstream _ _ => ∃ stream, upstream = .streaming stream) := by
  apply gives_bind (call_gives (.build_request model) trivial fun _ _ => ⟨rfl, rfl⟩ :
    (call (.build_request model)).Meets (mediation G) l g (Gives fun _ l' g' => l' = l ∧ g' = g))
  rintro _ _ _ ⟨rfl, rfl⟩
  apply gives_bind (mark_executed_gives ready named)
  intro _ l g sendable
  apply gives_bind (call_gives (.send model) ⟨name, sendable.1, sendable.2, serves⟩ fun _ _ => sendable :
    (call (.send model)).Meets (mediation G) l g (Gives fun _ => Sendable G name))
  intro status_code l g sendable
  apply gives_bind ((stream_fallback_keeps chosen named model status_code).gives sendable)
  rintro ⟨status_code, selected_model, fallback_used⟩ l g sendable
  have accepted : (lift (raise_for_status status_code) : Handler Unit).Keeps (mediation G) (Sendable G name)
      fun _ => True := keeps_lift fun _ _ => trivial
  apply gives_bind (accepted.gives sendable)
  intro _ l g sendable
  apply gives_bind ((schedule_shadow_keeps chosen named model fun _ _ holds => holds.1).gives sendable)
  intro _ l g _
  apply gives_bind ((free_call .streaming_response fun _ => trivial).gives trivial)
  intro _ l g _
  exact ⟨_, rfl⟩

theorem cleared_blind {name : String} : Blind fun _ g => Cleared G g name where
  model _ _ _ := id
  admitted _ _ _ cleared := ⟨cleared.requested, cleared.granted, cleared.undrained, cleared.slot, cleared.lease,
    cleared.reserved, cleared.quota, cleared.governed⟩

/-- Once the reservation has been settled, only the shadow is called. -/
theorem complete_gives {key : Model} {selection : Selection} (chosen : Chosen G key selection) {name : String}
    (named : key = some name) (cleared : Cleared G g name) (quota_reservation : Bool) (selected : String)
    (completion : Completion) :
    (complete G quota_reservation selection selected completion).Meets (mediation G) l g (Gives fun _ _ _ => True) := by
  let R : Locals → Clearance → Prop := fun _ g => Cleared G g name
  have frame : Frame (mediation G) R (fun _ => True) Aside := aside_frame cleared_blind
  have read : (lift completion.response.json : Handler Value).Keeps (mediation G) R fun _ => True :=
    keeps_lift fun _ _ => trivial
  have reconciled : ∀ usage spend_usd, (reconcile_quota quota_reservation usage spend_usd).Keeps (mediation G) R
      fun _ => True := by
    intro usage spend_usd
    cases usage with
    | dict entries =>
        apply Keeps.when
        intro _
        exact keeps_perform fun _ _ holds => ⟨trivial, fun _ _ _ _ => ⟨holds, fun _ _ => trivial⟩⟩
    | _ => exact keeps_result
  have settled : ∀ spend_usd, (settle_budget spend_usd).Keeps (mediation G) R fun _ => True := by
    intro spend_usd
    apply settle_once_keeps fun _ _ _ holds => holds
    intro micros
    apply keeps_perform
    intro _ g holds
    exact ⟨trivial, fun _ _ _ _ => ⟨⟨holds.requested, holds.granted, holds.undrained, holds.slot, holds.lease,
      holds.reserved, holds.quota, holds.governed⟩, fun _ _ => trivial⟩⟩
  apply gives_bind (read.gives cleared)
  intro content l g cleared
  apply gives_bind ((frame.step (.routing_signal completion.model) (by decide : Aside .health)).gives cleared)
  intro signal l g cleared
  have parsed : (lift (asDict content) : Handler Entries).Keeps (mediation G) R fun _ => True :=
    keeps_lift fun _ _ => trivial
  apply gives_bind (parsed.gives cleared)
  intro entries l g cleared
  apply gives_bind
    ((frame.step (.request_cost (entries.orNone "usage") completion.model) (by decide : Aside .cost)).gives cleared)
  intro estimated_cost l g cleared
  apply gives_bind ((reconciled (entries.orNone "usage") estimated_cost).gives cleared)
  intro _ l g cleared
  apply gives_bind ((settled estimated_cost).gives cleared)
  intro _ l g cleared
  apply gives_bind ((schedule_shadow_keeps chosen named selected fun _ _ holds => holds).gives cleared)
  intro _ l g _
  apply gives_bind ((free_call (.record_decision completion.model .executed) fun _ => trivial).gives trivial)
  intro _ l g _
  apply gives_bind ((Keeps.when fun _ => free_call .submit_evaluation fun _ => trivial :
    Free (mediation G) (when G.response_evaluation (call .submit_evaluation))).gives trivial)
  intro _ l g _
  apply gives_bind ((Keeps.when fun _ => free_call (.emit completion.model) fun _ => trivial :
    Free (mediation G) (when G.has_usage_events (call (.emit completion.model)))).gives trivial)
  intro _ l g _
  apply gives_bind ((free_slots lenient).gives trivial)
  intro _ l g _
  apply gives_bind ((free_call (.json_response _) fun _ => trivial).gives trivial)
  intro _ l g _
  trivial

theorem dispatch_gives {key : Model} (ready : Ready G key l g) {selection : Selection} (chosen : Chosen G key selection)
    (quota_reservation stream : Bool) :
    (dispatch G quota_reservation stream selection).Meets (mediation G) l g (Gives fun _ _ _ => True) := by
  unfold dispatch
  cases selected : selection.model.filter fun model => (G.target model).isSome with
  | none => exact ((free_settle lenient .release).bind fun _ => keeps_raise trivial).gives trivial
  | some model =>
      obtain ⟨resolved, target⟩ := Option.filter_eq_some_iff.mp selected
      obtain ⟨name, named, listed⟩ := chosen.model model resolved
      have serves : G.Serves name model := ⟨listed, target⟩
      apply gives_bind (meets_change.mpr (ready_blind.model l g model ready) :
        (change fun l => { l with model := model } : Handler Unit).Meets (mediation G) l g
          (Gives fun _ l g => Ready G key l g))
      intro _ l g ready
      apply gives_bind (Q := fun upstream _ g => ∀ completion, upstream = .answered completion → Cleared G g name)
      · apply gives_catching _ (fun _ _ => trivial : ∀ (_ : Locals) (_ : Clearance), True) (upstream_error_raises lenient)
        cases stream with
        | true =>
            apply (open_stream_gives ready chosen named serves quota_reservation).gives
            rintro upstream _ _ ⟨opened, rfl⟩ completion answered
            cases answered
        | false => exact forward_gives ready chosen named serves
      · intro upstream l g cleared
        cases upstream with
        | streaming opened => trivial
        | answered completion =>
            exact complete_gives chosen named (cleared completion rfl) quota_reservation model completion

theorem chat_completions_admitted_gives {key : Model} (entered : Entered G key g) (request_id : String)
    (payload : Entries) : (chat_completions_admitted G request_id payload key).Meets (mediation G) l g
      (Gives fun _ _ _ => True) := by
  unfold chat_completions_admitted
  apply gives_bind (Q := fun _ _ g => Entered G key g)
  · unfold estimate_spend
    cases G.target (named G (payload.orNone "model") "") with
    | none => exact entered
    | some target => exact call_gives (.estimated_spend target _ _) trivial fun _ _ => entered
  · intro spend_usd l g entered
    apply gives_bind (reserve_budget_gives entered)
    rintro _ l g ⟨entered, reserved⟩
    apply gives_bind (Q := fun _ l g => Funded G key l g)
    · cases store : G.has_tenant_store with
      | false => exact ⟨entered, reserved, fun on => absurd (store.symm.trans on) (by decide)⟩
      | true =>
          apply call_gives (.reserve_request _ _ _) trivial
          intro _ _
          exact ⟨⟨⟨entered.requested, entered.granted, entered.unsettled⟩, entered.undrained, entered.slot,
            entered.lease⟩, reserved, fun _ => rfl⟩
    · intro _ l g funded
      apply gives_bind (Q := fun chosen l g => Ready G key l g ∧ Chosen G key chosen)
      · apply gives_catching _ (fun _ _ => trivial : ∀ (_ : Locals) (_ : Clearance), True)
        · intro e
          exact (free_settle lenient .release).bindRaises fun _ => raises_raise
        · exact govern_and_select_gives funded request_id
      · rintro selection l g ⟨ready, chosen⟩
        exact dispatch_gives ready chosen _ _

theorem chat_completions_gives (request_id : String) :
    (chat_completions G request_id).Meets (mediation G) l .start (Gives fun _ _ _ => True) := by
  apply gives_bind read_body_gives
  intro payload l g read
  apply gives_bind (check_tenant_gives read)
  intro key l g asked
  apply gives_bind (call_gives .reject_if_draining trivial fun _ _ =>
    ⟨⟨asked.requested, asked.granted, asked.unsettled⟩, rfl⟩ : (call .reject_if_draining).Meets (mediation G) l g
      (Gives fun _ _ g => Asked G key g ∧ g.undrained = true))
  rintro _ l g ⟨asked, undrained⟩
  apply gives_bind (Q := fun _ _ g => Asked G key g ∧ g.undrained = true ∧
    (G.has_global_admission = true → g.slot = true))
  · apply when_gives
    · intro _
      apply global_acquire_gives.gives
      rintro _ _ _ rfl
      exact ⟨⟨asked.requested, asked.granted, asked.unsettled⟩, undrained, fun _ => rfl⟩
    · intro off
      exact ⟨asked, undrained, fun on => absurd (off.symm.trans on) (by decide)⟩
  · rintro _ l g ⟨asked, undrained, slot⟩
    apply gives_bind (Q := fun _ _ g => Entered G key g)
    · apply when_gives
      · intro _
        apply acquire_lease_gives.gives
        rintro _ _ _ rfl
        exact ⟨⟨asked.requested, asked.granted, asked.unsettled⟩, undrained, slot, fun _ => rfl⟩
      · intro off
        exact ⟨asked, undrained, slot, fun on => absurd (off.symm.trans on) (by decide)⟩
    · intro _ l g entered
      apply gives_catching _ (fun _ _ => trivial : ∀ (_ : Locals) (_ : Clearance), True)
      · intro e
        apply (free_abandon lenient).bindRaises
        intro _
        exact (free_slots lenient).bindRaises fun _ => raises_raise
      · exact chat_completions_admitted_gives entered request_id payload

theorem serve_gives (request_id : String) :
    (serve G request_id).Meets (mediation G) .initial .start (Gives fun _ _ _ => True) := by
  apply gives_bind (chat_completions_gives request_id)
  intro reply l g _
  cases reply with
  | json content => trivial
  | stream stream =>
      apply gives_bind ((free_call .start_body fun _ => trivial).gives trivial)
      intro started l g _
      cases started with
      | true => exact (free_stream lenient stream).gives trivial
      | false => trivial

end Mediation

end RuntimePlatform.Chat
