import RuntimePlatform.Chat.Frames

/-!
The choice of a backend, and the parts of a request which come after every call to one, whatever the protocol.
-/

namespace RuntimePlatform.Chat
open Python Coroutine Coroutine.Session

/-- The backends which a name stands for: those of its route, or the model itself. -/
def Gateway.backends (G : Gateway) (name : String) : List String :=
  match G.route name with
  | some route => route.model_names
  | none => [name]

/-- A configured backend which the name stands for. -/
def Gateway.Serves (G : Gateway) (name model : String) : Prop :=
  model ∈ G.backends name ∧ (G.target model).isSome = true

namespace Choice
variable {σ H α : Type} {P : Protocol σ Op Op.Ans H} {G : Gateway} {l : Locals} {g : H}

theorem call_gives (op : Op) {Q : op.Res → Locals → H → Prop} (owed : P.must g op)
    (returned : ∀ s a, Q a l (P.next s g op (.ok a))) : (call op).Meets P l g (Gives Q) := by
  apply meets_perform.mpr
  refine ⟨owed, fun s answer _ _ => ?_⟩
  cases answer with
  | ok a => exact returned s a
  | error e => trivial

theorem when_gives {c : Bool} {m : Handler Unit} {Q : H → Prop}
    (yes : c = true → m.Meets P l g (Gives fun _ _ => Q)) (no : c = false → Q g) :
    (when c m).Meets P l g (Gives fun _ _ => Q) := by
  cases c with
  | true => exact yes rfl
  | false => exact no rfl

/-! Parts for which nothing is owed. -/

/-- Steps which neither call a backend nor ask whether one may be called again. -/
def Closing : Op → Prop
  | .post _ | .send _ | .schedule_shadow_traffic _ | .consume => False
  | _ => True

/-- The program owes nothing. -/
abbrev Free (P : Protocol σ Op Op.Ans H) (m : Handler α) : Prop := m.Keeps P (fun _ _ => True) fun _ => True

/-- The program owes nothing and always raises. -/
abbrev FreeRaises (P : Protocol σ Op Op.Ans H) (m : Handler α) : Prop := m.Raises P fun _ _ => True

theorem free_call (op : Op) (free : ∀ g, P.must g op) : Free P (call op) :=
  keeps_perform fun _ g _ => ⟨free g, fun _ _ _ _ => ⟨trivial, fun _ _ => trivial⟩⟩

theorem free_lift (x : Except Exc α) : Free P (lift x : Handler α) := keeps_lift fun _ _ => trivial

/-- Every kind of step but those with one which is not closing. -/
def Elsewhere (kind : Kind) : Prop := kind ∉ [.post, .stream, .record, .retry]

instance (kind : Kind) : Decidable (Elsewhere kind) := inferInstanceAs (Decidable (_ ∉ _))

theorem closing_of_elsewhere {op : Op} (elsewhere : Elsewhere op.kind) : Closing op := by
  cases op with
  | post => exact absurd elsewhere (by decide : ¬ Elsewhere .post)
  | send => exact absurd elsewhere (by decide : ¬ Elsewhere .stream)
  | schedule_shadow_traffic => exact absurd elsewhere (by decide : ¬ Elsewhere .record)
  | consume => exact absurd elsewhere (by decide : ¬ Elsewhere .retry)
  | _ => trivial

section Free
variable (lenient : ∀ g op, Closing op → P.must g op)
include lenient

theorem free_frame : Frame P (fun _ _ => True) (fun _ => True) Elsewhere where
  step op elsewhere := free_call op fun g => lenient g op (closing_of_elsewhere elsewhere)
  expected _ _ := trivial
  model _ _ _ _ := trivial

theorem free_settle (how : Settlement) : Free P (settle_once how) :=
  (free_frame lenient).settle_once (fun _ _ _ _ => trivial) (by decide : Elsewhere .settle) how

theorem free_slots : Free P (release_slots G) :=
  (free_frame lenient).release_slots G (fun _ _ _ _ => trivial) (by decide : Elsewhere .global)
    (by decide : Elsewhere .lease)

theorem free_abandon : Free P abandon :=
  (free_frame lenient).abandon (fun _ _ _ _ => trivial) (by decide : Elsewhere .settle)

theorem upstream_error_raises (error : Exc) : FreeRaises P (upstream_error error) := by
  have read : Free P (locals : Handler Locals) := keeps_locals
  apply read.bindRaises
  intro l
  apply (free_call (.record_request l.model false false) fun g => lenient g _ trivial).bindRaises
  intro _
  have settled : Free P (if refused error then release_budget else settle_budget none) :=
    Keeps.ite (fun _ => free_settle lenient _) fun _ => free_settle lenient _
  apply settled.bindRaises
  intro _
  apply (free_call (.routing_signal l.model) fun g => lenient g _ trivial).bindRaises
  intro _
  apply (free_call (.record_decision l.model .upstream_error) fun g => lenient g _ trivial).bindRaises
  intro _
  exact raises_raise

/-- Once a stream is open, no other backend is called for it. -/
theorem free_stream (stream : Stream) : Free P (observe_upstream_stream G stream) := by
  have step : ∀ op, Closing op → Free P (call op) := fun op closing => free_call op fun g => lenient g op closing
  have priced : ∀ usage, Free P (stream_cost G stream usage) := by
    intro usage
    unfold stream_cost
    split
    · exact step (.request_cost _ _) trivial
    · exact keeps_result
  have booked : ∀ observed, Free P (book_stream G stream observed) := by
    intro observed
    apply (step (.record_request _ _ _) trivial).bind
    intro _
    apply (priced observed.usage).bind
    intro spend_usd
    apply ((free_frame lenient).reconcile_quota (by decide : Elsewhere .quota) _ _ _).bind
    intro _
    apply (free_settle lenient _).bind
    intro _
    apply (step (.routing_signal _) trivial).bind
    intro _
    apply (step (.record_decision _ _) trivial).bind
    intro _
    exact Keeps.when fun _ => step (.emit _) trivial
  apply (step .relay trivial).bind
  intro relay
  apply (Keeps.finishing (Keeps.finishing (booked _) ((free_settle lenient _).bind fun _ => free_slots lenient))
    (step .aclose trivial)).bind
  intro _
  cases relay.error with
  | none => exact keeps_result
  | some e => exact keeps_raise trivial

end Free

/-! The choice. -/

/-- Every backend the routing has chosen is one which the requested name stands for. -/
structure Chosen (G : Gateway) (key : Model) (s : Selection) : Prop where
  route : s.route = key.bind G.route
  model : ∀ model, s.model = some model → ∃ name, key = some name ∧ model ∈ G.backends name
  fallback : ∀ model, s.fallback_model = some model → ∃ name, key = some name ∧ model ∈ G.backends name
  other : ∀ model, s.fallback_model = some model → s.model ≠ some model

theorem resolve_route_chosen {request_id : String} {key model : Model} {fallback_model : Option String}
    (resolved : resolve_route G.sha256 (key.bind G.route) request_id key = .ok (model, fallback_model)) :
    Chosen G key ⟨key.bind G.route, model, fallback_model, false⟩ := by
  cases key with
  | none =>
      cases resolved
      exact ⟨rfl, fun _ bad => (by cases bad), fun _ bad => (by cases bad), fun _ bad => (by cases bad)⟩
  | some name =>
      cases routed : G.route name with
      | none =>
          rw [Option.bind_some, routed] at resolved
          cases resolved
          refine ⟨rfl, fun model same => ⟨name, rfl, ?_⟩, fun _ bad => (by cases bad), fun _ bad => (by cases bad)⟩
          cases same
          simp only [Gateway.backends, routed, List.mem_singleton]
      | some route =>
          have listed : G.backends name = route.model_names := by simp only [Gateway.backends, routed]
          rw [Option.bind_some, routed] at resolved
          cases weighted : route.primary with
          | some primary =>
              simp only [resolve_route, weighted] at resolved
              cases resolved
              have names : route.model_names = primary :: route.fallback.toList := by
                simp only [ModelRoute.model_names, weighted]
              refine ⟨rfl, fun model same => ⟨name, rfl, ?_⟩, fun model same => ⟨name, rfl, ?_⟩, fun model same same' => ?_⟩
              · cases same
                rw [listed, names]
                exact List.mem_cons_self
              · rw [listed, names]
                exact List.mem_cons_of_mem primary (Option.mem_toList.mpr same)
              · have differs := route.fallback_differs (by rw [weighted]; exact Option.some_ne_none _)
                rw [weighted] at differs
                exact differs (same'.trans same.symm)
          | none =>
              obtain ⟨model', member, fallback', unique⟩ := resolve_route_ok G.sha256 route request_id (some name)
              rw [unique] at resolved
              cases resolved
              obtain ⟨target, _, selected⟩ := select_route_target_ok G.sha256 weighted request_id name
              simp only [resolve_route, weighted, Option.getD_some, selected] at unique
              cases unique
              refine ⟨rfl, fun model same => ⟨name, rfl, ?_⟩, fun _ bad => (by cases bad), fun _ bad => (by cases bad)⟩
              cases same
              rw [listed]
              exact member

/-- What a choice between the backends of a route may end with. -/
def OneOf (primary_model : Model) (fallback_model : Option String) (chosen : Model × Bool) : Prop :=
  chosen.1 = primary_model ∨
    chosen.2 = true ∧ ∃ fallback, fallback_model = some fallback ∧ chosen.1 = some fallback

section Chosen
variable {R : Locals → H → Prop} {X : Exc → Prop} {quiet : Kind → Prop} (frame : Frame P R X quiet)
  (breaker : quiet .breaker) (health : quiet .health)
include frame health

include breaker in
theorem select_health_aware_backend_gives (holds : R l g) (route : Option ModelRoute) (primary_model : Model)
    (fallback_model : Option String) :
    (select_health_aware_backend G route primary_model fallback_model).Meets P l g
      (Gives fun chosen l g => R l g ∧ OneOf primary_model fallback_model chosen) := by
  have asked : ∀ model, (available G (route.bind ModelRoute.min_health_score) model).Keeps P R X := fun model =>
    frame.available G breaker health _ model
  apply gives_bind ((asked primary_model).gives holds)
  intro primary l g holds
  cases primary with
  | true => exact ⟨holds, .inl rfl⟩
  | false =>
      cases fallback_model with
      | none => trivial
      | some fallback =>
          apply gives_bind ((asked (some fallback)).gives holds)
          intro available l g holds
          cases available with
          | true => exact ⟨holds, .inr ⟨rfl, fallback, rfl, rfl⟩⟩
          | false => trivial

theorem select_cost_aware_backend_gives (holds : R l g) (route : ModelRoute) (weights : RoutingWeights)
    (primary_model : Model) (fallback_model : Option String) :
    (select_cost_aware_backend G route weights primary_model fallback_model).Meets P l g
      (Gives fun chosen l g => R l g ∧ OneOf primary_model fallback_model chosen) := by
  have asked : ∀ model, (call (.routing_signal model)).Keeps P R X :=
    fun model => frame.step (.routing_signal model) health
  cases primary_model with
  | none => exact ⟨holds, .inl rfl⟩
  | some primary =>
      cases fallback_model with
      | none => exact ⟨holds, .inl rfl⟩
      | some fallback =>
          apply gives_bind ((asked primary).gives holds)
          intro first l g holds
          apply gives_bind ((asked fallback).gives holds)
          intro second l g holds
          apply gives_bind (Q := fun chosen l g => R l g ∧ chosen.1 ∈ [primary, fallback] ∧
            chosen.2 = decide (chosen.1 ≠ primary))
          · apply meets_lift.mpr
            cases choice : costAwareChoice G.model_targets weights (route.min_health_score.getD 0) primary
                [(primary, first), (fallback, second)] with
            | error e => trivial
            | ok chosen => exact ⟨holds, costAwareChoice_chosen choice⟩
          · rintro ⟨selected, rerouted⟩ l g ⟨holds, member, told⟩
            refine ⟨holds, ?_⟩
            by_cases same : selected = primary
            · exact .inl (congrArg some same)
            · have other : selected = fallback := List.mem_singleton.mp ((List.mem_cons.mp member).resolve_left same)
              exact .inr ⟨told.trans (decide_eq_true same), fallback, rfl, congrArg some other⟩

include breaker in
theorem select_backend_gives (holds : R l g) (request_id : String) (key : Model) :
    (select_backend G request_id key).Meets P l g (Gives fun chosen l g => R l g ∧ Chosen G key chosen) := by
  apply gives_bind (Q := fun resolved l g => R l g ∧ Chosen G key ⟨key.bind G.route, resolved.1, resolved.2, false⟩)
  · apply meets_lift.mpr
    cases resolved : resolve_route G.sha256 (key.bind G.route) request_id key with
    | error e => trivial
    | ok named => exact ⟨holds, resolve_route_chosen resolved⟩
  · rintro ⟨model, fallback_model⟩ l g ⟨holds, named⟩
    apply gives_bind (Q := fun chosen l g => R l g ∧ OneOf model fallback_model chosen)
    · apply gives_catching _ (fun _ _ => trivial : ∀ (_ : Locals) (_ : H), True) fun _ => raises_raise
      cases key.bind G.route with
      | none => exact select_health_aware_backend_gives frame breaker health holds none model fallback_model
      | some route =>
          cases policy : route.routing_policy with
          | none =>
              simp only [Option.bind_some, policy]
              exact select_health_aware_backend_gives frame breaker health holds (some route) model fallback_model
          | some weights =>
              simp only [Option.bind_some, policy]
              exact select_cost_aware_backend_gives frame health holds route weights model fallback_model
    · rintro ⟨selected, rerouted⟩ l g ⟨holds, oneOf⟩
      refine ⟨holds, ⟨named.route, fun chosen same => ?_, fun fallback same => ?_, fun fallback same => ?_⟩⟩
      · rcases oneOf with primary | ⟨_, fallback, listed, other⟩
        · exact named.model chosen (primary.symm.trans same)
        · rw [Option.some.inj (same.symm.trans other)]
          exact named.fallback fallback listed
      · cases rerouted with
        | true => cases same
        | false => exact named.fallback fallback same
      · cases rerouted with
        | true => cases same
        | false =>
            rcases oneOf with primary | ⟨moved, _⟩
            · exact fun here => named.other fallback same (primary.symm.trans here)
            · cases moved

end Chosen

theorem target_of_exists {model : String} (target : (target_of G (some model)).isSome = true) :
    (G.target model).isSome = true := by
  obtain ⟨t, found⟩ := Option.isSome_iff_exists.mp target
  obtain ⟨model', filtered, known⟩ := Option.bind_eq_some_iff.mp found
  obtain ⟨same, _⟩ := Option.filter_eq_some_iff.mp filtered
  cases same
  exact Option.isSome_iff_exists.mpr ⟨t, known⟩

end Choice

end RuntimePlatform.Chat
