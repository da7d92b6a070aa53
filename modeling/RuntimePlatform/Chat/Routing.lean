import Mathlib.Data.Prod.Lex
import Mathlib.Algebra.Order.Field.Rat
import Mathlib.Algebra.BigOperators.Group.List.Basic
import RuntimePlatform.Chat.Resilience
import RuntimePlatform.Lib.Python

/-!
`config.py` and `services/routing.py`: routes as the validators accept them, and which
backend a route resolves to. Prices, latencies and scores are exact rationals.
-/

namespace RuntimePlatform.Chat

/-- The exceptions of `httpx` which the handlers tell apart. -/
inductive HttpError where
  /-- `HTTPStatusError` -/
  | status (code : ℕ)
  /-- `ConnectError`, `ConnectTimeout` -/
  | connect
  /-- Any other `RequestError`. -/
  | request
  deriving DecidableEq, Repr

/-- What a step can raise. -/
inductive Exc where
  | http (error : HttpError)
  | noHealthyBackend
  | httpException (status_code : ℕ)
  | cancelled
  /-- Any other `Exception`. -/
  | raised
  deriving DecidableEq, Repr

/-- `except Exception` lets cancellations through. -/
def Exc.isException (e : Exc) : Bool := decide (e ≠ .cancelled)

def Exc.isHttp : Exc → Bool
  | http _ => true
  | _ => false

structure ModelTarget where
  url : String
  input_cost_per_million : ℚ
  output_cost_per_million : ℚ
  input_nonneg : 0 ≤ input_cost_per_million
  output_nonneg : 0 ≤ output_cost_per_million

structure RouteTarget where
  model : String
  weight : ℕ
  positive : 0 < weight

structure RoutingWeights where
  health : ℚ
  latency : ℚ
  cost : ℚ
  health_unit : 0 ≤ health ∧ health ≤ 1
  latency_unit : 0 ≤ latency ∧ latency ≤ 1
  cost_unit : 0 ≤ cost ∧ cost ≤ 1
  totals_one : |health + latency + cost - 1| ≤ 1 / 10000

structure ModelRoute where
  targets : List RouteTarget
  primary : Option String
  fallback : Option String
  min_health_score : Option ℕ
  routing_policy : Option RoutingWeights
  shadow : Option String
  canary_or_failover : targets = [] ↔ primary ≠ none
  weights_total : targets ≠ [] → (targets.map RouteTarget.weight).sum = 100
  canary_fallback : targets ≠ [] → fallback = none
  failover_fallback : primary ≠ none → fallback ≠ none
  fallback_differs : primary ≠ none → primary ≠ fallback
  health_needs_failover : min_health_score ≠ none → primary ≠ none
  policy_needs_failover : routing_policy ≠ none → primary ≠ none
  score_le : ∀ score ∈ min_health_score, score ≤ 100
  shadow_named : ∀ model ∈ shadow, model ∈ primary.toList ++ fallback.toList ++ targets.map RouteTarget.model

/-- A route without a least score, and one without targets, promises nothing about them. -/
theorem unscored : ∀ score ∈ (none : Option ℕ), score ≤ 100 := fun _ bad => absurd bad (Option.not_mem_none _)

theorem untargeted : ([] : List RouteTarget) ≠ [] → (([] : List RouteTarget).map RouteTarget.weight).sum = 100 :=
  fun bad => absurd rfl bad

def ModelRoute.model_names (route : ModelRoute) : List String :=
  match route.primary with
  | some primary => primary :: route.fallback.toList
  | none => route.targets.map RouteTarget.model

theorem ModelRoute.shadow_listed (route : ModelRoute) {shadow : String} (named : route.shadow = some shadow) :
    shadow ∈ route.model_names := by
  have listed := route.shadow_named shadow named
  unfold ModelRoute.model_names
  cases primary : route.primary with
  | some model =>
      have untargeted : route.targets = [] := route.canary_or_failover.mpr (by rw [primary]; exact Option.some_ne_none _)
      simpa [primary, untargeted] using listed
  | none =>
      have weighted : route.targets ≠ [] := fun empty => route.canary_or_failover.mp empty primary
      simpa [primary, route.canary_fallback weighted] using listed

/-- The loop of `select_route_target`. -/
def weightedTarget (bucket : ℕ) : ℕ → List RouteTarget → Except Exc String
  | _, [] => .error .raised
  | upper_bound, target :: rest =>
    if bucket < upper_bound + target.weight then .ok target.model
    else weightedTarget bucket (upper_bound + target.weight) rest

def select_route_target (sha256 : String → ℕ) (route : ModelRoute) (request_id route_name : String) :
    Except Exc String :=
  if route.targets = [] then .error .raised
  else weightedTarget (sha256 (route_name ++ ":" ++ request_id) % 100) 0 route.targets

/-- Only a text names a route, so with a route `route_name` is a text. -/
def resolve_route (sha256 : String → ℕ) (route : Option ModelRoute) (request_id : String) (route_name : Model) :
    Except Exc (Model × Option String) :=
  match route with
  | none => .ok (route_name, none)
  | some route =>
    match route.primary with
    | some primary => .ok (some primary, route.fallback)
    | none => (select_route_target sha256 route request_id (route_name.getD "")).map fun model => (some model, none)

def resolve_shadow_backend (route : Option ModelRoute) (selected_model : String) : Option String :=
  (route.bind ModelRoute.shadow).filter fun shadow => decide (shadow ≠ selected_model)

/-- `routing_signal`: score, latency and availability of a backend. -/
structure Signal where
  health_score : ℕ
  latency_ms : Option ℚ
  available : Option Bool

namespace Signal

def Eligible (threshold : ℕ) (s : Signal) : Prop := s.available ≠ some false ∧ s.health_score ≥ threshold

instance (threshold : ℕ) (s : Signal) : Decidable (s.Eligible threshold) := inferInstanceAs (Decidable (_ ∧ _))

/-- `latency_ms or float("inf")`, infinity being `none`. -/
def latency (s : Signal) : Option ℚ := s.latency_ms.filter fun ms => decide (ms ≠ 0)

end Signal

/-- One eligible backend with its signal and `input_cost + output_cost`. -/
structure Candidate where
  model : String
  signal : Signal
  cost : ℚ

/-- `min` over numbers of which `none` is infinity. -/
def minLatency : List (Option ℚ) → Option ℚ
  | [] => none
  | none :: rest => minLatency rest
  | some ms :: rest => some ((minLatency rest).elim ms fun other => min ms other)

def latencyComponent (min_latency latency : Option ℚ) : ℚ :=
  match min_latency with
  | some least => latency.elim 0 fun ms => least / ms
  | none => 1

def costComponent (min_cost cost : ℚ) : ℚ := if cost ≠ 0 then min_cost / cost else 1

def score (weights : RoutingWeights) (min_latency : Option ℚ) (min_cost : ℚ) (c : Candidate) : ℚ :=
  weights.health * c.signal.health_score / 100 + weights.latency * latencyComponent min_latency c.signal.latency +
    weights.cost * costComponent min_cost c.cost

/-- `max` with a key: the first of the greatest. -/
def firstMax (key : Candidate → ℚ ×ₗ Bool) : Candidate → List Candidate → Candidate
  | best, [] => best
  | best, c :: rest => firstMax key (if key best < key c then c else best) rest

/-- The choice among the eligible backends when there are several. -/
def bestCandidate (weights : RoutingWeights) (primary_model : String) (first : Candidate)
    (others : List Candidate) : Candidate :=
  let min_cost := (others.map Candidate.cost).foldl min first.cost
  let min_latency := minLatency ((first :: others).map fun c => c.signal.latency)
  firstMax (fun c => toLex (score weights min_latency min_cost c, decide (c.model = primary_model))) first others

/-- `select_cost_aware_backend` once the signals of the candidates are known. -/
def costAwareChoice (targets : List (String × ModelTarget)) (weights : RoutingWeights) (threshold : ℕ)
    (primary_model : String) (signals : List (String × Signal)) : Except Exc (String × Bool) :=
  match signals.filter fun s => decide (s.2.Eligible threshold) with
  | [] => .error .noHealthyBackend
  | [(model, _)] => .ok (model, decide (model ≠ primary_model))
  | eligible => do
    let candidates ← eligible.mapM fun (model, signal) =>
      (targets.lookup model).elim (.error .raised) fun target =>
        .ok ⟨model, signal, target.input_cost_per_million + target.output_cost_per_million⟩
    match candidates with
    | [] => .error .raised
    | first :: others =>
      let selected := bestCandidate weights primary_model first others
      .ok (selected.model, decide (selected.model ≠ primary_model))

/-- What `costAwareChoice` looks up for each eligible backend. -/
theorem candidates_error {targets : List (String × ModelTarget)} {eligible : List (String × Signal)} {e : Exc}
    (raised : (eligible.mapM fun (model, signal) => (targets.lookup model).elim (Except.error Exc.raised) fun target =>
      .ok (Candidate.mk model signal (target.input_cost_per_million + target.output_cost_per_million))) = .error e) :
    e = .raised := by
  induction eligible with
  | nil => cases raised
  | cons entry rest ih =>
      rw [List.mapM_cons] at raised
      cases found : targets.lookup entry.1 with
      | none =>
          simp only [found, Option.elim] at raised
          cases raised
          rfl
      | some target =>
          simp only [found, Option.elim] at raised
          rcases Except.bind_eq_error.mp raised with bad | ⟨_, _, later⟩
          · cases bad
          · rcases Except.bind_eq_error.mp later with bad | ⟨_, _, last⟩
            · exact ih bad
            · cases last

theorem costAwareChoice_error {targets : List (String × ModelTarget)} {weights : RoutingWeights} {threshold : ℕ}
    {primary_model : String} {signals : List (String × Signal)} {e : Exc}
    (raised : costAwareChoice targets weights threshold primary_model signals = .error e) : e ≠ .cancelled := by
  unfold costAwareChoice at raised
  cases eligible : signals.filter fun s => decide (s.2.Eligible threshold) with
  | nil =>
      simp only [eligible] at raised
      cases raised
      decide
  | cons first rest =>
      cases rest with
      | nil =>
          simp only [eligible] at raised
          cases raised
      | cons second rest =>
          simp only [eligible] at raised
          rcases Except.bind_eq_error.mp raised with bad | ⟨candidates, _, last⟩
          · rw [candidates_error bad]
            decide
          · cases candidates with
            | nil =>
                cases last
                decide
            | cons c others => cases last

theorem firstMax_mem (keyOf : Candidate → ℚ ×ₗ Bool) (best : Candidate) (others : List Candidate) :
    firstMax keyOf best others ∈ best :: others := by
  induction others generalizing best with
  | nil => exact List.mem_cons_self
  | cons c rest ih =>
      unfold firstMax
      rcases List.mem_cons.mp (ih (if keyOf best < keyOf c then c else best)) with first | later
      · rw [first]
        by_cases greater : keyOf best < keyOf c
        · rw [if_pos greater]
          exact List.mem_cons_of_mem _ List.mem_cons_self
        · rw [if_neg greater]
          exact List.mem_cons_self
      · exact List.mem_cons_of_mem _ (List.mem_cons_of_mem _ later)

theorem candidates_named {targets : List (String × ModelTarget)} {eligible : List (String × Signal)}
    {candidates : List Candidate}
    (found : (eligible.mapM fun (model, signal) => (targets.lookup model).elim (Except.error Exc.raised) fun target =>
      .ok (Candidate.mk model signal (target.input_cost_per_million + target.output_cost_per_million))) =
        .ok candidates) : candidates.map Candidate.model = eligible.map Prod.fst := by
  induction eligible generalizing candidates with
  | nil =>
      cases found
      rfl
  | cons entry rest ih =>
      rw [List.mapM_cons] at found
      obtain ⟨c, first, found⟩ := Except.bind_eq_ok.mp found
      obtain ⟨later, others, last⟩ := Except.bind_eq_ok.mp found
      cases last
      cases target : targets.lookup entry.1 with
      | none =>
          simp only [target, Option.elim] at first
          cases first
      | some t =>
          simp only [target, Option.elim] at first
          cases first
          rw [List.map_cons, List.map_cons, ih others]

/-- The cost-aware policy chooses among the backends it has signals of, and tells whether it is another one. -/
theorem costAwareChoice_chosen {targets : List (String × ModelTarget)} {weights : RoutingWeights} {threshold : ℕ}
    {primary_model : String} {signals : List (String × Signal)} {model : String} {rerouted : Bool}
    (chosen : costAwareChoice targets weights threshold primary_model signals = .ok (model, rerouted)) :
    model ∈ signals.map Prod.fst ∧ rerouted = decide (model ≠ primary_model) := by
  have within : ∀ entry ∈ signals.filter fun s => decide (s.2.Eligible threshold), entry.1 ∈ signals.map Prod.fst :=
    fun entry member => List.mem_map_of_mem (List.mem_of_mem_filter member)
  unfold costAwareChoice at chosen
  cases eligible : signals.filter fun s => decide (s.2.Eligible threshold) with
  | nil =>
      rw [eligible] at chosen
      cases chosen
  | cons first rest =>
      rw [eligible] at chosen within
      cases rest with
      | nil =>
          cases chosen
          exact ⟨within first List.mem_cons_self, rfl⟩
      | cons second rest =>
          obtain ⟨candidates, found, last⟩ := Except.bind_eq_ok.mp chosen
          cases candidates with
          | nil => cases last
          | cons c others =>
              cases last
              have member := List.mem_map_of_mem (f := Candidate.model) (firstMax_mem
                (fun d => toLex (score weights (minLatency ((c :: others).map fun e => e.signal.latency))
                  ((others.map Candidate.cost).foldl min c.cost) d, decide (d.model = primary_model))) c others)
              rw [candidates_named found] at member
              obtain ⟨entry, listed, same⟩ := List.mem_map.mp member
              have here := within entry listed
              rw [same] at here
              exact ⟨here, rfl⟩

theorem weightedTarget_ok {bucket : ℕ} {targets : List RouteTarget} {upper_bound : ℕ}
    (inside : bucket < upper_bound + (targets.map RouteTarget.weight).sum) (beyond : upper_bound ≤ bucket) :
    ∃ target ∈ targets, weightedTarget bucket upper_bound targets = .ok target.model := by
  induction targets generalizing upper_bound with
  | nil =>
      simp only [List.map_nil, List.sum_nil] at inside
      omega
  | cons target rest ih =>
      unfold weightedTarget
      by_cases here : bucket < upper_bound + target.weight
      · rw [if_pos here]
        exact ⟨target, List.mem_cons_self, rfl⟩
      · rw [if_neg here]
        simp only [List.map_cons, List.sum_cons] at inside
        obtain ⟨found, member, selected⟩ := @ih (upper_bound + target.weight) (by omega) (by omega)
        exact ⟨found, List.mem_cons_of_mem _ member, selected⟩

/-- A valid weighted route always selects one of its targets. -/
theorem select_route_target_ok (sha256 : String → ℕ) {route : ModelRoute} (weighted : route.primary = none)
    (request_id route_name : String) :
    ∃ target ∈ route.targets, select_route_target sha256 route request_id route_name = .ok target.model := by
  have some_target : route.targets ≠ [] := fun empty => route.canary_or_failover.mp empty weighted
  unfold select_route_target
  rw [if_neg some_target]
  refine weightedTarget_ok ?_ (Nat.zero_le _)
  rw [route.weights_total some_target]
  omega

/-- So a route always resolves, to a model it names. -/
theorem resolve_route_ok (sha256 : String → ℕ) (route : ModelRoute) (request_id : String) (route_name : Model) :
    ∃ model ∈ route.model_names, ∃ fallback,
      resolve_route sha256 (some route) request_id route_name = .ok (some model, fallback) := by
  cases weighted : route.primary with
  | some primary =>
      simp only [resolve_route, ModelRoute.model_names, weighted]
      exact ⟨primary, List.mem_cons_self, route.fallback, rfl⟩
  | none =>
      obtain ⟨target, member, selected⟩ := select_route_target_ok sha256 weighted request_id (route_name.getD "")
      simp only [resolve_route, ModelRoute.model_names, weighted]
      exact ⟨target.model, List.mem_map_of_mem member, none, by rw [selected]; rfl⟩

theorem resolve_route_error {sha256 : String → ℕ} {route : Option ModelRoute} {request_id : String} {route_name : Model}
    {e : Exc} (raised : resolve_route sha256 route request_id route_name = .error e) : e ≠ .cancelled := by
  cases route with
  | none => cases raised
  | some route =>
      obtain ⟨model, _, fallback, resolved⟩ := resolve_route_ok sha256 route request_id route_name
      rw [resolved] at raised
      cases raised

end RuntimePlatform.Chat
