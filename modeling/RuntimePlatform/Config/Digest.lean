import Mathlib.Data.Rat.Encodable
import RuntimePlatform.Lib.JsonValues

/-!
`config.py` with all the fields of the settings, and `runtime_config.py`: the canonical text whose hash is the
configuration digest, and which settings have the same one.
-/

namespace RuntimePlatform.Config
open Python

structure ModelTarget where
  url : String
  input_cost_per_million : Double
  output_cost_per_million : Double
  backend_name : Option String
  health_path : String
  provider : Option String
  model_revision : Option String
  model_artifact_digest : Option String

structure RouteTarget where
  model : String
  weight : ℤ

structure RoutingWeights where
  health : Double
  latency : Double
  cost : Double

structure RoutingPolicy where
  strategy : String
  weights : RoutingWeights

structure ModelRoute where
  targets : List RouteTarget
  primary : Option String
  fallback : Option String
  min_health_score : Option ℤ
  unhealthy_action : String
  routing_policy : Option RoutingPolicy
  shadow : Option String

structure GatewaySettings where
  model_targets : Dict String ModelTarget
  model_routes : Dict String ModelRoute
  timeout_seconds : Double
  health_interval_seconds : Double
  api_keys : Finset String
  redis_url : Option String
  gateway_replicas : ℤ
  require_shared_state : Bool
  profile : String
  jwt_verify_enabled : Bool
  jwt_issuer : Option String
  jwt_audience : Option String
  require_jwt_iss_aud : Bool
  control_plane_configured : Bool
  require_auth : Bool
  require_control_plane : Bool

/-! The checks on fields and the validators; the sum of the weights is taken without rounding. -/

/-- `Field(ge=bound)`, which refuses what is less than the bound; NaN is not. -/
def ge (bound : ℚ) : Double → Prop
  | .finite x => bound ≤ x.value
  | .inf negative => negative = false
  | .nan => True

/-- `Field(gt=bound)` -/
def gt (bound : ℚ) : Double → Prop
  | .finite x => bound < x.value
  | .inf negative => negative = false
  | .nan => True

structure ModelTarget.Valid (t : ModelTarget) : Prop where
  input_cost_per_million : ge 0 t.input_cost_per_million
  output_cost_per_million : ge 0 t.output_cost_per_million

/-- `totals_one` -/
def RoutingWeights.Valid (w : RoutingWeights) : Prop := ∃ health latency cost : Finite,
  w = ⟨.finite health, .finite latency, .finite cost⟩ ∧
    (0 ≤ health.value ∧ health.value ≤ 1) ∧ (0 ≤ latency.value ∧ latency.value ≤ 1) ∧
    (0 ≤ cost.value ∧ cost.value ≤ 1) ∧ |health.value + latency.value + cost.value - 1| ≤ 1 / 10000

/-- `uses_supported_strategy` -/
structure RoutingPolicy.Valid (p : RoutingPolicy) : Prop where
  strategy : p.strategy = "balanced"
  weights : p.weights.Valid

def ModelRoute.model_names (r : ModelRoute) : List (Option String) :=
  if r.primary.isSome then [r.primary, r.fallback] else r.targets.map fun target => some target.model

/-- `has_valid_policy` -/
structure ModelRoute.Valid (r : ModelRoute) : Prop where
  weights_positive : ∀ target ∈ r.targets, 0 < target.weight
  score_range : ∀ score ∈ r.min_health_score, 0 ≤ score ∧ score ≤ 100
  policy : ∀ policy ∈ r.routing_policy, policy.Valid
  one_kind : r.targets ≠ [] ↔ r.primary = none
  weights_total : r.targets ≠ [] → (r.targets.map RouteTarget.weight).sum = 100
  canary_no_fallback : r.targets ≠ [] → r.fallback = none
  failover_fallback : r.primary ≠ none → r.fallback ≠ none ∧ r.primary ≠ r.fallback
  score_failover : r.min_health_score ≠ none → r.primary ≠ none ∧ r.unhealthy_action = "skip"
  policy_failover : r.routing_policy ≠ none → r.primary ≠ none
  shadow_listed : r.shadow ≠ none → r.shadow ∈ r.model_names

/-- `bool(text)` of an optional text. -/
def given (text : Option String) : Prop := text ≠ none ∧ text ≠ some ""

structure GatewaySettings.Valid (s : GatewaySettings) : Prop where
  targets : ∀ name target, s.model_targets.lookup name = some target → target.Valid
  routes : ∀ name route, s.model_routes.lookup name = some route → route.Valid
  timeout_seconds : gt 0 s.timeout_seconds
  health_interval_seconds : gt 0 s.health_interval_seconds
  gateway_replicas : 1 ≤ s.gateway_replicas
  route_targets_exist : ∀ name route, s.model_routes.lookup name = some route →
    ∀ model, some model ∈ route.model_names → model ∈ s.model_targets
  shared_state_required_for_ha : s.require_shared_state = true → given s.redis_url
  profile : s.profile ∈ ["local", "internal", "production"]
  auth : s.require_auth = true → s.api_keys.Nonempty ∨ s.jwt_verify_enabled = true
  control_plane : s.require_control_plane = true → s.control_plane_configured = true
  production : s.profile = "production" → s.jwt_verify_enabled = true ∧ given s.jwt_issuer ∧ given s.jwt_audience ∧
    s.require_jwt_iss_aud = true ∧ s.require_shared_state = true ∧ given s.redis_url ∧
    s.control_plane_configured = true

/-! `model_dump(mode="json")` -/

variable (T : Text)

def ModelTarget.model_dump (t : ModelTarget) : Json := .record [
  ("url", .ofString t.url),
  ("input_cost_per_million", .ofFloat T t.input_cost_per_million),
  ("output_cost_per_million", .ofFloat T t.output_cost_per_million),
  ("backend_name", .ofOption .ofString t.backend_name),
  ("health_path", .ofString t.health_path),
  ("provider", .ofOption .ofString t.provider),
  ("model_revision", .ofOption .ofString t.model_revision),
  ("model_artifact_digest", .ofOption .ofString t.model_artifact_digest)]

def RouteTarget.model_dump (t : RouteTarget) : Json :=
  .record [("model", .ofString t.model), ("weight", .ofInt t.weight)]

def RoutingWeights.model_dump (w : RoutingWeights) : Json :=
  .record [("health", .ofFloat T w.health), ("latency", .ofFloat T w.latency), ("cost", .ofFloat T w.cost)]

def RoutingPolicy.model_dump (p : RoutingPolicy) : Json :=
  .record [("strategy", .ofString p.strategy), ("weights", p.weights.model_dump T)]

def ModelRoute.model_dump (r : ModelRoute) : Json := .record [
  ("targets", .arr (r.targets.map RouteTarget.model_dump)),
  ("primary", .ofOption .ofString r.primary),
  ("fallback", .ofOption .ofString r.fallback),
  ("min_health_score", .ofOption .ofInt r.min_health_score),
  ("unhealthy_action", .ofString r.unhealthy_action),
  ("routing_policy", .ofOption (RoutingPolicy.model_dump T) r.routing_policy),
  ("shadow", .ofOption .ofString r.shadow)]

/-- `_canonical_config_payload` -/
def canonical_config_payload (s : GatewaySettings) : Json := .record [
  ("model_targets", .ofDict (ModelTarget.model_dump T) s.model_targets),
  ("model_routes", .ofDict (ModelRoute.model_dump T) s.model_routes),
  ("timeout_seconds", .ofFloat T s.timeout_seconds),
  ("health_interval_seconds", .ofFloat T s.health_interval_seconds),
  ("profile", .ofString s.profile),
  ("gateway_replicas", .ofInt s.gateway_replicas),
  ("require_shared_state", .ofBool s.require_shared_state),
  ("control_plane_configured", .ofBool s.control_plane_configured),
  ("jwt_verify_enabled", .ofBool s.jwt_verify_enabled),
  ("jwt_issuer", .ofOption .ofString s.jwt_issuer),
  ("jwt_audience", .ofOption .ofString s.jwt_audience)]

/-- The text which is hashed. -/
def config_text (s : GatewaySettings) : List Char := Json.dumps (canonical_config_payload T s)

def compute_config_digest (sha256 : List Char → String) (s : GatewaySettings) : String :=
  "sha256:" ++ sha256 (config_text T s)

/-! Equal settings: field by field, the dictionaries in any order, the floats by some relation. -/

section Same
variable (same : Double → Double → Prop)

structure SameTarget (t t' : ModelTarget) : Prop where
  url : t.url = t'.url
  input_cost_per_million : same t.input_cost_per_million t'.input_cost_per_million
  output_cost_per_million : same t.output_cost_per_million t'.output_cost_per_million
  backend_name : t.backend_name = t'.backend_name
  health_path : t.health_path = t'.health_path
  provider : t.provider = t'.provider
  model_revision : t.model_revision = t'.model_revision
  model_artifact_digest : t.model_artifact_digest = t'.model_artifact_digest

structure SameWeights (w w' : RoutingWeights) : Prop where
  health : same w.health w'.health
  latency : same w.latency w'.latency
  cost : same w.cost w'.cost

structure SamePolicy (p p' : RoutingPolicy) : Prop where
  strategy : p.strategy = p'.strategy
  weights : SameWeights same p.weights p'.weights

structure SameRoute (r r' : ModelRoute) : Prop where
  targets : r.targets = r'.targets
  primary : r.primary = r'.primary
  fallback : r.fallback = r'.fallback
  min_health_score : r.min_health_score = r'.min_health_score
  unhealthy_action : r.unhealthy_action = r'.unhealthy_action
  routing_policy : Option.Rel (SamePolicy same) r.routing_policy r'.routing_policy
  shadow : r.shadow = r'.shadow

/-- The settings agree in the fields which the payload lists. -/
structure SameListed (s s' : GatewaySettings) : Prop where
  model_targets : ∀ name, Option.Rel (SameTarget same) (s.model_targets.lookup name) (s'.model_targets.lookup name)
  model_routes : ∀ name, Option.Rel (SameRoute same) (s.model_routes.lookup name) (s'.model_routes.lookup name)
  timeout_seconds : same s.timeout_seconds s'.timeout_seconds
  health_interval_seconds : same s.health_interval_seconds s'.health_interval_seconds
  profile : s.profile = s'.profile
  gateway_replicas : s.gateway_replicas = s'.gateway_replicas
  require_shared_state : s.require_shared_state = s'.require_shared_state
  control_plane_configured : s.control_plane_configured = s'.control_plane_configured
  jwt_verify_enabled : s.jwt_verify_enabled = s'.jwt_verify_enabled
  jwt_issuer : s.jwt_issuer = s'.jwt_issuer
  jwt_audience : s.jwt_audience = s'.jwt_audience

end Same

/-- The flags which it leaves out. -/
structure SameFlags (s s' : GatewaySettings) : Prop where
  require_jwt_iss_aud : s.require_jwt_iss_aud = s'.require_jwt_iss_aud
  require_auth : s.require_auth = s'.require_auth
  require_control_plane : s.require_control_plane = s'.require_control_plane

/-- The settings agree in every field but the secrets `api_keys` and `redis_url`; `0.0` is equal to `-0.0`. -/
def SameSettings (s s' : GatewaySettings) : Prop := SameListed Json.SameFloat s s' ∧ SameFlags s s'

/-! Values as they are dumped. -/

section Dumped
variable {T}

theorem sortKeys_ofString {s t : String} : (Json.ofString s).sortKeys = (Json.ofString t).sortKeys ↔ s = t :=
  Json.ofString_inj

theorem sortKeys_ofInt {m n : ℤ} : (Json.ofInt m).sortKeys = (Json.ofInt n).sortKeys ↔ m = n := Json.ofInt_inj

theorem sortKeys_ofBool {a b : Bool} : (Json.ofBool a).sortKeys = (Json.ofBool b).sortKeys ↔ a = b := Json.ofBool_inj

theorem sortKeys_ofFloat (floats : Json.SeparatesFloats T) {x y : Double} :
    (Json.ofFloat T x).sortKeys = (Json.ofFloat T y).sortKeys ↔ Json.SameSigned x y :=
  Json.ofFloat_inj.trans (Json.floatText_eq_iff floats x y)

/-- An option is dumped as `null` or as a value which is not. -/
theorem sortKeys_ofOption {α : Type} {f : α → Json} {same : α → α → Prop}
    (values : ∀ v w, (f v).sortKeys = (f w).sortKeys ↔ same v w) (present : ∀ v, (f v).sortKeys ≠ Json.null.sortKeys)
    {v w : Option α} : (Json.ofOption f v).sortKeys = (Json.ofOption f w).sortKeys ↔ Option.Rel same v w := by
  cases v with
  | none =>
      cases w with
      | none => exact iff_of_true rfl .none
      | some w => exact iff_of_false (present w).symm (by rintro ⟨⟩)
  | some v =>
      cases w with
      | none => exact iff_of_false (present v) (by rintro ⟨⟩)
      | some w => exact (values v w).trans Option.rel_some_some.symm

theorem sortKeys_ofName {s t : Option String} :
    (Json.ofOption Json.ofString s).sortKeys = (Json.ofOption Json.ofString t).sortKeys ↔ s = t := by
  have named : ∀ s : String, (Json.ofString s).sortKeys ≠ Json.null.sortKeys := fun s same => by cases same
  rw [sortKeys_ofOption (fun _ _ => sortKeys_ofString) named]
  constructor
  · rintro (same | _)
    · rw [same]
    · rfl
  · rintro rfl
    cases s with
    | none => exact .none
    | some s => exact .some rfl

theorem sortKeys_ofScore {m n : Option ℤ} :
    (Json.ofOption Json.ofInt m).sortKeys = (Json.ofOption Json.ofInt n).sortKeys ↔ m = n := by
  have number : ∀ n : ℤ, (Json.ofInt n).sortKeys ≠ Json.null.sortKeys := by
    intro n same
    have chars : (toString n).toList = "null".toList := Json.atom.inj same
    have letter : 'u' ∈ (toString n).toList := chars ▸ (by decide)
    rcases Json.mem_literal_int letter with bad | bad
    · exact absurd bad (by decide)
    · exact absurd bad (by decide)
  rw [sortKeys_ofOption (fun _ _ => sortKeys_ofInt) number]
  constructor
  · rintro (same | _)
    · rw [same]
    · rfl
  · rintro rfl
    cases m with
    | none => exact .none
    | some n => exact .some rfl

theorem sortKeys_ofMap {α : Type} {f : α → Json} {same : α → α → Prop}
    (values : ∀ v w, (f v).sortKeys = (f w).sortKeys ↔ same v w) {d d' : Dict String α} :
    (Json.ofDict f d).sortKeys = (Json.ofDict f d').sortKeys ↔
      ∀ name, Option.Rel same (d.lookup name) (d'.lookup name) := by
  rw [Json.sortKeys_ofDict]
  refine forall_congr' fun name => ?_
  cases d.lookup name with
  | none =>
      cases d'.lookup name with
      | none => exact iff_of_true rfl .none
      | some w => exact iff_of_false (by rintro ⟨⟩) (by rintro ⟨⟩)
  | some v =>
      cases d'.lookup name with
      | none => exact iff_of_false (by rintro ⟨⟩) (by rintro ⟨⟩)
      | some w => exact Option.some_inj.trans ((values v w).trans Option.rel_some_some.symm)

variable (floats : Json.SeparatesFloats T)
include floats

theorem sortKeys_target (t t' : ModelTarget) :
    (t.model_dump T).sortKeys = (t'.model_dump T).sortKeys ↔ SameTarget Json.SameSigned t t' := by
  refine (Json.sortKeys_record ?_ ?_).trans ?_
  · rfl
  · simp
  · simp only [List.map_cons, List.map_nil, List.cons.injEq, and_true, sortKeys_ofString, sortKeys_ofFloat floats,
      sortKeys_ofName]
    constructor
    · rintro ⟨url, input, output, backend, path, provider, revision, artifact⟩
      exact ⟨url, input, output, backend, path, provider, revision, artifact⟩
    · rintro ⟨url, input, output, backend, path, provider, revision, artifact⟩
      exact ⟨url, input, output, backend, path, provider, revision, artifact⟩

theorem sortKeys_weights (w w' : RoutingWeights) :
    (w.model_dump T).sortKeys = (w'.model_dump T).sortKeys ↔ SameWeights Json.SameSigned w w' := by
  refine (Json.sortKeys_record ?_ ?_).trans ?_
  · rfl
  · simp
  · simp only [List.map_cons, List.map_nil, List.cons.injEq, and_true, sortKeys_ofFloat floats]
    constructor
    · rintro ⟨health, latency, cost⟩
      exact ⟨health, latency, cost⟩
    · rintro ⟨health, latency, cost⟩
      exact ⟨health, latency, cost⟩

theorem sortKeys_policy (p p' : RoutingPolicy) :
    (p.model_dump T).sortKeys = (p'.model_dump T).sortKeys ↔ SamePolicy Json.SameSigned p p' := by
  refine (Json.sortKeys_record ?_ ?_).trans ?_
  · rfl
  · simp
  · simp only [List.map_cons, List.map_nil, List.cons.injEq, and_true, sortKeys_ofString, sortKeys_weights floats]
    constructor
    · rintro ⟨strategy, weights⟩
      exact ⟨strategy, weights⟩
    · rintro ⟨strategy, weights⟩
      exact ⟨strategy, weights⟩

omit floats in
theorem sortKeys_routeTarget (t t' : RouteTarget) : t.model_dump.sortKeys = t'.model_dump.sortKeys ↔ t = t' := by
  refine (Json.sortKeys_record ?_ ?_).trans ?_
  · rfl
  · simp
  · simp only [List.map_cons, List.map_nil, List.cons.injEq, and_true, sortKeys_ofString, sortKeys_ofInt]
    cases t
    cases t'
    rw [RouteTarget.mk.injEq]

omit floats in
theorem sortKeys_routeTargets (ts ts' : List RouteTarget) :
    (Json.arr (ts.map RouteTarget.model_dump)).sortKeys = (Json.arr (ts'.map RouteTarget.model_dump)).sortKeys ↔
      ts = ts' := by
  have each : Function.Injective fun t : RouteTarget => t.model_dump.sortKeys :=
    fun t t' => (sortKeys_routeTarget t t').mp
  rw [Json.sortKeys_ofList]
  exact (List.map_injective_iff.mpr each).eq_iff

theorem sortKeys_route (r r' : ModelRoute) :
    (r.model_dump T).sortKeys = (r'.model_dump T).sortKeys ↔ SameRoute Json.SameSigned r r' := by
  have policy : ∀ p : RoutingPolicy, (p.model_dump T).sortKeys ≠ Json.null.sortKeys := fun p same => by cases same
  refine (Json.sortKeys_record ?_ ?_).trans ?_
  · rfl
  · simp
  · simp only [List.map_cons, List.map_nil, List.cons.injEq, and_true, sortKeys_ofString, sortKeys_ofName,
      sortKeys_ofScore, sortKeys_routeTargets, sortKeys_ofOption (sortKeys_policy floats) policy]
    constructor
    · rintro ⟨targets, primary, fallback, score, action, policy, shadow⟩
      exact ⟨targets, primary, fallback, score, action, policy, shadow⟩
    · rintro ⟨targets, primary, fallback, score, action, policy, shadow⟩
      exact ⟨targets, primary, fallback, score, action, policy, shadow⟩

theorem sortKeys_payload (s s' : GatewaySettings) :
    (canonical_config_payload T s).sortKeys = (canonical_config_payload T s').sortKeys ↔
      SameListed Json.SameSigned s s' := by
  refine (Json.sortKeys_record ?_ ?_).trans ?_
  · rfl
  · simp
  · simp only [List.map_cons, List.map_nil, List.cons.injEq, and_true, sortKeys_ofString, sortKeys_ofName,
      sortKeys_ofInt, sortKeys_ofBool, sortKeys_ofFloat floats, sortKeys_ofMap (sortKeys_target floats),
      sortKeys_ofMap (sortKeys_route floats)]
    constructor
    · rintro ⟨targets, routes, timeout, interval, profile, replicas, shared, plane, jwt, issuer, audience⟩
      exact ⟨targets, routes, timeout, interval, profile, replicas, shared, plane, jwt, issuer, audience⟩
    · rintro ⟨targets, routes, timeout, interval, profile, replicas, shared, plane, jwt, issuer, audience⟩
      exact ⟨targets, routes, timeout, interval, profile, replicas, shared, plane, jwt, issuer, audience⟩

theorem payload_writable (s : GatewaySettings) : (canonical_config_payload T s).Writable := by
  have target : ∀ t : ModelTarget, (t.model_dump T).Writable := fun t => by
    refine Json.writable_record ?_
    simp [Json.writable_ofString, Json.writable_ofFloat floats.prints,
      Json.writable_ofOption Json.writable_ofString]
  have weighted : ∀ t : RouteTarget, t.model_dump.Writable := fun t => by
    refine Json.writable_record ?_
    simp [Json.writable_ofString, Json.writable_ofInt]
  have policy : ∀ p : RoutingPolicy, (p.model_dump T).Writable := fun p => by
    have weights : (p.weights.model_dump T).Writable := by
      refine Json.writable_record ?_
      simp [Json.writable_ofFloat floats.prints]
    refine Json.writable_record ?_
    simp [Json.writable_ofString, weights]
  have route : ∀ r : ModelRoute, (r.model_dump T).Writable := fun r => by
    have targets : (Json.arr (r.targets.map RouteTarget.model_dump)).Writable := by
      refine Json.allWritable_iff.mpr fun v listed => ?_
      obtain ⟨t, _, rfl⟩ := List.mem_map.mp listed
      exact weighted t
    refine Json.writable_record ?_
    simp [Json.writable_ofString, Json.writable_ofOption Json.writable_ofString, targets,
      Json.writable_ofOption Json.writable_ofInt, Json.writable_ofOption policy]
  refine Json.writable_record ?_
  simp [Json.writable_ofString, Json.writable_ofInt, Json.writable_ofBool, Json.writable_ofFloat floats.prints,
    Json.writable_ofOption Json.writable_ofString, Json.writable_ofDict target, Json.writable_ofDict route]

/-- The text says just what the listed fields are. -/
theorem config_text_eq_iff (s s' : GatewaySettings) : config_text T s = config_text T s' ↔
    SameListed Json.SameSigned s s' := by
  rw [config_text, config_text, Json.dumps_inj (payload_writable floats s) (payload_writable floats s')]
  exact sortKeys_payload floats s s'

end Dumped

/-! A relation of floats which implies another one does so for whole settings. -/

section Weaker
variable {same same' : Double → Double → Prop} (weaker : ∀ x y, same x y → same' x y)
include weaker

omit weaker in
theorem rel_mono {α : Type} {r r' : α → α → Prop} (each : ∀ v w, r v w → r' v w) {v w : Option α}
    (rel : Option.Rel r v w) : Option.Rel r' v w := by
  cases rel with
  | none => exact .none
  | some agree => exact .some (each _ _ agree)

theorem SameTarget.mono (t t' : ModelTarget) (agree : SameTarget same t t') : SameTarget same' t t' :=
  { agree with
    input_cost_per_million := weaker _ _ agree.input_cost_per_million
    output_cost_per_million := weaker _ _ agree.output_cost_per_million }

theorem SamePolicy.mono (p p' : RoutingPolicy) (agree : SamePolicy same p p') : SamePolicy same' p p' where
  strategy := agree.strategy
  weights := ⟨weaker _ _ agree.weights.health, weaker _ _ agree.weights.latency, weaker _ _ agree.weights.cost⟩

theorem SameRoute.mono (r r' : ModelRoute) (agree : SameRoute same r r') : SameRoute same' r r' :=
  { agree with routing_policy := rel_mono (SamePolicy.mono weaker) agree.routing_policy }

theorem SameListed.mono (s s' : GatewaySettings) (agree : SameListed same s s') : SameListed same' s s' :=
  { agree with
    model_targets := fun name => rel_mono (SameTarget.mono weaker) (agree.model_targets name)
    model_routes := fun name => rel_mono (SameRoute.mono weaker) (agree.model_routes name)
    timeout_seconds := weaker _ _ agree.timeout_seconds
    health_interval_seconds := weaker _ _ agree.health_interval_seconds }

end Weaker

/-- Different settings have different texts, and equal ones the same, just when settings which agree in the listed
fields agree in the other flags if and only if their zeros have the same signs. -/
theorem config_text_covers_iff (T : Text) (floats : Json.SeparatesFloats T) (s s' : GatewaySettings) :
    ((¬ SameSettings s s' → config_text T s ≠ config_text T s') ∧
      (SameSettings s s' → config_text T s = config_text T s')) ↔
        (SameListed Json.SameFloat s s' → (SameFlags s s' ↔ SameListed Json.SameSigned s s')) := by
  have equal : SameListed Json.SameSigned s s' → SameListed Json.SameFloat s s' :=
    SameListed.mono (fun _ _ => And.left) s s'
  rw [SameSettings, ne_eq, config_text_eq_iff floats]
  constructor
  · rintro ⟨covered, kept⟩ listed
    refine ⟨fun flags => kept ⟨listed, flags⟩, fun signed => ?_⟩
    by_contra flags
    exact covered (fun same => flags same.2) signed
  · intro agree
    exact ⟨fun different signed => different ⟨equal signed, (agree (equal signed)).mpr signed⟩,
      fun same => (agree same.1).mp same.2⟩

/-! Settings of a local gateway with one model. -/

/-- A number with a fraction, for any code. -/
def coded (n : ℕ) : String := String.ofList ('0' :: '.' :: Nat.toDigits 10 (n + 1))

/-- `repr` of the floats below; any other is told by a code of its value. -/
def printed (q : ℚ) : String :=
  if q = 0 then "0.0" else if q = 15 then "15.0" else if q = 120 then "120.0" else coded (Encodable.encode q)

/-- `repr` with the sign of a zero. -/
def signed (x : Finite) : String := if x.value = 0 ∧ x.minus = true then "-0.0" else printed x.value

def plainText : Text :=
  { asciiText with
    repr := fun v => match v with
      | .float (.finite x) => signed x
      | _ => "" }

theorem coded_literal (n : ℕ) : Json.FloatLiteral (coded n) where
  number := by
    have digits := Json.afterDigits_digits Nat.toDigits_ne_nil
      fun c => Json.isDigit_of_mem_toDigits (n := n + 1) (c := c)
    have fraction : Json.afterFraction ('.' :: Nat.toDigits 10 (n + 1)) = some [] := digits
    rw [coded, String.toList_ofList]
    change Json.isUnsigned ('0' :: '.' :: Nat.toDigits 10 (n + 1)) = true
    rw [Json.isUnsigned, Json.afterInteger, Option.bind_some, fraction]
    rfl
  chars c member := by
    rw [coded, String.toList_ofList] at member
    rcases List.mem_cons.mp member with rfl | later
    · decide
    rcases List.mem_cons.mp later with rfl | digit
    · decide
    · exact Json.isLiteralChar_of_digit (Json.isDigit_of_mem_toDigits digit)
  fractional := by
    rw [coded, String.toList_ofList]
    exact Or.inl (List.mem_cons_of_mem _ List.mem_cons_self)

theorem printed_literal (q : ℚ) : Json.FloatLiteral (printed q) := by
  unfold printed
  split
  · exact ⟨by decide +kernel, List.all_eq_true.mp (by decide), by decide⟩
  split
  · exact ⟨by decide +kernel, List.all_eq_true.mp (by decide), by decide⟩
  split
  · exact ⟨by decide +kernel, List.all_eq_true.mp (by decide), by decide⟩
  · exact coded_literal _

theorem coded_inj {m n : ℕ} (same : coded m = coded n) : m = n := by
  have digits := (List.cons.inj (List.cons.inj (String.ofList_injective same)).2).2
  exact Nat.succ_injective (Json.toDigits_inj digits)

theorem coded_ne (n : ℕ) : coded n ≠ "0.0" ∧ coded n ≠ "15.0" ∧ coded n ≠ "120.0" ∧ coded n ≠ "-0.0" := by
  refine ⟨fun same => ?_, fun same => ?_, fun same => ?_, fun same => ?_⟩
  · have digits : Nat.toDigits 10 (n + 1) = Nat.toDigits 10 0 :=
      (List.cons.inj (List.cons.inj (String.ofList_injective same)).2).2
    exact absurd (Json.toDigits_inj digits) (Nat.succ_ne_zero n)
  · exact absurd (List.cons.inj (String.ofList_injective same)).1 (by decide)
  · exact absurd (List.cons.inj (String.ofList_injective same)).1 (by decide)
  · exact absurd (List.cons.inj (String.ofList_injective same)).1 (by decide)

theorem printed_injective : Function.Injective printed := by
  intro p q same
  unfold printed at same
  split_ifs at same with p_zero q_zero q_short q_long p_short q_zero q_short q_long p_long q_zero q_short q_long
    q_zero q_short q_long
  all_goals first
    | exact p_zero.trans q_zero.symm
    | exact p_short.trans q_short.symm
    | exact p_long.trans q_long.symm
    | exact Encodable.encode_injective (coded_inj same)
    | exact absurd same (by decide)
    | exact absurd same (coded_ne _).1
    | exact absurd same (coded_ne _).2.1
    | exact absurd same (coded_ne _).2.2.1
    | exact absurd same.symm (coded_ne _).1
    | exact absurd same.symm (coded_ne _).2.1
    | exact absurd same.symm (coded_ne _).2.2.1

theorem printed_ne_minus (q : ℚ) : printed q ≠ "-0.0" := by
  unfold printed
  split_ifs
  · decide
  · decide
  · decide
  · exact (coded_ne _).2.2.2

theorem signed_literal (x : Finite) : Json.FloatLiteral (signed x) := by
  unfold signed
  split
  · exact ⟨by decide +kernel, List.all_eq_true.mp (by decide), by decide⟩
  · exact printed_literal x.value

/-- The sign is seen at the zeros, and there only. -/
theorem signed_eq_iff (x y : Finite) : signed x = signed y ↔ Json.SameSigned (.finite x) (.finite y) := by
  have signs : Json.SameSigned (.finite x) (.finite y) ↔
      x.value = y.value ∧ (x.value = 0 → y.value = 0 → x.minus = y.minus) := Iff.rfl
  rw [signs]
  unfold signed
  split_ifs with x_minus y_minus y_minus
  · exact iff_of_true rfl ⟨x_minus.1.trans y_minus.1.symm, fun _ _ => x_minus.2.trans y_minus.2.symm⟩
  · refine iff_of_false (printed_ne_minus y.value).symm fun same => y_minus ?_
    have y_zero := same.1.symm.trans x_minus.1
    exact ⟨y_zero, (same.2 x_minus.1 y_zero).symm.trans x_minus.2⟩
  · refine iff_of_false (printed_ne_minus x.value) fun same => x_minus ?_
    have x_zero := same.1.trans y_minus.1
    exact ⟨x_zero, (same.2 x_zero y_minus.1).trans y_minus.2⟩
  · rw [printed_injective.eq_iff]
    refine ⟨fun same => ⟨same, fun x_zero y_zero => ?_⟩, And.left⟩
    have x_plus : x.minus = false := Bool.eq_false_iff.mpr fun minus => x_minus ⟨x_zero, minus⟩
    have y_plus : y.minus = false := Bool.eq_false_iff.mpr fun minus => y_minus ⟨y_zero, minus⟩
    rw [x_plus, y_plus]

theorem plainText_separates : Json.SeparatesFloats plainText where
  prints := signed_literal
  separates := signed_eq_iff

/-- A whole number of seconds. -/
def seconds (n : ℕ) (small : n ≤ 1000) : Finite where
  value := n
  printed := n
  bounded := by
    have large : (1 : ℚ) ≤ 2 ^ 970 := one_le_pow₀ (by norm_num)
    have room : (1000 : ℚ) ≤ maxDouble := le_trans (by norm_num) (mul_le_mul_of_nonneg_left large (by norm_num))
    have bounded : (n : ℚ) ≤ 1000 := by exact_mod_cast small
    rw [abs_of_nonneg (Nat.cast_nonneg n)]
    exact bounded.trans room

/-- A local gateway with one model and one key. -/
def localSettings (require_auth : Bool) : GatewaySettings where
  model_targets := AList.singleton "qwen"
      ⟨"http://qwen", .finite .zero, .finite .zero, none, "/health", none, none, none⟩
  model_routes := ∅
  timeout_seconds := .finite (seconds 120 (by decide))
  health_interval_seconds := .finite (seconds 15 (by decide))
  api_keys := {"key-a"}
  redis_url := none
  gateway_replicas := 1
  require_shared_state := false
  profile := "local"
  jwt_verify_enabled := false
  jwt_issuer := none
  jwt_audience := none
  require_jwt_iss_aud := false
  control_plane_configured := false
  require_auth := require_auth
  require_control_plane := false

theorem localSettings_valid (require_auth : Bool) : (localSettings require_auth).Valid where
  targets name target known := by
    have member := AList.mem_lookup_iff.mp known
    obtain ⟨rfl, same⟩ : name = "qwen" ∧ _ := by simpa [localSettings] using member
    subst same
    exact ⟨le_rfl, le_rfl⟩
  routes name route known := by cases known
  timeout_seconds := by
    change (0 : ℚ) < ((120 : ℕ) : ℚ)
    norm_num
  health_interval_seconds := by
    change (0 : ℚ) < ((15 : ℕ) : ℚ)
    norm_num
  gateway_replicas := le_rfl
  route_targets_exist name route known := by cases known
  shared_state_required_for_ha required := by cases required
  profile := List.mem_cons_self
  auth _ := Or.inl (Finset.singleton_nonempty _)
  control_plane required := by cases required
  production profile := by
    have named : "local" = "production" := profile
    exact absurd named (by decide)

/-- Another timeout gives another text. -/
theorem config_text_covers_timeout : config_text plainText (localSettings true) ≠
    config_text plainText { localSettings true with timeout_seconds := .finite (seconds 15 (by decide)) } := by
  have timeouts : ¬ Json.SameFloat (.finite (seconds 120 (by decide))) (.finite (seconds 15 (by decide))) := by
    change ¬ ((120 : ℕ) : ℚ) = ((15 : ℕ) : ℚ)
    norm_num
  have covers := (config_text_covers_iff plainText plainText_separates (localSettings true)
    { localSettings true with timeout_seconds := .finite (seconds 15 (by decide)) }).mpr
      fun listed => absurd listed.timeout_seconds timeouts
  exact covers.1 fun same => timeouts same.1.timeout_seconds

/-- With the guard on authentication switched off the text stays the same. -/
theorem require_auth_unseen : (localSettings true).Valid ∧ (localSettings false).Valid ∧
    ¬ SameSettings (localSettings true) (localSettings false) ∧
    config_text plainText (localSettings true) = config_text plainText (localSettings false) := by
  refine ⟨localSettings_valid _, localSettings_valid _, ?_, rfl⟩
  intro same
  exact absurd same.2.require_auth (by decide)

/-- A local gateway whose model has the given input cost. -/
def pricedSettings (cost : Finite) : GatewaySettings :=
  { localSettings true with
    model_targets := AList.singleton "qwen"
      ⟨"http://qwen", .finite cost, .finite .zero, none, "/health", none, none, none⟩ }

theorem pricedSettings_qwen (cost : Finite) : (pricedSettings cost).model_targets.lookup "qwen" =
    some ⟨"http://qwen", .finite cost, .finite .zero, none, "/health", none, none, none⟩ := rfl

/-- Costs of `0.0` and `-0.0` are equal, and have different texts. -/
theorem zero_sign_seen : SameSettings (pricedSettings .zero) (pricedSettings { Finite.zero with minus := true }) ∧
    config_text plainText (pricedSettings .zero) ≠
      config_text plainText (pricedSettings { Finite.zero with minus := true }) := by
  refine ⟨⟨⟨fun name => ?_, fun _ => .none, rfl, rfl, rfl, rfl, rfl, rfl, rfl, rfl, rfl⟩, rfl, rfl, rfl⟩, fun same => ?_⟩
  · by_cases qwen : name = "qwen"
    · subst qwen
      exact .some ⟨rfl, rfl, rfl, rfl, rfl, rfl, rfl, rfl⟩
    · have absent : ∀ cost, (pricedSettings cost).model_targets.lookup name = none := fun cost =>
        AList.lookup_eq_none.mpr fun member => qwen (List.mem_singleton.mp member)
      rw [absent, absent]
      exact .none
  · have listed := (config_text_eq_iff plainText_separates _ _).mp same
    have targets := listed.model_targets "qwen"
    rw [pricedSettings_qwen, pricedSettings_qwen] at targets
    cases targets with
    | some agree => exact absurd (agree.input_cost_per_million.2 rfl rfl) (by decide)

end RuntimePlatform.Config
