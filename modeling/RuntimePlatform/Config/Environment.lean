import RuntimePlatform.Auth.JwtVerify
import RuntimePlatform.Config.Digest
import RuntimePlatform.Lib.Entries

/-!
`GatewaySettings.from_environment`: the settings of the process, and the validators which they have passed. What
pydantic makes of the two texts in JSON is a parameter.
-/

namespace RuntimePlatform.Config
open Python Except Auth Governance

instance (bound : ℚ) : DecidablePred (ge bound)
  | .finite x => inferInstanceAs (Decidable (bound ≤ x.value))
  | .inf negative => inferInstanceAs (Decidable (negative = false))
  | .nan => isTrue trivial

instance (bound : ℚ) : DecidablePred (gt bound)
  | .finite x => inferInstanceAs (Decidable (bound < x.value))
  | .inf negative => inferInstanceAs (Decidable (negative = false))
  | .nan => isTrue trivial

instance : DecidablePred given := fun text => inferInstanceAs (Decidable (text ≠ none ∧ text ≠ some ""))

/-- The standard library, and pydantic on the two fields which are read from JSON. -/
structure Loader where
  text : Text
  loads : String → Except Python.Error Value
  float : String → Except Python.Error Double
  int : String → Except Python.Error ℤ
  model_targets : Value → Except Python.Error (Dict String ModelTarget)
  model_routes : Value → Except Python.Error (Dict String ModelRoute)

/-! The validators. -/

def invalid (text : String) : Python.Error := ⟨.valueError, text⟩

/-- The models of the routes which are no targets. -/
def GatewaySettings.missing (s : GatewaySettings) : List (Option String) :=
  (s.model_routes.entries.flatMap fun entry => entry.2.model_names).filter fun model =>
    decide (¬ ∃ name ∈ model, name ∈ s.model_targets)

def route_targets_exist (s : GatewaySettings) : Except Python.Error Unit :=
  let missing := (s.missing.reduceOption.dedup.insertionSort fun a b => a ≤ b)
  raiseIf (s.missing ≠ []) (invalid ("route references unknown models: " ++ String.intercalate ", " missing))

def shared_state_required_for_ha (s : GatewaySettings) : Except Python.Error Unit :=
  raiseIf (s.require_shared_state = true ∧ ¬ given s.redis_url)
    (invalid "REDIS_URL is required when REQUIRE_SHARED_STATE=true or GATEWAY_REPLICAS > 1")

def profile_security_guards (s : GatewaySettings) : Except Python.Error Unit := do
  raiseIf (s.profile ∉ ["local", "internal", "production"])
    (invalid "GATEWAY_PROFILE must be one of: local, internal, production")
  let has_auth : Prop := s.api_keys.Nonempty ∨ s.jwt_verify_enabled = true
  raiseIf (s.require_auth = true ∧ ¬ has_auth)
    (invalid "authentication is required: set GATEWAY_API_KEYS and/or OIDC_JWT_VERIFY=true")
  raiseIf (s.require_control_plane = true ∧ ¬ s.control_plane_configured = true)
    (invalid "CONTROL_PLANE_URL is required for this GATEWAY_PROFILE")
  if s.profile = "production" then do
    raiseIf (¬ s.jwt_verify_enabled = true)
      (invalid "production profile requires OIDC_JWT_VERIFY=true and a configured JWKS URL")
    raiseIf (¬ given s.jwt_issuer ∨ ¬ given s.jwt_audience)
      (invalid "production profile requires OIDC_JWT_ISSUER and OIDC_JWT_AUDIENCE")
    raiseIf (¬ s.require_jwt_iss_aud = true) (invalid "production profile requires OIDC_JWT_REQUIRE_ISS_AUD=true")
    raiseIf (¬ s.require_shared_state = true ∨ ¬ given s.redis_url)
      (invalid "production profile requires REDIS_URL shared state")
    raiseIf (¬ s.control_plane_configured = true) (invalid "production profile requires CONTROL_PLANE_URL")
  else .ok ()

/-- The bounds of the fields, and then the validators. -/
def model_validate (s : GatewaySettings) : Except Python.Error GatewaySettings := do
  raiseIf (¬ (gt 0 s.timeout_seconds ∧ gt 0 s.health_interval_seconds)) (invalid "Input should be greater than 0")
  raiseIf (¬ 1 ≤ s.gateway_replicas) (invalid "Input should be greater than or equal to 1")
  route_targets_exist s
  shared_state_required_for_ha s
  profile_security_guards s
  .ok s

/-! The environment. -/

/-- A number which is written with few digits: the double, and what it prints. -/
def price : Double := .finite {
  value := 3602879701896397 / 2 ^ 54
  printed := 1 / 5
  bounded := by
    rw [abs_of_pos (by norm_num)]
    exact le_trans (by norm_num) (le_mul_of_one_le_right (by norm_num) (one_le_pow₀ (by norm_num))) }

def default_targets : Value := .dict [(.str "qwen2.5-7b-instruct", .dict [
  (.str "url", .str "http://vllm-qwen.ai-runtime.svc.cluster.local:8000"),
  (.str "input_cost_per_million", .float price),
  (.str "output_cost_per_million", .float price)])]

variable (L : Loader) (env : Environ)

/-- `base_url.rstrip("/")`, with `/v1` at its end. -/
def ollama_url (base_url : String) : String :=
  let url := base_url.toList.rdropWhile fun c => decide (c = '/')
  if "/v1".toList.isSuffixOf url then String.ofList url else String.ofList url ++ "/v1"

/-- A target for each of the models which Ollama serves, where there is none of its name. -/
def Loader.ollama_target (base_url : String) (targets : Value) (ollama_model : String) : Except Python.Error Value :=
  match targets with
  | .dict entries => do
    let input ← L.float (env.getenv "OLLAMA_INPUT_COST_PER_MILLION" "0")
    let output ← L.float (env.getenv "OLLAMA_OUTPUT_COST_PER_MILLION" "0")
    .ok (.dict (Entries.setdefault entries ollama_model (.dict [
      (.str "url", .str (ollama_url base_url)),
      (.str "input_cost_per_million", .float input),
      (.str "output_cost_per_million", .float output),
      (.str "backend_name", .str ("ollama-" ++ ollama_model)),
      (.str "health_path", .str "/")])))
  | _ => .error ⟨.attributeError, "object has no attribute 'setdefault'"⟩

/-- The targets as they are configured, before they are validated. -/
def Loader.raw_targets : Except Python.Error Value := do
  let raw := (env "MODEL_TARGETS").getD ""
  let targets ← (if raw = "" then .ok default_targets else L.loads raw : Except Python.Error Value)
  let base_url := (env "OLLAMA_BASE_URL").getD ""
  let models := stripped_parts (env.getenv "OLLAMA_MODELS" (env.getenv "OLLAMA_MODEL" "qwen2.5:1.5b"))
  if base_url = "" then .ok targets else models.foldlM (L.ollama_target env base_url) targets

/-- `GATEWAY_PROFILE` -/
def profile (T : Text) : String := orText (T.lower (strip (env.getenv "GATEWAY_PROFILE" "local"))) "local"

def Loader.from_environment : Except Python.Error GatewaySettings := do
  let raw_targets ← L.raw_targets env
  let raw_routes := (env "MODEL_ROUTES").getD ""
  let gateway_replicas := max 1 (← L.int (env.getenv "GATEWAY_REPLICAS" "1"))
  let profile := profile env L.text
  let routes ← (if raw_routes = "" then .ok (.dict []) else L.loads raw_routes : Except Python.Error Value)
  let timeout_seconds ← L.float (env.getenv "UPSTREAM_TIMEOUT_SECONDS" "120")
  let health_interval_seconds ← L.float (env.getenv "BACKEND_HEALTH_INTERVAL_SECONDS" "15")
  let model_targets ← L.model_targets raw_targets
  let model_routes ← L.model_routes routes
  model_validate {
    model_targets := model_targets
    model_routes := model_routes
    timeout_seconds := timeout_seconds
    health_interval_seconds := health_interval_seconds
    api_keys := (stripped_parts (env.getenv "GATEWAY_API_KEYS" "")).toFinset
    redis_url := (env "REDIS_URL").filter fun url => decide (url ≠ "")
    gateway_replicas := gateway_replicas
    require_shared_state := env.flag L.text "REQUIRE_SHARED_STATE" || decide (1 < gateway_replicas) ||
      decide (profile = "production")
    profile := profile
    jwt_verify_enabled := is_jwt_verify_enabled L.text env
    jwt_issuer := get_jwt_issuer env
    jwt_audience := get_jwt_audience env
    require_jwt_iss_aud := decide (profile = "production") || env.flag L.text "OIDC_JWT_REQUIRE_ISS_AUD"
    control_plane_configured := decide (strip (env.getenv "CONTROL_PLANE_URL" "") ≠ "")
    require_auth := decide (profile ∈ ["internal", "production"]) || env.flag L.text "REQUIRE_AUTH"
    require_control_plane := decide (profile = "production") || env.flag L.text "REQUIRE_CONTROL_PLANE" }

/-! The settings which a process starts with. -/

variable {L env} {s s' : GatewaySettings}

/-- What settings have passed. -/
structure Validated (s : GatewaySettings) : Prop where
  timeout_seconds : gt 0 s.timeout_seconds
  health_interval_seconds : gt 0 s.health_interval_seconds
  gateway_replicas : 1 ≤ s.gateway_replicas
  targets : s.missing = []
  shared : s.require_shared_state = true → given s.redis_url
  profile : s.profile ∈ ["local", "internal", "production"]
  auth : s.require_auth = true → s.api_keys.Nonempty ∨ s.jwt_verify_enabled = true
  control_plane : s.require_control_plane = true → s.control_plane_configured = true
  production : s.profile = "production" → s.jwt_verify_enabled = true ∧ given s.jwt_issuer ∧ given s.jwt_audience ∧
    s.require_jwt_iss_aud = true ∧ s.require_shared_state = true ∧ given s.redis_url ∧
    s.control_plane_configured = true

theorem profile_security_guards_ok {u : Unit} (passed : profile_security_guards s = .ok u) :
    s.profile ∈ ["local", "internal", "production"] ∧
      (s.require_auth = true → s.api_keys.Nonempty ∨ s.jwt_verify_enabled = true) ∧
      (s.require_control_plane = true → s.control_plane_configured = true) ∧
      (s.profile = "production" → s.jwt_verify_enabled = true ∧ given s.jwt_issuer ∧ given s.jwt_audience ∧
        s.require_jwt_iss_aud = true ∧ s.require_shared_state = true ∧ given s.redis_url ∧
        s.control_plane_configured = true) := by
  unfold profile_security_guards at passed
  obtain ⟨_, known, passed⟩ := bind_eq_ok.mp passed
  obtain ⟨_, auth, passed⟩ := bind_eq_ok.mp passed
  obtain ⟨_, control, passed⟩ := bind_eq_ok.mp passed
  rw [raiseIf_eq_ok, not_not] at known
  rw [raiseIf_eq_ok, not_and, not_not] at auth control
  refine ⟨known, auth, control, fun production => ?_⟩
  rw [if_pos production] at passed
  obtain ⟨_, jwt, passed⟩ := bind_eq_ok.mp passed
  obtain ⟨_, named, passed⟩ := bind_eq_ok.mp passed
  obtain ⟨_, required, passed⟩ := bind_eq_ok.mp passed
  obtain ⟨_, shared, passed⟩ := bind_eq_ok.mp passed
  rw [raiseIf_eq_ok, not_not] at jwt required passed
  rw [raiseIf_eq_ok, not_or, not_not, not_not] at named shared
  exact ⟨jwt, named.1, named.2, required, shared.1, shared.2, passed⟩

theorem model_validate_ok (passed : model_validate s = .ok s') : s' = s ∧ Validated s := by
  unfold model_validate at passed
  obtain ⟨_, times, passed⟩ := bind_eq_ok.mp passed
  obtain ⟨_, replicas, passed⟩ := bind_eq_ok.mp passed
  obtain ⟨_, targets, passed⟩ := bind_eq_ok.mp passed
  obtain ⟨_, shared, passed⟩ := bind_eq_ok.mp passed
  obtain ⟨_, guards, passed⟩ := bind_eq_ok.mp passed
  cases passed
  rw [raiseIf_eq_ok, not_not] at times replicas
  unfold route_targets_exist at targets
  rw [raiseIf_eq_ok, not_not] at targets
  unfold shared_state_required_for_ha at shared
  rw [raiseIf_eq_ok, not_and, not_not] at shared
  obtain ⟨known, auth, control, production⟩ := profile_security_guards_ok guards
  exact ⟨rfl, times.1, times.2, replicas, targets, shared, known, auth, control, production⟩

/-- What the environment says of the settings which decide who is let in. -/
structure Loaded (L : Loader) (env : Environ) (s : GatewaySettings) : Prop where
  api_keys : s.api_keys = (stripped_parts (env.getenv "GATEWAY_API_KEYS" "")).toFinset
  profile : s.profile = profile env L.text
  jwt_verify_enabled : s.jwt_verify_enabled = is_jwt_verify_enabled L.text env
  jwt_issuer : s.jwt_issuer = get_jwt_issuer env
  jwt_audience : s.jwt_audience = get_jwt_audience env
  require_auth : s.require_auth = (decide (s.profile ∈ ["internal", "production"]) || env.flag L.text "REQUIRE_AUTH")
  require_jwt_iss_aud : s.require_jwt_iss_aud =
    (decide (s.profile = "production") || env.flag L.text "OIDC_JWT_REQUIRE_ISS_AUD")

theorem from_environment_ok (loaded : L.from_environment env = .ok s) : Loaded L env s ∧ Validated s := by
  unfold Loader.from_environment at loaded
  obtain ⟨raw_targets, _, loaded⟩ := bind_eq_ok.mp loaded
  obtain ⟨replicas, _, loaded⟩ := bind_eq_ok.mp loaded
  obtain ⟨raw_routes, _, loaded⟩ := bind_eq_ok.mp loaded
  obtain ⟨timeout_seconds, _, loaded⟩ := bind_eq_ok.mp loaded
  obtain ⟨health_interval_seconds, _, loaded⟩ := bind_eq_ok.mp loaded
  obtain ⟨model_targets, _, loaded⟩ := bind_eq_ok.mp loaded
  obtain ⟨model_routes, _, loaded⟩ := bind_eq_ok.mp loaded
  obtain ⟨rfl, validated⟩ := model_validate_ok loaded
  refine ⟨?_, validated⟩
  constructor <;> dsimp only

/-- No key is blank, so that a request without a key has none of them. -/
theorem Loaded.key_given (loaded : Loaded L env s) : "" ∉ s.api_keys := by
  intro blank
  rw [loaded.api_keys, List.mem_toFinset] at blank
  unfold stripped_parts at blank
  have given := (List.mem_filter.mp blank).2
  exact of_decide_eq_true given rfl

end RuntimePlatform.Config
