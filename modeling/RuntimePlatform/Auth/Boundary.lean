import RuntimePlatform.Config.Environment
import RuntimePlatform.Errors.Envelope

/-!
`auth.py`: the middleware which authenticates every request but those of the public paths. What it lets by is shown for
the settings which a process has loaded from its environment.
-/

namespace RuntimePlatform.Auth
open Python Except Governance Config

def PUBLIC_PATHS : List String := ["/health", "/healthz", "/livez", "/readyz", "/metrics", "/v1/runtime/jwks"]

/-- A request: the path of its URL, its headers by their lower case names, and its state. -/
structure HttpRequest extends ClientRequest where
  url_path : String
  auth_method : Option String

/-- The response in place of the handler's, or an exception. -/
inductive Refused where
  | response (status_code : ℕ) (content : Entries)
  | raised (e : Python.Error)

def HttpRequest.authorization (request : HttpRequest) : String := (request.headers "authorization").getD ""

/-- `json_error_response` -/
def json_error_response (status_code : ℕ) (code message error_type : String) (request_id : Option String) : Refused :=
  .response status_code (Errors.error_body code message error_type request_id none)

def request_is_authorized (request : HttpRequest) (api_keys : Finset String) : Bool :=
  let header := request.authorization.toList
  if "Bearer ".toList.isPrefixOf header = true ∧ strip (String.ofList (header.drop 7)) ∈ api_keys then true
  else decide ((request.headers "x-api-key").getD "" ∈ api_keys)

/-- `_bearer_token` -/
def bearer_token (T : Text) (request : HttpRequest) : String :=
  if "bearer ".toList.isPrefixOf (T.lower request.authorization).toList = true then
    strip (String.ofList (request.authorization.toList.drop 7))
  else ""

variable {Key : Type} (L : JwtLibrary Key) (env : Environ)

/-- A request which is let by has the method and the claims in its state. -/
def JwtLibrary.authenticate_request (request : HttpRequest) (settings : GatewaySettings) :
    Except Refused HttpRequest :=
  let refuse (status_code : ℕ) (code message : String) : Except Refused HttpRequest :=
    .error (json_error_response status_code code message "authentication_error" (request.headers "x-request-id"))
  if request.url_path ∈ PUBLIC_PATHS then .ok request
  else if is_jwt_verify_enabled L.text env = true ∨ settings.jwt_verify_enabled = true then
    let token := bearer_token L.text request
    if token = "" then refuse 401 "missing_bearer_token" "Bearer token required when OIDC_JWT_VERIFY is enabled"
    else
      match L.verify_bearer_token env token with
      | .ok claims => .ok { request with identity_claims := some claims, auth_method := some "jwt" }
      | .error (.misconfigured text) => refuse 503 "jwt_misconfigured" text
      | .error .invalid => refuse 401 "invalid_bearer_token" "Bearer token failed verification"
      | .error (.raised e) => .error (.raised e)
  else if settings.api_keys.Nonempty then
    if request_is_authorized request settings.api_keys then
      .ok { request with identity_claims := some [], auth_method := some "api_key" }
    else refuse 401 "invalid_api_key" "missing or invalid API key"
  else if settings.require_auth then
    refuse 401 "authentication_required" "authentication is required for this gateway profile"
  else .ok { request with identity_claims := some [], auth_method := some "none" }

/-- `AuthenticationMiddleware.dispatch`, with the settings once they are loaded. -/
def JwtLibrary.dispatch {Response : Type} (settings : Option GatewaySettings)
    (call_next : HttpRequest → Except Refused Response) (request : HttpRequest) : Except Refused Response :=
  match settings with
  | none =>
    if request.url_path ∈ PUBLIC_PATHS then call_next request
    else .error (json_error_response 503 "gateway_not_ready" "gateway settings are not loaded" "api_error" none)
  | some settings => do
    let request ← L.authenticate_request env request settings
    call_next request

/-! Who is let by. -/

/-- The request has this key in one of the two headers. -/
def HttpRequest.Presents (request : HttpRequest) (key : String) : Prop :=
  "Bearer ".toList.isPrefixOf request.authorization.toList = true ∧
      strip (String.ofList (request.authorization.toList.drop 7)) = key ∨
    request.headers "x-api-key" = some key

/-- The four ways through the middleware, and the state in which the handler finds the request. -/
inductive LetBy (Signed : Key → List String → String → Entries → Prop) (settings : GatewaySettings)
    (request request' : HttpRequest) : Prop
  | public_path (listed : request.url_path ∈ PUBLIC_PATHS) (same : request' = request)
  | jwt (claims : Entries) (enabled : is_jwt_verify_enabled L.text env = true) (given : bearer_token L.text request ≠ "")
      (verified : L.Verified Signed env (bearer_token L.text request) claims)
      (state : request' = { request with identity_claims := some claims, auth_method := some "jwt" })
  | api_key (key : String) (disabled : is_jwt_verify_enabled L.text env = false) (known : key ∈ settings.api_keys)
      (given : key ≠ "") (presented : request.Presents key)
      (state : request' = { request with identity_claims := some [], auth_method := some "api_key" })
  | none (disabled : is_jwt_verify_enabled L.text env = false) (keyless : settings.api_keys = ∅)
      (profile : settings.profile = "local") (optional : env.flag L.text "REQUIRE_AUTH" = false)
      (state : request' = { request with identity_claims := some [], auth_method := some "none" })

variable {L env} {Signed : Key → List String → String → Entries → Prop} {settings : GatewaySettings}
variable {request request' : HttpRequest}

theorem presents_of_authorized {api_keys : Finset String} (blank : "" ∉ api_keys)
    (authorized : request_is_authorized request api_keys = true) : ∃ key ∈ api_keys, request.Presents key := by
  unfold request_is_authorized at authorized
  dsimp only at authorized
  split at authorized
  next bearer => exact ⟨_, bearer.2, .inl ⟨bearer.1, rfl⟩⟩
  next =>
    rw [decide_eq_true_eq] at authorized
    cases header : request.headers "x-api-key" with
    | none =>
        rw [header] at authorized
        exact absurd authorized blank
    | some key =>
        rw [header] at authorized
        exact ⟨key, authorized, .inr header⟩

/-- With settings which are loaded from the environment, the middleware lets by requests in these four ways only. -/
theorem letBy_of_authenticated {loader : Loader} (tables : loader.text = L.text)
    (loaded : loader.from_environment env = .ok settings) (documented : L.Documented Signed)
    (passed : L.authenticate_request env request settings = .ok request') :
    LetBy L env Signed settings request request' := by
  obtain ⟨values, validated⟩ := from_environment_ok loaded
  have jwt : settings.jwt_verify_enabled = is_jwt_verify_enabled L.text env := by
    rw [values.jwt_verify_enabled, tables]
  unfold JwtLibrary.authenticate_request at passed
  dsimp only at passed
  by_cases listed : request.url_path ∈ PUBLIC_PATHS
  · rw [if_pos listed] at passed
    cases passed
    exact .public_path listed rfl
  rw [if_neg listed] at passed
  cases enabled : is_jwt_verify_enabled L.text env with
  | true =>
      rw [if_pos (.inl enabled)] at passed
      split at passed
      · cases passed
      next given =>
        cases verified : L.verify_bearer_token env (bearer_token L.text request) with
        | ok claims =>
            rw [verified] at passed
            cases passed
            exact .jwt claims enabled given (verify_bearer_token_verified documented enabled verified) rfl
        | error failure =>
            rw [verified] at passed
            cases failure with
            | _ => cases passed
  | false =>
      have off : ¬ (is_jwt_verify_enabled L.text env = true ∨ settings.jwt_verify_enabled = true) := by
        rw [jwt, or_self]
        exact Bool.eq_false_iff.mp enabled
      rw [if_neg off] at passed
      by_cases keys : settings.api_keys.Nonempty
      · rw [if_pos keys] at passed
        split at passed
        next authorized =>
          cases passed
          obtain ⟨key, known, presented⟩ := presents_of_authorized values.key_given authorized
          exact .api_key key enabled known (fun blank => values.key_given (blank ▸ known)) presented rfl
        next => cases passed
      · rw [if_neg keys] at passed
        split at passed
        · cases passed
        next optional =>
          cases passed
          have off := Bool.eq_false_iff.mpr optional
          rw [values.require_auth, Bool.or_eq_false_iff, decide_eq_false_iff_not] at off
          obtain ⟨unguarded, flag⟩ := off
          rw [tables] at flag
          -- Of the three profiles, the two others require authentication.
          have profile : settings.profile = "local" := by
            have known := validated.profile
            simp only [List.mem_cons, List.not_mem_nil, or_false, not_or] at known unguarded
            exact known.resolve_right fun guarded => guarded.elim unguarded.1 unguarded.2
          exact .none enabled (Finset.not_nonempty_iff_eq_empty.mp keys) profile flag rfl

/-- The claims of a request which the production profile lets by name the issuer and this gateway. -/
theorem LetBy.production {loader : Loader} (tables : loader.text = L.text)
    (loaded : loader.from_environment env = .ok settings) (letBy : LetBy L env Signed settings request request')
    (production : settings.profile = "production") (guarded : request.url_path ∉ PUBLIC_PATHS) :
    ∃ claims issuer audience, request'.identity_claims = some claims ∧
      L.Verified Signed env (bearer_token L.text request) claims ∧ get_jwt_issuer env = some issuer ∧
      claims.orNone "iss" = .str issuer ∧ get_jwt_audience env = some audience ∧ ForAudience claims audience := by
  obtain ⟨values, validated⟩ := from_environment_ok loaded
  obtain ⟨jwt, ⟨issued, -⟩, ⟨heard, -⟩, -⟩ := validated.production production
  rw [values.jwt_verify_enabled, tables] at jwt
  rw [values.jwt_issuer] at issued
  rw [values.jwt_audience] at heard
  cases letBy with
  | public_path listed => exact absurd listed guarded
  | jwt claims _ _ verified state =>
      obtain ⟨issuer, issuer_set⟩ := Option.ne_none_iff_exists'.mp issued
      obtain ⟨audience, audience_set⟩ := Option.ne_none_iff_exists'.mp heard
      refine ⟨claims, issuer, audience, ?_, verified, issuer_set, verified.issuer issuer issuer_set,
        audience_set, verified.audience audience audience_set⟩
      rw [state]
  | api_key _ disabled => exact absurd jwt (Bool.eq_false_iff.mp disabled)
  | none disabled => exact absurd jwt (Bool.eq_false_iff.mp disabled)

def productionEnviron : Environ := fun name =>
  ([("GATEWAY_PROFILE", "Production"), ("OIDC_JWT_VERIFY", "true"), ("OIDC_JWKS_URL", "https://idp/jwks"),
    ("OIDC_JWT_ISSUER", "https://idp"), ("OIDC_JWT_AUDIENCE", "gateway"), ("REDIS_URL", "redis://store"),
    ("CONTROL_PLANE_URL", "http://control")] : List (String × String)).lookup name

def seconds : Double := .finite {
  value := 120
  printed := 120
  bounded := by
    rw [abs_of_pos (by norm_num)]
    exact le_trans (by norm_num) (le_mul_of_one_le_right (by norm_num) (one_le_pow₀ (by norm_num))) }

def plainLoader : Loader where
  text := asciiText
  loads _ := .ok (.dict [])
  float _ := .ok seconds
  int _ := .ok 1
  model_targets _ := .ok ∅
  model_routes _ := .ok ∅

def issuedClaims : Entries :=
  [(.str "iss", .str "https://idp"), (.str "aud", .list [.str "gateway"]), (.str "exp", .int 2), (.str "iat", .int 1),
    (.str "sub", .str "ann"), (.str "groups", .list [.str "platform-admin"])]

/-- It knows one key, with which it takes one token. -/
def oneKey : JwtLibrary Unit where
  text := asciiText
  get_signing_key_from_jwt _ _ := .ok ()
  decode token _ d :=
    if token = "token" ∧ d.issuer = some "https://idp" ∧ d.audience = some "gateway" ∧ d.require = ["exp", "iat"] then
      .ok (.dict issuedClaims)
    else .error .invalid
  decoder := ⟨fun _ => .finite .zero, fun _ => ""⟩
  loads_other _ := none

theorem oneKey_documented : oneKey.Documented fun _ _ token claims => token = "token" ∧ claims = issuedClaims := by
  have only : ∀ token key (d : Decoding) claims, oneKey.decode token key d = .ok (.dict claims) →
      (token = "token" ∧ d.issuer = some "https://idp" ∧ d.audience = some "gateway" ∧ d.require = ["exp", "iat"]) ∧
        claims = issuedClaims := by
    intro token key d claims decoded
    unfold oneKey at decoded
    dsimp only at decoded
    split at decoded
    next checked =>
      cases decoded
      exact ⟨checked, rfl⟩
    next => cases decoded
  constructor
  · intro token key d claims decoded
    obtain ⟨⟨named, -⟩, same⟩ := only token key d claims decoded
    exact ⟨named, same⟩
  · intro token key d claims decoded name required
    obtain ⟨⟨-, -, -, names⟩, rfl⟩ := only token key d claims decoded
    rw [names] at required
    simp only [List.mem_cons, List.not_mem_nil, or_false] at required
    rcases required with rfl | rfl
    · exact fun absent => nomatch absent
    · exact fun absent => nomatch absent
  · intro token key d claims decoded _ issuer named
    obtain ⟨⟨-, known, -⟩, rfl⟩ := only token key d claims decoded
    rw [known] at named
    cases named
    rfl
  · intro token key d claims decoded _ audience named
    obtain ⟨⟨-, -, known, -⟩, rfl⟩ := only token key d claims decoded
    rw [known] at named
    cases named
    exact .inr ⟨[.str "gateway"], rfl, List.mem_cons_self⟩

def productionSettings : GatewaySettings where
  model_targets := ∅
  model_routes := ∅
  timeout_seconds := seconds
  health_interval_seconds := seconds
  api_keys := ∅
  redis_url := some "redis://store"
  gateway_replicas := 1
  require_shared_state := true
  profile := "production"
  jwt_verify_enabled := true
  jwt_issuer := some "https://idp"
  jwt_audience := some "gateway"
  require_jwt_iss_aud := true
  control_plane_configured := true
  require_auth := true
  require_control_plane := true

theorem productionSettings_loaded : plainLoader.from_environment productionEnviron = .ok productionSettings := by
  rfl

def bearing (token path : String) : HttpRequest where
  headers name := if name = "authorization" then some ("Bearer " ++ token) else none
  identity_claims := none
  url_path := path
  auth_method := none

end RuntimePlatform.Auth
