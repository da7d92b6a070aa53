import RuntimePlatform.Auth.Boundary
import RuntimePlatform.Mcp.Sessions

/-!
The roles of `rbac.py`, the identity of `tenant_context.py` and `identity.py`, and the endpoints which ask for them: what
a caller may do, and who it is taken for, comes of the verified token.
-/

namespace RuntimePlatform.Auth
open Python Except Governance Config

def PLATFORM_ADMIN_ROLES : List String := ["platform-admin", "ai-platform-admins"]

def RUNTIME_SERVICE_ROLES : List String := ["runtime-service", "ai-runtime-service"]

def AUDITOR_ROLES : List String := ["ai-auditors", "global-auditor", "auditor"]

def STATUS_ROLES : List String := PLATFORM_ADMIN_ROLES ++ RUNTIME_SERVICE_ROLES ++ AUDITOR_ROLES

def VERIFY_ROLES : List String := PLATFORM_ADMIN_ROLES ++ RUNTIME_SERVICE_ROLES

def MCP_SERVERS_ROLES : List String := PLATFORM_ADMIN_ROLES ++ AUDITOR_ROLES

/-- `_normalize` and `_normalize_groups`, on what JSON has. -/
def normalize (T : Text) : Value → List String
  | .str text => stripped_parts text
  | .list items => (items.map fun item => strip (T.str item)).filter fun role => decide (role ≠ "")
  | _ => []

def claimed_roles (T : Text) (claims : Entries) : List String :=
  normalize T (claims.orNone "groups") ++ normalize T (claims.orNone "roles") ++
    match claims.orNone "realm_access" with
    | .dict realm => normalize T (Entries.orNone realm "roles")
    | _ => []

def identity_roles (T : Text) (request : HttpRequest) : List String :=
  (request.identity_claims.map (claimed_roles T)).getD []

def rbac_enforced (T : Text) (env : Environ) : Bool :=
  env.flag T "GATEWAY_ENFORCE_RUNTIME_RBAC" || is_jwt_verify_enabled T env

/-- What the exception handler makes of an `HTTPException`. -/
def http_exception (T : Text) (request : HttpRequest) (status_code : ℕ) (detail : Value) : Refused :=
  .response status_code (Errors.fastapi_http_exception_handler T (request.headers "x-request-id") detail)

def error_detail (type code message : String) : Value :=
  .dict [(.str "error", .dict [(.str "type", .str type), (.str "code", .str code), (.str "message", .str message)])]

def require_any_role (T : Text) (env : Environ) (request : HttpRequest) (allowed : List String) : Except Refused Unit :=
  raiseIf (rbac_enforced T env = true ∧ ∀ role ∈ identity_roles T request, role ∉ allowed)
    (http_exception T request 403
      (error_detail "permission_error" "runtime_role_required" "caller lacks a required runtime role"))

/-- An endpoint, with what it reads of the path and of the body. -/
inductive Endpoint where
  | mcp_servers
  | mcp_server_initialize (server_name : String)
  | mcp_server_cancel (server_name : String) (payload : Except Python.Error Value)
  | runtime_status
  | runtime_verify (expected : Entries)

/-- What a handler goes on to do. -/
inductive Action where
  | list_servers
  | mcp (request : Mcp.Request)
  | status
  | verify (expected : Entries)

def Endpoint.allowed : Endpoint → List String
  | mcp_servers | mcp_server_initialize _ | mcp_server_cancel _ _ => MCP_SERVERS_ROLES
  | runtime_status => STATUS_ROLES
  | runtime_verify _ => VERIFY_ROLES

/-- The id of the request to be cancelled. -/
def cancelled_id (T : Text) (request : HttpRequest) : Value → Except Refused String
  | .dict payload =>
    if (Entries.orNone payload "request_id").truthy then .ok (T.str (Entries.orNone payload "request_id"))
    else .error (http_exception T request 422
      (error_detail "invalid_request_error" "mcp_request_id_required" "body.request_id is required"))
  | _ => .error (http_exception T request 422
      (error_detail "invalid_request_error" "mcp_request_id_required" "body.request_id is required"))

def Endpoint.handle (T : Text) (env : Environ) (endpoint : Endpoint) (request : HttpRequest) : Except Refused Action :=
  match endpoint with
  | mcp_servers => do
    require_any_role T env request MCP_SERVERS_ROLES
    .ok .list_servers
  | mcp_server_initialize server_name => do
    require_any_role T env request MCP_SERVERS_ROLES
    .ok (.mcp (.initialization server_name))
  | mcp_server_cancel server_name payload => do
    require_any_role T env request MCP_SERVERS_ROLES
    match payload with
    | .error e => .error (.raised e)
    | .ok payload => do
      let request_id ← cancelled_id T request payload
      .ok (.mcp (.cancel server_name request_id))
  | runtime_status => do
    require_any_role T env request STATUS_ROLES
    .ok .status
  | runtime_verify expected => do
    require_any_role T env request VERIFY_ROLES
    .ok (.verify expected)

variable {T : Text} {env : Environ} {request request' : HttpRequest} {endpoint : Endpoint} {action : Action}

theorem require_any_role_ok {allowed : List String} {u : Unit} (enforced : rbac_enforced T env = true)
    (passed : require_any_role T env request allowed = .ok u) : ∃ role ∈ identity_roles T request, role ∈ allowed := by
  unfold require_any_role at passed
  rw [raiseIf_eq_ok, not_and] at passed
  by_contra no_role
  exact passed enforced fun role held allowed => no_role ⟨role, held, allowed⟩

/-- Every handler asks for a role before it does anything. -/
theorem Endpoint.handle_ok (handled : endpoint.handle T env request = .ok action) :
    ∃ u, require_any_role T env request endpoint.allowed = .ok u := by
  cases endpoint with
  | mcp_server_cancel server_name payload =>
      obtain ⟨u, passed, -⟩ := bind_eq_ok.mp handled
      exact ⟨u, passed⟩
  | _ =>
      obtain ⟨u, passed, -⟩ := bind_eq_ok.mp handled
      exact ⟨u, passed⟩

/-- Where roles are enforced, the guarded endpoints act for verified tokens with a role which they allow, and for no other
request, whatever the path it was let by for. -/
theorem privileged_verified {Key : Type} (L : JwtLibrary Key) (env : Environ)
    (Signed : Key → List String → String → Entries → Prop) (documented : L.Documented Signed) (loader : Loader)
    (tables : loader.text = L.text) (settings : GatewaySettings) (loaded : loader.from_environment env = .ok settings)
    (enforced : rbac_enforced L.text env = true) (request : HttpRequest) (fresh : request.identity_claims = none)
    (endpoint : Endpoint) (action : Action)
    (acted : L.dispatch env (some settings) (endpoint.handle L.text env) request = .ok action) :
    ∃ claims, bearer_token L.text request ≠ "" ∧ L.Verified Signed env (bearer_token L.text request) claims ∧
      ∃ role ∈ claimed_roles L.text claims, role ∈ endpoint.allowed := by
  obtain ⟨request', passed, handled⟩ := bind_eq_ok.mp acted
  obtain ⟨u, guarded⟩ := endpoint.handle_ok handled
  obtain ⟨role, held, allowed⟩ := require_any_role_ok enforced guarded
  unfold identity_roles at held
  -- No other way through the middleware leaves claims with a role in them.
  cases letBy_of_authenticated tables loaded documented passed with
  | public_path _ state =>
      rw [state, fresh] at held
      exact absurd held List.not_mem_nil
  | jwt claims _ given verified state =>
      rw [state] at held
      exact ⟨claims, given, verified, role, held, allowed⟩
  | api_key _ _ _ _ _ state =>
      rw [state] at held
      exact absurd held List.not_mem_nil
  | none _ _ _ _ state =>
      rw [state] at held
      exact absurd held List.not_mem_nil

/-- An administrator initializes a server. -/
theorem privileged_verified_admin :
    ∃ claims, bearer_token oneKey.text (bearing "token" "/mcp/servers/docs/initialize") ≠ "" ∧
      oneKey.Verified (fun _ _ token claims => token = "token" ∧ claims = issuedClaims) productionEnviron
        (bearer_token oneKey.text (bearing "token" "/mcp/servers/docs/initialize")) claims ∧
      ∃ role ∈ claimed_roles oneKey.text claims, role ∈ (Endpoint.mcp_server_initialize "docs").allowed :=
  privileged_verified oneKey productionEnviron _ oneKey_documented plainLoader rfl productionSettings
    productionSettings_loaded rfl (bearing "token" "/mcp/servers/docs/initialize") rfl
    (Endpoint.mcp_server_initialize "docs") (.mcp (.initialization "docs")) rfl

/-! Who a caller is taken for. -/

/-- What `identity.py` uses of `jwt_verify.py` and of the environment. -/
def JwtLibrary.provider {Key : Type} (L : JwtLibrary Key) (env : Environ) : IdentityProvider where
  is_trusted_proxy_enabled := env.flag L.text "IDENTITY_TRUSTED_PROXY"
  is_jwt_verify_enabled := is_jwt_verify_enabled L.text env
  verify_bearer_token := L.verify_bearer_token env
  decode_unsigned_payload := L.decode_unsigned_payload

section Callers
variable {D : Deployment} {P : IdentityProvider}

end Callers

section Tokens
variable {Key : Type} {L : JwtLibrary Key} {settings : GatewaySettings}

end Tokens

end RuntimePlatform.Auth
