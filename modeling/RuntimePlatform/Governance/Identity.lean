import RuntimePlatform.Governance.ToolCall

/-!
Who sends a request: the workload identity of `identity.py`, which the Control Plane is told,
and the tenant of `tenant_context.py`, which the runtime isolates by. Both read the verified
claims, each in its own order.
-/

namespace RuntimePlatform.Governance
open Python Except

def KNOWN_TEAMS : List String := ["platform", "finance", "search"]

/-- How the verification of a token fails: `JwtConfigurationError`; `TypeError`, `ValueError` or an error of the
library; or anything else. -/
inductive JwtFailure where
  | misconfigured (text : String)
  | invalid
  | raised (e : Python.Error)

structure IdentityProvider where
  is_trusted_proxy_enabled : Bool
  is_jwt_verify_enabled : Bool
  verify_bearer_token : String → Except JwtFailure Entries
  decode_unsigned_payload : String → Except JwtFailure Entries

/-- A client's request: its headers by their lower case names, and the claims which the authentication has left in its
state. -/
structure ClientRequest where
  headers : String → Option String
  identity_claims : Option Entries

/-- `_client_hint` -/
def ClientRequest.hint (request : ClientRequest) (name : String) : String := strip ((request.headers name).getD "")

/-- The configuration with the defaults which the payloads fall back to. -/
structure GovernanceSettings extends GovernanceConfig where
  default_team : String
  default_owner : String
  default_environment : String
  default_namespace : String
  default_provider : String
  default_action : String
  default_cost_per_hour_usd : Double
  default_month_to_date_cost_usd : Double
  default_forecast_monthly_cost_usd : Double

/-- `first or second` on text -/
def orText (first second : String) : String := if first = "" then second else first

/-- `[part.strip() for part in text.split(",") if part.strip()]` -/
def stripped_parts (text : String) : List String :=
  ((text.toList.splitOn ',').map fun part => strip (String.ofList part)).filter fun part => decide (part ≠ "")

def team_from_groups (groups : List String) (fallback : String) : String :=
  (groups.find? fun group => decide (group ∈ KNOWN_TEAMS)).getD fallback

def authentication_error (status_code : ℕ) (code message : String) : Raised :=
  .http ⟨status_code, .dict [(.str "error", .dict [
    (.str "type", .str "authentication_error"), (.str "code", .str code), (.str "message", .str message)])], []⟩

variable (D : Deployment) (P : IdentityProvider)

/-- `str(claims.get(first) or claims.get(second) or "").strip()` -/
def Deployment.first_claim (claims : Entries) (keys : List String) : String :=
  match keys.find? fun key => (claims.orNone key).truthy with
  | some key => strip (D.text.str (claims.orNone key))
  | none => ""

/-- `_normalize_groups` -/
def Deployment.normalize_groups : Value → List String
  | .list items => (items.map fun item => strip (D.text.str item)).filter fun group => decide (group ≠ "")
  | .str text => if strip text = "" then [] else stripped_parts text
  | _ => []

def Deployment.extract_bearer_claims (authorization : String) : Except Raised Entries :=
  let has_bearer := decide ("bearer ".toList.isPrefixOf (D.text.lower authorization).toList = true)
  let token := if has_bearer then strip (String.ofList (authorization.toList.drop 7)) else ""
  if P.is_jwt_verify_enabled then
    if token = "" then
      .error (authentication_error 401 "missing_bearer_token" "Bearer token required when OIDC_JWT_VERIFY is enabled")
    else
      match P.verify_bearer_token token with
      | .ok claims => .ok claims
      | .error (.misconfigured text) => .error (authentication_error 503 "jwt_misconfigured" text)
      | .error .invalid => .error (authentication_error 401 "invalid_bearer_token" "Bearer token failed verification")
      | .error (.raised e) => .error (.error e)
  else if token = "" then .ok []
  else
    match P.decode_unsigned_payload token with
    | .ok claims => .ok claims
    | .error (.raised e) => .error (.error e)
    | .error _ => .ok []

/-- The header of a trusted proxy, where headers are allowed. -/
def ClientRequest.proxied (request : ClientRequest) (allow_headers : Bool) (name : String) : String :=
  if allow_headers then request.hint name else ""

/-- `resolve_workload_identity`, from the claims on. -/
def Deployment.workload_identity (request : ClientRequest) (config : GovernanceSettings) (claims : Entries) :
    WorkloadIdentity :=
  let allow_headers := P.is_trusted_proxy_enabled && !P.is_jwt_verify_enabled
  let header_groups := if allow_headers then stripped_parts ((request.headers "x-ai-groups").getD "") else []
  let claim_groups := D.normalize_groups (claims.orNone "groups")
  let groups := if claim_groups = [] then header_groups else claim_groups
  { subject := orText (orText (D.first_claim claims ["sub", "email"]) (request.proxied allow_headers "x-ai-subject"))
      config.default_owner
    team := orText (orText (orText (D.first_claim claims ["team", "tenant"])
      (request.proxied allow_headers "x-ai-team")) (request.proxied allow_headers "x-ai-tenant"))
        (team_from_groups groups config.default_team)
    owner := orText (orText (D.first_claim claims ["preferred_username", "name"])
      (request.proxied allow_headers "x-ai-owner")) config.default_owner
    groups := groups
    policy_pack := orText (D.first_claim claims ["policy_pack"]) (request.proxied allow_headers "x-ai-policy-pack")
    environment := orText (orText (D.first_claim claims ["environment"])
      (request.proxied allow_headers "x-ai-environment")) config.default_environment
    namespace_ := orText (orText (D.first_claim claims ["namespace"])
      (request.proxied allow_headers "x-ai-namespace")) config.default_namespace
    source := if claims ≠ [] then "jwt"
      else if allow_headers && ["x-ai-subject", "x-ai-team", "x-ai-tenant", "x-ai-groups"].any fun name =>
          decide ((request.headers name).getD "" ≠ "") then "headers"
      else "default"
    claims := claims }

def Deployment.resolve_workload_identity (request : ClientRequest) (config : GovernanceSettings) :
    Except Raised WorkloadIdentity := do
  let claims ← match request.identity_claims with
    | some claims => .ok claims
    | none => D.extract_bearer_claims P ((request.headers "authorization").getD "")
  .ok (D.workload_identity P request config claims)

/-! The tenant. -/

/-- What a claim names, if it is neither absent nor blank. -/
def Deployment.named (claims : Entries) (key : String) : String :=
  match claims.orNone key with
  | .none => ""
  | value => strip (D.text.str value)

/-- `str(claims.get("sub") or claims.get("preferred_username") or "unknown")` -/
def Deployment.subject_name (claims : Entries) : String :=
  match ["sub", "preferred_username"].find? fun key => (claims.orNone key).truthy with
  | some key => D.text.str (claims.orNone key)
  | none => "unknown"

def Deployment.resolve_tenant_id (request : ClientRequest) : String :=
  let claims := request.identity_claims.getD []
  orText (orText (orText (D.named claims "tenant_id") (D.named claims "tenant")) (D.named claims "team"))
    (if P.is_jwt_verify_enabled then "user:" ++ D.subject_name claims else "platform")

/-! When they agree. -/

variable {D P} {claims : Entries} {request : ClientRequest} {config : GovernanceSettings}

theorem orText_of_ne {first : String} (given : first ≠ "") (second : String) : orText first second = first :=
  if_neg given

@[simp] theorem orText_empty (second : String) : orText "" second = second := if_pos rfl

theorem proxied_off (request : ClientRequest) (name : String) : request.proxied false name = "" := rfl

/-- With verification on no header is read. -/
theorem team_verified (verify : P.is_jwt_verify_enabled = true) :
    (D.workload_identity P request config claims).team = orText (D.first_claim claims ["team", "tenant"])
      (team_from_groups (D.normalize_groups (claims.orNone "groups")) config.default_team) := by
  have off : (P.is_trusted_proxy_enabled && !P.is_jwt_verify_enabled) = false := by
    rw [verify, Bool.not_true, Bool.and_false]
  have groups : (if D.normalize_groups (claims.orNone "groups") = [] then ([] : List String)
      else D.normalize_groups (claims.orNone "groups")) = D.normalize_groups (claims.orNone "groups") := by
    split
    · next none => exact none.symm
    · rfl
  have blank : ∀ text : String, orText text "" = text := by
    intro text
    unfold orText
    split
    · next empty => exact empty.symm
    · rfl
  unfold Deployment.workload_identity
  simp only [off, proxied_off, blank, Bool.false_eq_true, if_false, groups]

theorem named_of_truthy {key : String} (given : (claims.orNone key).truthy = true) :
    strip (D.text.str (claims.orNone key)) = D.named claims key := by
  unfold Deployment.named
  cases value : claims.orNone key with
  | none =>
      rw [value] at given
      cases given
  | _ => rfl

/-- The identity reads the first of two claims which is not false. -/
theorem first_claim_pair (first second : String) : D.first_claim claims [first, second] =
    if (claims.orNone first).truthy = true then D.named claims first
    else if (claims.orNone second).truthy = true then D.named claims second else "" := by
  unfold Deployment.first_claim
  rw [List.find?_cons, List.find?_cons, List.find?_nil]
  cases one : (claims.orNone first).truthy with
  | true => exact named_of_truthy one
  | false =>
      cases two : (claims.orNone second).truthy with
      | true => exact named_of_truthy two
      | false => rfl

/-- The resolver of the tenant takes the first of three texts which is not empty. -/
theorem orText_chain (first second third last : String) : orText (orText (orText first second) third) last =
    ([first, second, third].find? fun name => decide (name ≠ "")).getD last := by
  simp only [List.find?_cons, List.find?_nil, ne_eq, decide_not, orText]
  by_cases one : first = ""
  · by_cases two : second = ""
    · by_cases three : third = "" <;> simp [one, two, three]
    · simp [one, two]
  · simp [one]

/-- No known team is named like a user, so that the groups give such a name only where they hold none. -/
theorem team_from_groups_user {groups : List String} {fallback name : String} :
    "user:" ++ name = team_from_groups groups fallback ↔
      (∀ group ∈ groups, group ∉ KNOWN_TEAMS) ∧ fallback = "user:" ++ name := by
  have unknown : "user:" ++ name ∉ KNOWN_TEAMS := by
    intro known
    have heads : some 'u' ∈ KNOWN_TEAMS.map fun team => team.toList.head? := by
      refine List.mem_map.mpr ⟨_, known, ?_⟩
      rw [String.toList_append]
      rfl
    exact absurd heads (by decide)
  unfold team_from_groups
  cases found : groups.find? fun group => decide (group ∈ KNOWN_TEAMS) with
  | none =>
      have absent : ∀ group ∈ groups, group ∉ KNOWN_TEAMS := fun group member =>
        of_decide_eq_false (Bool.eq_false_iff.mpr (List.find?_eq_none.mp found group member))
      exact ⟨fun same => ⟨absent, same.symm⟩, fun same => same.2.symm⟩
  | some team =>
      have listed := List.find?_some found
      have known : team ∈ KNOWN_TEAMS := of_decide_eq_true listed
      refine iff_of_false (fun same => unknown ?_) fun absent => absent.1 team (List.mem_of_find?_eq_some found) known
      exact same ▸ known

/-- The claims which name a tenant name the team that the identity reads. Where it reads none, the tenant they name is
what it falls back to, the first known group or else the default team; and where they name none either, there is no
known group, and the default is the name of the user. -/
def Deployment.TenantAgrees (D : Deployment) (default_team : String) (claims : Entries) : Prop :=
  let claimed := D.first_claim claims ["team", "tenant"]
  let groups := D.normalize_groups (claims.orNone "groups")
  if claimed = "" then
    match (["tenant_id", "tenant", "team"].map (D.named claims)).find? fun name => decide (name ≠ "") with
    | some name => name = team_from_groups groups default_team
    | none => (∀ group ∈ groups, group ∉ KNOWN_TEAMS) ∧ default_team = "user:" ++ D.subject_name claims
  else (D.named claims "tenant_id" = "" ∨ D.named claims "tenant_id" = claimed) ∧
    (D.named claims "tenant_id" ≠ "" ∨ D.named claims "tenant" = "" ∨ D.named claims "tenant" = claimed)

/-- The two resolvers agree just on such claims. -/
theorem tenant_eq_team_iff (verify : P.is_jwt_verify_enabled = true) (cached : request.identity_claims = some claims) :
    D.resolve_tenant_id P request = (D.workload_identity P request config claims).team ↔
      D.TenantAgrees config.default_team claims := by
  have own : D.first_claim claims ["team", "tenant"] = _ := first_claim_pair "team" "tenant"
  have resolved : D.resolve_tenant_id P request = orText (orText (orText (D.named claims "tenant_id")
      (D.named claims "tenant")) (D.named claims "team")) ("user:" ++ D.subject_name claims) := by
    unfold Deployment.resolve_tenant_id
    rw [cached, Option.getD_some]
    dsimp only
    rw [if_pos verify]
  rw [team_verified verify, resolved]
  unfold Deployment.TenantAgrees
  by_cases absent : D.first_claim claims ["team", "tenant"] = ""
  · dsimp only
    rw [absent, orText_empty, if_pos rfl, orText_chain, List.map_cons, List.map_cons, List.map_cons, List.map_nil]
    cases named : [D.named claims "tenant_id", D.named claims "tenant", D.named claims "team"].find? fun name =>
        decide (name ≠ "") with
    | some name => exact Iff.rfl
    | none => exact team_from_groups_user
  · rw [orText_of_ne absent]
    dsimp only
    rw [if_neg absent]
    by_cases tenant_id : D.named claims "tenant_id" = ""
    · by_cases tenant : D.named claims "tenant" = ""
      · -- Then the team claim is the one which the identity reads.
        have team : D.first_claim claims ["team", "tenant"] = D.named claims "team" := by
          rw [own, tenant, ite_self] at absent ⊢
          split at absent
          · next given => rw [if_pos given]
          · exact absurd rfl absent
        rw [tenant_id, tenant, orText_empty, orText_empty, team, orText_of_ne (team ▸ absent)]
        exact iff_of_true rfl ⟨Or.inl rfl, Or.inr (Or.inl rfl)⟩
      · rw [tenant_id, orText_empty, orText_of_ne tenant, orText_of_ne tenant]
        exact ⟨fun same => ⟨Or.inl rfl, Or.inr (Or.inr same)⟩, fun ⟨_, later⟩ =>
          (later.resolve_left fun ne => ne rfl).resolve_left tenant⟩
    · rw [orText_of_ne tenant_id, orText_of_ne tenant_id, orText_of_ne tenant_id]
      exact ⟨fun same => ⟨Or.inr same, Or.inl tenant_id⟩, fun ⟨first, _⟩ => first.resolve_left tenant_id⟩

end RuntimePlatform.Governance
