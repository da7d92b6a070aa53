import RuntimePlatform.Governance.Identity

/-!
What the Control Plane is asked: the bodies for models, for MCP tools and for intents. What a
client says of itself in headers is in the untrusted context of the first two.
-/

namespace RuntimePlatform.Governance
open Python Except

/-- What a payload takes of a model's target. -/
structure ModelTarget where
  input_cost_per_million : Double
  output_cost_per_million : Double
  provider : Option String
  model_revision : Option String
  model_artifact_digest : Option String

/-- The counters of the tenant store at the request, where there is one. -/
structure LiveCounters where
  requests_last_minute : Option ℤ
  tokens_today : Option ℤ
  month_to_date_cost_usd : Option Double

/-- The exact price of a request is a float computation: `round((n * a + m * b) / 1_000_000, 6)`. -/
abbrev Price := ℤ → ℤ → Double → Double → Except Python.Error Double

/-! The tokens and the text of a body's messages. -/

/-- The text of a part of a message, if it has one. -/
def part_text : Value → Option String
  | .dict part =>
    match Entries.get part "text" with
    | some (.str text) => some text
    | _ => none
  | _ => none

/-- The texts of a message: its content, or those of the parts of its content. -/
def message_texts : Value → List String
  | .dict message =>
    match Entries.get message "content" with
    | some (.str content) => [content]
    | some (.list parts) => parts.filterMap part_text
    | _ => []
  | _ => []

def prompt_chars (messages : List Value) : ℕ := ((messages.flatMap message_texts).map String.length).sum

variable (D : Deployment) (P : IdentityProvider) (price : Price)

/-- `int(payload.get("max_tokens") or default)` -/
def Deployment.max_tokens (payload : Entries) (default : ℤ) : Except Python.Error ℤ :=
  if (payload.orNone "max_tokens").truthy then D.text.int (payload.orNone "max_tokens") else .ok default

/-- `_estimate_tokens` -/
def Deployment.estimate_tokens (payload : Entries) : Except Python.Error (ℤ × ℤ) :=
  match payload.get "messages" with
  | some (.list messages) => do
    let input_tokens : ℤ := max 1 (prompt_chars messages / 4 : ℕ)
    let output_tokens ← D.max_tokens payload (min input_tokens 512)
    .ok (input_tokens, output_tokens)
  | _ => do
    let output_tokens ← D.max_tokens payload 0
    .ok (0, output_tokens)

/-- `_extract_prompt_text` -/
def Deployment.extract_prompt_text (payload : Entries) : String :=
  match payload.get "messages" with
  | some (.list messages) => "\n".intercalate (messages.flatMap message_texts)
  | _ => D.text.given payload "prompt_text"

/-! The body for a model. -/

/-- `_header_bool` -/
def Deployment.header_bool (request : ClientRequest) (name : String) : Bool := D.affirmative (request.hint name)

/-- A field of the claims, or without claims a hint of the trusted proxy. -/
def Deployment.claim_or_hint (request : ClientRequest) (claims : Entries) (key name : String) : String :=
  if claims ≠ [] then D.text.given claims key else if P.is_trusted_proxy_enabled then request.hint name else ""

/-- A field of the target, or the hint of the trusted proxy. -/
def ClientRequest.target_field (request : ClientRequest) (trusted_proxy : Bool) (field : Option String)
    (name : String) : String := orText (field.getD "") (if trusted_proxy then request.hint name else "")

def Deployment.untrusted_context (request : ClientRequest) (identity : WorkloadIdentity) : Entries :=
  [(.str "team", .str (orText (request.hint "x-ai-team") (request.hint "x-ai-tenant"))),
    (.str "owner", .str (request.hint "x-ai-owner")),
    (.str "subject", .str (request.hint "x-ai-subject")),
    (.str "sensitive_data", .bool (D.header_bool request "x-ai-sensitive-data")),
    (.str "tool_access", .bool (D.header_bool request "x-ai-tool-access")),
    (.str "write_permission", .bool (D.header_bool request "x-ai-write-permission")),
    (.str "cost_per_hour_usd", .str (request.hint "x-ai-cost-per-hour-usd")),
    (.str "month_to_date_cost_usd", .str (request.hint "x-ai-month-to-date-cost-usd")),
    (.str "forecast_monthly_cost_usd", .str (request.hint "x-ai-forecast-monthly-cost-usd")),
    (.str "requests_last_minute", .str (request.hint "x-ai-requests-last-minute")),
    (.str "tokens_today", .str (request.hint "x-ai-tokens-today")),
    (.str "provider", .str (request.hint "x-ai-provider")),
    (.str "model_revision", .str (request.hint "x-ai-model-revision")),
    (.str "model_artifact_digest", .str (request.hint "x-ai-model-digest")),
    (.str "identity_source", .str identity.source),
    (.str "trusted_proxy", .bool P.is_trusted_proxy_enabled)]

/-- `str(payload.get("model") or "unknown")` -/
def Deployment.model_name (payload : Entries) : String :=
  if (payload.orNone "model").truthy then D.text.str (payload.orNone "model") else "unknown"

/-- The fields of the body for a model, the untrusted context apart. -/
def Deployment.evaluate_fields (request : ClientRequest) (payload : Entries) (config : GovernanceSettings)
    (target : Option ModelTarget) (counters : LiveCounters) (identity : WorkloadIdentity)
    (input_tokens output_tokens : ℤ) (cost_per_request_usd : Double) : Entries :=
  [(.str "subject", .str identity.subject),
    (.str "groups", .list (identity.groups.map Value.str)),
    (.str "policy_pack", .str identity.policy_pack),
    (.str "team", .str identity.team),
    (.str "owner", .str identity.owner),
    (.str "environment", .str identity.environment),
    (.str "namespace", .str identity.namespace_),
    (.str "action", .str config.default_action),
    (.str "model", .str (D.model_name payload)),
    (.str "provider", .str (orText ((target.bind ModelTarget.provider).getD "") config.default_provider)),
    (.str "input_tokens", .int input_tokens),
    (.str "output_tokens", .int output_tokens),
    (.str "cost_per_request_usd", .float cost_per_request_usd),
    (.str "cost_per_hour_usd", .float config.default_cost_per_hour_usd),
    (.str "month_to_date_cost_usd",
      .float (counters.month_to_date_cost_usd.getD config.default_month_to_date_cost_usd)),
    (.str "forecast_monthly_cost_usd", .float config.default_forecast_monthly_cost_usd),
    (.str "sensitive_data", .bool (D.claim_flag identity ["sensitive_data", "ai_sensitive_data"])),
    (.str "tool_access", .bool (D.claim_flag identity ["tool_access", "ai_tool_access"])),
    (.str "write_permission", .bool (D.claim_flag identity ["write_permission", "ai_write_permission"])),
    (.str "requests_last_minute", .int (counters.requests_last_minute.getD 0)),
    (.str "tokens_today", .int (counters.tokens_today.getD 0)),
    (.str "model_revision", .str (request.target_field P.is_trusted_proxy_enabled
      (target.bind ModelTarget.model_revision) "x-ai-model-revision")),
    (.str "model_artifact_digest", .str (request.target_field P.is_trusted_proxy_enabled
      (target.bind ModelTarget.model_artifact_digest) "x-ai-model-digest")),
    (.str "prompt_text", .str (D.extract_prompt_text payload)),
    (.str "agent", .str (D.claim_or_hint P request identity.claims "agent" "x-ai-agent")),
    (.str "region", .str (D.claim_or_hint P request identity.claims "region" "x-ai-region"))]

def Deployment.build_evaluate_payload (request : ClientRequest) (payload : Entries) (config : GovernanceSettings)
    (model_targets : List (String × ModelTarget)) (counters : LiveCounters) : Except Raised Entries := do
  let (input_tokens, output_tokens) ← (D.estimate_tokens payload).mapError Raised.error
  let target := model_targets.lookup (D.model_name payload)
  let cost_per_request_usd ← (price input_tokens output_tokens
    ((target.map ModelTarget.input_cost_per_million).getD (.finite .zero))
    ((target.map ModelTarget.output_cost_per_million).getD (.finite .zero))).mapError Raised.error
  let identity ← D.resolve_workload_identity P request config
  .ok (D.evaluate_fields P request payload config target counters identity input_tokens output_tokens
    cost_per_request_usd ++ [(.str "untrusted_context", .dict (D.untrusted_context P request identity))])

/-! The bodies for a tool and for an intent. -/

def Deployment.tool_evaluate_payload (request : ClientRequest) (tool_name : String) (payload : Entries)
    (config : GovernanceSettings) : Except Raised Entries := do
  let identity ← D.resolve_workload_identity P request config
  .ok (D.build_tool_evaluate_payload ⟨.ok identity, request.headers, P.is_trusted_proxy_enabled⟩ identity tool_name
    payload)

def Deployment.build_intent_payload (request : ClientRequest) (payload : Entries) (config : GovernanceSettings) :
    Except Raised Entries := do
  let identity ← D.resolve_workload_identity P request config
  .ok [(.str "message", .str (strip (((payload.get "message").map D.text.str).getD ""))),
    (.str "subject", .str identity.subject),
    (.str "groups", .list (identity.groups.map Value.str)),
    (.str "policy_pack", .str identity.policy_pack),
    (.str "team", .str identity.team),
    (.str "owner", .str identity.owner),
    (.str "environment", .str identity.environment),
    (.str "namespace", .str identity.namespace_),
    (.str "region", .str (request.hint "x-ai-region")),
    (.str "run_governance", .bool (((payload.get "run_governance").map Value.truthy).getD true))]

/-! Two requests with the same claims. -/

/-- A body without one of its fields. -/
def without (key : String) (body : Entries) : Entries := body.filter fun field => !field.1.isKey key

variable {D P price} {request request' : ClientRequest} {claims : Entries} {config : GovernanceSettings}

theorem without_concat (key : String) (body : Entries) (v : Value) :
    without key (body ++ [(.str key, v)]) = without key body := by
  have gone : (!(Value.str key).isKey key) = false := by
    change (!decide (key = key)) = false
    rw [decide_eq_true rfl]
    rfl
  unfold without
  rw [List.filter_append, List.filter_cons, gone]
  exact List.append_nil _

/-- Without a trusted proxy the identity is one of the claims alone. -/
theorem workload_identity_off (off : P.is_trusted_proxy_enabled = false) :
    D.workload_identity P request config claims = D.workload_identity P request' config claims := by
  unfold Deployment.workload_identity
  simp only [off, Bool.false_and, proxied_off, Bool.false_eq_true, if_false]

theorem resolve_off (off : P.is_trusted_proxy_enabled = false) (cached : request.identity_claims = some claims)
    (cached' : request'.identity_claims = some claims) :
    D.resolve_workload_identity P request config = D.resolve_workload_identity P request' config := by
  unfold Deployment.resolve_workload_identity
  rw [cached, cached']
  exact congrArg Except.ok (workload_identity_off off)

theorem evaluate_off (off : P.is_trusted_proxy_enabled = false) (cached : request.identity_claims = some claims)
    (cached' : request'.identity_claims = some claims) (payload : Entries) (model_targets : List (String × ModelTarget))
    (counters : LiveCounters) :
    (D.build_evaluate_payload P price request payload config model_targets counters).map (without "untrusted_context") =
      (D.build_evaluate_payload P price request' payload config model_targets counters).map
        (without "untrusted_context") := by
  have fields : ∀ target identity input_tokens output_tokens cost,
      D.evaluate_fields P request payload config target counters identity input_tokens output_tokens cost =
        D.evaluate_fields P request' payload config target counters identity input_tokens output_tokens cost := by
    intro target identity input_tokens output_tokens cost
    simp only [Deployment.evaluate_fields, Deployment.claim_or_hint, ClientRequest.target_field, off,
      Bool.false_eq_true, if_false]
  unfold Deployment.build_evaluate_payload
  rw [resolve_off off cached cached']
  cases (D.estimate_tokens payload).mapError Raised.error with
  | error e => rfl
  | ok tokens =>
      obtain ⟨input_tokens, output_tokens⟩ := tokens
      simp only [bind_ok]
      cases (price input_tokens output_tokens _ _).mapError Raised.error with
      | error e => rfl
      | ok cost =>
          simp only [bind_ok]
          cases D.resolve_workload_identity P request' config with
          | error e => rfl
          | ok identity =>
              refine congrArg Except.ok ?_
              rw [without_concat, without_concat, fields]

theorem tool_off (off : P.is_trusted_proxy_enabled = false) (cached : request.identity_claims = some claims)
    (cached' : request'.identity_claims = some claims) (tool_name : String) (payload : Entries) :
    (D.tool_evaluate_payload P request tool_name payload config).map (without "untrusted_context") =
      (D.tool_evaluate_payload P request' tool_name payload config).map (without "untrusted_context") := by
  unfold Deployment.tool_evaluate_payload
  rw [resolve_off off cached cached']
  cases D.resolve_workload_identity P request' config with
  | error e => rfl
  | ok identity =>
      refine congrArg Except.ok ?_
      have agent : D.tool_agent ⟨.ok identity, request.headers, P.is_trusted_proxy_enabled⟩ identity =
          D.tool_agent ⟨.ok identity, request'.headers, P.is_trusted_proxy_enabled⟩ identity := by
        simp only [Deployment.tool_agent, off, Bool.false_eq_true, if_false]
      unfold Deployment.build_tool_evaluate_payload
      rw [agent]
      rfl

/-- The body for an intent has the region of the header in it. -/
theorem intent_off_iff (off : P.is_trusted_proxy_enabled = false) (cached : request.identity_claims = some claims)
    (cached' : request'.identity_claims = some claims) (payload : Entries) :
    D.build_intent_payload P request payload config = D.build_intent_payload P request' payload config ↔
      request.hint "x-ai-region" = request'.hint "x-ai-region" := by
  unfold Deployment.build_intent_payload
  rw [resolve_off off cached cached']
  have resolved : D.resolve_workload_identity P request' config =
      .ok (D.workload_identity P request' config claims) := by
    unfold Deployment.resolve_workload_identity
    rw [cached']
    rfl
  rw [resolved]
  constructor
  · intro same
    have region := congrArg (fun body : Entries => body[8]?) (Except.ok.inj same)
    exact Value.str.inj (Prod.mk.inj (Option.some.inj region)).2
  · intro same
    simp only [bind_ok, same]

/-- With the trusted proxy switched off, the three bodies for two requests with the same claims are the same just when
their `x-ai-region` headers are. -/
theorem payloads_ignore_headers_iff (D : Deployment) (P : IdentityProvider) (price : Price)
    (off : P.is_trusted_proxy_enabled = false) (request request' : ClientRequest) (claims : Entries)
    (cached : request.identity_claims = some claims) (cached' : request'.identity_claims = some claims)
    (config : GovernanceSettings) (model_targets : List (String × ModelTarget)) (counters : LiveCounters)
    (tool_name : String) (payload : Entries) :
    ((D.build_evaluate_payload P price request payload config model_targets counters).map
          (without "untrusted_context") =
        (D.build_evaluate_payload P price request' payload config model_targets counters).map
          (without "untrusted_context") ∧
      (D.tool_evaluate_payload P request tool_name payload config).map (without "untrusted_context") =
        (D.tool_evaluate_payload P request' tool_name payload config).map (without "untrusted_context") ∧
      D.build_intent_payload P request payload config = D.build_intent_payload P request' payload config) ↔
    request.hint "x-ai-region" = request'.hint "x-ai-region" := by
  constructor
  · exact fun same => (intent_off_iff off cached cached' payload).mp same.2.2
  · intro same
    exact ⟨evaluate_off off cached cached' payload model_targets counters,
      tool_off off cached cached' tool_name payload, (intent_off_iff off cached cached' payload).mpr same⟩

def verifyingProvider : IdentityProvider := ⟨false, true, fun _ => .error .invalid, fun _ => .error .invalid⟩

def developmentSettings : GovernanceSettings where
  control_plane_url := "http://control-plane"
  enabled := true
  fail_open := false
  mode := .enforce
  default_team := "platform"
  default_owner := "gateway"
  default_environment := "development"
  default_namespace := "ai-dev"
  default_provider := "ollama"
  default_action := "invoke_model"
  default_cost_per_hour_usd := .finite .zero
  default_month_to_date_cost_usd := .finite .zero
  default_forecast_monthly_cost_usd := .finite .zero

/-- A request with one header, and with the claims of a tenant. -/
def requestWith (name value : String) (claims : Entries) : ClientRequest :=
  ⟨fun other => if other = name then some value else none, some claims⟩

def financeClaims : Entries := [(.str "sub", .str "alice"), (.str "team", .str "finance")]

theorem payloads_ignore_headers_team :
    unsignedDeployment.build_intent_payload verifyingProvider (requestWith "x-ai-team" "search" financeClaims) []
        developmentSettings =
      unsignedDeployment.build_intent_payload verifyingProvider (requestWith "x-ai-team" "platform" financeClaims) []
        developmentSettings :=
  ((payloads_ignore_headers_iff unsignedDeployment verifyingProvider (fun _ _ _ _ => .ok (.finite .zero)) rfl
    (requestWith "x-ai-team" "search" financeClaims) (requestWith "x-ai-team" "platform" financeClaims) financeClaims
    rfl rfl developmentSettings [] ⟨none, none, none⟩ "search" []).mpr rfl).2.2

/-- The region of an intent is what the client says. -/
theorem intent_region_spoofed :
    unsignedDeployment.build_intent_payload verifyingProvider (requestWith "x-ai-region" "eu" financeClaims) []
        developmentSettings ≠
      unsignedDeployment.build_intent_payload verifyingProvider (requestWith "x-ai-region" "us" financeClaims) []
        developmentSettings := by
  intro same
  have region := (intent_off_iff rfl rfl rfl []).mp same
  exact absurd region (by decide)

/-! The tenant which is sent, and the one which is isolated by. -/

theorem evaluate_payload_team {payload body : Entries} {model_targets : List (String × ModelTarget)}
    {counters : LiveCounters} {identity : WorkloadIdentity}
    (resolved : D.resolve_workload_identity P request config = .ok identity)
    (built : D.build_evaluate_payload P price request payload config model_targets counters = .ok body) :
    body.get "team" = some (.str identity.team) ∧ D.expected_tenant body = strip identity.team := by
  unfold Deployment.build_evaluate_payload at built
  obtain ⟨tokens, _, built⟩ := bind_eq_ok.mp built
  obtain ⟨cost, _, built⟩ := bind_eq_ok.mp built
  rw [resolved] at built
  cases built
  refine ⟨rfl, ?_⟩
  change strip (D.text.given _ "team") = _
  change strip (if (Value.str identity.team).truthy = true then identity.team else "") = _
  split
  · rfl
  · next empty =>
      have blank : identity.team = "" := of_decide_eq_false (Bool.not_eq_true _ ▸ empty) |> not_not.mp
      rw [blank]

/-- With verification on, the tenant of the runtime is the team which the Control Plane is told, and which the tenant
of a signed decision is compared with, just on the claims which agree. -/
theorem tenant_agrees_iff (D : Deployment) (P : IdentityProvider) (price : Price)
    (verify : P.is_jwt_verify_enabled = true) (request : ClientRequest) (claims : Entries)
    (cached : request.identity_claims = some claims) (config : GovernanceSettings) :
    ∃ identity, D.resolve_workload_identity P request config = .ok identity ∧
      (∀ payload body model_targets counters,
        D.build_evaluate_payload P price request payload config model_targets counters = .ok body →
          body.get "team" = some (.str identity.team) ∧ D.expected_tenant body = strip identity.team) ∧
      (D.resolve_tenant_id P request = identity.team ↔ D.TenantAgrees config.default_team claims) := by
  have resolved : D.resolve_workload_identity P request config = .ok (D.workload_identity P request config claims) := by
    unfold Deployment.resolve_workload_identity
    rw [cached]
    rfl
  exact ⟨_, resolved, fun payload body model_targets counters built => evaluate_payload_team resolved built,
    tenant_eq_team_iff verify cached⟩

theorem tenant_agrees_finance : ∃ identity,
    unsignedDeployment.resolve_workload_identity verifyingProvider (requestWith "x-ai-team" "search" financeClaims)
      developmentSettings = .ok identity ∧
    unsignedDeployment.resolve_tenant_id verifyingProvider (requestWith "x-ai-team" "search" financeClaims) =
      identity.team := by
  obtain ⟨identity, resolved, _, agrees⟩ := tenant_agrees_iff unsignedDeployment verifyingProvider
    (fun _ _ _ _ => .ok (.finite .zero)) rfl (requestWith "x-ai-team" "search" financeClaims) financeClaims rfl
    developmentSettings
  refine ⟨identity, resolved, agrees.mpr ?_⟩
  unfold Deployment.TenantAgrees
  exact ⟨Or.inl (by decide), Or.inr (Or.inl (by decide))⟩

/-- A token whose `tenant_id` and `team` differ is of one tenant for the runtime, and of another for the Control
Plane. -/
theorem tenants_differ :
    unsignedDeployment.resolve_tenant_id verifyingProvider
        (requestWith "x-ai-team" "search" [(.str "tenant_id", .str "acme"), (.str "team", .str "finance")]) = "acme" ∧
      (unsignedDeployment.resolve_workload_identity verifyingProvider
        (requestWith "x-ai-team" "search" [(.str "tenant_id", .str "acme"), (.str "team", .str "finance")])
        developmentSettings).toOption.map WorkloadIdentity.team = some "finance" := by
  decide

end RuntimePlatform.Governance
