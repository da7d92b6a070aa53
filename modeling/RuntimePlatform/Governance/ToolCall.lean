import RuntimePlatform.Governance.Enforcement

/-!
`POST /mcp/tools/{tool}/call`: the tool is evaluated by the Control Plane and then run on a
server. The body names the server, and the two steps read the name each in its own way.
-/

namespace RuntimePlatform.Governance
open Python Except

structure WorkloadIdentity where
  subject : String
  team : String
  owner : String
  groups : List String
  policy_pack : String
  environment : String
  namespace_ : String
  source : String
  claims : Entries

/-- What the endpoint takes from the HTTP request: the identity, or what resolving it raises,
and the headers by their lower case names. -/
structure ToolRequest where
  identity : Except Raised WorkloadIdentity
  headers : String → Option String
  is_trusted_proxy_enabled : Bool

/-- What the other parties answer. -/
structure ToolAnswers where
  evaluate : Reply
  execute : Except Raised Entries
  audit : Except Python.Error Unit

/-- What the endpoint asks of other parties, in order. -/
inductive ToolCall where
  | evaluateTool (url : String) (headers : List (String × String)) (body : Entries)
  | execute_mcp_tool (server_name tool_name : String) (arguments : Entries)
  | auditTool (url : String) (body : Entries)

variable (D : Deployment)

def Deployment.affirmative (text : String) : Bool := decide (D.text.lower text ∈ ["1", "true", "yes"])

def Deployment.claim_bool (claims : Entries) : List String → Option Bool
  | [] => none
  | key :: keys =>
    match claims.get key with
    | some (.bool b) => some b
    | some (.str s) => some (D.affirmative (strip s))
    | _ => Deployment.claim_bool claims keys

def Deployment.claim_flag (identity : WorkloadIdentity) (keys : List String) : Bool :=
  (D.claim_bool identity.claims keys).getD false

/-- `str(payload.get("write_permission", "")).lower() in {"1", "true", "yes"}` -/
def Deployment.write_hint (payload : Entries) : Bool :=
  D.affirmative (((payload.get "write_permission").map D.text.str).getD "")

def Deployment.tool_agent (request : ToolRequest) (identity : WorkloadIdentity) : String :=
  if identity.claims ≠ [] then D.text.given identity.claims "agent"
  else if request.is_trusted_proxy_enabled = true then strip ((request.headers "x-ai-agent").getD "") else ""

def Deployment.build_tool_evaluate_payload (request : ToolRequest) (identity : WorkloadIdentity) (tool_name : String)
    (payload : Entries) : Entries :=
  let action := D.text.given payload "action"
  [(.str "subject", .str identity.subject),
    (.str "groups", .list (identity.groups.map Value.str)),
    (.str "policy_pack", .str identity.policy_pack),
    (.str "team", .str identity.team),
    (.str "owner", .str identity.owner),
    (.str "environment", .str identity.environment),
    (.str "namespace", .str identity.namespace_),
    (.str "agent", .str (D.tool_agent request identity)),
    (.str "tool", .str tool_name),
    (.str "action", .str (if action = "" then "invoke" else action)),
    (.str "mcp_server", .str (D.text.given payload "mcp_server")),
    (.str "write_permission", .bool (D.claim_flag identity ["write_permission", "ai_write_permission"])),
    (.str "untrusted_context", .dict [
      (.str "write_permission", .bool (D.write_hint payload ||
        D.affirmative (strip ((request.headers "x-ai-write-permission").getD "")))),
      (.str "identity_source", .str identity.source)])]

def ToolRequest.evaluate_headers (request : ToolRequest) (agent : String) : List (String × String) :=
  header "x-request-id" (request.headers "x-request-id") ++
    header "authorization" ((request.headers "authorization").map strip) ++
    header "x-ai-approval-id" ((request.headers "x-ai-approval-id").map strip) ++
    header "x-ai-agent" (some agent)

/-- `enforce_tool_governance` with the call it makes. -/
def Deployment.evaluate_tool (config : GovernanceConfig) (request : ToolRequest) (reply : Reply) (tool_name : String)
    (payload : Entries) : List ToolCall × Except Raised (Option Entries) :=
  if config.mode = .disabled ∨ config.enabled = false ∨ config.misconfigured = true then
    ([], D.enforce_tool_governance config reply)
  else
    match request.identity with
    | .error e => ([], .error e)
    | .ok identity =>
      ([.evaluateTool (config.control_plane_url ++ "/governance/evaluate-tool")
          (request.evaluate_headers (D.tool_agent request identity))
          (D.build_tool_evaluate_payload request identity tool_name payload)],
        D.enforce_tool_governance config reply)

/-- `str(payload.get("mcp_server") or payload.get("server") or "").strip()` -/
def Deployment.server_name (payload : Entries) : String :=
  if (payload.orNone "mcp_server").truthy then D.field payload "mcp_server" else D.field payload "server"

def governance_usable (governance : Option GovernanceConfig) : Bool :=
  governance.any fun config => decide (config.mode = .enforce ∧ config.control_plane_url ≠ "")

def mcp_governance_required : Raised :=
  .http ⟨503, .dict [(.str "error", .dict [
    (.str "type", .str "api_error"), (.str "code", .str "mcp_governance_required"),
    (.str "message", .str ("MCP execution requires CONTROL_PLANE_URL; " ++
      "set MCP_ALLOW_UNGOVERNED=true only for local demos"))])], []⟩

/-- The governance step of the endpoint. -/
def Deployment.tool_governance (governance : Option GovernanceConfig) (request : ToolRequest) (reply : Reply)
    (tool_name : String) (payload : Entries) : List ToolCall × Except Raised (Option Entries) :=
  match governance with
  | some config =>
    if config.mode = .enforce then D.evaluate_tool config request reply tool_name payload else ([], .ok none)
  | none => ([], .ok none)

def tool_arguments (payload : Entries) : Entries :=
  match payload.get "arguments" with
  | some (.dict arguments) => arguments
  | _ => []

def audit_tool (server_name tool_name : String) (governance_result : Option Entries) (execution : Entries) : Entries :=
  let result := governance_result.getD []
  [(.str "tool", .str tool_name),
    (.str "server", .str server_name),
    (.str "verdict", (result.get "final_verdict").getD (.str "allow")),
    (.str "truncated", (execution.get "truncated").getD (.bool false)),
    (.str "decision_id", result.orNone "decision_id"),
    (.str "policy_digest", result.orNone "policy_digest"),
    (.str "request_digest", result.orNone "request_digest"),
    (.str "mcp_request_id", execution.orNone "mcp_request_id"),
    (.str "session_id", execution.orNone "session_id"),
    (.str "capability_digest", execution.orNone "capability_digest"),
    (.str "credential_ref", execution.orNone "credential_ref"),
    (.str "transport", execution.orNone "transport")]

def governed_tool_response (tool_name : String) (payload : Entries) (governance_result : Option Entries)
    (execution : Option Entries) : Value :=
  let result := governance_result.getD []
  let governance := Value.dict (if result = [] then [(.str "final_verdict", .str "skipped")] else result)
  let shared : Entries := [
    (.str "arguments", (payload.get "arguments").getD (.dict [])),
    (.str "governance", governance)]
  let head : Entries := [
    (.str "tool", .str tool_name), (.str "action", (payload.get "action").getD (.str "invoke"))]
  match execution with
  | some execution => .dict (head ++ [(.str "status", .str "executed")] ++ shared ++
      [(.str "execution", .dict execution)])
  | none => .dict (head ++ [(.str "status", .str "governed_allowed"),
      (.str "message", .str ("Tool call allowed by control plane, but no MCP server was registered " ++
        "for execution (set MCP_SERVER_REGISTRY)."))] ++ shared)

/-- What the endpoint asks for, and how it ends. -/
def Deployment.mcp_tool_call (governance : Option GovernanceConfig) (allow_ungoverned : Bool) (request : ToolRequest)
    (answers : ToolAnswers) (tool_name : String) : Value → List ToolCall × Except Raised Value
  | .dict payload =>
    let server_name := D.server_name payload
    if server_name ≠ "" ∧ governance_usable governance = false ∧ allow_ungoverned = false then
      ([], .error mcp_governance_required)
    else
      let (governed, outcome) := D.tool_governance governance request answers.evaluate tool_name payload
      match outcome with
      | .error e => (governed, .error e)
      | .ok result =>
        if server_name = "" then (governed, .ok (governed_tool_response tool_name payload result none))
        else
          let calls := governed ++ [.execute_mcp_tool server_name tool_name (tool_arguments payload)]
          match answers.execute with
          | .error e => (calls, .error e)
          | .ok execution =>
            let response := governed_tool_response tool_name payload result (some execution)
            match governance with
            | none => (calls, .ok response)
            | some config =>
              (calls ++ [.auditTool (config.control_plane_url ++ "/governance/audit-tool")
                  (audit_tool server_name tool_name result execution)],
                -- `suppress(Exception)`
                match answers.audit with
                | .ok _ => .ok response
                | .error e => if e.isException = true then .ok response else .error (.error e))
  | _ => ([], .error (.http ⟨422, .dict [(.str "error", .str "request body must be an object")], []⟩))

/-! What precedes an execution. -/

/-- The Control Plane was asked about this tool on this server. -/
def Evaluated (calls : List ToolCall) (server_name tool_name : String) : Prop :=
  ∃ url headers body, .evaluateTool url headers body ∈ calls ∧ body.get "tool" = some (.str tool_name) ∧
    body.get "mcp_server" = some (.str server_name)

/-- Each execution comes after calls which stand in this relation to it. -/
def ExecutesAfter (earlier : List ToolCall → String → String → Prop) (calls : List ToolCall) : Prop :=
  ∀ before server_name tool_name arguments after,
    calls = before ++ .execute_mcp_tool server_name tool_name arguments :: after → earlier before server_name tool_name

variable {D}
variable {governance : Option GovernanceConfig} {allow_ungoverned : Bool} {request : ToolRequest}
    {answers : ToolAnswers}
variable {config : GovernanceConfig} {tool_name : String} {payload : Entries}

/-- The governance step makes one call at most, and it is an evaluation. -/
theorem tool_governance_calls : (D.tool_governance governance request answers.evaluate tool_name payload).1 = [] ∨
    ∃ url headers body, (D.tool_governance governance request answers.evaluate tool_name payload).1 =
      [.evaluateTool url headers body] := by
  unfold Deployment.tool_governance
  cases governance with
  | none => exact Or.inl rfl
  | some config =>
      dsimp only
      by_cases enforcing : config.mode = .enforce
      · rw [if_pos enforcing]
        unfold Deployment.evaluate_tool
        by_cases skipped : config.mode = .disabled ∨ config.enabled = false ∨ config.misconfigured = true
        · rw [if_pos skipped]
          exact Or.inl rfl
        · rw [if_neg skipped]
          cases request.identity with
          | error e => exact Or.inl rfl
          | ok identity => exact Or.inr ⟨_, _, _, rfl⟩
      · rw [if_neg enforcing]
        exact Or.inl rfl

/-- An element which is in neither part around `call` splits the list nowhere else. -/
theorem split_unique {α : Type} {governed rest before after : List α} {call found : α}
    (absent : found ∉ governed) (absent' : found ∉ rest) (split : governed ++ call :: rest = before ++ found :: after) :
    before = governed ∧ found = call := by
  rcases List.append_eq_append_iff.mp split with ⟨more, rfl, same⟩ | ⟨more, rfl, same⟩
  · cases more with
    | nil => exact ⟨List.append_nil _, (List.cons.inj same).1.symm⟩
    | cons c more =>
        refine absurd ?_ absent'
        rw [(List.cons.inj same).2]
        exact List.mem_append_right _ List.mem_cons_self
  · cases more with
    | nil => exact ⟨(List.append_nil _).symm, (List.cons.inj same).1⟩
    | cons c more =>
        refine absurd ?_ absent
        rw [(List.cons.inj same).1]
        exact List.mem_append_right _ List.mem_cons_self

/-- The endpoint gets as far as executing: the body names a server, and governance is in order. -/
def Deployment.Executes (D : Deployment) (governance : Option GovernanceConfig) (allow_ungoverned : Bool)
    (request : ToolRequest) (answers : ToolAnswers) (tool_name : String) (payload : Entries) : Prop :=
  D.server_name payload ≠ "" ∧ (governance_usable governance = true ∨ allow_ungoverned = true) ∧
    (D.tool_governance governance request answers.evaluate tool_name payload).2.Returns

/-- Then it executes once, right after the governance step, and asks for nothing but an audit behind that. -/
theorem mcp_tool_call_of_executes (executes : D.Executes governance allow_ungoverned request answers
    tool_name payload) :
    ∃ rest, (∀ call ∈ rest, ∃ url body, call = .auditTool url body) ∧
      (D.mcp_tool_call governance allow_ungoverned request answers tool_name (.dict payload)).1 =
        (D.tool_governance governance request answers.evaluate tool_name payload).1 ++
          .execute_mcp_tool (D.server_name payload) tool_name (tool_arguments payload) :: rest := by
  obtain ⟨named, allowed, result, returned⟩ := executes
  have through : ¬ (D.server_name payload ≠ "" ∧ governance_usable governance = false ∧ allow_ungoverned = false) := by
    intro stopped
    rw [stopped.2.1, stopped.2.2] at allowed
    exact allowed.elim Bool.false_ne_true Bool.false_ne_true
  simp only [Deployment.mcp_tool_call, if_neg through, returned, if_neg named]
  cases answers.execute with
  | error e => exact ⟨[], (fun call none => nomatch none), rfl⟩
  | ok execution =>
      cases governance with
      | none => exact ⟨[], (fun call none => nomatch none), rfl⟩
      | some config =>
          refine ⟨[.auditTool (config.control_plane_url ++ "/governance/audit-tool")
            (audit_tool (D.server_name payload) tool_name result execution)],
            (fun call listed => ⟨_, _, List.mem_singleton.mp listed⟩), ?_⟩
          exact List.append_assoc _ _ _

/-- Otherwise it makes the calls of the governance step at most. -/
theorem mcp_tool_call_of_not (stays : ¬ D.Executes governance allow_ungoverned request answers tool_name payload) :
    (D.mcp_tool_call governance allow_ungoverned request answers tool_name (.dict payload)).1 = [] ∨
      (D.mcp_tool_call governance allow_ungoverned request answers tool_name (.dict payload)).1 =
        (D.tool_governance governance request answers.evaluate tool_name payload).1 := by
  simp only [Deployment.mcp_tool_call]
  by_cases stopped : D.server_name payload ≠ "" ∧ governance_usable governance = false ∧ allow_ungoverned = false
  · rw [if_pos stopped]
    exact Or.inl rfl
  · rw [if_neg stopped]
    refine Or.inr ?_
    cases returned : (D.tool_governance governance request answers.evaluate tool_name payload).2 with
    | error e => rfl
    | ok result =>
        by_cases named : D.server_name payload = ""
        · simp only [if_pos named]
        · refine absurd ⟨named, ?_, result, returned⟩ stays
          by_contra refused
          rw [not_or, Bool.not_eq_true, Bool.not_eq_true] at refused
          exact stopped ⟨named, refused⟩

theorem execute_not_governed {server_name tool : String} {arguments : Entries} :
    ToolCall.execute_mcp_tool server_name tool arguments ∉
      (D.tool_governance governance request answers.evaluate tool_name payload).1 := by
  intro listed
  rcases @tool_governance_calls D governance request answers tool_name payload with none | ⟨url, headers, body, one⟩
  · rw [none] at listed
    cases listed
  · rw [one] at listed
    cases List.mem_singleton.mp listed

/-- So whatever is to precede every execution concerns one: that of the tool on the server of the body. -/
theorem executesAfter_iff {earlier : List ToolCall → String → String → Prop} :
    ExecutesAfter earlier (D.mcp_tool_call governance allow_ungoverned request answers tool_name (.dict payload)).1 ↔
      (D.Executes governance allow_ungoverned request answers tool_name payload →
        earlier (D.tool_governance governance request answers.evaluate tool_name payload).1 (D.server_name payload)
          tool_name) := by
  by_cases executes : D.Executes governance allow_ungoverned request answers tool_name payload
  · obtain ⟨rest, audits, calls⟩ := mcp_tool_call_of_executes executes
    rw [calls]
    constructor
    · exact fun law _ => law _ _ _ _ _ rfl
    · intro holds before server_name tool arguments after split
      have unaudited : ToolCall.execute_mcp_tool server_name tool arguments ∉ rest := by
        intro listed
        obtain ⟨url, body, audit⟩ := audits _ listed
        cases audit
      obtain ⟨rfl, found⟩ := split_unique execute_not_governed unaudited split
      cases found
      exact holds executes
  · refine iff_of_true ?_ fun bad => absurd bad executes
    intro before server_name tool arguments after split
    refine absurd (?_ : ToolCall.execute_mcp_tool server_name tool arguments ∈
      (D.tool_governance governance request answers.evaluate tool_name payload).1) execute_not_governed
    have listed : ToolCall.execute_mcp_tool server_name tool arguments ∈
        before ++ .execute_mcp_tool server_name tool arguments :: after :=
      List.mem_append_right _ List.mem_cons_self
    rw [← split] at listed
    rcases mcp_tool_call_of_not executes with none | governed
    · rw [none] at listed
      cases listed
    · rw [governed] at listed
      exact listed

/-! What the Control Plane is asked. -/

theorem build_tool_evaluate_payload_names {identity : WorkloadIdentity} :
    (D.build_tool_evaluate_payload request identity tool_name payload).get "tool" = some (.str tool_name) ∧
      (D.build_tool_evaluate_payload request identity tool_name payload).get "mcp_server" =
        some (.str (D.text.given payload "mcp_server")) := by
  constructor <;> simp [Deployment.build_tool_evaluate_payload, Entries.get, Value.isKey]

/-- With enforcement on, an execution was evaluated under the text of `mcp_server`; with it off nothing was. -/
theorem executes_evaluated (executes : D.Executes governance false request answers tool_name payload) :
    ∃ config, governance = some config ∧ (D.enforce_tool_governance config answers.evaluate).Returns ∧
      (config.enabled = false ∧
          (D.tool_governance governance request answers.evaluate tool_name payload).1 = [] ∨
        config.enabled = true ∧ ∃ url headers body,
          (D.tool_governance governance request answers.evaluate tool_name payload).1 =
              [.evaluateTool url headers body] ∧
          body.get "tool" = some (.str tool_name) ∧
          body.get "mcp_server" = some (.str (D.text.given payload "mcp_server"))) := by
  obtain ⟨_, allowed, returned⟩ := executes
  have usable := allowed.resolve_right Bool.false_ne_true
  cases governance with
  | none => cases usable
  | some config =>
      obtain ⟨enforcing, reachable⟩ := of_decide_eq_true usable
      have configured : config.misconfigured = false := by
        unfold GovernanceConfig.misconfigured
        exact decide_eq_false fun bad => reachable bad.2
      have governed : ¬ config.mode = .disabled := by
        rw [enforcing]
        decide
      simp only [Deployment.tool_governance, if_pos enforcing, Deployment.evaluate_tool] at returned ⊢
      refine ⟨config, rfl, ?_⟩
      by_cases on : config.enabled = true
      · have asked : ¬ (config.mode = .disabled ∨ config.enabled = false ∨ config.misconfigured = true) := by
          rw [on, configured, or_iff_right governed]
          decide
        rw [if_neg asked] at returned ⊢
        cases known : request.identity with
        | error e =>
            rw [known] at returned
            exact absurd returned (returns_error _)
        | ok identity =>
            rw [known] at returned
            exact ⟨returned, Or.inr ⟨on, _, _, _, rfl, build_tool_evaluate_payload_names⟩⟩
      · have off := Bool.not_eq_true _ ▸ on
        rw [if_pos (Or.inr (Or.inl off))] at returned ⊢
        exact ⟨returned, Or.inl ⟨off, rfl⟩⟩

/-- A tool runs only on the server which was evaluated exactly when enforcement is on and the server of
the body is the text of `mcp_server`, or when nothing is executed. -/
theorem tool_runs_where_evaluated_iff : ExecutesAfter Evaluated
      (D.mcp_tool_call governance false request answers tool_name (.dict payload)).1 ↔
    ¬ D.Executes governance false request answers tool_name payload ∨
      (∃ config, governance = some config ∧ config.enabled = true) ∧
        D.text.given payload "mcp_server" = D.server_name payload := by
  rw [executesAfter_iff, imp_iff_not_or]
  by_cases executes : D.Executes governance false request answers tool_name payload
  · refine or_congr_right ?_
    obtain ⟨config, rfl, _, ⟨off, none⟩ | ⟨on, url, headers, body, one, tool, server⟩⟩ := executes_evaluated executes
    · refine iff_of_false (fun evaluated => ?_) fun exact_ => ?_
      · obtain ⟨url, headers, body, listed, _⟩ := evaluated
        rw [none] at listed
        cases listed
      · obtain ⟨⟨config', same, on⟩, _⟩ := exact_
        obtain rfl := Option.some.inj same
        exact Bool.false_ne_true (off.symm.trans on)
    · rw [one]
      constructor
      · intro evaluated
        obtain ⟨url', headers', body', listed, _, server'⟩ := evaluated
        cases List.mem_singleton.mp listed
        exact ⟨⟨config, rfl, on⟩, Value.str.inj (Option.some.inj (server.symm.trans server'))⟩
      · intro exact_
        exact ⟨url, headers, body, List.mem_singleton_self _, tool, exact_.2 ▸ server⟩
  · exact iff_of_true (Or.inl executes) (Or.inl executes)

/-- A tool runs only with enforcement switched off, or after it was evaluated and not refused: on the same
server, where `mcp_server` names it without blanks around it. -/
theorem tool_runs_governed (D : Deployment) (governance : Option GovernanceConfig) (request : ToolRequest)
    (answers : ToolAnswers) (tool_name : String) (payload : Entries) :
    ExecutesAfter (fun before server_name tool => ∃ config, governance = some config ∧ (config.enabled = false ∨
        (D.enforce_tool_governance config answers.evaluate).Returns ∧
        ∃ url headers body, .evaluateTool url headers body ∈ before ∧ body.get "tool" = some (.str tool) ∧
          ((payload.orNone "mcp_server").truthy = true →
            strip (D.text.given payload "mcp_server") = D.text.given payload "mcp_server" →
            body.get "mcp_server" = some (.str server_name))))
      (D.mcp_tool_call governance false request answers tool_name (.dict payload)).1 := by
  rw [executesAfter_iff]
  intro executes
  obtain ⟨config, known, returned, ⟨off, _⟩ | ⟨_, url, headers, body, one, tool, server⟩⟩ := executes_evaluated executes
  · exact ⟨config, known, Or.inl off⟩
  · refine ⟨config, known, Or.inr ⟨returned, url, headers, body, ?_, tool, fun named stripped => ?_⟩⟩
    · rw [one]
      exact List.mem_singleton_self _
    · have same : D.server_name payload = D.text.given payload "mcp_server" := by
        unfold Deployment.server_name
        rw [if_pos named]
        exact stripped
      rw [same]
      exact server

/-- A request without identity headers, and parties which allow and answer. -/
def toolRequest : ToolRequest :=
  ⟨.ok ⟨"s", "t", "o", [], "", "development", "ai-dev", "default", []⟩, fun _ => none, false⟩

def allowingAnswers : ToolAnswers := ⟨.json (.dict [(.str "final_verdict", .str "allow")]), .ok [], .ok ()⟩

/-- Nothing is evaluated with enforcement switched off, and no server is where `server` names it. -/
theorem tool_runs_ungoverned :
    ¬ ExecutesAfter Evaluated (unsignedDeployment.mcp_tool_call (some { enforcingConfig with enabled := false }) false
        toolRequest allowingAnswers "search" (.dict [(.str "mcp_server", .str "docs")])).1 ∧
      ¬ ExecutesAfter Evaluated (unsignedDeployment.mcp_tool_call (some enforcingConfig) false
        toolRequest allowingAnswers "search" (.dict [(.str "server", .str "docs")])).1 := by
  constructor
  · rw [tool_runs_where_evaluated_iff]
    refine fun law => law.elim (fun stays => stays ⟨by decide, Or.inl (by decide), _, rfl⟩) fun on => ?_
    obtain ⟨⟨config, same, enabled⟩, _⟩ := on
    obtain rfl := Option.some.inj same
    cases enabled
  · rw [tool_runs_where_evaluated_iff]
    refine fun law => law.elim (fun stays => stays ⟨by decide, Or.inl (by decide), _, rfl⟩) fun on => ?_
    exact absurd on.2 (by decide)

end RuntimePlatform.Governance
