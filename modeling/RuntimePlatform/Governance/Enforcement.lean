import RuntimePlatform.Governance.Decision

/-!
The two enforcement points, `enforce_governance` for models and
`enforce_tool_governance` for MCP tools, after the Control Plane has answered. A
request executes when its enforcement point returns. The verdict of a reply is
compared as exact text with two refusals; the main theorem says which replies keep
that comparison from letting anything but `allow` through.
-/

namespace RuntimePlatform.Governance
open Python Except

/-! The headers which a refusal carries. -/

structure EnforcementEvidence where
  control_plane_decision_id : Option String
  approval_id : Option String
  policy_bundle_id : Option String
  policy_digest : Option String
  request_digest : Option String
  control_plane_version : Option String
  runtime_version : String
  enforcement_outcome : String

variable (D : Deployment)

/-- `str(result[key]) if result.get(key) else None` -/
def Deployment.stated (result : Entries) (key : String) : Option String :=
  if (result.orNone key).truthy then some (D.text.str (result.orNone key)) else none

def Deployment.evidence_from_governance (result : Entries) (enforcement_outcome : String) :
    EnforcementEvidence where
  control_plane_decision_id :=
    (D.stated result "decision_id").or (D.stated result "control_plane_decision_id")
  approval_id := D.stated result "approval_id"
  policy_bundle_id := D.stated result "policy_bundle_id"
  policy_digest := D.stated result "policy_digest"
  request_digest := D.stated result "request_digest"
  control_plane_version := D.stated result "control_plane_version"
  runtime_version := D.runtime_version
  enforcement_outcome := enforcement_outcome

/-- `if value: headers[name] = value` -/
def header (name : String) (value : Option String) : List (String × String) :=
  ((value.filter fun text => decide (text ≠ "")).map fun text => (name, text)).toList

/-- `apply_evidence_headers` on no headers. -/
def apply_evidence_headers (evidence : EnforcementEvidence) : List (String × String) :=
  [("x-ai-runtime-version", evidence.runtime_version)] ++
    header "x-ai-control-decision-id" evidence.control_plane_decision_id ++
    header "x-ai-decision-id" evidence.control_plane_decision_id ++
    header "x-ai-policy-bundle-id" evidence.policy_bundle_id ++
    header "x-ai-policy-digest" evidence.policy_digest ++
    header "x-ai-request-digest" evidence.request_digest ++
    header "x-ai-approval-id" evidence.approval_id

/-! The enforcement points. -/

inductive GovernanceMode where
  | enforce
  | disabled
  deriving DecidableEq, Repr

structure GovernanceConfig where
  control_plane_url : String
  enabled : Bool
  fail_open : Bool
  mode : GovernanceMode
  deriving DecidableEq, Repr

def GovernanceConfig.misconfigured (config : GovernanceConfig) : Bool :=
  decide (config.mode = .enforce ∧ config.control_plane_url = "")

/-- How the POST to the Control Plane ends: an `httpx.HTTPError`, another exception
(a body which is no JSON, a cancellation), or a JSON value. -/
inductive Reply where
  | httpError (text : String)
  | raised (e : Python.Error)
  | json (v : Value)

/-- `str(result.get("final_verdict", "unknown"))`, the text which is compared. -/
def verdictText (T : Text) (result : Entries) : String :=
  ((result.get "final_verdict").map T.str).getD "unknown"

/-- The tail which both functions share: two refusals, everything else returns. -/
def enforceVerdict (T : Text) (result : Entries) (blocked approval : Raised) : Except Raised Entries := do
  raiseIf (verdictText T result = "block") blocked
  raiseIf (verdictText T result = "approval_required") approval
  .ok result

def misconfiguredError (T : Text) : Raised :=
  .http ⟨503, governance_detail T "governance_misconfigured"
    ("GOVERNANCE_MODE=enforce requires CONTROL_PLANE_URL; " ++
      "set GOVERNANCE_MODE=disabled explicitly to skip enforcement")
    [(.str "final_verdict", .str "misconfigured"), (.str "reasons", .list []), (.str "stages", .dict [])]
    none none, []⟩

def unavailableError (T : Text) (config : GovernanceConfig) (code message reason : String) : Raised :=
  .http ⟨503, governance_detail T code message
    [(.str "final_verdict", .str "control_plane_error"), (.str "reasons", .list []), (.str "stages", .dict [])]
    (some config.control_plane_url) (some reason), []⟩

def noAttribute : Raised := .error ⟨.attributeError, "object has no attribute 'get'"⟩

/-- `enforce_governance`, from the evaluate payload on; `none` means not governed. -/
def Deployment.enforce_governance (config : GovernanceConfig) (body : Entries) (reply : Reply) :
    Except Raised (Option Entries) :=
  if config.mode = .disabled ∨ config.enabled = false then .ok none
  else if config.misconfigured = true then .error (misconfiguredError D.text)
  else
    match reply with
    | .httpError reason =>
      if config.fail_open = true then .ok none
      else .error (unavailableError D.text config "control_plane_unavailable"
        "governance control plane unavailable" reason)
    | .raised e => .error (.error e)
    | .json (.dict result) => do
      let result ← D.bind_signed_decision result body
      let detail := fun code message => governance_detail D.text code message result none none
      let headers := fun outcome => apply_evidence_headers (D.evidence_from_governance result outcome)
      let result ← enforceVerdict D.text result
        (.http ⟨403, detail "governance_blocked" "governance blocked the request", headers "blocked"⟩)
        (.http ⟨409, detail "governance_approval_required" "governance approval required",
          headers "approval_required"⟩)
      .ok (some result)
    | .json _ => .error noAttribute

/-- `enforce_tool_governance`, which has no step for the token of the reply. -/
def Deployment.enforce_tool_governance (config : GovernanceConfig) (reply : Reply) :
    Except Raised (Option Entries) :=
  if config.mode = .disabled ∨ config.enabled = false then .ok none
  else if config.misconfigured = true then .error (misconfiguredError D.text)
  else
    match reply with
    | .httpError reason =>
      if config.fail_open = true then .ok none
      else .error (unavailableError D.text config "tool_control_plane_unavailable"
        "tool governance control plane unavailable" reason)
    | .raised e => .error (.error e)
    | .json (.dict result) => do
      let detail := fun code message => governance_detail D.text code message result none none
      let stated := fun name key => ((D.stated result key).map fun text => (name, text)).toList
      let result ← enforceVerdict D.text result
        (.http ⟨403, detail "tool_governance_blocked" "tool governance blocked the request", []⟩)
        (.http ⟨409, detail "tool_governance_approval_required" "tool governance approval required",
          stated "x-ai-approval-id" "approval_id" ++ stated "x-ai-decision-id" "decision_id"⟩)
      .ok (some result)
    | .json _ => .error noAttribute

/-! What a reply says. -/

/-- The verdict of the reply's `final_verdict`, normalised as `bind_signed_decision`
does; the empty text when none is given. -/
def Deployment.finalVerdict (reply : Entries) : String := D.verdict reply "final_verdict"

/-- The verdict claim of the reply's verified token, likewise. -/
def Deployment.tokenVerdict (reply : Entries) : String :=
  (D.claims reply).elim "" fun claims => D.verdict claims "verdict"

/-- The one verdict which the reply and its token agree on, if they give any. -/
def Deployment.effectiveVerdict (reply : Entries) : Option String :=
  let final := D.finalVerdict reply
  let token := D.tokenVerdict reply
  if final = "" then (if token = "" then none else some token)
  else if token = "" ∨ token = final then some final
  else none

/-- The request executes only on `allow`. -/
def Deployment.OnlyAllow (reply : Entries) (outcome : Except Raised (Option Entries)) : Prop :=
  outcome.Returns → D.effectiveVerdict reply = some "allow"

/-- The reply spells one of the two refusals exactly as the code does. -/
def Deployment.SpelledRefusal (reply : Entries) : Prop :=
  verdictText D.text reply = "block" ∨ verdictText D.text reply = "approval_required"

variable {D}
variable {config : GovernanceConfig} {reply body : Entries}

/-- When the effective verdict is `allow`, a verdict is given, and each one given is `allow`. -/
theorem effectiveVerdict_allow (allow : D.effectiveVerdict reply = some "allow") :
    (D.finalVerdict reply = "allow" ∨ D.tokenVerdict reply = "allow") ∧
      (D.finalVerdict reply = "" ∨ D.finalVerdict reply = "allow") ∧
      (D.tokenVerdict reply = "" ∨ D.tokenVerdict reply = "allow") := by
  simp only [Deployment.effectiveVerdict] at allow
  by_cases unstated : D.finalVerdict reply = ""
  · rw [if_pos unstated] at allow
    by_cases unsigned : D.tokenVerdict reply = ""
    · rw [if_pos unsigned] at allow
      cases allow
    · rw [if_neg unsigned, Option.some.injEq] at allow
      exact ⟨Or.inr allow, Or.inl unstated, Or.inr allow⟩
  · rw [if_neg unstated] at allow
    by_cases agreed : D.tokenVerdict reply = "" ∨ D.tokenVerdict reply = D.finalVerdict reply
    · rw [if_pos agreed, Option.some.injEq] at allow
      exact ⟨Or.inl allow, Or.inr allow, agreed.imp_right fun same => same.trans allow⟩
    · rw [if_neg agreed] at allow
      cases allow

/-- Where only `allow` executes, a refusal in either place raises, and so does silence. -/
theorem Deployment.OnlyAllow.raises {outcome : Except Raised (Option Entries)}
    (only : D.OnlyAllow reply outcome)
    (refused : (∃ verdict ∈ ["block", "approval_required"],
        D.finalVerdict reply = verdict ∨ D.tokenVerdict reply = verdict) ∨
      D.finalVerdict reply = "" ∧ D.tokenVerdict reply = "") : ¬ outcome.Returns := by
  intro returned
  obtain ⟨given, final, token⟩ := effectiveVerdict_allow (only returned)
  have neither : ∀ {text : String}, text = "" ∨ text = "allow" → text ∉ ["block", "approval_required"] := by
    rintro text (rfl | rfl) <;> decide
  rcases refused with ⟨verdict, listed, stated | signed⟩ | ⟨unstated, unsigned⟩
  · exact neither final (stated ▸ listed)
  · exact neither token (signed ▸ listed)
  · rw [unstated, unsigned] at given
    rcases given with h | h <;> exact absurd h (by decide)

theorem enforceVerdict_returns {T : Text} {result : Entries} {blocked approval : Raised} :
    (enforceVerdict T result blocked approval).Returns ↔
      verdictText T result ≠ "block" ∧ verdictText T result ≠ "approval_required" := by
  unfold enforceVerdict
  simp only [returns_bind, raiseIf_eq_ok, returns_ok, and_true, exists_const]

/-- In enforce mode a model request executes on exactly these replies. -/
theorem enforce_governance_returns (enforcing : config.mode = .enforce) (enabled : config.enabled = true) :
    (D.enforce_governance config body (.json (.dict reply))).Returns ↔
      config.misconfigured = false ∧ D.Accepts reply body ∧ ¬ D.SpelledRefusal reply := by
  have governed : ¬ (config.mode = .disabled ∨ config.enabled = false) := by
    rw [enforcing, enabled]
    decide
  unfold Deployment.enforce_governance
  rw [if_neg governed]
  by_cases broken : config.misconfigured = true
  · rw [if_pos broken]
    simp only [returns_error, broken, Bool.true_eq_false, false_and]
  · rw [if_neg broken]
    have kept : ∀ claims : Option Entries,
        verdictText D.text (claims.elim reply (merge_token_claims reply)) = verdictText D.text reply := by
      intro claims
      cases claims with
      | none => rfl
      | some claims =>
          unfold verdictText
          rw [Option.elim_some, merge_token_claims_get reply claims (by decide)]
    simp only [returns_bind, bind_signed_decision_eq_ok, Deployment.SpelledRefusal, not_or,
      Bool.not_eq_true _ ▸ broken, true_and]
    constructor
    · rintro ⟨bound, ⟨accepted, rfl⟩, _, passed, _⟩
      have spelled := enforceVerdict_returns.mp ⟨_, passed⟩
      rw [kept] at spelled
      exact ⟨accepted, spelled⟩
    · rintro ⟨accepted, spelled⟩
      refine ⟨_, ⟨accepted, rfl⟩, ?_⟩
      obtain ⟨passed, h⟩ := enforceVerdict_returns.mpr ((kept _).symm ▸ spelled)
      exact ⟨passed, h, returns_ok _⟩

theorem enforce_tool_governance_returns (enforcing : config.mode = .enforce)
    (enabled : config.enabled = true) :
    (D.enforce_tool_governance config (.json (.dict reply))).Returns ↔
      config.misconfigured = false ∧ ¬ D.SpelledRefusal reply := by
  have governed : ¬ (config.mode = .disabled ∨ config.enabled = false) := by
    rw [enforcing, enabled]
    decide
  unfold Deployment.enforce_tool_governance
  rw [if_neg governed]
  by_cases broken : config.misconfigured = true
  · rw [if_pos broken]
    simp only [returns_error, broken, Bool.true_eq_false, false_and]
  · rw [if_neg broken]
    simp only [returns_bind, Deployment.SpelledRefusal, not_or, Bool.not_eq_true _ ▸ broken, true_and]
    rw [← enforceVerdict_returns]
    constructor
    · rintro ⟨passed, h, _⟩
      exact ⟨passed, h⟩
    · rintro ⟨passed, h⟩
      exact ⟨passed, h, returns_ok _⟩

/-- Fail-closed: an answer which is not a JSON object executes nothing. -/
theorem no_object_raises (enforcing : config.mode = .enforce) (enabled : config.enabled = true)
    (closed : config.fail_open = false) {answer : Reply} (noObject : ∀ result, answer ≠ .json (.dict result)) :
    ¬ (D.enforce_governance config body answer).Returns ∧
      ¬ (D.enforce_tool_governance config answer).Returns := by
  have governed : ¬ (config.mode = .disabled ∨ config.enabled = false) := by
    rw [enforcing, enabled]
    decide
  have kept : ¬ config.fail_open = true := by
    rw [closed]
    decide
  unfold Deployment.enforce_governance Deployment.enforce_tool_governance
  rw [if_neg governed, if_neg governed]
  by_cases broken : config.misconfigured = true
  · rw [if_pos broken, if_pos broken]
    exact ⟨returns_error _, returns_error _⟩
  · rw [if_neg broken, if_neg broken]
    cases answer with
    | httpError reason =>
        simp only [if_neg kept]
        exact ⟨returns_error _, returns_error _⟩
    | raised e => exact ⟨returns_error _, returns_error _⟩
    | json v =>
        cases v with
        | dict result => exact absurd rfl (noObject result)
        | _ => exact ⟨returns_error _, returns_error _⟩

/-- A model executes on `allow` only, unless the reply leaves the comparison a gap: the
binding accepts it, it spells neither refusal, and its effective verdict is not `allow`.
For a tool the same holds without the binding. Answers of any other kind execute nothing. -/
theorem only_allow_executes (D : Deployment) (config : GovernanceConfig) (body reply : Entries)
    (enforcing : config.mode = .enforce) (enabled : config.enabled = true) (closed : config.fail_open = false) :
    (D.OnlyAllow reply (D.enforce_governance config body (.json (.dict reply))) ↔
      config.misconfigured = true ∨ ¬ D.Accepts reply body ∨ D.SpelledRefusal reply ∨
        D.effectiveVerdict reply = some "allow") ∧
    (D.OnlyAllow reply (D.enforce_tool_governance config (.json (.dict reply))) ↔
      config.misconfigured = true ∨ D.SpelledRefusal reply ∨ D.effectiveVerdict reply = some "allow") ∧
    ∀ answer : Reply, (∀ result, answer ≠ .json (.dict result)) →
      ¬ (D.enforce_governance config body answer).Returns ∧
        ¬ (D.enforce_tool_governance config answer).Returns := by
  have usable : config.misconfigured = false ↔ ¬ config.misconfigured = true := by
    rw [Bool.not_eq_true]
  unfold Deployment.OnlyAllow
  rw [enforce_governance_returns enforcing enabled, enforce_tool_governance_returns enforcing enabled, usable]
  refine ⟨by tauto, by tauto, fun answer noObject => no_object_raises enforcing enabled closed noObject⟩

/-- A deployment which takes unsigned replies and knows one token, whose verdict is `block`. -/
def unsignedDeployment : Deployment where
  text := asciiText
  require_signed_decision := false
  verify_decision_token token :=
    if token = "jws" then .ok [(.str "verdict", .str "block")] else .error ⟨.valueError, "invalid token"⟩
  compute_request_digest _ := .ok "d0"
  token_hash _ := "h0"
  time := 0
  replay_store := none
  runtime_version := "1.0.0"

def enforcingConfig : GovernanceConfig := ⟨"http://control-plane", true, false, .enforce⟩

theorem only_allow_executes_capitalised :
    unsignedDeployment.OnlyAllow [(.str "final_verdict", .str "Allow")]
      (unsignedDeployment.enforce_governance enforcingConfig []
        (.json (.dict [(.str "final_verdict", .str "Allow")]))) :=
  (only_allow_executes unsignedDeployment enforcingConfig [] _ rfl rfl rfl).1.mpr
    (Or.inr (Or.inr (Or.inr (by decide))))

/-- A reply without a verdict executes, and so does `BLOCK`; a tool executes also on `allow`
with a token which says `block`. -/
theorem refusals_execute :
    (∀ reply ∈ [[], [(.str "final_verdict", .str "BLOCK")]],
      ¬ unsignedDeployment.OnlyAllow reply
        (unsignedDeployment.enforce_governance enforcingConfig [] (.json (.dict reply))) ∧
      ¬ unsignedDeployment.OnlyAllow reply
        (unsignedDeployment.enforce_tool_governance enforcingConfig (.json (.dict reply)))) ∧
    ¬ unsignedDeployment.OnlyAllow [(.str "final_verdict", .str "allow"), (.str "decision_token", .str "jws")]
        (unsignedDeployment.enforce_tool_governance enforcingConfig
          (.json (.dict [(.str "final_verdict", .str "allow"), (.str "decision_token", .str "jws")]))) := by
  refine ⟨?_, fun only => absurd (only ⟨_, rfl⟩) (by decide)⟩
  intro reply listed
  simp only [List.mem_cons, List.not_mem_nil, or_false] at listed
  rcases listed with rfl | rfl
  · exact ⟨fun only => absurd (only ⟨_, rfl⟩) (by decide), fun only => absurd (only ⟨_, rfl⟩) (by decide)⟩
  · exact ⟨fun only => absurd (only ⟨_, rfl⟩) (by decide), fun only => absurd (only ⟨_, rfl⟩) (by decide)⟩

end RuntimePlatform.Governance
