import RuntimePlatform.Lib.Python

/-!
Signed decisions: how `bind_signed_decision` checks the token of a Control Plane reply
against the reply and the local request. The specification lemma at the end says on
which replies it returns, and with what.
-/

namespace RuntimePlatform.Governance
open Python Except

structure HTTPException where
  status_code : ℕ
  detail : Value
  headers : List (String × String)

/-- What leaves a handler: an HTTP error of its own, or an exception of a callee. -/
inductive Raised where
  | http (e : HTTPException)
  | error (e : Python.Error)

/-- What the two functions take from the process: the environment, the clock, the JWS
library, the hash functions and the replay store. -/
structure Deployment where
  text : Text
  require_signed_decision : Bool
  verify_decision_token : String → Except Python.Error Entries
  compute_request_digest : Entries → Except Python.Error String
  token_hash : String → String
  time : ℤ
  /-- `consume(jti, tenant, request_digest, ttl_seconds)` -/
  replay_store : Option (String → String → String → ℤ → Except Python.Error Bool)
  runtime_version : String

def governance_detail (T : Text) (code message : String) (result : Entries)
    (control_plane_url reason : Option String) : Value :=
  let approval := result.orNone "approval_id"
  let retry : Value :=
    if approval.truthy then
      .dict [
        (.str "instruction", .str ("Approve the request at the control plane, then retry this gateway " ++
          "request with header x-ai-approval-id set to approval_id.")),
        (.str "approve_path", .str ("/approvals/" ++ T.str approval ++ "/approve")),
        (.str "header", .str "x-ai-approval-id"),
        (.str "approval_id", approval)]
    else .none
  .dict ([
    (.str "error", .dict [
      (.str "type", .str "governance_error"), (.str "code", .str code), (.str "message", .str message)]),
    (.str "final_verdict", result.orNone "final_verdict"),
    (.str "reasons", (result.get "reasons").getD (.list [])),
    (.str "stages", (result.get "stages").getD (.dict [])),
    (.str "decision_id", result.orNone "decision_id"),
    (.str "approval_id", approval),
    (.str "policy_bundle_id", result.orNone "policy_bundle_id"),
    (.str "policy_digest", result.orNone "policy_digest"),
    (.str "request_digest", result.orNone "request_digest"),
    (.str "retry", retry)] ++
    (control_plane_url.map fun url => (Value.str "control_plane_url", Value.str url)).toList ++
    (reason.map fun text => (Value.str "reason", Value.str text)).toList)

variable (D : Deployment)

def Deployment.refuse (status : ℕ) (code message : String) (result : Entries) (reason : Option String) : Raised :=
  .http ⟨status, governance_detail D.text code message result none reason, []⟩

def normalize_digest (value : String) : String :=
  let text := (strip value).toList
  String.ofList (if "sha256:".toList.isPrefixOf text then text.drop 7 else text)

/-- `str(d.get(key) or "").strip()` -/
def Deployment.field (d : Entries) (key : String) : String := strip (D.text.given d key)

def Deployment.digest (d : Entries) (key : String) : String := normalize_digest (D.text.given d key)

/-- `str(d.get(key) or "").strip().lower()` -/
def Deployment.verdict (d : Entries) (key : String) : String := D.text.lower (D.field d key)

/-- `hmac.compare_digest` on text, which must be ASCII. -/
def compare_digest (a b : String) : Except Raised Bool :=
  if isAscii a ∧ isAscii b then .ok (decide (a = b))
  else .error (.error ⟨.typeError, "comparing strings with non-ASCII characters is not supported"⟩)

/-- The comparison of the digest loop and of `_compare_optional`. -/
def compare_optional (token_value local_value : String) (mismatch : Raised) : Except Raised Unit :=
  if token_value = "" ∨ local_value = "" then .ok ()
  else do
    let same ← compare_digest token_value local_value
    raiseIf (same = false) mismatch

def Deployment.verified (result : Entries) : Except Raised Entries :=
  match D.verify_decision_token (D.text.str (result.orNone "decision_token")) with
  | .ok claims => .ok claims
  | .error e =>
    if e.isException then
      .error (D.refuse 403 "signed_decision_invalid" "signed decision token verification failed" result e.text)
    else .error (.error e)

/-- The tenant claim, under either of its names. -/
def Deployment.token_tenant (claims : Entries) : String :=
  if (claims.orNone "tenant").truthy then D.field claims "tenant" else D.field claims "tenant_id"

def Deployment.expected_tenant (payload : Entries) : String :=
  if (payload.orNone "tenant_id").truthy then D.field payload "tenant_id" else D.field payload "team"

def Deployment.expected_digest (result claims : Entries) : String :=
  let token_digest := D.digest claims "request_digest"
  if token_digest = "" then D.digest result "request_digest" else token_digest

def Deployment.compare_local (result claims : Entries) (local_digest : String) : Except Raised Unit :=
  let expected := D.expected_digest result claims
  if expected = "" then .ok ()
  else do
    let same ← compare_digest local_digest expected
    raiseIf (same = false) (D.refuse 403 "signed_decision_request_mismatch"
      "signed decision request_digest does not match local request" result none)

def Deployment.derive_jti (claims : Entries) (token : String) : String :=
  if D.field claims "jti" ≠ "" then D.field claims "jti"
  else if D.field claims "decision_id" ≠ "" then D.field claims "decision_id"
  else D.token_hash token

/-- The time to live of the replay entry; an `exp` that is no number counts as absent. -/
def Deployment.replay_ttl (claims : Entries) : Except Raised ℤ :=
  match claims.orNone "exp" with
  | .none => .ok 300
  | exp =>
    match D.text.int exp with
    | .ok n => .ok (max 1 (n - D.time))
    | .error e => if e.kind = .typeError ∨ e.kind = .valueError then .ok 300 else .error (.error e)

def Deployment.consume (result claims payload : Entries) (local_digest : String) : Except Raised Unit :=
  let token_tenant := D.token_tenant claims
  let token_req := D.digest claims "request_digest"
  let jti := D.derive_jti claims (D.text.str (result.orNone "decision_token"))
  let bind_tenant := if token_tenant = "" then D.expected_tenant payload else token_tenant
  let bind_digest := if token_req = "" then local_digest else token_req
  match D.replay_store with
  | none => .ok ()
  | some consume => do
    let ttl ← D.replay_ttl claims
    match consume jti bind_tenant bind_digest ttl with
    | .error e => .error (.error e)
    | .ok accepted =>
      raiseIf (accepted = false)
        (D.refuse 403 "decision_replayed" "signed decision token has already been used" result none)

def mergeClaim (claims : Entries) (merged : Entries) (key : String) : Entries :=
  let claim := claims.orNone key
  if claim.truthy ∧ ¬ (merged.orNone key).truthy then merged.set key claim else merged

def merge_token_claims (result claims : Entries) : Entries :=
  ["decision_id", "request_digest", "policy_digest"].foldl (mergeClaim claims) result

/-- `bind_signed_decision`, with the evaluate payload which its one caller passes. -/
def Deployment.bind_signed_decision (result payload : Entries) : Except Raised Entries :=
  if (result.orNone "decision_token").truthy then do
    let claims ← D.verified result
    let verdict := D.verdict claims "verdict"
    let result_verdict := D.verdict result "final_verdict"
    raiseIf (verdict ≠ "" ∧ result_verdict ≠ "" ∧ verdict ≠ result_verdict)
      (D.refuse 403 "signed_decision_mismatch" "signed decision verdict does not match evaluate response"
        result ("token=" ++ verdict ++ " evaluate=" ++ result_verdict))
    let token_decision := D.field claims "decision_id"
    let result_decision := D.field result "decision_id"
    raiseIf (token_decision ≠ "" ∧ result_decision ≠ "" ∧ token_decision ≠ result_decision)
      (D.refuse 403 "signed_decision_mismatch" "signed decision id does not match evaluate response" result none)
    compare_optional (D.digest claims "request_digest") (D.digest result "request_digest")
      (D.refuse 403 "signed_decision_mismatch"
        "signed decision request_digest does not match evaluate response" result none)
    compare_optional (D.digest claims "policy_digest") (D.digest result "policy_digest")
      (D.refuse 403 "signed_decision_mismatch"
        "signed decision policy_digest does not match evaluate response" result none)
    let local_digest ← (D.compute_request_digest payload).mapError Raised.error
    D.compare_local result claims local_digest
    compare_optional (D.token_tenant claims) (D.expected_tenant payload)
      (D.refuse 403 "signed_decision_mismatch" "signed decision tenant does not match local request" [] none)
    compare_optional (D.field claims "subject") (D.field payload "subject")
      (D.refuse 403 "signed_decision_mismatch" "signed decision subject does not match local request" [] none)
    compare_optional (D.field claims "model") (D.field payload "model")
      (D.refuse 403 "signed_decision_mismatch" "signed decision model does not match local request" [] none)
    D.consume result claims payload local_digest
    .ok (merge_token_claims result claims)
  else do
    raiseIf (D.require_signed_decision = true)
      (D.refuse 503 "signed_decision_required" "control plane did not return a signed decision token" result none)
    .ok result

/-! When binding succeeds. -/

def Compatible (a b : String) : Prop := a = "" ∨ b = "" ∨ a = b

/-- Compatible under `compare_digest`. -/
def Matching (a b : String) : Prop := a = "" ∨ b = "" ∨ isAscii a = true ∧ a = b

/-- The verified claims are those of this reply and this request, which has a digest, and were not used before. -/
structure Deployment.Binds (result payload claims : Entries) (local_digest : String) : Prop where
  verdict : Compatible (D.verdict claims "verdict") (D.verdict result "final_verdict")
  decision : Compatible (D.field claims "decision_id") (D.field result "decision_id")
  request_digest : Matching (D.digest claims "request_digest") (D.digest result "request_digest")
  policy_digest : Matching (D.digest claims "policy_digest") (D.digest result "policy_digest")
  computed : D.compute_request_digest payload = .ok local_digest
  expected : D.expected_digest result claims = "" ∨
    isAscii local_digest = true ∧ local_digest = D.expected_digest result claims
  tenant : Matching (D.token_tenant claims) (D.expected_tenant payload)
  subject : Matching (D.field claims "subject") (D.field payload "subject")
  model : Matching (D.field claims "model") (D.field payload "model")
  fresh : (D.consume result claims payload local_digest).Returns

/-- The claims of the reply's token, when it has one and the token verifies. -/
def Deployment.claims (result : Entries) : Option Entries :=
  if (result.orNone "decision_token").truthy then
    (D.verify_decision_token (D.text.str (result.orNone "decision_token"))).toOption
  else none

def Deployment.Accepts (result payload : Entries) : Prop :=
  if (result.orNone "decision_token").truthy then
    ∃ claims local_digest, D.claims result = some claims ∧ D.Binds result payload claims local_digest
  else D.require_signed_decision = false

variable {D}

theorem compare_digest_eq_true {a b : String} :
    compare_digest a b = .ok true ↔ isAscii a = true ∧ a = b := by
  unfold compare_digest
  by_cases ascii : isAscii a = true ∧ isAscii b = true
  · rw [if_pos ascii, ok.injEq, decide_eq_true_eq]
    exact ⟨fun same => ⟨ascii.1, same⟩, fun h => h.2⟩
  · rw [if_neg ascii]
    refine ⟨fun h => (nomatch h), fun ⟨left, same⟩ => absurd ⟨left, same ▸ left⟩ ascii⟩

theorem demand_digest_eq_ok {a b : String} {mismatch : Raised} {u : Unit} :
    (compare_digest a b >>= fun same => raiseIf (same = false) mismatch) = .ok u ↔
      isAscii a = true ∧ a = b := by
  rw [bind_eq_ok, ← compare_digest_eq_true]
  constructor
  · rintro ⟨same, compared, kept⟩
    rw [raiseIf_eq_ok, Bool.not_eq_false] at kept
    exact kept ▸ compared
  · intro compared
    exact ⟨true, compared, raiseIf_eq_ok.mpr (by decide)⟩

theorem compare_optional_eq_ok {a b : String} {mismatch : Raised} {u : Unit} :
    compare_optional a b mismatch = .ok u ↔ Matching a b := by
  unfold compare_optional Matching
  by_cases absent : a = "" ∨ b = ""
  · rw [if_pos absent]
    exact ⟨fun _ => absent.imp_right Or.inl, fun _ => rfl⟩
  · rw [if_neg absent, demand_digest_eq_ok, ← or_assoc, or_iff_right absent]

theorem compare_local_eq_ok {result claims : Entries} {local_digest : String} {u : Unit} :
    D.compare_local result claims local_digest = .ok u ↔ D.expected_digest result claims = "" ∨
      isAscii local_digest = true ∧ local_digest = D.expected_digest result claims := by
  simp only [Deployment.compare_local]
  by_cases absent : D.expected_digest result claims = ""
  · rw [if_pos absent]
    exact ⟨fun _ => Or.inl absent, fun _ => rfl⟩
  · rw [if_neg absent, demand_digest_eq_ok, or_iff_right absent]

theorem differ_iff {a b : String} : ¬ (a ≠ "" ∧ b ≠ "" ∧ a ≠ b) ↔ Compatible a b := by
  unfold Compatible
  tauto

theorem mapError_eq_ok {ε ε' α : Type} {f : ε → ε'} {x : Except ε α} {a : α} : x.mapError f = .ok a ↔ x = .ok a := by
  cases x with
  | ok b => simp only [Except.mapError, ok.injEq]
  | error e => exact iff_of_false (fun bad => nomatch bad) fun bad => nomatch bad

theorem verified_eq_ok {result claims : Entries} (present : (result.orNone "decision_token").truthy = true) :
    D.verified result = .ok claims ↔ D.claims result = some claims := by
  unfold Deployment.verified Deployment.claims
  rw [if_pos present]
  cases D.verify_decision_token (D.text.str (result.orNone "decision_token")) with
  | ok found => simp only [ok.injEq, Except.toOption, Option.some.injEq]
  | error e =>
      simp only [Except.toOption, reduceCtorEq, iff_false]
      by_cases caught : e.isException = true
      · rw [if_pos caught]
        exact fun h => (nomatch h)
      · rw [if_neg caught]
        exact fun h => (nomatch h)

/-- Binding returns on the replies it accepts, and hands the reply on with its claims merged. -/
theorem bind_signed_decision_eq_ok {result payload bound : Entries} :
    D.bind_signed_decision result payload = .ok bound ↔
      D.Accepts result payload ∧ bound = (D.claims result).elim result (merge_token_claims result) := by
  unfold Deployment.bind_signed_decision Deployment.Accepts
  by_cases present : (result.orNone "decision_token").truthy = true
  · rw [if_pos present, if_pos present]
    simp only [bind_eq_ok, raiseIf_eq_ok, compare_optional_eq_ok, compare_local_eq_ok, mapError_eq_ok, differ_iff,
      verified_eq_ok present, ok.injEq]
    constructor
    · rintro ⟨claims, found, _, verdict, _, decision, _, request, _, policy, local_digest, computed, _, here, _, tenant,
        _, subject, _, model, u, fresh, rfl⟩
      rw [found]
      exact ⟨⟨claims, local_digest, rfl, verdict, decision, request, policy, computed, here, tenant, subject, model, u,
        fresh⟩, rfl⟩
    · rintro ⟨⟨claims, local_digest, found, binds⟩, rfl⟩
      rw [found]
      obtain ⟨u, fresh⟩ := binds.fresh
      exact ⟨claims, rfl, (), binds.verdict, (), binds.decision, (), binds.request_digest, (),
        binds.policy_digest, local_digest, binds.computed, (), binds.expected, (), binds.tenant, (), binds.subject, (),
        binds.model, u, fresh, rfl⟩
  · have unsigned : D.claims result = none := if_neg present
    rw [if_neg present, if_neg present, unsigned]
    simp only [bind_eq_ok, raiseIf_eq_ok, ok.injEq, Bool.not_eq_true, Option.elim_none]
    constructor
    · rintro ⟨_, optional, rfl⟩
      exact ⟨optional, rfl⟩
    · rintro ⟨optional, rfl⟩
      exact ⟨(), optional, rfl⟩

/-- Merging the claims writes none of the keys which say what was decided. -/
theorem merge_token_claims_get (result claims : Entries) {key : String}
    (other : key ∉ ["decision_id", "request_digest", "policy_digest"]) :
    (merge_token_claims result claims).get key = result.get key := by
  unfold merge_token_claims
  generalize ["decision_id", "request_digest", "policy_digest"] = keys at other
  induction keys generalizing result with
  | nil => rfl
  | cons k ks ih =>
      rw [List.mem_cons, not_or] at other
      obtain ⟨different, rest⟩ := other
      rw [List.foldl_cons, ih _ rest]
      simp only [mergeClaim]
      by_cases takes : (claims.orNone k).truthy = true ∧ ¬ (result.orNone k).truthy = true
      · rw [if_pos takes]
        exact Entries.get_set_ne _ _ (Ne.symm different)
      · rw [if_neg takes]

end RuntimePlatform.Governance
