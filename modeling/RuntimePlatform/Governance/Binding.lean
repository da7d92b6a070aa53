import RuntimePlatform.Governance.Enforcement

/-!
What a required signed decision is bound to. The request is compared with one expected
digest: the one in the signed claims, or else the one in the unsigned reply.
-/

namespace RuntimePlatform.Governance
open Python Except

variable {D : Deployment} {result payload claims bound : Entries}

/-- A reply is accepted only for the request whose digest its signed claims carry. -/
def Deployment.ClaimsBindRequest (D : Deployment) : Prop :=
  ∀ result payload : Entries, (D.bind_signed_decision result payload).Returns →
    ∃ claims, D.claims result = some claims ∧
      D.compute_request_digest payload = .ok (D.digest claims "request_digest")

/-- Where a signature is required, what is accepted has verified claims which pass the comparisons. -/
theorem accepted_binds (required : D.require_signed_decision = true)
    (accepted : (D.bind_signed_decision result payload).Returns) :
    ∃ claims local_digest, D.claims result = some claims ∧ D.Binds result payload claims local_digest := by
  obtain ⟨bound, returned⟩ := accepted
  obtain ⟨accepts, _⟩ := bind_signed_decision_eq_ok.mp returned
  unfold Deployment.Accepts at accepts
  by_cases present : (result.orNone "decision_token").truthy = true
  · rw [if_pos present] at accepts
    exact accepts
  · rw [if_neg present, required] at accepts
    cases accepts

/-- The expected digest is the signed one whenever there is one. -/
theorem expected_digest_signed (signed : D.digest claims "request_digest" ≠ "") :
    D.expected_digest result claims = D.digest claims "request_digest" := by
  simp only [Deployment.expected_digest, if_neg signed]

/-- What a required signed decision binds: the request has a digest, the expected digest, where there is one, is the
same, and the reply is refused for every request with another digest. -/
theorem signed_decision_binds (D : Deployment) (required : D.require_signed_decision = true)
    (result payload : Entries) (accepted : (D.bind_signed_decision result payload).Returns) :
    ∃ claims local_digest, D.claims result = some claims ∧ D.compute_request_digest payload = .ok local_digest ∧
      (D.expected_digest result claims = "" ∨ D.expected_digest result claims = local_digest) ∧
      (D.digest claims "request_digest" ≠ "" → D.digest claims "request_digest" = local_digest) ∧
      (D.expected_digest result claims ≠ "" → ∀ other : Entries,
        D.compute_request_digest other ≠ D.compute_request_digest payload →
          ¬ (D.bind_signed_decision result other).Returns) := by
  obtain ⟨claims, local_digest, verified, binds⟩ := accepted_binds required accepted
  have expected : ∀ request digest, D.Binds result request claims digest → D.expected_digest result claims ≠ "" →
      D.expected_digest result claims = digest := by
    intro request digest binds given
    rcases binds.expected with absent | ⟨_, same⟩
    · exact absurd absent given
    · exact same.symm
  refine ⟨claims, local_digest, verified, binds.computed, ?_, fun signed => ?_, fun given other differs again => ?_⟩
  · by_cases given : D.expected_digest result claims = ""
    · exact Or.inl given
    · exact Or.inr (expected payload local_digest binds given)
  · rw [← @expected_digest_signed D result claims signed]
    refine expected payload local_digest binds ?_
    rw [expected_digest_signed signed]
    exact signed
  · obtain ⟨claims', digest', verified', binds'⟩ := accepted_binds required again
    obtain rfl : claims' = claims := Option.some.inj (verified'.symm.trans verified)
    have same : digest' = local_digest :=
      (expected other digest' binds' given).symm.trans (expected payload local_digest binds given)
    rw [binds'.computed, binds.computed, same] at differs
    exact differs rfl

/-- A deployment which requires signatures and knows two tokens: `bound` carries the digest of the
requests of subject `alice`, `loose` carries none. -/
def signedDeployment : Deployment :=
  { unsignedDeployment with
    require_signed_decision := true
    verify_decision_token := fun token =>
      if token = "bound" then .ok [(.str "request_digest", .str "sha256:d-alice")]
      else if token = "loose" then .ok [] else .error ⟨.valueError, "invalid token"⟩
    compute_request_digest := fun payload => .ok ("d-" ++ asciiText.given payload "subject") }

def replyWith (token : String) : Entries := [(.str "final_verdict", .str "allow"), (.str "decision_token", .str token)]

def requestOf (subject : String) : Entries := [(.str "subject", .str subject)]

theorem signed_decision_binds_alice :
    ¬ (signedDeployment.bind_signed_decision (replyWith "bound") (requestOf "bob")).Returns := by
  have accepted : (signedDeployment.bind_signed_decision (replyWith "bound") (requestOf "alice")).Returns := ⟨_, rfl⟩
  obtain ⟨claims, _, verified, _, _, _, refused⟩ := signed_decision_binds signedDeployment rfl _ _ accepted
  obtain rfl : claims = [(.str "request_digest", .str "sha256:d-alice")] := (Option.some.inj verified).symm
  have differs : signedDeployment.compute_request_digest (requestOf "bob") ≠
      signedDeployment.compute_request_digest (requestOf "alice") := by
    intro same
    exact absurd (Except.ok.inj same) (by decide)
  exact refused (by decide) (requestOf "bob") differs

/-- A token without a digest is accepted for every request. -/
theorem loose_claims_bind_nothing : signedDeployment.require_signed_decision = true ∧
    ¬ signedDeployment.ClaimsBindRequest ∧
    ∀ subject ∈ ["alice", "bob"],
      (signedDeployment.bind_signed_decision (replyWith "loose") (requestOf subject)).Returns := by
  have accepted : ∀ subject ∈ ["alice", "bob"],
      (signedDeployment.bind_signed_decision (replyWith "loose") (requestOf subject)).Returns := by
    intro subject listed
    simp only [List.mem_cons, List.not_mem_nil, or_false] at listed
    rcases listed with rfl | rfl
    · exact ⟨_, rfl⟩
    · exact ⟨_, rfl⟩
  refine ⟨rfl, fun bind => ?_, accepted⟩
  obtain ⟨claims, verified, digest⟩ := bind _ _ (accepted "alice" List.mem_cons_self)
  obtain rfl : claims = [] := (Option.some.inj verified).symm
  exact absurd (Except.ok.inj digest) (by decide)

end RuntimePlatform.Governance
