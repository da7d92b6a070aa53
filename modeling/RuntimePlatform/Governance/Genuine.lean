import RuntimePlatform.Governance.Binding

/-!
Which genuine decisions are accepted, and how the others are refused. The texts are compared by
`hmac.compare_digest`, which takes ASCII text only, and not every payload has a digest; what is raised there is no HTTP
error.
-/

namespace RuntimePlatform.Governance
open Python Except

/-- The program raises HTTP errors only. -/
def Handled {α : Type} (x : Except Raised α) : Prop := ∀ e, x = .error e → ∃ h, e = .http h

/-- `compare_digest` can compare the texts, or does not come to it. -/
def Comparable (a b : String) : Prop := a = "" ∨ b = "" ∨ isAscii a = true ∧ isAscii b = true

/-- Comparisons one after the other, while they match, and then the rest. -/
def Sequential : List (String × String) → Prop → Prop
  | [], rest => rest
  | (a, b) :: pairs, rest => Comparable a b ∧ (Matching a b → Sequential pairs rest)

variable (D : Deployment)

/-- The comparisons of `_compare_optional` with the local request. -/
def Deployment.localPairs (claims payload : Entries) : List (String × String) :=
  [(D.token_tenant claims, D.expected_tenant payload), (D.field claims "subject", D.field payload "subject"),
    (D.field claims "model", D.field payload "model")]

/-- Those of the digests with the reply. -/
def Deployment.digestPairs (result claims : Entries) : List (String × String) :=
  [(D.digest claims "request_digest", D.digest result "request_digest"),
    (D.digest claims "policy_digest", D.digest result "policy_digest")]

/-- The replay store answers, and the lifetime of its entry is a number. -/
def Deployment.StoreAnswers (result claims payload : Entries) (local_digest : String) : Prop :=
  ∀ consume, D.replay_store = some consume → ∃ ttl, D.replay_ttl claims = .ok ttl ∧
    (consume (D.derive_jti claims (D.text.str (result.orNone "decision_token")))
      (if D.token_tenant claims = "" then D.expected_tenant payload else D.token_tenant claims)
      (if D.digest claims "request_digest" = "" then local_digest else D.digest claims "request_digest") ttl).Returns

/-- The payload has a digest. It and the expected one are comparable, and so is what comes behind if they are the
same. -/
def Deployment.LocalCompared (result claims payload : Entries) : Prop :=
  let expected := D.expected_digest result claims
  ∃ local_digest, D.compute_request_digest payload = .ok local_digest ∧
    (expected = "" ∨ isAscii local_digest = true ∧ isAscii expected = true) ∧
    (expected = "" ∨ local_digest = expected →
      Sequential (D.localPairs claims payload) (D.StoreAnswers result claims payload local_digest))

/-- Every comparison which is reached is of ASCII texts, the local digest can be computed, and the replay store
answers. -/
def Deployment.Compared (result claims payload : Entries) : Prop :=
  Compatible (D.verdict claims "verdict") (D.verdict result "final_verdict") →
    Compatible (D.field claims "decision_id") (D.field result "decision_id") →
      Sequential (D.digestPairs result claims) (D.LocalCompared result claims payload)

/-- The claims which are there are those of the reply and of the local request. -/
structure Deployment.Genuine (result claims payload : Entries) : Prop where
  verdict : D.verdict claims "verdict" = "" ∨ D.verdict claims "verdict" = D.verdict result "final_verdict"
  decision : D.field claims "decision_id" = "" ∨ D.field claims "decision_id" = D.field result "decision_id"
  request_digest : D.digest claims "request_digest" = "" ∨
    D.compute_request_digest payload = .ok (D.digest claims "request_digest") ∧
      Compatible (D.digest claims "request_digest") (D.digest result "request_digest")
  policy_digest : D.digest claims "policy_digest" = "" ∨
    D.digest claims "policy_digest" = D.digest result "policy_digest"
  tenant : D.token_tenant claims = "" ∨ D.token_tenant claims = D.expected_tenant payload
  subject : D.field claims "subject" = "" ∨ D.field claims "subject" = D.field payload "subject"
  model : D.field claims "model" = "" ∨ D.field claims "model" = D.field payload "model"

/-- The replay store takes the token's id. -/
def Deployment.Unused (result claims : Entries) : Prop :=
  ∀ consume, D.replay_store = some consume → ∀ tenant digest ttl,
    consume (D.derive_jti claims (D.text.str (result.orNone "decision_token"))) tenant digest ttl = .ok true

/-- A token which fails to verify is refused, unless the request is cancelled; and what is compared of one which
verifies is ASCII text. A reply whose token has no digest has the local one, or none. -/
def Deployment.Comparisons (result payload : Entries) : Prop :=
  (result.orNone "decision_token").truthy = true →
    (∀ e, D.verify_decision_token (D.text.str (result.orNone "decision_token")) = .error e → e.isException = true) ∧
    ∀ claims, D.claims result = some claims → D.Compared result claims payload ∧
      (D.Genuine result claims payload → D.Unused result claims → D.digest claims "request_digest" = "" →
        D.digest result "request_digest" = "" ∨
          D.compute_request_digest payload = .ok (D.digest result "request_digest"))

variable {D} {α β : Type} {result claims payload : Entries} {local_digest : String}

theorem handled_ok (a : α) : Handled (.ok a) := fun _ raised => nomatch raised

theorem handled_http (h : HTTPException) : Handled (.error (.http h) : Except Raised α) := by
  intro e raised
  cases raised
  exact ⟨h, rfl⟩

theorem not_handled_error (e : Python.Error) : ¬ Handled (.error (.error e) : Except Raised α) := by
  intro handled
  obtain ⟨h, same⟩ := handled _ rfl
  cases same

theorem handled_bind {x : Except Raised α} {f : α → Except Raised β} :
    Handled (x >>= f) ↔ Handled x ∧ ∀ a, x = .ok a → Handled (f a) := by
  cases x with
  | ok a =>
      refine ⟨fun handled => ⟨handled_ok a, fun a' same => ?_⟩, fun both => both.2 a rfl⟩
      obtain rfl := Except.ok.inj same
      exact handled
  | error e =>
      have raised : Handled (.error e : Except Raised β) ↔ Handled (.error e : Except Raised α) := by
        unfold Handled
        simp only [Except.error.injEq]
      exact ⟨fun handled => ⟨raised.mp handled, fun _ none => nomatch none⟩, fun both => raised.mpr both.1⟩

/-- A refusal is an HTTP error. -/
theorem handled_raiseIf {c : Prop} [Decidable c] (status : ℕ) (code message : String) (reason : Option String)
    (f : Unit → Except Raised β) :
    Handled (raiseIf c (D.refuse status code message result reason) >>= f) ↔ (¬ c → Handled (f ())) := by
  by_cases refused : c
  · have raised : raiseIf c (D.refuse status code message result reason) =
      .error (.http ⟨status, governance_detail D.text code message result none reason, []⟩) := if_pos refused
    rw [raised]
    exact iff_of_true (handled_http _) fun kept => absurd refused kept
  · have passed : raiseIf c (D.refuse status code message result reason) = .ok () := if_neg refused
    rw [passed]
    exact ⟨fun handled _ => handled, fun handled => handled refused⟩

theorem handled_demand {a b : String} (status : ℕ) (code message : String) (reason : Option String)
    (f : Unit → Except Raised β) :
    Handled ((compare_digest a b >>= fun same =>
        raiseIf (same = false) (D.refuse status code message result reason)) >>= f) ↔
      (isAscii a = true ∧ isAscii b = true) ∧ (a = b → Handled (f ())) := by
  unfold compare_digest
  by_cases ascii : isAscii a = true ∧ isAscii b = true
  · rw [if_pos ascii, bind_ok, handled_raiseIf, and_iff_right ascii]
    rw [decide_eq_false_iff_not, not_not]
  · rw [if_neg ascii]
    exact iff_of_false (not_handled_error _) fun both => ascii both.1

theorem handled_compare_optional {a b : String} (status : ℕ) (code message : String) (reason : Option String)
    (f : Unit → Except Raised β) :
    Handled (compare_optional a b (D.refuse status code message result reason) >>= f) ↔
      Comparable a b ∧ (Matching a b → Handled (f ())) := by
  unfold compare_optional Comparable Matching
  by_cases absent : a = "" ∨ b = ""
  · rw [if_pos absent, bind_ok]
    exact ⟨fun handled => ⟨absent.imp_right Or.inl, fun _ => handled⟩, fun both => both.2 (absent.imp_right Or.inl)⟩
  · rw [if_neg absent, handled_demand, ← or_assoc, ← or_assoc, or_iff_right absent, or_iff_right absent]
    exact and_congr_right fun ascii => imp_congr_left ⟨fun same => ⟨ascii.1, same⟩, fun both => both.2⟩

/-- What a callee raises is no HTTP error. -/
theorem handled_mapError {x : Except Python.Error α} (f : α → Except Raised β) :
    Handled (x.mapError Raised.error >>= f) ↔ ∃ a, x = .ok a ∧ Handled (f a) := by
  cases x with
  | ok a => exact ⟨fun handled => ⟨a, rfl, handled⟩, fun ⟨a', same, handled⟩ => by cases same; exact handled⟩
  | error e => exact iff_of_false (not_handled_error e) fun returned => nomatch returned.choose_spec.1

theorem handled_compare_local (f : Unit → Except Raised β) :
    Handled (D.compare_local result claims local_digest >>= f) ↔
      (D.expected_digest result claims = "" ∨
        isAscii local_digest = true ∧ isAscii (D.expected_digest result claims) = true) ∧
      (D.expected_digest result claims = "" ∨ local_digest = D.expected_digest result claims → Handled (f ())) := by
  simp only [Deployment.compare_local]
  by_cases absent : D.expected_digest result claims = ""
  · rw [if_pos absent, bind_ok]
    exact ⟨fun handled => ⟨Or.inl absent, fun _ => handled⟩, fun both => both.2 (Or.inl absent)⟩
  · rw [if_neg absent, handled_demand, or_iff_right absent, or_iff_right absent]

theorem handled_replay_ttl : Handled (D.replay_ttl claims) ↔ (D.replay_ttl claims).Returns := by
  unfold Deployment.replay_ttl
  split
  · exact iff_of_true (handled_ok _) (returns_ok _)
  · split
    · exact iff_of_true (handled_ok _) (returns_ok _)
    · split
      · exact iff_of_true (handled_ok _) (returns_ok _)
      · exact iff_of_false (not_handled_error _) (returns_error _)

theorem handled_consume (f : Entries) :
    Handled (D.consume result claims payload local_digest >>= fun _ => .ok f) ↔
      D.StoreAnswers result claims payload local_digest := by
  rw [handled_bind, and_iff_left fun _ _ => handled_ok _]
  unfold Deployment.StoreAnswers
  simp only [Deployment.consume]
  cases D.replay_store with
  | none =>
      refine iff_of_true (handled_ok _) fun _ none => ?_
      cases none
  | some consume =>
      dsimp only
      rw [handled_bind, handled_replay_ttl]
      constructor
      · rintro ⟨⟨ttl, lives⟩, answers⟩ other same
        obtain rfl := Option.some.inj same
        refine ⟨ttl, lives, ?_⟩
        have handled := answers ttl lives
        revert handled
        split
        · exact fun handled => absurd handled (not_handled_error _)
        · next answered => exact fun _ => ⟨_, answered⟩
      · intro answers
        obtain ⟨ttl, lives, b, answered⟩ := answers consume rfl
        refine ⟨⟨ttl, lives⟩, fun ttl' same => ?_⟩
        obtain rfl : ttl' = ttl := Except.ok.inj (same.symm.trans lives)
        rw [answered]
        dsimp only
        unfold raiseIf
        split
        · exact handled_http _
        · exact handled_ok _

/-- Binding raises HTTP errors only just when its comparisons can be made. -/
theorem handled_bind_signed_decision : Handled (D.bind_signed_decision result payload) ↔
    ((result.orNone "decision_token").truthy = true →
      (∀ e, D.verify_decision_token (D.text.str (result.orNone "decision_token")) = .error e → e.isException = true) ∧
      ∀ claims, D.claims result = some claims → D.Compared result claims payload) := by
  unfold Deployment.bind_signed_decision
  by_cases present : (result.orNone "decision_token").truthy = true
  · rw [if_pos present, handled_bind, imp_iff_right present]
    refine and_congr ?_ (forall_congr' fun claims => imp_congr (verified_eq_ok present) ?_)
    · unfold Deployment.verified
      cases D.verify_decision_token (D.text.str (result.orNone "decision_token")) with
      | ok claims => exact iff_of_true (handled_ok _) fun _ none => nomatch none
      | error e =>
          dsimp only
          by_cases caught : e.isException = true
          · rw [if_pos caught]
            refine iff_of_true (handled_http _) fun e' same => ?_
            cases same
            exact caught
          · rw [if_neg caught]
            exact iff_of_false (not_handled_error _) fun all => caught (all e rfl)
    · simp only [handled_raiseIf, differ_iff, handled_compare_optional, handled_mapError, handled_compare_local,
        handled_consume]
      rfl
  · rw [if_neg present]
    refine iff_of_true ?_ fun absurd_ => absurd absurd_ present
    rw [handled_raiseIf]
    exact fun _ => handled_ok _

/-- Only a token has claims. -/
theorem token_present (verified : D.claims result = some claims) :
    (result.orNone "decision_token").truthy = true := by
  by_contra absent
  unfold Deployment.claims at verified
  rw [if_neg absent] at verified
  cases verified

theorem matching_of_comparable {a b : String} (comparable : Comparable a b) (compatible : Compatible a b) :
    Matching a b := by
  rcases comparable with absent | absent | ascii
  · exact Or.inl absent
  · exact Or.inr (Or.inl absent)
  · exact compatible.imp_right (Or.imp_right fun same => ⟨ascii.1, same⟩)

theorem compatible_of_same {a b : String} (genuine : a = "" ∨ a = b) : Compatible a b := genuine.imp_right Or.inr

/-- Comparisons which are made, and match, lead to the rest. -/
theorem Sequential.rest {pairs : List (String × String)} {rest : Prop} (made : Sequential pairs rest)
    (compatible : ∀ pair ∈ pairs, Compatible pair.1 pair.2) :
    (∀ pair ∈ pairs, Matching pair.1 pair.2) ∧ rest := by
  induction pairs with
  | nil => exact ⟨fun _ none => (nomatch none), made⟩
  | cons pair pairs ih =>
      obtain ⟨comparable, onwards⟩ := made
      have first := matching_of_comparable comparable (compatible pair List.mem_cons_self)
      obtain ⟨matching, after⟩ := ih (onwards first) fun other listed =>
        compatible other (List.mem_cons_of_mem _ listed)
      exact ⟨List.forall_mem_cons.mpr ⟨first, matching⟩, after⟩

theorem Deployment.Genuine.digests (genuine : D.Genuine result claims payload) :
    ∀ pair ∈ D.digestPairs result claims, Compatible pair.1 pair.2 :=
  List.forall_mem_cons.mpr ⟨genuine.request_digest.elim Or.inl And.right,
    List.forall_mem_singleton.mpr (compatible_of_same genuine.policy_digest)⟩

theorem Deployment.Genuine.locals (genuine : D.Genuine result claims payload) :
    ∀ pair ∈ D.localPairs claims payload, Compatible pair.1 pair.2 :=
  List.forall_mem_cons.mpr ⟨compatible_of_same genuine.tenant, List.forall_mem_cons.mpr
    ⟨compatible_of_same genuine.subject, List.forall_mem_singleton.mpr (compatible_of_same genuine.model)⟩⟩

/-- The expected digest is the local one: the token's is, and the reply's is asked to be. -/
theorem Deployment.Genuine.expected (genuine : D.Genuine result claims payload)
    (computed : D.compute_request_digest payload = .ok local_digest)
    (unsigned : D.digest claims "request_digest" = "" → D.digest result "request_digest" = "" ∨
      D.compute_request_digest payload = .ok (D.digest result "request_digest")) :
    D.expected_digest result claims = "" ∨ local_digest = D.expected_digest result claims := by
  by_cases signed : D.digest claims "request_digest" = ""
  · simp only [Deployment.expected_digest, if_pos signed]
    exact (unsigned signed).imp_right fun same => Except.ok.inj (computed.symm.trans same)
  · rw [expected_digest_signed signed]
    exact genuine.request_digest.imp_right fun same => Except.ok.inj (computed.symm.trans same.1)

/-- An entry whose id is unused is taken. -/
theorem consume_unused_returns (unused : D.Unused result claims)
    (answers : D.StoreAnswers result claims payload local_digest) :
    (D.consume result claims payload local_digest).Returns := by
  simp only [Deployment.consume]
  cases present : D.replay_store with
  | none => exact returns_ok _
  | some consume =>
      obtain ⟨ttl, lives, _⟩ := answers consume present
      dsimp only
      rw [lives, bind_ok, unused consume present]
      exact returns_ok _

/-- Genuine claims which are comparable pass every comparison. -/
theorem genuine_returns (verified : D.claims result = some claims) (genuine : D.Genuine result claims payload)
    (unused : D.Unused result claims) (compared : D.Compared result claims payload)
    (unsigned : D.digest claims "request_digest" = "" → D.digest result "request_digest" = "" ∨
      D.compute_request_digest payload = .ok (D.digest result "request_digest")) :
    (D.bind_signed_decision result payload).Returns := by
  have verdict := compatible_of_same genuine.verdict
  have decision := compatible_of_same genuine.decision
  obtain ⟨digests, digest, computed, here, onwards⟩ := (compared verdict decision).rest genuine.digests
  have expected := genuine.expected computed unsigned
  obtain ⟨locals, answers⟩ := (onwards expected).rest genuine.locals
  have matched : D.expected_digest result claims = "" ∨
      isAscii digest = true ∧ digest = D.expected_digest result claims :=
    here.elim Or.inl fun ascii => expected.imp_right fun same => ⟨ascii.1, same⟩
  have present := token_present verified
  refine ⟨_, bind_signed_decision_eq_ok.mpr ⟨?_, rfl⟩⟩
  unfold Deployment.Accepts
  rw [if_pos present]
  rw [Deployment.digestPairs, List.forall_mem_cons, List.forall_mem_singleton] at digests
  rw [Deployment.localPairs, List.forall_mem_cons, List.forall_mem_cons, List.forall_mem_singleton] at locals
  exact ⟨claims, digest, verified, verdict, decision, digests.1, digests.2, computed, matched, locals.1, locals.2.1,
    locals.2.2, consume_unused_returns unused answers⟩

/-- Where binding returns, a digest of the reply which stands in for the token's is the local one. -/
theorem returns_unsigned (verified : D.claims result = some claims)
    (returned : (D.bind_signed_decision result payload).Returns) (signed : D.digest claims "request_digest" = "") :
    D.digest result "request_digest" = "" ∨
      D.compute_request_digest payload = .ok (D.digest result "request_digest") := by
  obtain ⟨bound, returned⟩ := returned
  obtain ⟨accepts, _⟩ := bind_signed_decision_eq_ok.mp returned
  unfold Deployment.Accepts at accepts
  rw [if_pos (token_present verified)] at accepts
  obtain ⟨claims', digest, verified', binds⟩ := accepts
  obtain rfl : claims' = claims := Option.some.inj (verified'.symm.trans verified)
  have expected := binds.expected
  simp only [Deployment.expected_digest, if_pos signed] at expected
  rcases expected with absent | ⟨_, same⟩
  · exact Or.inl absent
  · exact Or.inr (same ▸ binds.computed)

/-- Binding accepts every genuine decision, and refuses with HTTP errors only. -/
def Deployment.AcceptsGenuine (D : Deployment) (result payload : Entries) : Prop :=
  (∀ claims, D.claims result = some claims → D.Genuine result claims payload → D.Unused result claims →
    (D.bind_signed_decision result payload).Returns) ∧ Handled (D.bind_signed_decision result payload)

/-- It does so exactly when it can compute the digest and make its comparisons. -/
theorem accepts_genuine_iff (D : Deployment) (result payload : Entries) :
    D.AcceptsGenuine result payload ↔ D.Comparisons result payload := by
  unfold Deployment.AcceptsGenuine Deployment.Comparisons
  rw [handled_bind_signed_decision]
  constructor
  · rintro ⟨accepts, handled⟩ present
    obtain ⟨caught, compared⟩ := handled present
    refine ⟨caught, fun claims verified => ⟨compared claims verified, fun genuine unused signed => ?_⟩⟩
    exact returns_unsigned verified (accepts claims verified genuine unused) signed
  · intro comparisons
    refine ⟨fun claims verified genuine unused => ?_, fun present => ?_⟩
    · obtain ⟨compared, unsigned⟩ := (comparisons (token_present verified)).2 claims verified
      exact genuine_returns verified genuine unused compared (unsigned genuine unused)
    · obtain ⟨caught, all⟩ := comparisons present
      exact ⟨caught, fun claims verified => (all claims verified).1⟩

/-- A deployment whose Control Plane signs the tenant it was told. -/
def tenantDeployment (tenant : String) : Deployment :=
  { unsignedDeployment with verify_decision_token := fun _ => .ok [(.str "tenant", .str tenant)] }

/-- It meets a payload whose groups are a number, which has no digest. -/
def undigestedDeployment : Deployment :=
  { tenantDeployment "acme" with
    compute_request_digest := fun _ => .error ⟨.typeError, "'int' object is not iterable"⟩ }

/-- A token of the tenant `équipe`, for a request of that tenant, raises a `TypeError`; and so does any token for a
payload which has no digest. -/
theorem genuine_refused :
    ¬ (tenantDeployment "équipe").AcceptsGenuine (replyWith "bound") [(.str "tenant_id", .str "équipe")] ∧
      ¬ undigestedDeployment.AcceptsGenuine (replyWith "bound") [(.str "groups", .int 5)] := by
  constructor
  · intro accepts
    exact not_handled_error _ accepts.2
  · intro accepts
    exact not_handled_error _ accepts.2

end RuntimePlatform.Governance
