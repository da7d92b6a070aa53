import RuntimePlatform.Governance.Binding
import RuntimePlatform.Lib.Redis

/-!
The single use of a decision token. A request verifies the token, reads the clock for the
lifetime of the replay entry, and consumes the token's id, each at its own time; the two
stores of `decision_replay.py` are the in-process dict and Redis with `SET NX EX`.
-/

namespace RuntimePlatform.Governance
open Python Except Redis

/-! The two stores. -/

def binding_value (tenant request_digest : String) : String := tenant ++ "|" ++ request_digest

/-- A replay store: `consume(jti, tenant, request_digest, ttl_seconds)` at a clock reading in seconds. -/
structure ReplayBackend (S : Type) where
  empty : S
  consume : ℚ → String → String → String → ℤ → S → Bool × S

/-- `_entries`: the binding, and when it ends. -/
abbrev InMemoryEntries := Dict String (String × ℚ)

def InMemoryDecisionReplayStore.consume (now : ℚ) (jti tenant request_digest : String) (ttl_seconds : ℤ)
    (entries : InMemoryEntries) : Bool × InMemoryEntries :=
  let entries := entries.filter fun _ e => !decide (e.2 ≤ now)
  match entries.lookup jti with
  | some _ => (false, entries)
  | none => (true, entries.insert jti (binding_value tenant request_digest, now + (max 1 ttl_seconds : ℤ)))

def InMemoryDecisionReplayStore : ReplayBackend InMemoryEntries := ⟨∅, InMemoryDecisionReplayStore.consume⟩

def REDIS_KEY_PREFIX : String := "arp:decision:jti:"

/-- `SET key value NX EX seconds`, at the server's clock in milliseconds. -/
def setNxEx (now : ℤ) (value : String) (seconds : ℤ) (k : Key (Option String)) : Bool × Key (Option String) :=
  match (k.evict now).value with
  | some _ => (false, k.evict now)
  | none => (true, ⟨some value, some (now + seconds * 1000)⟩)

abbrev ReplayKeys := String → Key (Option String)

def RedisDecisionReplayStore.consume (now : ℚ) (jti tenant request_digest : String) (ttl_seconds : ℤ)
    (keys : ReplayKeys) : Bool × ReplayKeys :=
  let key := REDIS_KEY_PREFIX ++ jti
  let (created, entry) := setNxEx ⌊1000 * now⌋ (binding_value tenant request_digest) (max 1 ttl_seconds) (keys key)
  (created, Function.update keys key entry)

def RedisDecisionReplayStore : ReplayBackend ReplayKeys := ⟨fun _ => Key.missing, RedisDecisionReplayStore.consume⟩

/-! What both stores are: a set of used ids, each of which lasts for its lifetime. -/

/-- A store which accepts an id that is not live and makes it live for a while. -/
structure SingleUse {S : Type} (B : ReplayBackend S) where
  Live : S → String → ℚ → Prop
  /-- An entry written at the first reading, with this lifetime, is there at the second. -/
  lasts : ℚ → ℤ → ℚ → Prop
  fades : ∀ {now ttl t t'}, lasts now ttl t → t' ≤ t → lasts now ttl t'
  empty : ∀ jti t, ¬ Live B.empty jti t
  accepts : ∀ now jti tenant digest ttl s, (B.consume now jti tenant digest ttl s).1 = true ↔ ¬ Live s jti now
  after : ∀ now jti tenant digest ttl s t, now ≤ t → (Live (B.consume now jti tenant digest ttl s).2 jti t ↔
    Live s jti t ∨ (B.consume now jti tenant digest ttl s).1 = true ∧ lasts now ttl t)

def InMemoryDecisionReplayStore.singleUse : SingleUse InMemoryDecisionReplayStore where
  Live entries jti t := ∃ e, entries.lookup jti = some e ∧ t < e.2
  lasts now ttl t := t < now + (max 1 ttl : ℤ)
  fades later earlier := lt_of_le_of_lt earlier later
  empty jti t live := by
    obtain ⟨e, found, _⟩ := live
    cases found
  accepts now jti tenant digest ttl entries := by
    change (InMemoryDecisionReplayStore.consume now jti tenant digest ttl entries).1 = true ↔ _
    unfold InMemoryDecisionReplayStore.consume
    have kept : (∃ e, (entries.filter fun _ e => !decide (e.2 ≤ now)).lookup jti = some e) ↔
        ∃ e, entries.lookup jti = some e ∧ now < e.2 := by
      simp only [AList.lookup_filter_eq_some, Bool.not_eq_true', decide_eq_false_iff_not, not_le]
    rw [← kept]
    dsimp only
    cases (entries.filter fun _ e => !decide (e.2 ≤ now)).lookup jti with
    | none => exact iff_of_true rfl fun bad => nomatch bad
    | some e => exact iff_of_false Bool.false_ne_true fun none => none ⟨e, rfl⟩
  after now jti tenant digest ttl entries t le := by
    change (∃ e, (InMemoryDecisionReplayStore.consume now jti tenant digest ttl entries).2.lookup jti = some e ∧
      t < e.2) ↔ _ ∨ (InMemoryDecisionReplayStore.consume now jti tenant digest ttl entries).1 = true ∧ _
    unfold InMemoryDecisionReplayStore.consume
    -- what the purge drops has ended by then
    have kept : (∃ e, (entries.filter fun _ e => !decide (e.2 ≤ now)).lookup jti = some e ∧ t < e.2) ↔
        ∃ e, entries.lookup jti = some e ∧ t < e.2 := by
      refine exists_congr fun e => ?_
      rw [AList.lookup_filter_eq_some, Bool.not_eq_true', decide_eq_false_iff_not, not_le]
      exact ⟨fun h => ⟨h.1.1, h.2⟩, fun h => ⟨⟨h.1, lt_of_le_of_lt le h.2⟩, h.2⟩⟩
    dsimp only
    rw [← kept]
    cases found : (entries.filter fun _ e => !decide (e.2 ≤ now)).lookup jti with
    | some e => simp only [found, Bool.false_eq_true, false_and, or_false]
    | none => simp only [AList.lookup_insert, Option.some.injEq, exists_eq_left', reduceCtorEq, false_and,
        exists_false, true_and, false_or]

theorem setNxEx_created (now : ℤ) (value : String) (seconds : ℤ) (k : Key (Option String)) :
    (setNxEx now value seconds k).1 = true ↔ (k.evict now).value = none := by
  unfold setNxEx
  cases (k.evict now).value with
  | none => exact iff_of_true rfl rfl
  | some v => exact iff_of_false Bool.false_ne_true fun bad => nomatch bad

/-- An existing entry stays until its deadline; a new one is there up to its own. -/
theorem setNxEx_after {now t : ℤ} (le : now ≤ t) (value : String) (seconds : ℤ) (k : Key (Option String)) :
    ((setNxEx now value seconds k).2.evict t).value ≠ none ↔ (k.evict t).value ≠ none ∨
      (setNxEx now value seconds k).1 = true ∧ t ≤ now + seconds * 1000 := by
  have gone : (k.evict now).value = none → (k.evict t).value = none := by
    intro none
    by_cases due : k.expired t
    · rw [Key.evict_of due]
      rfl
    · have early : ¬ k.expired now := by
        intro due'
        obtain ⟨d, deadline, passed⟩ := due'
        exact due ⟨d, deadline, lt_of_lt_of_le passed le⟩
      rw [Key.evict_of_not due]
      rw [Key.evict_of_not early] at none
      exact none
  unfold setNxEx
  cases found : (k.evict now).value with
  | some v =>
      have early : ¬ k.expired now := by
        intro due
        rw [Key.evict_of due] at found
        cases found
      dsimp only
      rw [Key.evict_of_not early]
      simp only [Bool.false_eq_true, false_and, or_false]
  | none =>
      dsimp only
      rw [gone found]
      simp only [ne_eq, not_true_eq_false, true_and, false_or]
      by_cases due : (⟨some value, some (now + seconds * 1000)⟩ : Key (Option String)).expired t
      · rw [Key.evict_of due]
        obtain ⟨d, deadline, passed⟩ := due
        obtain rfl := Option.some.inj deadline
        exact iff_of_false (fun bad => bad rfl) (not_le.mpr passed)
      · rw [Key.evict_of_not due]
        refine iff_of_true (fun bad => nomatch bad) (not_lt.mp fun passed => ?_)
        exact due ⟨_, rfl, passed⟩

def RedisDecisionReplayStore.singleUse : SingleUse RedisDecisionReplayStore where
  Live keys jti t := ((keys (REDIS_KEY_PREFIX ++ jti)).evict ⌊1000 * t⌋).value ≠ none
  lasts now ttl t := ⌊1000 * t⌋ ≤ ⌊1000 * now⌋ + max 1 ttl * 1000
  fades later earlier := (Int.floor_le_floor (mul_le_mul_of_nonneg_left earlier (by norm_num))).trans later
  empty jti t live := by
    change ((Key.missing : Key (Option String)).evict ⌊1000 * t⌋).value ≠ none at live
    rw [Key.evict_missing] at live
    exact live rfl
  accepts now jti tenant digest ttl keys := by
    change (setNxEx ⌊1000 * now⌋ _ _ (keys (REDIS_KEY_PREFIX ++ jti))).1 = true ↔ _
    rw [setNxEx_created, not_not]
  after now jti tenant digest ttl keys t le := by
    change (((Function.update keys (REDIS_KEY_PREFIX ++ jti) (setNxEx ⌊1000 * now⌋ _ _ _).2)
      (REDIS_KEY_PREFIX ++ jti)).evict ⌊1000 * t⌋).value ≠ none ↔ _ ∨ (setNxEx ⌊1000 * now⌋ _ _ _).1 = true ∧ _
    rw [Function.update_self]
    exact setNxEx_after (Int.floor_le_floor (mul_le_mul_of_nonneg_left le (by norm_num))) _ _ _

/-! Requests which present a token, each with its own clock readings. -/

structure Attempt where
  result : Entries
  payload : Entries
  verified_at : ℚ
  read_at : ℚ
  consumed_at : ℚ

/-- Verification at a clock reading: the checks of the JWS library, with `exp` after the reading. -/
def Deployment.verifyAt (D : Deployment) (clock : ℚ) (token : String) : Except Python.Error Entries := do
  let claims ← D.verify_decision_token token
  let exp ← D.text.int (claims.orNone "exp")
  if exp ≤ clock then .error ⟨.other, "Signature has expired"⟩ else .ok claims

/-- The process as the attempt finds it, with what its store answers. -/
def Deployment.during (D : Deployment) (a : Attempt)
    (replay_store : Option (String → String → String → ℤ → Except Python.Error Bool)) : Deployment :=
  { D with verify_decision_token := D.verifyAt a.verified_at, time := ⌊a.read_at⌋, replay_store := replay_store }

/-- `text or default` -/
def orDefault (text default : String) : String := if text = "" then default else text

/-- What is handed to `consume` for verified claims. -/
def Deployment.handed (D : Deployment) (a : Attempt) (claims : Entries) (local_digest : String) (ttl : ℤ) :
    String × String × String × ℤ :=
  (D.derive_jti claims (D.text.str (a.result.orNone "decision_token")),
    orDefault (D.token_tenant claims) (D.expected_tenant a.payload),
    orDefault (D.digest claims "request_digest") local_digest, ttl)

/-- What the attempt hands to `consume`, when the checks before it pass. -/
def Deployment.consumption (D : Deployment) (a : Attempt) : Option (String × String × String × ℤ) :=
  let D := D.during a none
  match D.bind_signed_decision a.result a.payload, D.claims a.result, D.compute_request_digest a.payload with
  | .ok _, some claims, .ok local_digest =>
    (D.replay_ttl claims).toOption.map (D.handed a claims local_digest)
  | _, _, _ => none

section Attempts
variable {S : Type} (B : ReplayBackend S) (D : Deployment)

/-- Whether the attempt is accepted, and the store after it. -/
def ReplayBackend.present (s : S) (a : Attempt) : Bool × S :=
  (((D.during a (some fun jti tenant digest ttl =>
      .ok (B.consume a.consumed_at jti tenant digest ttl s).1)).bind_signed_decision a.result a.payload).isOk,
    match D.consumption a with
    | some (jti, tenant, digest, ttl) => (B.consume a.consumed_at jti tenant digest ttl s).2
    | none => s)

/-- How many of the attempts are accepted. -/
def ReplayBackend.accepted : S → List Attempt → ℕ
  | _, [] => 0
  | s, a :: later => (B.present D s a).1.toNat + ReplayBackend.accepted (B.present D s a).2 later

end Attempts

/-- The reply carries this token. -/
def Deployment.Presents (D : Deployment) (token : String) (a : Attempt) : Prop :=
  (a.result.orNone "decision_token").truthy = true ∧ D.text.str (a.result.orNone "decision_token") = token

section Attempts
variable {S : Type} {B : ReplayBackend S} {D : Deployment} {a : Attempt} {token local_digest : String} {s : S}

variable (store : Option (String → String → String → ℤ → Except Python.Error Bool)) (d : Entries)

theorem during_store : (D.during a store).replay_store = store := rfl

theorem during_text : (D.during a store).text = D.text := rfl

theorem during_field (key : String) : (D.during a store).field d key = D.field d key := rfl

theorem during_digest (key : String) : (D.during a store).digest d key = D.digest d key := rfl

theorem during_token_tenant : (D.during a store).token_tenant d = D.token_tenant d := by
  simp only [Deployment.token_tenant, during_field]

theorem during_expected_tenant : (D.during a store).expected_tenant d = D.expected_tenant d := by
  simp only [Deployment.expected_tenant, during_field]

theorem during_derive_jti (token : String) : (D.during a store).derive_jti d token = D.derive_jti d token := by
  simp only [Deployment.derive_jti, during_field]
  rfl

theorem during_claims : (D.during a store).claims d = (D.during a none).claims d := rfl

theorem during_replay_ttl : (D.during a store).replay_ttl d = (D.during a none).replay_ttl d := rfl

/-- Only the last check looks at the store. -/
theorem binds_during {store : String → String → String → ℤ → Except Python.Error Bool} {claims : Entries} :
    (D.during a (some store)).Binds a.result a.payload claims local_digest ↔
      (D.during a none).Binds a.result a.payload claims local_digest ∧
        ((D.during a (some store)).consume a.result claims a.payload local_digest).Returns := by
  constructor
  · intro binds
    exact ⟨⟨binds.verdict, binds.decision, binds.request_digest, binds.policy_digest, binds.computed, binds.expected,
      binds.tenant, binds.subject, binds.model, ⟨(), rfl⟩⟩, binds.fresh⟩
  · intro both
    obtain ⟨binds, fresh⟩ := both
    exact ⟨binds.verdict, binds.decision, binds.request_digest, binds.policy_digest, binds.computed, binds.expected,
      binds.tenant, binds.subject, binds.model, fresh⟩

theorem isOk_iff_returns {ε α : Type} {x : Except ε α} : x.isOk = true ↔ x.Returns := by
  cases x with
  | ok v => exact iff_of_true rfl ⟨v, rfl⟩
  | error e => exact iff_of_false Bool.false_ne_true fun bad => nomatch bad.choose_spec

theorem bind_returns (E : Deployment) {result payload : Entries}
    (present : (result.orNone "decision_token").truthy = true) :
    (E.bind_signed_decision result payload).Returns ↔ ∃ claims local_digest, E.claims result = some claims ∧
        E.Binds result payload claims local_digest := by
  have accepts : E.Accepts result payload ↔ ∃ claims local_digest, E.claims result = some claims ∧
      E.Binds result payload claims local_digest := by
    unfold Deployment.Accepts
    rw [if_pos present]
  rw [← accepts]
  constructor
  · intro returned
    obtain ⟨bound, returned⟩ := returned
    exact (bind_signed_decision_eq_ok.mp returned).1
  · intro accepted
    exact ⟨_, bind_signed_decision_eq_ok.mpr ⟨accepted, rfl⟩⟩

theorem consumption_eq_some (presents : D.Presents token a) {c : String × String × String × ℤ} :
    D.consumption a = some c ↔ ∃ claims local_digest ttl, (D.during a none).claims a.result = some claims ∧
      (D.during a none).Binds a.result a.payload claims local_digest ∧
      (D.during a none).replay_ttl claims = .ok ttl ∧ c = D.handed a claims local_digest ttl := by
  have returns := @bind_returns (D.during a none) a.result a.payload presents.1
  unfold Deployment.consumption
  dsimp only
  cases bound : (D.during a none).bind_signed_decision a.result a.payload with
  | error e =>
      refine iff_of_false (fun bad => nomatch bad) fun some_ => ?_
      obtain ⟨claims, local_digest, ttl, verified, binds, _⟩ := some_
      obtain ⟨v, returned⟩ := returns.mpr ⟨claims, local_digest, verified, binds⟩
      rw [bound] at returned
      cases returned
  | ok v =>
      obtain ⟨claims, local_digest, verified, binds⟩ := returns.mp ⟨v, bound⟩
      rw [verified, binds.computed]
      dsimp only
      constructor
      · intro handed
        obtain ⟨ttl, known, rfl⟩ := Option.map_eq_some_iff.mp handed
        refine ⟨claims, local_digest, ttl, rfl, binds, ?_, rfl⟩
        cases read : (D.during a none).replay_ttl claims with
        | ok n =>
            rw [read] at known
            cases known
            rfl
        | error e =>
            rw [read] at known
            cases known
      · intro some_
        obtain ⟨claims', digest', ttl, verified', binds', read, rfl⟩ := some_
        obtain rfl := Option.some.inj verified'
        obtain rfl := Except.ok.inj (binds.computed.symm.trans binds'.computed)
        rw [read]
        rfl

/-- The last check, with a store. -/
theorem consume_returns {E : Deployment} {result claims payload : Entries}
    {store : String → String → String → ℤ → Except Python.Error Bool} (has : E.replay_store = some store) :
    (E.consume result claims payload local_digest).Returns ↔ ∃ ttl, E.replay_ttl claims = .ok ttl ∧
      store (E.derive_jti claims (E.text.str (result.orNone "decision_token")))
        (orDefault (E.token_tenant claims) (E.expected_tenant payload))
        (orDefault (E.digest claims "request_digest") local_digest) ttl = .ok true := by
  simp only [Deployment.consume, has, returns_bind, orDefault]
  refine exists_congr fun ttl => and_congr_right fun _ => ?_
  generalize store _ _ _ ttl = answer
  cases answer with
  | error e =>
      refine iff_of_false (returns_error _) fun bad => ?_
      cases bad
  | ok accepted =>
      cases accepted with
      | true => exact iff_of_true ⟨(), rfl⟩ rfl
      | false =>
          refine iff_of_false (returns_error _) fun bad => ?_
          cases bad

/-- The last check of an attempt whose store answers with `consume`. -/
theorem during_consume {consume : String → String → String → ℤ → Bool} {claims : Entries} :
    ((D.during a (some fun jti tenant digest ttl => .ok (consume jti tenant digest ttl))).consume
      a.result claims a.payload local_digest).Returns ↔ ∃ ttl, (D.during a none).replay_ttl claims = .ok ttl ∧
        consume (D.handed a claims local_digest ttl).1 (D.handed a claims local_digest ttl).2.1
          (D.handed a claims local_digest ttl).2.2.1 (D.handed a claims local_digest ttl).2.2.2 = true := by
  rw [consume_returns (during_store (some _))]
  simp only [during_derive_jti, during_token_tenant, during_expected_tenant, during_digest, during_text,
    during_replay_ttl, Except.ok.injEq, Deployment.handed]

theorem during_accepts (presents : D.Presents token a) {consume : String → String → String → ℤ → Bool} :
    ((D.during a (some fun jti tenant digest ttl => .ok (consume jti tenant digest ttl))).bind_signed_decision
      a.result a.payload).isOk = true ↔
    ∃ c, D.consumption a = some c ∧ consume c.1 c.2.1 c.2.2.1 c.2.2.2 = true := by
  rw [isOk_iff_returns, bind_returns _ presents.1]
  simp only [during_claims, binds_during, during_consume, consumption_eq_some presents]
  constructor
  · intro accepted
    obtain ⟨claims, local_digest, verified, binds, ttl, read, taken⟩ := accepted
    exact ⟨_, ⟨claims, local_digest, ttl, verified, binds, read, rfl⟩, taken⟩
  · intro accepted
    obtain ⟨c, ⟨claims, local_digest, ttl, verified, binds, read, same⟩, taken⟩ := accepted
    rw [same] at taken
    exact ⟨claims, local_digest, verified, binds, ttl, read, taken⟩

/-- An attempt with a token is accepted when it comes to consume the id and the store takes it. -/
theorem present_accepted (presents : D.Presents token a) : (B.present D s a).1 = true ↔
    ∃ c, D.consumption a = some c ∧ (B.consume a.consumed_at c.1 c.2.1 c.2.2.1 c.2.2.2 s).1 = true :=
  during_accepts presents

end Attempts

/-! A run of attempts with one token. -/

/-- `int(exp)` of a token which verifies. -/
def Deployment.expiry (D : Deployment) (token : String) : Option ℤ :=
  (D.verify_decision_token token).toOption.bind fun claims => (D.text.int (claims.orNone "exp")).toOption

/-- The id under which a token which verifies is used up. -/
def Deployment.token_jti (D : Deployment) (token : String) : String :=
  match D.verify_decision_token token with
  | .ok claims => D.derive_jti claims token
  | .error _ => ""

/-- The token verifies and fits the reply and the request: the attempt goes on to the store. -/
def Deployment.Reaches (D : Deployment) (a : Attempt) : Prop :=
  ∃ claims local_digest, (D.during a none).claims a.result = some claims ∧
    (D.during a none).Binds a.result a.payload claims local_digest

/-- Every later attempt which goes on to the store gets there while the entry of the first is in it. -/
def Deployment.Timely (D : Deployment) (token : String) (lasts : ℚ → ℤ → ℚ → Prop) (run : List Attempt) : Prop :=
  ∀ before first later exp, run = before ++ first :: later → (∀ a ∈ before, ¬ D.Reaches a) → D.Reaches first →
    D.expiry token = some exp → ∀ a ∈ later, D.Reaches a →
      lasts first.consumed_at (max 1 (exp - ⌊first.read_at⌋)) a.consumed_at

section Runs
variable {S : Type} {B : ReplayBackend S} {D : Deployment} {a : Attempt} {token : String} {s : S} {run : List Attempt}

/-- What verification at a clock reading gives. -/
theorem verifyAt_eq_ok {clock : ℚ} {claims : Entries} : D.verifyAt clock token = .ok claims ↔
    D.verify_decision_token token = .ok claims ∧ ∃ exp, D.text.int (claims.orNone "exp") = .ok exp ∧ clock < exp := by
  unfold Deployment.verifyAt
  rw [bind_eq_ok]
  constructor
  · intro verified
    obtain ⟨found, known, verified⟩ := verified
    rw [bind_eq_ok] at verified
    obtain ⟨exp, read, verified⟩ := verified
    by_cases expired : (exp : ℚ) ≤ clock
    · rw [if_pos expired] at verified
      cases verified
    · rw [if_neg expired] at verified
      cases verified
      exact ⟨known, exp, read, not_le.mp expired⟩
  · intro verified
    obtain ⟨known, exp, read, early⟩ := verified
    refine ⟨claims, known, bind_eq_ok.mpr ⟨exp, read, ?_⟩⟩
    rw [if_neg (not_le.mpr early)]

theorem during_claims_eq_some (presents : D.Presents token a) {claims : Entries} :
    (D.during a none).claims a.result = some claims ↔ D.verifyAt a.verified_at token = .ok claims := by
  obtain ⟨present, same⟩ := presents
  change (if _ then (D.verifyAt a.verified_at (D.text.str (a.result.orNone "decision_token"))).toOption
    else none) = _ ↔ _
  rw [if_pos present, same]
  cases D.verifyAt a.verified_at token with
  | ok found => exact ⟨fun h => congrArg Except.ok (Option.some.inj h), fun h => congrArg Option.some (Except.ok.inj h)⟩
  | error e => exact iff_of_false (fun bad => nomatch bad) fun bad => nomatch bad

/-- A positive remainder is the time to live, read off the second clock reading. -/
theorem during_ttl {claims : Entries} {exp : ℤ} (read : D.text.int (claims.orNone "exp") = .ok exp) :
    (D.during a none).replay_ttl claims = .ok (max 1 (exp - ⌊a.read_at⌋)) := by
  have read : (D.during a none).text.int (claims.orNone "exp") = .ok exp := read
  unfold Deployment.replay_ttl
  cases given : claims.orNone "exp" with
  | none =>
      rw [given] at read
      cases read
  | _ =>
      rw [given] at read
      dsimp only
      rw [read]
      rfl

/-- An attempt which goes on to the store hands it the id of the token and what is left of its lifetime. -/
theorem reaches_consumes (presents : D.Presents token a) (reaches : D.Reaches a) :
    ∃ exp c, D.expiry token = some exp ∧ a.verified_at < exp ∧ D.consumption a = some c ∧ c.1 = D.token_jti token ∧
      c.2.2.2 = max 1 (exp - ⌊a.read_at⌋) := by
  obtain ⟨claims, local_digest, found, binds⟩ := reaches
  obtain ⟨verified, exp, read, early⟩ := verifyAt_eq_ok.mp ((during_claims_eq_some presents).mp found)
  have consumes := (consumption_eq_some presents).mpr ⟨claims, local_digest, _, found, binds, during_ttl read, rfl⟩
  refine ⟨exp, _, ?_, early, consumes, ?_, rfl⟩
  · unfold Deployment.expiry
    rw [verified]
    change (D.text.int (claims.orNone "exp")).toOption = some exp
    rw [read]
    rfl
  · unfold Deployment.token_jti Deployment.handed
    rw [verified, presents.2]

theorem not_reaches_consumption (presents : D.Presents token a) (away : ¬ D.Reaches a) : D.consumption a = none := by
  cases consumes : D.consumption a with
  | none => rfl
  | some c =>
      obtain ⟨claims, local_digest, ttl, found, binds, _⟩ := (consumption_eq_some presents).mp consumes
      exact absurd ⟨claims, local_digest, found, binds⟩ away

/-- An attempt stopped before the store leaves it alone. -/
theorem present_away (presents : D.Presents token a) (away : ¬ D.Reaches a) : B.present D s a = (false, s) := by
  have nothing := not_reaches_consumption presents away
  have refused : (B.present D s a).1 = false := by
    rw [← Bool.not_eq_true, present_accepted presents]
    intro bad
    obtain ⟨c, consumes, _⟩ := bad
    rw [nothing] at consumes
    cases consumes
  refine Prod.ext refused ?_
  change (match D.consumption a with
    | some (jti, tenant, digest, ttl) => (B.consume a.consumed_at jti tenant digest ttl s).2
    | none => s) = s
  rw [nothing]

/-- What an attempt which goes on to the store does there. -/
theorem present_reaches (u : SingleUse B) (presents : D.Presents token a) (reaches : D.Reaches a) {exp : ℤ}
    (known : D.expiry token = some exp) :
    ((B.present D s a).1 = true ↔ ¬ u.Live s (D.token_jti token) a.consumed_at) ∧
      ∀ t, a.consumed_at ≤ t → (u.Live (B.present D s a).2 (D.token_jti token) t ↔ u.Live s (D.token_jti token) t ∨
        (B.present D s a).1 = true ∧ u.lasts a.consumed_at (max 1 (exp - ⌊a.read_at⌋)) t) := by
  obtain ⟨exp', c, known', _, consumes, jti, ttl⟩ := reaches_consumes presents reaches
  obtain rfl := Option.some.inj (known'.symm.trans known)
  obtain ⟨id, tenant, digest, lifetime⟩ := c
  obtain rfl : id = D.token_jti token := jti
  obtain rfl : lifetime = max 1 (exp' - ⌊a.read_at⌋) := ttl
  have answer : (B.present D s a).1 = true ↔
      (B.consume a.consumed_at (D.token_jti token) tenant digest (max 1 (exp' - ⌊a.read_at⌋)) s).1 = true := by
    rw [present_accepted presents]
    constructor
    · intro accepted
      obtain ⟨c, consumes', taken⟩ := accepted
      obtain rfl := Option.some.inj (consumes.symm.trans consumes')
      exact taken
    · exact fun taken => ⟨_, consumes, taken⟩
  have store : (B.present D s a).2 =
      (B.consume a.consumed_at (D.token_jti token) tenant digest (max 1 (exp' - ⌊a.read_at⌋)) s).2 := by
    change (match D.consumption a with
      | some (jti, tenant, digest, ttl) => (B.consume a.consumed_at jti tenant digest ttl s).2
      | none => s) = _
    rw [consumes]
  refine ⟨answer.trans (u.accepts _ _ _ _ _ _), fun t later => ?_⟩
  rw [store, answer]
  exact u.after _ _ _ _ _ _ _ later

theorem accepted_cons : B.accepted D s (a :: run) =
    (B.present D s a).1.toNat + B.accepted D (B.present D s a).2 run := rfl

/-- Behind the first consumption nothing more is accepted exactly as long as its entry stands. -/
theorem accepted_behind (u : SingleUse B) {exp : ℤ} (known : D.expiry token = some exp) (first : Attempt) :
    ∀ (run : List Attempt) (s : S) (now : ℚ), (∀ a ∈ run, D.Presents token a) →
      run.Pairwise (fun a b => a.consumed_at ≤ b.consumed_at) → (∀ a ∈ run, now ≤ a.consumed_at) →
      (∀ t, now ≤ t → (u.Live s (D.token_jti token) t ↔
        u.lasts first.consumed_at (max 1 (exp - ⌊first.read_at⌋)) t)) →
      (B.accepted D s run = 0 ↔ ∀ a ∈ run, D.Reaches a →
        u.lasts first.consumed_at (max 1 (exp - ⌊first.read_at⌋)) a.consumed_at) := by
  intro run
  induction run with
  | nil => exact fun s now _ _ _ _ => iff_of_true rfl fun a member => nomatch member
  | cons a later ih =>
      intro s now presents sorted after entry
      have here := after a List.mem_cons_self
      have next := ih (B.present D s a).2 a.consumed_at (fun b member => presents b (List.mem_cons_of_mem _ member))
        sorted.of_cons (List.pairwise_cons.mp sorted).1
      rw [List.forall_mem_cons, accepted_cons, Nat.add_eq_zero_iff]
      by_cases reaches : D.Reaches a
      · obtain ⟨answer, store⟩ := present_reaches (s := s) u (presents a List.mem_cons_self) reaches known
        rw [entry _ here] at answer
        by_cases stands : u.lasts first.consumed_at (max 1 (exp - ⌊first.read_at⌋)) a.consumed_at
        · have refused : (B.present D s a).1 = false :=
            Bool.eq_false_of_not_eq_true fun bad => answer.mp bad stands
          refine and_congr (iff_of_true (by rw [refused]; rfl) fun _ => stands) (next fun t later => ?_)
          rw [store t later, refused, entry t (here.trans later)]
          simp only [Bool.false_eq_true, false_and, or_false]
        · refine iff_of_false (fun bad => ?_) fun bad => stands (bad.1 reaches)
          rw [answer.mpr stands] at bad
          exact absurd bad.1 Nat.one_ne_zero
      · rw [present_away (presents a List.mem_cons_self) reaches] at next ⊢
        exact and_congr (iff_of_true rfl fun bad => absurd bad reaches) (next fun t later => entry t (here.trans later))

/-- What is timely from an attempt on which goes no further than the checks. -/
theorem timely_away {lasts : ℚ → ℤ → ℚ → Prop} (away : ¬ D.Reaches a) :
    D.Timely token lasts (a :: run) ↔ D.Timely token lasts run := by
  constructor
  · intro timely before first later exp split none reaches
    refine timely (a :: before) first later exp (congrArg (List.cons a) split) ?_ reaches
    exact List.forall_mem_cons.mpr ⟨away, none⟩
  · intro timely before first later exp split none reaches
    cases before with
    | nil =>
        obtain ⟨rfl, _⟩ := List.cons.inj split
        exact absurd reaches away
    | cons b before =>
        obtain ⟨rfl, rest⟩ := List.cons.inj split
        exact timely before first later exp rest (List.forall_mem_cons.mp none).2 reaches

theorem timely_first {lasts : ℚ → ℤ → ℚ → Prop} (reaches : D.Reaches a) {exp : ℤ} (known : D.expiry token = some exp) :
    D.Timely token lasts (a :: run) ↔
      ∀ b ∈ run, D.Reaches b → lasts a.consumed_at (max 1 (exp - ⌊a.read_at⌋)) b.consumed_at := by
  constructor
  · exact fun timely => timely [] a run exp rfl (fun b member => nomatch member) reaches known
  · intro timely before first later exp' split none reaches' known'
    obtain rfl := Option.some.inj (known.symm.trans known')
    cases before with
    | nil =>
        obtain ⟨rfl, rfl⟩ := List.cons.inj split
        exact timely
    | cons b before =>
        obtain ⟨rfl, _⟩ := List.cons.inj split
        exact absurd reaches (none a List.mem_cons_self)

/-- From a store without the id, one attempt at most is accepted exactly when the run is timely. -/
theorem accepted_once_iff (u : SingleUse B) : ∀ (run : List Attempt) (s : S), (∀ a ∈ run, D.Presents token a) →
    run.Pairwise (fun a b => a.consumed_at ≤ b.consumed_at) → (∀ t, ¬ u.Live s (D.token_jti token) t) →
    (B.accepted D s run ≤ 1 ↔ D.Timely token u.lasts run) := by
  intro run
  induction run with
  | nil =>
      intro s _ _ _
      refine iff_of_true (Nat.zero_le 1) fun before first later exp split => ?_
      exact absurd split (List.append_ne_nil_of_right_ne_nil _ (List.cons_ne_nil _ _)).symm
  | cons a later ih =>
      intro s presents sorted unused
      have rest : ∀ b ∈ later, D.Presents token b := fun b member => presents b (List.mem_cons_of_mem _ member)
      rw [accepted_cons]
      by_cases reaches : D.Reaches a
      · obtain ⟨exp, _, known, _⟩ := reaches_consumes (presents a List.mem_cons_self) reaches
        obtain ⟨answer, store⟩ := present_reaches (s := s) u (presents a List.mem_cons_self) reaches known
        rw [timely_first reaches known, ← accepted_behind u known a later (B.present D s a).2 a.consumed_at rest
          sorted.of_cons (List.pairwise_cons.mp sorted).1 ?_]
        · rw [answer.mpr (unused _), Bool.toNat_true]
          omega
        · intro t after
          rw [store t after, answer.mpr (unused _)]
          simp only [unused t, true_and, false_or]
      · rw [timely_away reaches, present_away (presents a List.mem_cons_self) reaches]
        simpa only [Bool.toNat_false, zero_add] using ih s rest sorted.of_cons unused

end Runs

/-- Attempts which all consume before the token expires are timely, for a store which keeps an entry
for its time to live. -/
theorem timely_of_early {D : Deployment} {token : String} {lasts : ℚ → ℤ → ℚ → Prop} {run : List Attempt}
    (early : ∀ (t : ℚ) (ttl : ℤ) (t' : ℚ), t' < t + ttl → lasts t ttl t')
    (ordered : ∀ a ∈ run, a.read_at ≤ a.consumed_at)
    (before : ∀ a ∈ run, ∀ exp, D.expiry token = some exp → a.consumed_at < exp) : D.Timely token lasts run := by
  intro former first later exp split _ _ known a member _
  have mem : first ∈ run := split ▸ List.mem_append_right _ List.mem_cons_self
  have mem' : a ∈ run := split ▸ List.mem_append_right _ (List.mem_cons_of_mem _ member)
  refine early _ (max 1 (exp - ⌊first.read_at⌋)) _ ?_
  have lifetime : ((exp - ⌊first.read_at⌋ : ℤ) : ℚ) ≤ (max 1 (exp - ⌊first.read_at⌋) : ℤ) :=
    Int.cast_le.mpr (le_max_right _ _)
  rw [Int.cast_sub] at lifetime
  have floor : (⌊first.read_at⌋ : ℚ) ≤ first.read_at := Int.floor_le _
  have read := ordered first mem
  have unexpired := before a mem' exp known
  linarith

/-- The entries of the dict, and the keys of Redis, last for their time to live. -/
theorem stores_last : (∀ (t : ℚ) (ttl : ℤ) (t' : ℚ), t' < t + ttl →
    InMemoryDecisionReplayStore.singleUse.lasts t ttl t') ∧
    ∀ (t : ℚ) (ttl : ℤ) (t' : ℚ), t' < t + ttl → RedisDecisionReplayStore.singleUse.lasts t ttl t' := by
  constructor
  · intro t ttl t' before
    have kept : (ttl : ℚ) ≤ (max 1 ttl : ℤ) := Int.cast_le.mpr (le_max_right _ _)
    change t' < t + (max 1 ttl : ℤ)
    linarith
  · intro t ttl t' before
    change ⌊1000 * t'⌋ ≤ ⌊1000 * t⌋ + max 1 ttl * 1000
    have kept : ttl ≤ max 1 ttl := le_max_right _ _
    have moved : ⌊1000 * t'⌋ ≤ ⌊1000 * t + ((ttl * 1000 : ℤ) : ℚ)⌋ := by
      refine Int.floor_le_floor ?_
      push_cast
      linarith
    rw [Int.floor_add_intCast] at moved
    omega

/-- A token consumed before it expires is accepted once, in whatever order. -/
theorem token_accepted_once_of_early (D : Deployment) (token : String) (run : List Attempt)
    (presents : ∀ a ∈ run, D.Presents token a) (clock : run.Pairwise fun a b => a.consumed_at ≤ b.consumed_at)
    (ordered : ∀ a ∈ run, a.read_at ≤ a.consumed_at)
    (before : ∀ a ∈ run, ∀ exp, D.expiry token = some exp → a.consumed_at < exp) :
    InMemoryDecisionReplayStore.accepted D InMemoryDecisionReplayStore.empty run ≤ 1 ∧
      RedisDecisionReplayStore.accepted D RedisDecisionReplayStore.empty run ≤ 1 :=
  ⟨(accepted_once_iff InMemoryDecisionReplayStore.singleUse run _ presents clock
      (InMemoryDecisionReplayStore.singleUse.empty _)).mpr (timely_of_early stores_last.1 ordered before),
    (accepted_once_iff RedisDecisionReplayStore.singleUse run _ presents clock
      (RedisDecisionReplayStore.singleUse.empty _)).mpr (timely_of_early stores_last.2 ordered before)⟩

/-- Presenting one token any number of times, at any clock readings: with either store at most one
attempt is accepted exactly when the ones after the first consume before its entry is gone. -/
theorem token_accepted_once_iff (D : Deployment) (token : String) (run : List Attempt)
    (presents : ∀ a ∈ run, D.Presents token a) (clock : run.Pairwise fun a b => a.consumed_at ≤ b.consumed_at) :
    (InMemoryDecisionReplayStore.accepted D InMemoryDecisionReplayStore.empty run ≤ 1 ↔
      D.Timely token (fun now ttl t => t < now + (max 1 ttl : ℤ)) run) ∧
    (RedisDecisionReplayStore.accepted D RedisDecisionReplayStore.empty run ≤ 1 ↔
      D.Timely token (fun now ttl t => ⌊1000 * t⌋ ≤ ⌊1000 * now⌋ + max 1 ttl * 1000) run) :=
  ⟨accepted_once_iff InMemoryDecisionReplayStore.singleUse run _ presents clock
      (InMemoryDecisionReplayStore.singleUse.empty _),
    accepted_once_iff RedisDecisionReplayStore.singleUse run _ presents clock
      (RedisDecisionReplayStore.singleUse.empty _)⟩

/-- A deployment whose one token expires at 10. -/
def expiringDeployment : Deployment :=
  { signedDeployment with
    verify_decision_token := fun token =>
      if token = "once" then .ok [(.str "exp", .int 10)] else .error ⟨.valueError, "invalid token"⟩ }

def attemptAt (verified_at read_at consumed_at : ℚ) : Attempt :=
  ⟨replyWith "once", requestOf "alice", verified_at, read_at, consumed_at⟩

theorem attemptAt_presents (verified_at read_at consumed_at : ℚ) :
    expiringDeployment.Presents "once" (attemptAt verified_at read_at consumed_at) := ⟨rfl, rfl⟩

/-- The claims which carry an expiry and nothing else. -/
def bareClaims : Entries := [(.str "exp", .int 10)]

theorem bareClaims_unnamed : ∀ key ∈ ["verdict", "decision_id", "tenant_id", "subject", "model"],
    expiringDeployment.field bareClaims key = "" := by decide

theorem bareClaims_unsigned : ∀ key ∈ ["request_digest", "policy_digest"],
    expiringDeployment.digest bareClaims key = "" ∧ expiringDeployment.digest (replyWith "once") key = "" := by decide

theorem attemptAt_reaches {verified_at : ℚ} (read_at consumed_at : ℚ) (early : verified_at < 10) :
    expiringDeployment.Reaches (attemptAt verified_at read_at consumed_at) := by
  have verified := (during_claims_eq_some (attemptAt_presents verified_at read_at consumed_at)).mpr
    (verifyAt_eq_ok.mpr ⟨(rfl : expiringDeployment.verify_decision_token "once" = .ok bareClaims), 10, rfl, early⟩)
  have unnamed := bareClaims_unnamed
  have unsigned := bareClaims_unsigned
  simp only [List.forall_mem_cons, List.not_mem_nil, false_imp_iff, implies_true, and_true] at unnamed unsigned
  refine ⟨bareClaims, _, verified, ?_, Or.inl unnamed.2.1, Or.inl unsigned.1.1, Or.inl unsigned.2.1, rfl, Or.inl ?_,
    Or.inl ?_, Or.inl unnamed.2.2.2.1, Or.inl unnamed.2.2.2.2, ⟨(), rfl⟩⟩
  · refine Or.inl ?_
    change expiringDeployment.text.lower (expiringDeployment.field bareClaims "verdict") = ""
    rw [unnamed.1]
    rfl
  · simp only [Deployment.expected_digest, during_digest, unsigned.1.1, if_true]
    exact unsigned.1.2
  · rw [during_token_tenant]
    exact unnamed.2.2.1

/-- Two attempts in time: one of them is accepted. -/
theorem token_accepted_once_in_time : InMemoryDecisionReplayStore.accepted expiringDeployment
    InMemoryDecisionReplayStore.empty [attemptAt 0 0 0, attemptAt 9 9 9] ≤ 1 := by
  have presents : ∀ a ∈ [attemptAt 0 0 0, attemptAt 9 9 9], expiringDeployment.Presents "once" a := by
    intro a member
    simp only [List.mem_cons, List.not_mem_nil, or_false] at member
    rcases member with rfl | rfl
    · exact attemptAt_presents 0 0 0
    · exact attemptAt_presents 9 9 9
  have clock : [attemptAt 0 0 0, attemptAt 9 9 9].Pairwise fun a b => a.consumed_at ≤ b.consumed_at := by
    refine List.pairwise_pair.mpr ?_
    change (0 : ℚ) ≤ 9
    norm_num
  refine (token_accepted_once_iff expiringDeployment "once" _ presents clock).1.mpr ?_
  refine (timely_first (attemptAt_reaches 0 0 (by norm_num)) (rfl : expiringDeployment.expiry "once" = some 10)).mpr
      fun b member _ => ?_
  obtain rfl := List.mem_singleton.mp member
  change (9 : ℚ) < 0 + (max 1 (max 1 (10 - ⌊(0 : ℚ)⌋)) : ℤ)
  norm_num

/-- A request which verifies and reads the clock at 9 and consumes at 11 uses the token a second time. -/
theorem token_accepted_twice : ¬ InMemoryDecisionReplayStore.accepted expiringDeployment
      InMemoryDecisionReplayStore.empty [attemptAt 0 0 0, attemptAt 9 9 11] ≤ 1 ∧
    ¬ RedisDecisionReplayStore.accepted expiringDeployment
      RedisDecisionReplayStore.empty [attemptAt 0 0 0, attemptAt 9 9 11] ≤ 1 := by
  have presents : ∀ a ∈ [attemptAt 0 0 0, attemptAt 9 9 11], expiringDeployment.Presents "once" a := by
    intro a member
    simp only [List.mem_cons, List.not_mem_nil, or_false] at member
    rcases member with rfl | rfl
    · exact attemptAt_presents 0 0 0
    · exact attemptAt_presents 9 9 11
  have clock : [attemptAt 0 0 0, attemptAt 9 9 11].Pairwise fun a b => a.consumed_at ≤ b.consumed_at := by
    refine List.pairwise_pair.mpr ?_
    change (0 : ℚ) ≤ 11
    norm_num
  have known : expiringDeployment.expiry "once" = some 10 := rfl
  have first := attemptAt_reaches 0 0 (by norm_num : (0 : ℚ) < 10)
  have second := attemptAt_reaches 9 11 (by norm_num : (9 : ℚ) < 10)
  constructor
  · rw [accepted_once_iff InMemoryDecisionReplayStore.singleUse _ _ presents clock
      (InMemoryDecisionReplayStore.singleUse.empty _), timely_first first known]
    intro timely
    have stands := timely _ List.mem_cons_self second
    change (11 : ℚ) < 0 + (max 1 (max 1 (10 - ⌊(0 : ℚ)⌋)) : ℤ) at stands
    norm_num at stands
  · rw [accepted_once_iff RedisDecisionReplayStore.singleUse _ _ presents clock
      (RedisDecisionReplayStore.singleUse.empty _), timely_first first known]
    intro timely
    have stands := timely _ List.mem_cons_self second
    change ⌊1000 * (11 : ℚ)⌋ ≤ ⌊1000 * (0 : ℚ)⌋ + max 1 (max 1 (10 - ⌊(0 : ℚ)⌋)) * 1000 at stands
    norm_num at stands

end RuntimePlatform.Governance
