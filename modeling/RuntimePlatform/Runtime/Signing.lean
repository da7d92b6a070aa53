import Mathlib.Data.Nat.Size
import RuntimePlatform.Auth.JwtVerify
import RuntimePlatform.Runtime.Verification

/-!
`verify_signing.py` and the endpoint `/v1/runtime/verify`: the token which the Control Plane takes a verification from,
and the key which it is published with. RSA and PyJWT are parameters.
-/

namespace RuntimePlatform.Runtime
open Python Except Auth Governance Config

/-- The process: its environment, its clock, its key, and the library which signs with it. -/
structure Signer (Key : Type) where
  text : Text
  env : Environ
  time : ℤ
  /-- `int(raw)`, unless there is a `ValueError`. -/
  int : String → Option ℤ
  /-- `_load_private_key()` -/
  private_key : Except Python.Error (Option Key)
  verify_signing_enabled : Bool
  /-- The modulus and the exponent. -/
  public_numbers : Key → ℕ × ℕ
  /-- `jwt.encode(claims, key, algorithm="RS256", headers={"kid": kid, "typ": "JWT"})` -/
  encode : Entries → Key → String → String

variable {Key : Type} (S : Signer Key)

/-- `os.getenv(name, default).strip() or default` -/
def Signer.setting (name default : String) : String := orText (strip (S.env.getenv name default)) default

def Signer.require_signed_verify : Bool := S.env.flag S.text "GATEWAY_REQUIRE_SIGNED_VERIFY"

def Signer.verify_issuer : String := S.setting "RUNTIME_VERIFY_ISSUER" "ai-runtime"

def Signer.verify_audience : String := S.setting "RUNTIME_VERIFY_AUDIENCE" "ai-control-plane"

def Signer.verify_kid : String := S.setting "RUNTIME_VERIFY_KID" "runtime-verify-1"

def Signer.verify_ttl_seconds : ℤ :=
  match S.int (S.setting "RUNTIME_VERIFY_TTL_SECONDS" "300") with
  | some value => max 30 (min value 3600)
  | none => 300

/-! The key. -/

/-- `value.to_bytes(length, "big")` -/
def to_bytes (value : ℕ) : ℕ → List UInt8
  | 0 => []
  | length + 1 => to_bytes (value / 256) length ++ [UInt8.ofNat (value % 256)]

/-- `int.from_bytes(bytes, "big")` -/
def from_bytes (bytes : List UInt8) : ℕ := bytes.foldl (fun value b => value * 256 + b.toNat) 0

/-- `_b64url_uint` -/
def b64url_uint (value : ℕ) : List Char :=
  (Base64.urlsafe_b64encode (to_bytes value ((value.size + 7) / 8))).rdropWhile fun c => decide (c = '=')

/-- The entry of the key in the key set. -/
def Signer.jwk (key : Key) : Entries := [
  (.str "kty", .str "RSA"), (.str "kid", .str S.verify_kid), (.str "use", .str "sig"), (.str "alg", .str "RS256"),
  (.str "n", .str (String.ofList (b64url_uint (S.public_numbers key).1))),
  (.str "e", .str (String.ofList (b64url_uint (S.public_numbers key).2)))]

def Signer.public_jwks : Except Python.Error Entries := do
  match ← S.private_key with
  | none => .ok [(.str "keys", .list [])]
  | some key => .ok [(.str "keys", .list [.dict (S.jwk key)])]

theorem from_bytes_append (bytes : List UInt8) (b : UInt8) :
    from_bytes (bytes ++ [b]) = from_bytes bytes * 256 + b.toNat := by
  unfold from_bytes
  rw [List.foldl_append]
  rfl

theorem from_to_bytes {length : ℕ} : ∀ {value : ℕ}, value < 256 ^ length → from_bytes (to_bytes value length) = value := by
  induction length with
  | zero =>
      intro value small
      rw [pow_zero] at small
      rw [Nat.lt_one_iff.mp small]
      rfl
  | succ length ih =>
      intro value small
      have quotient : value / 256 < 256 ^ length := by
        rw [pow_succ] at small
        exact Nat.div_lt_of_lt_mul (by rwa [mul_comm] at small)
      rw [to_bytes, from_bytes_append, ih quotient, UInt8.toNat_ofNat_of_lt' (Nat.mod_lt value (by decide))]
      exact Nat.div_add_mod' value 256

theorem bytes_suffice (value : ℕ) : value < 256 ^ ((value.size + 7) / 8) := by
  calc value < 2 ^ value.size := Nat.lt_size_self value
    _ ≤ 2 ^ (8 * ((value.size + 7) / 8)) := Nat.pow_le_pow_right (by decide) (by omega)
    _ = (2 ^ 8) ^ ((value.size + 7) / 8) := pow_mul 2 8 _
    _ = 256 ^ ((value.size + 7) / 8) := by norm_num

/-- A number is read back from its text. -/
theorem decode_b64url_uint (value : ℕ) :
    (Base64.urlsafe_b64decode (b64url_uint value ++ Base64.padding (b64url_uint value).length)).map from_bytes =
      some value := by
  have bytes := Base64.urlsafe_b64decode_encode (to_bytes value ((value.size + 7) / 8))
  unfold b64url_uint
  rw [Base64.rstrip_encode]
  rw [Base64.urlsafe_b64encode] at bytes
  rw [bytes, Option.map_some, from_to_bytes (bytes_suffice value)]

/-! The endpoint. -/

structure RuntimeVerifyRequest where
  expected : Entries
  remediation_id : Option String
  correlation_id : Option String

def Difference.entry (difference : Difference) : Value :=
  .dict [(.str "field", .str difference.field), (.str "expected", difference.expected),
    (.str "actual", difference.actual)]

/-- The claims which every token has. -/
def Signer.base_claims (S : Signer Key) : Entries := [
  (.str "iss", .str S.verify_issuer), (.str "aud", .str S.verify_audience), (.str "iat", .int S.time),
  (.str "exp", .int (S.time + S.verify_ttl_seconds)), (.str "typ", .str "runtime_verify")]

/-- `sign_verification_token` -/
def Signer.sign_verification_token (payload : Entries) : Except Python.Error (Option String) := do
  match ← S.private_key with
  | none => .ok none
  | some key =>
    .ok (some (S.encode (S.base_claims.merge payload) key S.verify_kid))

/-- What of a verification is signed. -/
def token_payload (result : Verification) (body : RuntimeVerifyRequest) : Entries := [
  (.str "verified", .bool result.verified),
  (.str "differences", .list (result.differences.map Difference.entry)),
  (.str "observed", .dict result.observed),
  (.str "correlation", .dict result.correlation),
  (.str "remediation_id", ofText body.remediation_id),
  (.str "correlation_id", ofText body.correlation_id)]

/-- The answer to a verification: its parts, and the token. -/
structure Response where
  result : Verification
  remediation_id : Option String
  correlation_id : Option String
  verification_token : Option String

def signed_verify_unavailable : Raised :=
  .http ⟨503, .dict [(.str "error", .dict [(.str "type", .str "api_error"),
    (.str "code", .str "signed_verify_unavailable"),
    (.str "message", .str (if S.verify_signing_enabled then "failed to produce signed verification token"
      else "signed verify required but RUNTIME_VERIFY_PRIVATE_KEY is not set"))])], []⟩

/-- `runtime_verify`, once the caller has the role. -/
def Signer.runtime_verify (state : RuntimeConfigState) (runtime_version : String) (body : RuntimeVerifyRequest) :
    Except Raised Response :=
  let result := state.verify S.text runtime_version body.expected
  match S.sign_verification_token (token_payload result body) with
  | .error e => .error (.error e)
  | .ok none =>
    if S.require_signed_verify then .error (signed_verify_unavailable S)
    else .ok ⟨result, nonempty body.remediation_id, nonempty body.correlation_id, none⟩
  | .ok (some token) => .ok ⟨result, nonempty body.remediation_id, nonempty body.correlation_id, some token⟩

/-! What the token says. -/

variable {S}

theorem setting_ne {name default : String} (given : default ≠ "") : S.setting name default ≠ "" := by
  unfold Signer.setting orText
  split
  · exact given
  next nonblank => exact nonblank

theorem ttl_bounds (S : Signer Key) : 30 ≤ S.verify_ttl_seconds ∧ S.verify_ttl_seconds ≤ 3600 := by
  unfold Signer.verify_ttl_seconds
  split <;> omega

/-- The claims are those of the response, from this runtime and for the Control Plane, for a minute or an hour or so. -/
structure Certifies (S : Signer Key) (response : Response) (claims : Entries) : Prop where
  verified : claims.get "verified" = some (.bool response.result.verified)
  differences : claims.get "differences" = some (.list (response.result.differences.map Difference.entry))
  observed : claims.get "observed" = some (.dict response.result.observed)
  correlation : claims.get "correlation" = some (.dict response.result.correlation)
  issuer : claims.get "iss" = some (.str S.verify_issuer) ∧ S.verify_issuer ≠ ""
  audience : claims.get "aud" = some (.str S.verify_audience) ∧ S.verify_audience ≠ ""
  typ : claims.get "typ" = some (.str "runtime_verify")
  lifetime : ∃ ttl, 30 ≤ ttl ∧ ttl ≤ 3600 ∧ claims.get "iat" = some (.int S.time) ∧
    claims.get "exp" = some (.int (S.time + ttl))

theorem sign_verification_token_some {payload : Entries} {token : String}
    (signed : S.sign_verification_token payload = .ok (some token)) :
    ∃ key, S.private_key = .ok (some key) ∧ token = S.encode (S.base_claims.merge payload) key S.verify_kid := by
  obtain ⟨loaded, found, signed⟩ := bind_eq_ok.mp signed
  cases loaded with
  | none => cases signed
  | some key =>
      cases signed
      exact ⟨key, found, rfl⟩

section Claims
variable (result : Verification) (body : RuntimeVerifyRequest)

theorem token_payload_keys : (token_payload result body).map Prod.fst =
    ["verified", "differences", "observed", "correlation", "remediation_id", "correlation_id"].map Value.str := rfl

theorem payload_distinct : ((token_payload result body).map Prod.fst).Nodup := by
  rw [token_payload_keys]
  exact List.Nodup.map (fun _ _ same => Value.str.inj same) (by decide)

/-- A key which the payload does not have keeps the value of the base claims. -/
theorem base_kept {key : String}
    (other : key ∉ ["verified", "differences", "observed", "correlation", "remediation_id", "correlation_id"]) :
    Entries.get (S.base_claims.merge (token_payload result body)) key = Entries.get S.base_claims key := by
  apply Entries.get_merge_absent
  intro e member
  apply Bool.eq_false_iff.mpr
  intro here
  have listed := List.mem_map_of_mem (f := Prod.fst) member
  rw [token_payload_keys, Value.isKey_iff.mp here] at listed
  obtain ⟨name, among, same⟩ := List.mem_map.mp listed
  exact other (Value.str.inj same ▸ among)

theorem certifies_payload (remediation_id correlation_id token : Option String) :
    Certifies S ⟨result, remediation_id, correlation_id, token⟩ (S.base_claims.merge (token_payload result body)) := by
  have distinct := payload_distinct result body
  constructor
  · exact Entries.get_merge_present _ distinct rfl
  · exact Entries.get_merge_present _ distinct rfl
  · exact Entries.get_merge_present _ distinct rfl
  · exact Entries.get_merge_present _ distinct rfl
  · exact ⟨base_kept result body (by decide), setting_ne (by decide)⟩
  · exact ⟨base_kept result body (by decide), setting_ne (by decide)⟩
  · exact base_kept result body (by decide)
  · exact ⟨S.verify_ttl_seconds, (ttl_bounds S).1, (ttl_bounds S).2, base_kept result body (by decide),
      base_kept result body (by decide)⟩

end Claims

/-- A gateway which is asked for the configuration of some settings answers that it is verified just when it runs them,
and the token says the same; where tokens are required there is one. -/
theorem runtime_verify_certified {Key : Type} (S : Signer Key) (floats : Json.SeparatesFloats S.text)
    (sha256 : List Char → String) (settings desired : GatewaySettings)
    (collision_free : sha256 (config_text S.text desired) = sha256 (config_text S.text settings) →
      config_text S.text desired = config_text S.text settings)
    (generation wanted : ℤ) (instance_id runtime_version policy_digest : String) (now : ℚ) (seen : List Observation)
    (remediation_id correlation_id : Option String) (response : Response)
    (answered : S.runtime_verify
      (Runs.run RuntimeConfigState.observe (from_settings S.text sha256 generation instance_id now settings) seen)
      runtime_version ⟨expectation S.text sha256 desired wanted policy_digest, remediation_id, correlation_id⟩ =
        .ok response) :
    (response.result.verified = true ↔ SameListed Json.SameSigned desired settings ∧ wanted = generation ∧
        (policy_digest = "" ∨ last_digest seen = some policy_digest)) ∧
      (S.require_signed_verify = true → response.verification_token ≠ none) ∧
      ∀ token, response.verification_token = some token → ∃ key claims, S.private_key = .ok (some key) ∧
        token = S.encode claims key S.verify_kid ∧ Certifies S response claims := by
  have same := verified_iff_same S.text floats sha256 settings desired collision_free generation wanted instance_id
    runtime_version policy_digest now seen
  unfold Signer.runtime_verify at answered
  dsimp only at answered
  split at answered
  next => cases answered
  next =>
    split at answered
    next => cases answered
    next optional =>
      cases answered
      exact ⟨same, fun required => (optional required).elim, fun _ none => nomatch none⟩
  next token signed =>
    cases answered
    refine ⟨same, fun _ => Option.some_ne_none token, ?_⟩
    rintro _ ⟨⟩
    obtain ⟨key, loaded, rfl⟩ := sign_verification_token_some signed
    exact ⟨key, _, loaded, rfl, certifies_payload _ _ _ _ _⟩

/-! A local gateway which signs. -/

def localSigner : Signer (ℕ × ℕ) where
  text := plainText
  env _ := none
  time := 1000
  int _ := some 10
  private_key := .ok (some (3233, 65537))
  verify_signing_enabled := true
  public_numbers key := key
  encode _ _ kid := kid

/-- It has seen two policies, and is asked for settings which differ in a flag which the digest leaves out. -/
def localState : RuntimeConfigState :=
  Runs.run RuntimeConfigState.observe
    (from_settings plainText (fun text => String.ofList text) 1 "gateway" 0 (localSettings true))
    [⟨some "b1", some "p1", 1⟩, ⟨none, some "p2", 2⟩, ⟨some "b3", none, 3⟩]

def localResponse : Response :=
  ⟨localState.verify plainText "1.0" (expectation plainText (fun text => String.ofList text) (localSettings false) 1 "p2"),
    some "r1", none, some localSigner.verify_kid⟩

theorem runtime_verify_certified_local :
    (localResponse.result.verified = true ↔
        SameListed Json.SameSigned (localSettings false) (localSettings true) ∧ (1 : ℤ) = 1 ∧ ("p2" = "" ∨
          last_digest [⟨some "b1", some "p1", 1⟩, ⟨none, some "p2", 2⟩, ⟨some "b3", none, 3⟩] = some "p2")) ∧
      (localSigner.require_signed_verify = true → localResponse.verification_token ≠ none) ∧
      ∀ token, localResponse.verification_token = some token → ∃ key claims,
        localSigner.private_key = .ok (some key) ∧ token = localSigner.encode claims key localSigner.verify_kid ∧
          Certifies localSigner localResponse claims :=
  runtime_verify_certified localSigner plainText_separates (fun text => String.ofList text) (localSettings true)
    (localSettings false) (fun same => String.ofList_injective same) 1 1 "gateway" "1.0" "p2" 0
    [⟨some "b1", some "p1", 1⟩, ⟨none, some "p2", 2⟩, ⟨some "b3", none, 3⟩] (some "r1") none localResponse rfl

/-- Tokens are signed with the key of the key set which is published, under its id: the two numbers of the key are read
back from their texts. -/
theorem published_key {Key : Type} (S : Signer Key) (key : Key) (loaded : S.private_key = .ok (some key)) :
    (∀ payload, S.sign_verification_token payload =
      .ok (some (S.encode (S.base_claims.merge payload) key S.verify_kid))) ∧
    ∃ (published : Entries) (n e : List Char),
      S.public_jwks = .ok [(.str "keys", .list [.dict published])] ∧
        published.get "kid" = some (.str S.verify_kid) ∧ published.get "n" = some (.str (String.ofList n)) ∧
        published.get "e" = some (.str (String.ofList e)) ∧
        (Base64.urlsafe_b64decode (n ++ Base64.padding n.length)).map from_bytes = some (S.public_numbers key).1 ∧
        (Base64.urlsafe_b64decode (e ++ Base64.padding e.length)).map from_bytes = some (S.public_numbers key).2 := by
  have published : S.public_jwks = .ok [(.str "keys", .list [.dict (S.jwk key)])] := by
    unfold Signer.public_jwks
    rw [loaded]
    rfl
  have signed : ∀ payload, S.sign_verification_token payload =
      .ok (some (S.encode (S.base_claims.merge payload) key S.verify_kid)) := by
    intro payload
    unfold Signer.sign_verification_token
    rw [loaded]
    rfl
  exact ⟨signed, S.jwk key, b64url_uint (S.public_numbers key).1, b64url_uint (S.public_numbers key).2, published, rfl,
    rfl, rfl, decode_b64url_uint _, decode_b64url_uint _⟩

theorem published_key_local :
    (∀ payload, localSigner.sign_verification_token payload =
      .ok (some (localSigner.encode (localSigner.base_claims.merge payload) (3233, 65537) localSigner.verify_kid))) ∧
    ∃ (published : Entries) (n e : List Char),
      localSigner.public_jwks = .ok [(.str "keys", .list [.dict published])] ∧
        published.get "kid" = some (.str localSigner.verify_kid) ∧
        published.get "n" = some (.str (String.ofList n)) ∧ published.get "e" = some (.str (String.ofList e)) ∧
        (Base64.urlsafe_b64decode (n ++ Base64.padding n.length)).map from_bytes = some 3233 ∧
        (Base64.urlsafe_b64decode (e ++ Base64.padding e.length)).map from_bytes = some 65537 :=
  published_key localSigner (3233, 65537) rfl

end RuntimePlatform.Runtime
