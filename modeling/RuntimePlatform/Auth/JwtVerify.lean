import RuntimePlatform.Governance.Identity
import RuntimePlatform.Lib.Base64
import RuntimePlatform.Lib.JsonLoads
import RuntimePlatform.Lib.Utf8

/-!
`jwt_verify.py`: how the claims of a bearer token are read, and when they are verified. PyJWT is a parameter.
-/

namespace RuntimePlatform.Auth
open Python Except Governance

/-- `os.environ` -/
abbrev Environ := String → Option String

/-- `os.getenv(name, default)` -/
def Environ.getenv (env : Environ) (name default : String) : String := (env name).getD default

/-- `os.getenv(name, "").strip().lower() in {"1", "true", "yes"}` -/
def Environ.flag (env : Environ) (T : Text) (name : String) : Bool :=
  decide (T.lower (strip (env.getenv name "")) ∈ ["1", "true", "yes"])

/-- `os.getenv(name, "").strip() or None` -/
def Environ.stripped (env : Environ) (name : String) : Option String :=
  let value := strip (env.getenv name "")
  if value = "" then none else some value

def is_jwt_verify_enabled (T : Text) (env : Environ) : Bool := env.flag T "OIDC_JWT_VERIFY"

def get_jwks_url (env : Environ) : Option String := env.stripped "OIDC_JWKS_URL"

def get_jwt_issuer (env : Environ) : Option String := env.stripped "OIDC_JWT_ISSUER"

def get_jwt_audience (env : Environ) : Option String := env.stripped "OIDC_JWT_AUDIENCE"

def require_issuer_and_audience (T : Text) (env : Environ) : Bool :=
  env.flag T "OIDC_JWT_REQUIRE_ISS_AUD" ||
    decide (T.lower (strip (env.getenv "GATEWAY_PROFILE" "local")) = "production")

/-- The keyword arguments of `jwt.decode`. -/
structure Decoding where
  algorithms : List String
  require : List String
  verify_aud : Bool
  verify_iss : Bool
  audience : Option String
  issuer : Option String

/-- PyJWT as it answers at one moment, by the clock and the fetched keys of that moment; and the decoder of JSON, with
what `json.loads` makes of bytes which are no UTF-8 text. -/
structure JwtLibrary (Key : Type) where
  text : Text
  /-- `PyJWKClient(url).get_signing_key_from_jwt(token).key` -/
  get_signing_key_from_jwt : String → String → Except JwtFailure Key
  decode : String → Key → Decoding → Except JwtFailure Value
  decoder : Json.Decoder
  loads_other : List UInt8 → Option Value

def byte_order_marks : List (List UInt8) :=
  [[0, 0, 0xfe, 0xff], [0xff, 0xfe, 0, 0], [0xfe, 0xff], [0xff, 0xfe], [0xef, 0xbb, 0xbf]]

/-- `json.detect_encoding(b) == "utf-8"` -/
def detects_utf8 (bytes : List UInt8) : Bool :=
  !(byte_order_marks.any fun mark => mark.isPrefixOf bytes) &&
    !(decide (bytes.length = 2 ∨ 4 ≤ bytes.length) && (bytes.take 2).any fun b => decide (b = 0))

/-- The text of some bytes, when they are those of a text. -/
def decode_utf8 (bytes : List UInt8) : Option (List Char) :=
  let text := Utf8.decodeIgnore bytes
  if Utf8.encode text = bytes then some text else none

variable {Key : Type} (L : JwtLibrary Key)

def JwtLibrary.loads (bytes : List UInt8) : Option Value :=
  match if detects_utf8 bytes then decode_utf8 bytes else none with
  | some text => L.decoder.loads text
  | none => L.loads_other bytes

def JwtLibrary.decode_unsigned_payload (token : String) : Except JwtFailure Entries :=
  match token.toList.splitOn '.' with
  | [_, payload, _] =>
    match (Base64.urlsafe_b64decode (payload ++ Base64.padding payload.length)).bind L.loads with
    | some (.dict decoded) => .ok decoded
    | _ => .error .invalid
  | _ => .error .invalid

def decoding (env : Environ) : Decoding where
  algorithms := ["RS256", "RS384", "RS512", "ES256", "ES384", "ES512"]
  require := ["exp", "iat"]
  verify_aud := (get_jwt_audience env).isSome
  verify_iss := (get_jwt_issuer env).isSome
  audience := get_jwt_audience env
  issuer := get_jwt_issuer env

/-- `_verify_bearer_token_sync` -/
def JwtLibrary.verify_bearer_token (env : Environ) (token : String) : Except JwtFailure Entries :=
  if is_jwt_verify_enabled L.text env then
    match get_jwks_url env with
    | none => .error (.misconfigured "OIDC_JWT_VERIFY is enabled but OIDC_JWKS_URL is not configured")
    | some jwks_url =>
      if require_issuer_and_audience L.text env ∧ (get_jwt_issuer env = none ∨ get_jwt_audience env = none) then
        .error (.misconfigured
          "OIDC_JWT_ISSUER and OIDC_JWT_AUDIENCE are required when OIDC_JWT_REQUIRE_ISS_AUD=true")
      else do
        let signing_key ← L.get_signing_key_from_jwt jwks_url token
        let decoded ← L.decode token signing_key (decoding env)
        match decoded with
        | .dict claims => .ok claims
        | _ => .error .invalid
  else L.decode_unsigned_payload token

/-! What verified claims are. -/

/-- The token is for this audience, among others perhaps. -/
def ForAudience (claims : Entries) (audience : String) : Prop :=
  claims.orNone "aud" = .str audience ∨
    ∃ items : List Value, claims.orNone "aud" = .list items ∧ Value.str audience ∈ items

/-- The documented checks of `jwt.decode`: the signature is one of the key over the claims, by one of the algorithms; the
required claims are there; and so are the issuer and the audience, when they are to be verified. -/
structure JwtLibrary.Documented (Signed : Key → List String → String → Entries → Prop) : Prop where
  signature : ∀ token key d claims, L.decode token key d = .ok (.dict claims) → Signed key d.algorithms token claims
  required : ∀ token key d claims, L.decode token key d = .ok (.dict claims) →
    ∀ name ∈ d.require, Entries.orNone claims name ≠ .none
  issuer : ∀ token key d claims, L.decode token key d = .ok (.dict claims) → d.verify_iss = true →
    ∀ issuer ∈ d.issuer, Entries.orNone claims "iss" = .str issuer
  audience : ∀ token key d claims, L.decode token key d = .ok (.dict claims) → d.verify_aud = true →
    ∀ audience ∈ d.audience, ForAudience claims audience

/-- The claims of a token which a key of the issuer has signed, for this gateway. -/
structure JwtLibrary.Verified (Signed : Key → List String → String → Entries → Prop) (env : Environ) (token : String)
    (claims : Entries) : Prop where
  signed : ∃ jwks_url key, get_jwks_url env = some jwks_url ∧ L.get_signing_key_from_jwt jwks_url token = .ok key ∧
    Signed key ["RS256", "RS384", "RS512", "ES256", "ES384", "ES512"] token claims
  timed : claims.orNone "exp" ≠ .none ∧ claims.orNone "iat" ≠ .none
  issuer : ∀ issuer, get_jwt_issuer env = some issuer → claims.orNone "iss" = .str issuer
  audience : ∀ audience, get_jwt_audience env = some audience → ForAudience claims audience
  required : require_issuer_and_audience L.text env = true →
    (∃ issuer, get_jwt_issuer env = some issuer) ∧ ∃ audience, get_jwt_audience env = some audience

variable {L} {Signed : Key → List String → String → Entries → Prop} {env : Environ} {token : String} {claims : Entries}

/-- An issuer which is set is verified, and so is an audience. -/
theorem decoding_issuer {issuer : String} (named : get_jwt_issuer env = some issuer) :
    (decoding env).verify_iss = true ∧ issuer ∈ (decoding env).issuer := by
  unfold decoding
  rw [named]
  exact ⟨rfl, rfl⟩

theorem decoding_audience {audience : String} (named : get_jwt_audience env = some audience) :
    (decoding env).verify_aud = true ∧ audience ∈ (decoding env).audience := by
  unfold decoding
  rw [named]
  exact ⟨rfl, rfl⟩

/-- With verification on, only verified claims are returned. -/
theorem verify_bearer_token_verified (documented : L.Documented Signed)
    (enabled : is_jwt_verify_enabled L.text env = true) (returned : L.verify_bearer_token env token = .ok claims) :
    L.Verified Signed env token claims := by
  unfold JwtLibrary.verify_bearer_token at returned
  rw [if_pos enabled] at returned
  cases url : get_jwks_url env with
  | none =>
      rw [url] at returned
      cases returned
  | some jwks_url =>
      rw [url] at returned
      dsimp only at returned
      split at returned
      · cases returned
      next configured =>
        obtain ⟨key, found, returned⟩ := bind_eq_ok.mp returned
        obtain ⟨value, decoded, returned⟩ := bind_eq_ok.mp returned
        cases value with
        | dict entries =>
            cases returned
            have present := documented.required token key _ claims decoded
            constructor
            · exact ⟨jwks_url, key, url, found, documented.signature token key _ claims decoded⟩
            · exact ⟨present "exp" List.mem_cons_self, present "iat" (List.mem_cons_of_mem _ List.mem_cons_self)⟩
            · intro issuer named
              obtain ⟨verified, asked⟩ := decoding_issuer named
              exact documented.issuer token key _ claims decoded verified issuer asked
            · intro audience named
              obtain ⟨verified, asked⟩ := decoding_audience named
              exact documented.audience token key _ claims decoded verified audience asked
            · intro required
              rw [not_and, not_or] at configured
              obtain ⟨issuer, audience⟩ := configured required
              exact ⟨Option.ne_none_iff_exists'.mp issuer, Option.ne_none_iff_exists'.mp audience⟩
        | _ => cases returned

end RuntimePlatform.Auth
