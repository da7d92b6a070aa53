import RuntimePlatform.Auth.Boundary
import RuntimePlatform.Lib.JsonAscii

/-!
The compact form of a token: what `decode_unsigned_payload` reads is what was encoded, whatever the header and the
signature are.
-/

namespace RuntimePlatform.Auth
open Python Governance

/-- The compact form of RFC 7519 as `jwt.encode` writes it: three parts in base64 without padding. -/
def compact (header payload signature : List UInt8) : String :=
  String.ofList (['.'].intercalate [Base64.digits header, Base64.digits payload, Base64.digits signature])

theorem split_compact (header payload signature : List UInt8) :
    (compact header payload signature).toList.splitOn '.' =
      [Base64.digits header, Base64.digits payload, Base64.digits signature] := by
  unfold compact
  rw [String.toList_ofList]
  apply List.splitOn_intercalate
  · intro part member dot
    simp only [List.mem_cons, List.not_mem_nil, or_false] at member
    rcases member with rfl | rfl | rfl
    · exact (Base64.digits_plain header '.' dot).2.1 rfl
    · exact (Base64.digits_plain payload '.' dot).2.1 rfl
    · exact (Base64.digits_plain signature '.' dot).2.1 rfl
  · exact List.cons_ne_nil _ _

/-- Printable text is taken for UTF-8. -/
theorem detects_printable {bytes : List UInt8} (printable : ∀ b ∈ bytes, 32 ≤ b ∧ b ≤ 126) :
    detects_utf8 bytes = true := by
  have unmarked : (byte_order_marks.any fun mark => mark.isPrefixOf bytes) = false := by
    rw [List.any_eq_false]
    intro mark listed begins
    obtain ⟨rest, rfl⟩ := List.isPrefixOf_iff_prefix.mp begins
    -- Every mark has a byte which is not printable.
    have bad : ∃ b ∈ mark, ¬ (32 ≤ b ∧ b ≤ 126) := by
      have every : ∀ mark ∈ byte_order_marks, ∃ b ∈ mark, ¬ (32 ≤ b ∧ b ≤ 126) := by decide
      exact every mark listed
    obtain ⟨b, member, unprintable⟩ := bad
    exact unprintable (printable b (List.mem_append_left rest member))
  have nonzero : ((bytes.take 2).any fun b => decide (b = 0)) = false := by
    rw [List.any_eq_false]
    intro b member zero
    have low := (printable b (List.mem_of_mem_take member)).1
    rw [of_decide_eq_true zero] at low
    exact absurd low (by decide)
  unfold detects_utf8
  rw [unmarked, nonzero, Bool.and_false]
  rfl

theorem printable_bytes {text : List Char} (printable : ∀ c ∈ text, Json.Printable c) :
    ∀ b ∈ Utf8.encode text, 32 ≤ b ∧ b ≤ 126 := by
  intro b member
  have ascii : ∀ c ∈ text, c.toNat < 128 := by
    intro c here
    have := (printable c here).2
    omega
  rw [Utf8.encode_ascii ascii] at member
  obtain ⟨c, here, rfl⟩ := List.mem_map.mp member
  obtain ⟨low, high⟩ := printable c here
  have small := UInt8.toNat_ofNat_of_lt' (Nat.lt_of_le_of_lt high (by decide))
  rw [UInt8.le_iff_toNat_le, UInt8.le_iff_toNat_le, small]
  exact ⟨low, high⟩

variable {Key : Type} (L : JwtLibrary Key)

/-- The text of a value is read back from its bytes. -/
theorem loads_encoded {v : Value} {json : Json} (loadable : L.decoder.Loadable L.text v)
    (dumped : Json.ofValue L.text v = some json) : L.loads (Utf8.encode json.text) = some v := by
  have writable := (Json.recovers_ofValue v json loadable dumped).writable
  have printable := Json.printable_text json (Json.everyLiteral_of_writable json writable)
  have decoded : decode_utf8 (Utf8.encode json.text) = some json.text := by
    unfold decode_utf8
    have whole : Utf8.decodeIgnore (Utf8.encode json.text) = json.text := Utf8.decode_encode [] json.text
    rw [whole]
    exact if_pos rfl
  unfold JwtLibrary.loads
  rw [detects_printable (printable_bytes printable), if_pos rfl, decoded]
  exact Json.loads_ofValue loadable dumped

/-- The claims of a token are read back from its payload, whatever its header and its signature are. -/
theorem decode_unsigned_payload_compact {claims : Entries} {json : Json}
    (dumped : Json.ofValue L.text (.dict claims) = some json)
    (loadable : L.decoder.Loadable L.text (.dict claims)) (header signature : List UInt8) :
    L.decode_unsigned_payload (compact header (Utf8.encode json.text) signature) = .ok claims := by
  unfold JwtLibrary.decode_unsigned_payload
  rw [split_compact]
  dsimp only
  have bytes := Base64.urlsafe_b64decode_encode (Utf8.encode json.text)
  rw [Base64.urlsafe_b64encode] at bytes
  rw [bytes, Option.bind_some, loads_encoded L loadable dumped]

/-- The JSON of the claims of an administrator. -/
def issuedJson : Json := .obj [
  ("iss".toList.map Char.toNat, .ofString "https://idp"), ("aud".toList.map Char.toNat, .arr [.ofString "gateway"]),
  ("exp".toList.map Char.toNat, .ofInt 2), ("iat".toList.map Char.toNat, .ofInt 1),
  ("sub".toList.map Char.toNat, .ofString "ann"), ("groups".toList.map Char.toNat, .arr [.ofString "platform-admin"])]

/-- The claims of an administrator, in a token without a signature. -/
theorem decode_unsigned_payload_compact_issued :
    oneKey.decode_unsigned_payload (compact [1] (Utf8.encode issuedJson.text) []) = .ok issuedClaims := by
  apply decode_unsigned_payload_compact
  · rfl
  · have keys : issuedClaims.map Prod.fst = ["iss", "aud", "exp", "iat", "sub", "groups"].map Value.str := rfl
    refine ⟨?_, trivial, ⟨trivial, trivial⟩, trivial, trivial, trivial, ⟨trivial, trivial⟩, trivial⟩
    rw [keys]
    exact List.Nodup.map (fun _ _ same => Value.str.inj same) (by decide)

end RuntimePlatform.Auth
