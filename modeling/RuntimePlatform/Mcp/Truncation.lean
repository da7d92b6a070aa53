import RuntimePlatform.Lib.JsonAscii

/-!
The limit on the results of MCP tools. A result whose text is too long is replaced by a record with the beginning of
that text in it, which is written as a string of its own; what the record takes besides is nowhere counted.
-/

namespace RuntimePlatform.Mcp
open Json

/-- What stands in the place of a result which is too long. -/
def truncation (max_bytes : ℕ) (preview : List Char) : Json :=
  record [
    ("truncated", ofBool true),
    ("message", ofString "MCP tool result exceeded max_result_bytes"),
    ("max_result_bytes", ofInt max_bytes),
    ("preview", ofString (String.ofList preview))]

def truncate_result (payload : Json) (max_bytes : ℕ) : Json × Bool :=
  let encoded := Utf8.encode payload.text
  if encoded.length ≤ max_bytes then (payload, false)
  else (truncation max_bytes (Utf8.decodeReplace (encoded.take (min 512 max_bytes))), true)

/-- What is expected of the limit: it holds for what is returned, and a result within it is returned as it is. -/
structure Limited (payload : Json) (max_bytes : ℕ) : Prop where
  within : (truncate_result payload max_bytes).1.size ≤ max_bytes
  kept : payload.size ≤ max_bytes → (truncate_result payload max_bytes).1 = payload

/-- The decimal digits of the limit, which the record names. -/
def digits (max_bytes : ℕ) : ℕ := (Nat.toDigits 10 max_bytes).length

theorem truncate_fitting {payload : Json} {max_bytes : ℕ} (fits : payload.size ≤ max_bytes) :
    truncate_result payload max_bytes = (payload, false) := if_pos fits

theorem truncate_long {payload : Json} (literals : payload.EveryLiteral) {max_bytes : ℕ}
    (long : ¬ payload.size ≤ max_bytes) :
    truncate_result payload max_bytes = (truncation max_bytes (payload.text.take (min 512 max_bytes)), true) := by
  rw [← Utf8.decode_take_ascii (ascii_text literals)]
  exact if_neg long

theorem everyLiteral_truncation (max_bytes : ℕ) (preview : List Char) : (truncation max_bytes preview).EveryLiteral :=
  ⟨literal_bool true, trivial, literal_int _, trivial, trivial⟩

/-- The record takes 105 bytes besides the digits of the limit and the preview. -/
theorem size_truncation (max_bytes : ℕ) {preview : List Char} (printable : ∀ c ∈ preview, Printable c) :
    (truncation max_bytes preview).size = 105 + digits max_bytes + (preview.length + escapes preview) := by
  have number : (ofInt max_bytes).text.length = digits max_bytes := by
    rw [ofInt, text, toList_toString_int, if_pos (Int.natCast_nonneg _), Int.toNat_natCast, digits]
  have shown : (ofString (String.ofList preview)).text.length = preview.length + escapes preview + 2 := by
    rw [ofString, text, String.toList_ofList]
    exact length_quoted printable
  have layout : (truncation max_bytes preview).text = openBrace ::
      ((quoted ("truncated".toList.map Char.toNat) ++ ':' :: (ofBool true).text) ++
        ',' :: ((quoted ("message".toList.map Char.toNat) ++
          ':' :: (ofString "MCP tool result exceeded max_result_bytes").text) ++
        ',' :: ((quoted ("max_result_bytes".toList.map Char.toNat) ++ ':' :: (ofInt max_bytes).text) ++
        ',' :: (quoted ("preview".toList.map Char.toNat) ++
          ':' :: (ofString (String.ofList preview)).text)))) ++ [closeBrace] := rfl
  have flag : (quoted ("truncated".toList.map Char.toNat) ++ ':' :: (ofBool true).text).length = 16 := by decide
  have message : (quoted ("message".toList.map Char.toNat) ++
      ':' :: (ofString "MCP tool result exceeded max_result_bytes").text).length = 53 := by decide
  have limit : (quoted ("max_result_bytes".toList.map Char.toNat)).length = 18 := by decide
  have label : (quoted ("preview".toList.map Char.toNat)).length = 9 := by decide
  rw [size_eq (everyLiteral_truncation max_bytes preview), layout]
  rw [List.length_append, List.length_cons, List.length_append, flag, List.length_cons, List.length_append, message,
    List.length_cons, List.length_append, List.length_append, limit, List.length_cons, number, List.length_cons,
    List.length_append, label, List.length_cons, shown, List.length_singleton]
  omega

/-- What is returned in the place of a result which is too long is within the limit if and only if the record is, with
its preview of 512 characters written once more. -/
theorem size_truncate_le_iff {payload : Json} (literals : payload.EveryLiteral) {max_bytes : ℕ}
    (long : ¬ payload.size ≤ max_bytes) : (truncate_result payload max_bytes).1.size ≤ max_bytes ↔
      617 + digits max_bytes + escapes (payload.text.take 512) ≤ max_bytes := by
  have printable : ∀ c ∈ payload.text.take (min 512 max_bytes), Printable c :=
    fun c member => printable_text payload literals c (List.mem_of_mem_take member)
  have positive : 0 < digits max_bytes := Nat.length_toDigits_pos
  rw [truncate_long literals long, size_truncation max_bytes printable, List.length_take]
  rw [size_eq literals] at long
  by_cases wide : 512 ≤ max_bytes
  · have whole : min 512 max_bytes = 512 := Nat.min_eq_left wide
    rw [whole, Nat.min_eq_left (by omega)]
    omega
  · have clipped : min 512 max_bytes = max_bytes := Nat.min_eq_right (by omega)
    rw [clipped, Nat.min_eq_left (by omega)]
    omega

/-- The limit is kept if and only if the result fits, or the limit has room for the record and for a preview of 512
characters with a backslash for each quote and backslash among them. -/
theorem limited_iff (payload : Json) (literals : payload.EveryLiteral) (max_bytes : ℕ) :
    Limited payload max_bytes ↔
      payload.size ≤ max_bytes ∨ 617 + digits max_bytes + escapes (payload.text.take 512) ≤ max_bytes := by
  by_cases fits : payload.size ≤ max_bytes
  · have same : (truncate_result payload max_bytes).1 = payload := congrArg Prod.fst (truncate_fitting fits)
    refine iff_of_true ⟨?_, fun _ => same⟩ (Or.inl fits)
    rw [same]
    exact fits
  · rw [or_iff_right fits, ← size_truncate_le_iff literals fits]
    exact ⟨Limited.within, fun within => ⟨within, fun fitting => absurd fitting fits⟩⟩

/-- A text of a hundred letters. -/
def hundredLetters : Json := .str (List.replicate 100 120)

/-- It fits into 128 bytes, and a text of seven hundred is cut to fit into 700. -/
theorem hundredLetters_limited : Limited hundredLetters 128 ∧ Limited (.str (List.replicate 700 120)) 700 :=
  ⟨(limited_iff hundredLetters trivial 128).mpr (Or.inl (by decide +kernel)),
    (limited_iff (.str (List.replicate 700 120)) trivial 700).mpr (Or.inr (by decide +kernel))⟩

/-- With the least limit which the configuration admits, what is returned is longer than the limit, and longer than the
result itself. -/
theorem hundredLetters_not_limited : ¬ Limited hundredLetters 64 := by
  intro limited
  have literals : hundredLetters.EveryLiteral := trivial
  have room := (size_truncate_le_iff literals (by decide +kernel)).mp limited.within
  omega

/-! Which limits are kept whatever the tools answer. -/

/-- From 1133 bytes on, the record always fits. -/
theorem limited_of_large {payload : Json} (literals : payload.EveryLiteral) {max_bytes : ℕ} (large : 1133 ≤ max_bytes) :
    (truncate_result payload max_bytes).1.size ≤ max_bytes := by
  by_cases fits : payload.size ≤ max_bytes
  · rw [truncate_fitting fits]
    exact fits
  · have escaped : escapes (payload.text.take 512) ≤ 512 :=
      List.countP_le_length.trans (List.length_take_le 512 payload.text)
    have growth : ∀ k, k + 1133 < 10 ^ (k + 4) := by
      intro k
      induction k with
      | zero => decide
      | succ k ih =>
          rw [pow_succ]
          omega
    have short : digits max_bytes ≤ max_bytes - 1129 := by
      rw [digits, Nat.length_toDigits_le_iff (by decide) (by omega)]
      have room := growth (max_bytes - 1133)
      rw [Nat.sub_add_cancel large] at room
      exact room.trans_eq (congrArg (10 ^ ·) (by omega))
    rw [size_truncate_le_iff literals fits]
    omega

/-- Below 620 bytes it never fits. -/
theorem not_limited_of_small {payload : Json} (literals : payload.EveryLiteral) {max_bytes : ℕ}
    (long : ¬ payload.size ≤ max_bytes) (small : max_bytes < 620) :
    max_bytes < (truncate_result payload max_bytes).1.size := by
  rw [← Nat.not_le, size_truncate_le_iff literals long]
  intro room
  have many : digits max_bytes ≤ 2 := by omega
  rw [digits, Nat.length_toDigits_le_iff (by decide) (by decide)] at many
  omega

end RuntimePlatform.Mcp
