import RuntimePlatform.Lib.JsonValues
import RuntimePlatform.Lib.Utf8

/-!
The texts which `json.dumps` writes are printable ASCII: one byte a character. How long such a text becomes when it is
written once more, as a string.
-/

namespace Utf8

theorem encode_ascii {text : List Char} (ascii : ∀ c ∈ text, c.toNat < 128) :
    encode text = text.map fun c => UInt8.ofNat c.toNat := by
  induction text with
  | nil => rfl
  | cons c text ih =>
      rw [List.forall_mem_cons] at ascii
      have byte : encodeChar c = [UInt8.ofNat c.toNat] := if_pos ascii.1
      rw [List.map_cons, ← ih ascii.2, encode, List.flatMap_cons, byte]
      rfl

theorem length_encode_ascii {text : List Char} (ascii : ∀ c ∈ text, c.toNat < 128) :
    (encode text).length = text.length := by
  rw [encode_ascii ascii, List.length_map]

/-- A prefix of the bytes is one of the characters. -/
theorem decode_take_ascii {text : List Char} (ascii : ∀ c ∈ text, c.toNat < 128) (n : ℕ) :
    decodeReplace ((encode text).take n) = text.take n := by
  have prefixed : (encode text).take n = encode (text.take n) := by
    rw [encode_ascii ascii, encode_ascii fun c member => ascii c (List.mem_of_mem_take member), List.map_take]
  rw [prefixed]
  exact decode_encode _ _

end Utf8

namespace Json

mutual
/-- The literals in the value are literals; its strings are any code points. -/
def EveryLiteral : Json → Prop
  | .atom literal => Literal literal
  | .str _ => True
  | .arr items => AllEveryLiteral items
  | .obj members => MembersEveryLiteral members
def AllEveryLiteral : List Json → Prop
  | [] => True
  | v :: rest => EveryLiteral v ∧ AllEveryLiteral rest
def MembersEveryLiteral : List (List ℕ × Json) → Prop
  | [] => True
  | (_, v) :: rest => EveryLiteral v ∧ MembersEveryLiteral rest
end

mutual
theorem everyLiteral_of_writable : ∀ v : Json, v.Writable → v.EveryLiteral
  | .atom _, writable => writable
  | .str _, _ => trivial
  | .arr items, writable => allEveryLiteral_of_writable items writable
  | .obj members, writable => membersEveryLiteral_of_writable members writable
theorem allEveryLiteral_of_writable : ∀ items : List Json, AllWritable items → AllEveryLiteral items
  | [], _ => trivial
  | v :: rest, writable => ⟨everyLiteral_of_writable v writable.1, allEveryLiteral_of_writable rest writable.2⟩
theorem membersEveryLiteral_of_writable : ∀ members : List (List ℕ × Json), MembersWritable members →
    MembersEveryLiteral members
  | [], _ => trivial
  | (_, v) :: rest, writable =>
    ⟨everyLiteral_of_writable v writable.2.1, membersEveryLiteral_of_writable rest writable.2.2⟩
end

/-! Every character is printable. -/

/-- A printable ASCII character. -/
def Printable (c : Char) : Prop := 32 ≤ c.toNat ∧ c.toNat ≤ 126

theorem printable_of_literal {c : Char} (literal : isLiteralChar c = true) : Printable c := by
  change (((decide (c.val ≥ 65 ∧ c.val ≤ 90) || decide (c.val ≥ 97) && decide (c.val ≤ 122)) ||
    decide (c.val ≥ 48) && decide (c.val ≤ 57)) || decide (c = '+' ∨ c = '-' ∨ c = '.')) = true at literal
  simp only [Bool.or_eq_true, Bool.and_eq_true, decide_eq_true_eq, UInt32.le_iff_toNat_le, ge_iff_le] at literal
  change (((65 ≤ c.toNat ∧ c.toNat ≤ 90) ∨ (97 ≤ c.toNat ∧ c.toNat ≤ 122)) ∨ (48 ≤ c.toNat ∧ c.toNat ≤ 57)) ∨
    (c = '+' ∨ c = '-' ∨ c = '.') at literal
  unfold Printable
  rcases literal with ((upper | lower) | digit) | rfl | rfl | rfl
  · omega
  · omega
  · omega
  · decide
  · decide
  · decide

theorem printable_hexDigit (n : ℕ) : Printable (hexDigit n) := by
  have digits : ∀ k < 16, Printable ("0123456789abcdef".toList.getD k '0') := by
    unfold Printable
    decide
  exact digits (n % 16) (Nat.mod_lt n (by decide))

theorem printable_backslash : Printable backslash := ⟨by decide, by decide⟩

theorem printable_quote : Printable quote := ⟨by decide, by decide⟩

theorem printable_escapeUnit (n : ℕ) : ∀ c ∈ escapeUnit n, Printable c := by
  have letter : Printable 'u' := ⟨by decide, by decide⟩
  unfold escapeUnit
  simp only [List.forall_mem_cons, printable_hexDigit, printable_backslash, letter, List.not_mem_nil, false_implies,
    implies_true, and_true]

theorem toNat_ofNat_small {n : ℕ} (high : n ≤ 126) : (Char.ofNat n).toNat = n := by
  have valid : n.isValidChar := Or.inl (by omega)
  rw [Char.ofNat, dif_pos valid]
  rfl

/-- An escape of one letter. -/
theorem printable_short {c : Char} (letter : Printable c) : ∀ d ∈ [backslash, c], Printable d :=
  List.forall_mem_cons.mpr ⟨printable_backslash, List.forall_mem_singleton.mpr letter⟩

theorem printable_escapePoint (n : ℕ) : ∀ c ∈ escapePoint n, Printable c := by
  have code (low : 32 ≤ n) (high : n ≤ 126) : Printable (Char.ofNat n) := by
    rw [Printable, toNat_ofNat_small high]
    exact ⟨low, high⟩
  unfold escapePoint
  split_ifs with special printed
  · exact printable_short (code (by omega) (by omega))
  · exact List.forall_mem_singleton.mpr (code printed.1 printed.2)
  · exact printable_short ⟨by decide, by decide⟩
  · exact printable_short ⟨by decide, by decide⟩
  · exact printable_short ⟨by decide, by decide⟩
  · exact printable_short ⟨by decide, by decide⟩
  · exact printable_short ⟨by decide, by decide⟩
  · exact printable_escapeUnit n
  · exact List.forall_mem_append.mpr ⟨printable_escapeUnit _, printable_escapeUnit _⟩

theorem printable_quoted (codes : List ℕ) : ∀ c ∈ quoted codes, Printable c := by
  unfold quoted
  rw [List.cons_append, List.forall_mem_cons, List.forall_mem_append, List.forall_mem_flatMap]
  exact ⟨printable_quote, fun n _ => printable_escapePoint n, List.forall_mem_singleton.mpr printable_quote⟩

theorem printable_separated {parts : List (List Char)} (each : ∀ part ∈ parts, ∀ c ∈ part, Printable c) :
    ∀ c ∈ separated parts, Printable c := by
  fun_induction separated parts with
  | case1 => exact List.forall_mem_nil _
  | case2 part => exact each part List.mem_cons_self
  | case3 part rest _ ih =>
      rw [List.forall_mem_cons] at each
      rw [List.forall_mem_append, List.forall_mem_cons]
      exact ⟨each.1, ⟨by decide, by decide⟩, ih each.2⟩

/-- What stands between two brackets. -/
theorem printable_bracketed {first last : Char} {inner : List Char} (opened : Printable first) (closed : Printable last)
    (each : ∀ c ∈ inner, Printable c) : ∀ c ∈ first :: inner ++ [last], Printable c := by
  rw [List.cons_append, List.forall_mem_cons, List.forall_mem_append]
  exact ⟨opened, each, List.forall_mem_singleton.mpr closed⟩

mutual
theorem printable_text : ∀ v : Json, v.EveryLiteral → ∀ c ∈ v.text, Printable c
  | .atom _, literal => fun c member => printable_of_literal (literal.chars c member)
  | .str codes, _ => printable_quoted codes
  | .arr items, literals => by
      rw [text]
      exact printable_bracketed ⟨by decide, by decide⟩ ⟨by decide, by decide⟩
        (printable_separated (printable_texts items literals))
  | .obj members, literals => by
      rw [text]
      exact printable_bracketed ⟨by decide, by decide⟩ ⟨by decide, by decide⟩
        (printable_separated (printable_memberTexts members literals))
theorem printable_texts : ∀ items : List Json, AllEveryLiteral items → ∀ part ∈ texts items, ∀ c ∈ part, Printable c
  | [], _ => by
      rw [texts]
      exact List.forall_mem_nil _
  | v :: rest, literals => by
      rw [texts, List.forall_mem_cons]
      exact ⟨printable_text v literals.1, printable_texts rest literals.2⟩
theorem printable_memberTexts : ∀ members : List (List ℕ × Json), MembersEveryLiteral members →
    ∀ part ∈ memberTexts members, ∀ c ∈ part, Printable c
  | [], _ => by
      rw [memberTexts]
      exact List.forall_mem_nil _
  | (key, v) :: rest, literals => by
      rw [memberTexts, List.forall_mem_cons, List.forall_mem_append, List.forall_mem_cons]
      exact ⟨⟨printable_quoted key, ⟨by decide, by decide⟩, printable_text v literals.1⟩,
        printable_memberTexts rest literals.2⟩
end

/-! Sizes. -/

/-- The bytes of the text which is written for the value. -/
def size (v : Json) : ℕ := (Utf8.encode v.text).length

/-- How many characters are written behind a backslash. -/
def escapes (text : List Char) : ℕ := text.countP fun c => decide (c = quote ∨ c = backslash)

theorem ascii_text {v : Json} (literals : v.EveryLiteral) : ∀ c ∈ v.text, c.toNat < 128 :=
  fun c member => Nat.lt_of_le_of_lt (printable_text v literals c member).2 (by decide)

theorem size_eq {v : Json} (literals : v.EveryLiteral) : v.size = v.text.length :=
  Utf8.length_encode_ascii (ascii_text literals)

theorem length_escapePoint {c : Char} (printable : Printable c) :
    (escapePoint c.toNat).length = 1 + if c = quote ∨ c = backslash then 1 else 0 := by
  have special : c.toNat = 34 ∨ c.toNat = 92 ↔ c = quote ∨ c = backslash := by
    rw [← Char.toNat_inj (d := quote), ← Char.toNat_inj (d := backslash)]
    rfl
  unfold Printable at printable
  unfold escapePoint
  by_cases marked : c = quote ∨ c = backslash
  · rw [if_pos (special.mpr marked), if_pos marked]
    rfl
  · rw [if_neg (fun known => marked (special.mp known)), if_pos printable, if_neg marked]
    rfl

/-- A printable text which is written as a string gets its quotes, and a backslash before each mark in it. -/
theorem length_quoted {text : List Char} (printable : ∀ c ∈ text, Printable c) :
    (quoted (text.map Char.toNat)).length = text.length + escapes text + 2 := by
  have inner : ((text.map Char.toNat).flatMap escapePoint).length = text.length + escapes text := by
    induction text with
    | nil => rfl
    | cons c text ih =>
        rw [List.forall_mem_cons] at printable
        rw [List.map_cons, List.flatMap_cons, List.length_append, ih printable.2, length_escapePoint printable.1,
          escapes, escapes, List.countP_cons, List.length_cons]
        simp only [decide_eq_true_eq]
        omega
  unfold quoted
  rw [List.length_append, List.length_cons, inner]
  rfl

end Json
