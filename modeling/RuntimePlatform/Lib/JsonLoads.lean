import RuntimePlatform.Lib.JsonObjects
import RuntimePlatform.Lib.JsonValues

/-!
The Python values of JSON: what `json.loads` makes of a text, and that it gives back what `json.dumps` has written. The
limits of CPython on the depth of a value and on the digits of an integer are left out.
-/

namespace Json
open Python

/-- What the decoder takes from elsewhere: `float(text)`, and the texts which hold half of a pair, which no `String`
does. -/
structure Decoder where
  float : String → Double
  unpaired : List ℕ → String

/-- `int(text)`, for the digits of a literal. -/
def intLiteral : List Char → ℤ
  | '-' :: digits => -(Nat.ofDigitChars 10 digits 0)
  | digits => Nat.ofDigitChars 10 digits 0

/-- A number has a fraction or an exponent. -/
def isFractional (literal : List Char) : Bool := decide ('.' ∈ literal ∨ 'e' ∈ literal ∨ 'E' ∈ literal)

namespace Decoder
variable (L : Decoder)

def literal (chars : List Char) : Value :=
  if chars = "null".toList then .none
  else if chars = "true".toList then .bool true
  else if chars = "false".toList then .bool false
  else if chars = "NaN".toList then .float .nan
  else if chars = "Infinity".toList then .float (.inf false)
  else if chars = "-Infinity".toList then .float (.inf true)
  else if isFractional chars then .float (L.float (String.ofList chars))
  else .int (intLiteral chars)

def string (codes : List ℕ) : String :=
  if ∀ n ∈ codes, n.isValidChar then String.ofList (codes.map Char.ofNat) else L.unpaired codes

mutual
/-- The value, once its objects are dicts. -/
def value : Json → Value
  | .atom chars => L.literal chars
  | .str codes => .str (L.string codes)
  | .arr items => .list (values items)
  | .obj members => .dict (entries members)
def values : List Json → List Value
  | [] => []
  | v :: rest => value v :: values rest
def entries : List (List ℕ × Json) → Entries
  | [] => []
  | (key, v) :: rest => (.str (L.string key), value v) :: entries rest
end

/-- `json.loads(text)`, if there is no `JSONDecodeError`. -/
def loads (text : List Char) : Option Value := (Json.loads text).map L.value

end Decoder

mutual
/-- The JSON of a value, if `json.dumps` has one for it; the keys of dicts are texts. -/
def ofValue (T : Text) : Value → Option Json
  | .none => some null
  | .bool b => some (ofBool b)
  | .int n => some (ofInt n)
  | .float x => some (ofFloat T x)
  | .str s => some (ofString s)
  | .list items => (ofValues T items).map Json.arr
  | .dict entries => (ofEntries T entries).map Json.obj
  | .bytes _ | .object _ => none
def ofValues (T : Text) : List Value → Option (List Json)
  | [] => some []
  | v :: rest => (ofValue T v).bind fun first => (ofValues T rest).map fun others => first :: others
def ofEntries (T : Text) : List (Value × Value) → Option Members
  | [] => some []
  | (.str key, v) :: rest => (ofValue T v).bind fun first =>
      (ofEntries T rest).map fun others => (key.toList.map Char.toNat, first) :: others
  | _ :: _ => none
end

/-- `float(repr(x))` is `x`, and JSON writes it so. -/
structure Decoder.ReadsFloat (L : Decoder) (T : Text) (x : Finite) : Prop where
  literal : FloatLiteral (T.repr (.float (.finite x)))
  read : L.float (T.repr (.float (.finite x))) = .finite x

mutual
/-- The keys of every dict in the value are distinct, and its floats are read back. -/
def Decoder.Loadable (L : Decoder) (T : Text) : Value → Prop
  | .float (.finite x) => L.ReadsFloat T x
  | .list items => L.AllLoadable T items
  | .dict entries => (entries.map Prod.fst).Nodup ∧ L.EntriesLoadable T entries
  | _ => True
def Decoder.AllLoadable (L : Decoder) (T : Text) : List Value → Prop
  | [] => True
  | v :: rest => L.Loadable T v ∧ L.AllLoadable T rest
def Decoder.EntriesLoadable (L : Decoder) (T : Text) : List (Value × Value) → Prop
  | [] => True
  | (_, v) :: rest => L.Loadable T v ∧ L.EntriesLoadable T rest
end

/-! Literals are read back. -/

variable {L : Decoder} {T : Text}

theorem string_ofString (s : String) : L.string (s.toList.map Char.toNat) = s := by
  have valid : ∀ n ∈ s.toList.map Char.toNat, n.isValidChar := by
    intro n member
    obtain ⟨c, _, rfl⟩ := List.mem_map.mp member
    exact c.valid
  unfold Decoder.string
  rw [if_pos valid, List.map_map]
  have same : s.toList.map (Char.ofNat ∘ Char.toNat) = s.toList := by
    conv_rhs => rw [← List.map_id s.toList]
    exact List.map_congr_left fun c _ => Char.ofNat_toNat c
  rw [same, String.ofList_toList]

theorem literal_ofBool (b : Bool) : L.literal (if b then "true" else "false").toList = .bool b := by
  cases b with
  | true => rfl
  | false => rfl

/-- A literal of digits, or of a sign and digits, is none of the names, and has no fraction. -/
theorem literal_digits {chars : List Char} (digits : ∀ c ∈ chars, c = '-' ∨ c.isDigit = true) :
    L.literal chars = .int (intLiteral chars) := by
  have absent : ∀ c, c ≠ '-' → c.isDigit = false → c ∉ chars := by
    intro c sign digit member
    rcases digits c member with minus | number
    · exact sign minus
    · exact absurd number (digit ▸ Bool.false_ne_true)
  have plain : isFractional chars = false := by
    refine decide_eq_false fun fractional => ?_
    rcases fractional with point | small | large
    · exact absent '.' (by decide) (by decide) point
    · exact absent 'e' (by decide) (by decide) small
    · exact absent 'E' (by decide) (by decide) large
  have other : ∀ (name : String) (c : Char), c ∈ name.toList → c ≠ '-' → c.isDigit = false → chars ≠ name.toList := by
    intro name c member sign digit same
    exact absent c sign digit (same ▸ member)
  unfold Decoder.literal
  rw [if_neg (other "null" 'n' (by decide) (by decide) (by decide)),
    if_neg (other "true" 't' (by decide) (by decide) (by decide)),
    if_neg (other "false" 'f' (by decide) (by decide) (by decide)),
    if_neg (other "NaN" 'N' (by decide) (by decide) (by decide)),
    if_neg (other "Infinity" 'I' (by decide) (by decide) (by decide)),
    if_neg (other "-Infinity" 'I' (by decide) (by decide) (by decide)), plain]
  rfl

theorem literal_ofInt (n : ℤ) : L.literal (toString n).toList = .int n := by
  rw [literal_digits fun c => mem_literal_int, toList_toString_int]
  have number : ∀ m : ℕ, ((Nat.ofDigitChars 10 (Nat.toDigits 10 m) 0 : ℕ) : ℤ) = m := by
    intro m
    rw [Nat.ofDigitChars_ten_toDigits]
  split
  · next nonneg =>
    have unsigned : intLiteral (Nat.toDigits 10 n.toNat) = Nat.ofDigitChars 10 (Nat.toDigits 10 n.toNat) 0 := by
      unfold intLiteral
      split
      · next digits same =>
        have minus : '-' ∈ Nat.toDigits 10 n.toNat := same ▸ List.mem_cons_self
        exact absurd (isDigit_of_mem_toDigits minus) (by decide)
      · rfl
    rw [unsigned, number, Int.toNat_of_nonneg nonneg]
  · next negative =>
    change Value.int (-((Nat.ofDigitChars 10 (Nat.toDigits 10 (-n).toNat) 0 : ℕ) : ℤ)) = _
    rw [number, Int.toNat_of_nonneg (by omega), neg_neg]

theorem literal_words : L.literal "Infinity".toList = .float (.inf false) ∧
    L.literal "-Infinity".toList = .float (.inf true) ∧ L.literal "NaN".toList = .float .nan := by
  refine ⟨?_, ?_, ?_⟩
  · rfl
  · rfl
  · rfl

theorem literal_ofFloat {x : Finite} (reads : L.ReadsFloat T x) :
    L.literal (T.repr (.float (.finite x))).toList = .float (.finite x) := by
  have number := reads.literal.number
  have other : ∀ name : List Char, isNumber name = false → (T.repr (.float (.finite x))).toList ≠ name := by
    rintro _ no_number rfl
    exact absurd number (no_number ▸ Bool.false_ne_true)
  have fractional : isFractional (T.repr (.float (.finite x))).toList = true :=
    decide_eq_true (reads.literal.fractional.imp_right Or.inl)
  unfold Decoder.literal
  rw [if_neg (other _ (by decide)), if_neg (other _ (by decide)), if_neg (other _ (by decide)),
    if_neg (other _ (by decide)), if_neg (other _ (by decide)), if_neg (other _ (by decide)), if_pos fractional,
    String.ofList_toList, reads.read]

/-! Values are read back. -/

/-- The JSON of the value is written and read back, and stands for the value. -/
structure Decoder.Recovers (L : Decoder) (v : Value) (json : Json) : Prop where
  writable : json.Writable
  distinct : json.DistinctKeys
  value : L.value json = v

theorem recovers_ofFloat {x : Double} (loadable : L.Loadable T (.float x)) :
    L.Recovers (.float x) (ofFloat T x) := by
  cases x with
  | finite x =>
      have reads : L.ReadsFloat T x := loadable
      exact ⟨reads.literal.literal, trivial, literal_ofFloat reads⟩
  | inf negative =>
      cases negative with
      | false => exact ⟨literal_infinite.1, trivial, literal_words.1⟩
      | true => exact ⟨literal_infinite.2.1, trivial, literal_words.2.1⟩
  | nan => exact ⟨literal_infinite.2.2, trivial, literal_words.2.2⟩

/-- The keys of the members are those of the entries. -/
theorem ofEntries_keys {entries : List (Value × Value)} {members : Members}
    (dumped : ofEntries T entries = some members) :
    entries.map Prod.fst = members.map fun member => Value.str (L.string member.1) := by
  induction entries generalizing members with
  | nil =>
      cases dumped
      rfl
  | cons entry rest ih =>
      obtain ⟨key, v⟩ := entry
      cases key with
      | str key =>
          obtain ⟨first, _, later⟩ := Option.bind_eq_some_iff.mp dumped
          obtain ⟨others, dumped', rfl⟩ := Option.map_eq_some_iff.mp later
          rw [List.map_cons, List.map_cons, ih dumped', string_ofString]
      | _ => cases dumped

mutual
theorem recovers_ofValue : ∀ (v : Value) (json : Json), L.Loadable T v → ofValue T v = some json → L.Recovers v json
  | .none, _, _, dumped => by
      cases dumped
      exact ⟨literal_null, trivial, rfl⟩
  | .bool b, _, _, dumped => by
      cases dumped
      exact ⟨literal_bool b, trivial, literal_ofBool b⟩
  | .int n, _, _, dumped => by
      cases dumped
      exact ⟨literal_int n, trivial, literal_ofInt n⟩
  | .float x, _, loadable, dumped => by
      cases dumped
      exact recovers_ofFloat loadable
  | .str s, _, _, dumped => by
      cases dumped
      exact ⟨writable_ofString s, trivial, congrArg Value.str (string_ofString s)⟩
  | .bytes _, _, _, dumped => nomatch dumped
  | .object _, _, _, dumped => nomatch dumped
  | .list items, _, loadable, dumped => by
      obtain ⟨array, inner, rfl⟩ := Option.map_eq_some_iff.mp dumped
      obtain ⟨writable, distinct, same⟩ := recovers_ofValues items array loadable inner
      exact ⟨writable, distinct, congrArg Value.list same⟩
  | .dict entries, _, loadable, dumped => by
      obtain ⟨members, inner, rfl⟩ := Option.map_eq_some_iff.mp dumped
      obtain ⟨writable, distinct, same⟩ := recovers_ofEntries entries members loadable.2 inner
      have keys : (members.map fun member => Value.str (L.string member.1)).Nodup := ofEntries_keys inner ▸ loadable.1
      have codes : ((members.map Prod.fst).map fun codes => Value.str (L.string codes)).Nodup := by
        rw [List.map_map]
        exact keys
      have nodup : (members.map Prod.fst).Nodup := codes.of_map
      exact ⟨writable, ⟨nodup, distinct⟩, congrArg Value.dict same⟩
theorem recovers_ofValues : ∀ (items : List Value) (array : List Json), L.AllLoadable T items →
    ofValues T items = some array → AllWritable array ∧ AllDistinctKeys array ∧ L.values array = items
  | [], _, _, dumped => by
      cases dumped
      exact ⟨trivial, trivial, rfl⟩
  | v :: rest, _, loadable, dumped => by
      obtain ⟨first, written, later⟩ := Option.bind_eq_some_iff.mp dumped
      obtain ⟨others, rest_written, rfl⟩ := Option.map_eq_some_iff.mp later
      have here := recovers_ofValue v first loadable.1 written
      obtain ⟨writable, distinct, same⟩ := recovers_ofValues rest others loadable.2 rest_written
      exact ⟨⟨here.writable, writable⟩, ⟨here.distinct, distinct⟩, congrArg₂ List.cons here.value same⟩
theorem recovers_ofEntries : ∀ (entries : List (Value × Value)) (members : Members), L.EntriesLoadable T entries →
    ofEntries T entries = some members →
      MembersWritable members ∧ MembersDistinctKeys members ∧ L.entries members = entries
  | [], _, _, dumped => by
      cases dumped
      exact ⟨trivial, trivial, rfl⟩
  | (.str key, v) :: rest, _, loadable, dumped => by
      obtain ⟨first, written, later⟩ := Option.bind_eq_some_iff.mp dumped
      obtain ⟨others, rest_written, rfl⟩ := Option.map_eq_some_iff.mp later
      have here := recovers_ofValue v first loadable.1 written
      obtain ⟨writable, distinct, same⟩ := recovers_ofEntries rest others loadable.2 rest_written
      refine ⟨⟨writable_ofString key, here.writable, writable⟩, ⟨here.distinct, distinct⟩, ?_⟩
      exact congrArg₂ List.cons (Prod.ext (congrArg Value.str (string_ofString key)) here.value) same
end

/-- What is written for a value is read back as the value. -/
theorem loads_ofValue {v : Value} {json : Json} (loadable : L.Loadable T v) (dumped : ofValue T v = some json) :
    L.loads json.text = some v := by
  have recovers := recovers_ofValue v json loadable dumped
  rw [Decoder.loads, Json.loads, read_text recovers.writable, Option.map_some, Option.map_some,
    dict_of_distinct json recovers.distinct, recovers.value]

end Json
