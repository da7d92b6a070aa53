import Mathlib.Data.List.TakeWhile
import Mathlib.Data.List.Lex
import Mathlib.Data.List.Sort
import RuntimePlatform.Lib.Dict
import RuntimePlatform.Lib.JsonWriter
import RuntimePlatform.Lib.Python

/-!
Python values as JSON: what `json.dumps` writes for texts, numbers, flags, `None` and records, and for objects whose
keys it sorts. The printing of floats is a parameter.
-/

namespace Json
open Python

/-! Texts, integers and names as values. -/

def ofString (s : String) : Json := .str (s.toList.map Char.toNat)

def ofInt (n : ℤ) : Json := .atom (toString n).toList

def ofBool (b : Bool) : Json := .atom (if b then "true" else "false").toList

def null : Json := .atom "null".toList

theorem writable_ofString (s : String) : (ofString s).Writable := by
  intro n member
  obtain ⟨c, _, rfl⟩ := List.mem_map.mp member
  have valid : c.toNat.isValidChar := c.valid
  unfold Scalar
  rcases valid with low | ⟨high, bound⟩
  · exact Or.inl low
  · exact Or.inr ⟨high, bound⟩

theorem ofString_inj {s t : String} : ofString s = ofString t ↔ s = t := by
  constructor
  · intro same
    have codes : s.toList.map Char.toNat = t.toList.map Char.toNat := Json.str.inj same
    have chars := List.map_injective_iff.mpr (fun _ _ equal => Char.toNat_inj.mp equal) codes
    exact String.toList_injective chars
  · rintro rfl
    rfl

/-- The decimal digits of a number have no leading zero. -/
theorem toDigits_head {n : ℕ} (positive : 0 < n) : ∃ c rest, Nat.toDigits 10 n = c :: rest ∧ c ≠ '0' := by
  induction n using Nat.strongRecOn with
  | _ n ih =>
      by_cases small : n < 10
      · have digits : ∀ d < 10, 0 < d → Nat.digitChar d ≠ '0' := by decide
        exact ⟨Nat.digitChar n, [], Nat.toDigits_of_lt_base small, digits n small positive⟩
      · obtain ⟨c, rest, digits, nonzero⟩ := ih (n / 10) (by omega) (by omega)
        refine ⟨c, rest ++ [Nat.digitChar (n % 10)], ?_, nonzero⟩
        rw [Nat.toDigits_of_base_le (by decide) (not_lt.mp small), digits]
        rfl

theorem afterDigits_digits {digits : List Char} (some_digit : digits ≠ []) (all : ∀ c ∈ digits, c.isDigit = true) :
    afterDigits digits = some [] := by
  cases digits with
  | nil => exact absurd rfl some_digit
  | cons c rest =>
      obtain ⟨here, later⟩ := List.forall_mem_cons.mp all
      rw [afterDigits, if_pos here, List.dropWhile_eq_nil_iff.mpr later]

theorem isDigit_of_mem_toDigits {n : ℕ} {c : Char} (member : c ∈ Nat.toDigits 10 n) : c.isDigit = true :=
  Nat.isDigit_of_mem_toDigits (by decide) le_rfl member

theorem isUnsigned_toDigits (n : ℕ) : isUnsigned (Nat.toDigits 10 n) = true := by
  have whole : afterInteger (Nat.toDigits 10 n) = some [] := by
    rcases Nat.eq_zero_or_pos n with rfl | positive
    · rfl
    · obtain ⟨c, rest, digits, nonzero⟩ := toDigits_head positive
      have all := afterDigits_digits (Nat.toDigits_ne_nil) fun c => isDigit_of_mem_toDigits (n := n) (c := c)
      rw [digits] at all ⊢
      unfold afterInteger
      split
      · rename_i equal
        exact absurd (List.cons.inj equal).1 nonzero
      · exact all
  rw [isUnsigned, whole]
  rfl

theorem isLiteralChar_of_digit {c : Char} (digit : c.isDigit = true) : isLiteralChar c = true := by
  simp [isLiteralChar, Char.isAlphanum, digit]

theorem isNumber_of_unsigned {literal : List Char} (unsigned : isUnsigned literal = true)
    (digits : ∀ c ∈ literal, c.isDigit = true) : isNumber literal = true := by
  unfold isNumber
  split
  · rename_i rest
    exact absurd (digits '-' List.mem_cons_self) (by decide)
  · exact unsigned

theorem literal_toDigits (n : ℕ) : Literal (Nat.toDigits 10 n) where
  known := by
    rw [isLiteral, isNumber_of_unsigned (isUnsigned_toDigits n) fun c => isDigit_of_mem_toDigits, Bool.or_true]
  chars c member := isLiteralChar_of_digit (isDigit_of_mem_toDigits member)

theorem literal_minus_toDigits (n : ℕ) : Literal ('-' :: Nat.toDigits 10 n) where
  known := by
    have number : isNumber ('-' :: Nat.toDigits 10 n) = true := isUnsigned_toDigits n
    rw [isLiteral, number, Bool.or_true]
  chars c member := by
    rcases List.mem_cons.mp member with rfl | digit
    · decide
    · exact isLiteralChar_of_digit (isDigit_of_mem_toDigits digit)

/-- The literal of an integer: its digits, behind a sign if it is negative. -/
theorem toList_toString_int (n : ℤ) : (toString n).toList =
    if 0 ≤ n then Nat.toDigits 10 n.toNat else '-' :: Nat.toDigits 10 (-n).toNat := by
  rw [Int.toString_eq_repr, Int.repr_eq_if]
  split
  · exact Nat.toList_repr
  · rw [String.toList_append, Nat.toList_repr]
    rfl

theorem literal_int (n : ℤ) : Literal (toString n).toList := by
  rw [toList_toString_int]
  split
  · exact literal_toDigits _
  · exact literal_minus_toDigits _

theorem toDigits_inj {m n : ℕ} (same : Nat.toDigits 10 m = Nat.toDigits 10 n) : m = n := by
  have values := congrArg (fun digits => Nat.ofDigitChars 10 digits 0) same
  simpa only [Nat.ofDigitChars_ten_toDigits] using values

theorem minus_ne_toDigits (m n : ℕ) : '-' :: Nat.toDigits 10 m ≠ Nat.toDigits 10 n := by
  intro same
  have minus : '-' ∈ Nat.toDigits 10 n := same ▸ List.mem_cons_self
  exact absurd (isDigit_of_mem_toDigits minus) (by decide)

theorem ofInt_inj {m n : ℤ} : ofInt m = ofInt n ↔ m = n := by
  constructor
  · intro same
    have literals : (toString m).toList = (toString n).toList := Json.atom.inj same
    rw [toList_toString_int, toList_toString_int] at literals
    by_cases m_nonneg : 0 ≤ m
    · by_cases n_nonneg : 0 ≤ n
      · rw [if_pos m_nonneg, if_pos n_nonneg] at literals
        have := toDigits_inj literals
        omega
      · rw [if_pos m_nonneg, if_neg n_nonneg] at literals
        exact absurd literals.symm (minus_ne_toDigits _ _)
    · by_cases n_nonneg : 0 ≤ n
      · rw [if_neg m_nonneg, if_pos n_nonneg] at literals
        exact absurd literals (minus_ne_toDigits _ _)
      · rw [if_neg m_nonneg, if_neg n_nonneg] at literals
        have := toDigits_inj (List.cons.inj literals).2
        omega
  · rintro rfl
    rfl

/-- The characters of an integer are digits and a sign. -/
theorem mem_literal_int {n : ℤ} {c : Char} (member : c ∈ (toString n).toList) : c = '-' ∨ c.isDigit = true := by
  rw [toList_toString_int] at member
  split at member
  · exact Or.inr (isDigit_of_mem_toDigits member)
  · rcases List.mem_cons.mp member with minus | digit
    · exact Or.inl minus
    · exact Or.inr (isDigit_of_mem_toDigits digit)

theorem literal_bool (b : Bool) : Literal (if b then "true" else "false").toList := by
  cases b with
  | false => exact ⟨by decide, List.all_eq_true.mp (by decide)⟩
  | true => exact ⟨by decide, List.all_eq_true.mp (by decide)⟩

theorem literal_null : Literal "null".toList := ⟨by decide, List.all_eq_true.mp (by decide)⟩

theorem writable_ofInt (n : ℤ) : (ofInt n).Writable := literal_int n

theorem writable_ofBool (b : Bool) : (ofBool b).Writable := literal_bool b

theorem ofBool_inj {a b : Bool} : ofBool a = ofBool b ↔ a = b := by
  cases a with
  | false => cases b <;> simp [ofBool]
  | true => cases b <;> simp [ofBool]

theorem texts_eq (items : List Json) : texts items = items.map text := by
  induction items with
  | nil => rfl
  | cons v rest ih => exact congrArg (List.cons v.text) ih

theorem memberTexts_eq (members : List (List ℕ × Json)) :
    memberTexts members = members.map fun member => quoted member.1 ++ ':' :: member.2.text := by
  induction members with
  | nil => rfl
  | cons member rest ih => exact congrArg (List.cons _) ih

/-- The members of an object, by keys which are texts. -/
def record (members : List (String × Json)) : Json :=
  .obj (members.map fun member => (member.1.toList.map Char.toNat, member.2))

/-- `repr` prints a finite float as a JSON number with a fraction or an exponent. -/
structure FloatLiteral (repr : String) : Prop where
  number : isNumber repr.toList = true
  chars : ∀ c ∈ repr.toList, isLiteralChar c = true
  fractional : '.' ∈ repr.toList ∨ 'e' ∈ repr.toList

def PrintsFloats (T : Text) : Prop := ∀ x : Finite, FloatLiteral (T.repr (.float (.finite x)))

theorem FloatLiteral.ne_bool {repr : String} (literal : FloatLiteral repr) (b : Bool) :
    Json.atom repr.toList ≠ .ofBool b := by
  intro same
  have chars : repr.toList = _ := atom.inj same
  have number := literal.number
  rw [chars] at number
  cases b with
  | false => exact absurd number (by decide)
  | true => exact absurd number (by decide)

theorem FloatLiteral.ne_int {repr : String} (literal : FloatLiteral repr) (n : ℤ) :
    Json.atom repr.toList ≠ .ofInt n := by
  intro same
  have chars : repr.toList = _ := atom.inj same
  have fractional := literal.fractional
  rw [chars] at fractional
  rcases fractional with point | exponent
  · rcases mem_literal_int point with bad | bad
    · exact absurd bad (by decide)
    · exact absurd bad (by decide)
  · rcases mem_literal_int exponent with bad | bad
    · exact absurd bad (by decide)
    · exact absurd bad (by decide)

theorem ofBool_ne_ofInt (b : Bool) (n : ℤ) : ofBool b ≠ ofInt n := by
  intro same
  have chars : _ = (toString n).toList := atom.inj same
  have letter : 'e' ∈ (toString n).toList := by
    rw [← chars]
    cases b with
    | false => decide
    | true => decide
  rcases mem_literal_int letter with bad | bad
  · exact absurd bad (by decide)
  · exact absurd bad (by decide)

/-! Objects with sorted keys. -/

abbrev keyOrder (a b : List ℕ × Json) : Prop := a.1 ≤ b.1

mutual
def sortKeys : Json → Json
  | .atom literal => .atom literal
  | .str codes => .str codes
  | .arr items => .arr (sortAll items)
  | .obj members => .obj ((sortMembers members).insertionSort keyOrder)
def sortAll : List Json → List Json
  | [] => []
  | v :: rest => sortKeys v :: sortAll rest
def sortMembers : List (List ℕ × Json) → List (List ℕ × Json)
  | [] => []
  | (key, v) :: rest => (key, sortKeys v) :: sortMembers rest
end

/-- `json.dumps(value, sort_keys=True, separators=(",", ":"))` -/
def dumps (v : Json) : List Char := (sortKeys v).text

theorem sortMembers_eq (members : List (List ℕ × Json)) :
    sortMembers members = members.map fun member => (member.1, sortKeys member.2) := by
  induction members with
  | nil => rfl
  | cons member rest ih => exact congrArg (List.cons (member.1, sortKeys member.2)) ih

theorem sortAll_eq (items : List Json) : sortAll items = items.map sortKeys := by
  induction items with
  | nil => rfl
  | cons v rest ih => exact congrArg (List.cons (sortKeys v)) ih

theorem membersWritable_iff {members : List (List ℕ × Json)} :
    MembersWritable members ↔ ∀ member ∈ members, (∀ n ∈ member.1, Scalar n) ∧ member.2.Writable := by
  induction members with
  | nil => simp [MembersWritable]
  | cons member rest ih => simp [MembersWritable, ih, and_assoc]

theorem allWritable_iff {items : List Json} : AllWritable items ↔ ∀ v ∈ items, v.Writable := by
  induction items with
  | nil => simp [AllWritable]
  | cons v rest ih => simp [AllWritable, ih]

mutual
theorem writable_sortKeys : ∀ v : Json, v.Writable → (sortKeys v).Writable
  | .atom _, writable => writable
  | .str _, writable => writable
  | .arr items, writable => writable_sortAll items writable
  | .obj members, writable => by
      refine membersWritable_iff.mpr fun member listed => ?_
      exact membersWritable_iff.mp (writable_sortMembers members writable) member ((List.mem_insertionSort _).mp listed)
theorem writable_sortAll : ∀ items : List Json, AllWritable items → AllWritable (sortAll items)
  | [], _ => trivial
  | v :: rest, writable => ⟨writable_sortKeys v writable.1, writable_sortAll rest writable.2⟩
theorem writable_sortMembers : ∀ members : List (List ℕ × Json), MembersWritable members →
    MembersWritable (sortMembers members)
  | [], _ => trivial
  | (_, v) :: rest, writable =>
      ⟨writable.1, writable_sortKeys v writable.2.1, writable_sortMembers rest writable.2.2⟩
end

/-- A text determines its value up to the order of the keys. -/
theorem dumps_inj {v w : Json} (writable : v.Writable) (writable' : w.Writable) :
    dumps v = dumps w ↔ sortKeys v = sortKeys w :=
  text_inj (writable_sortKeys v writable) (writable_sortKeys w writable')

/-- Sorted by distinct keys, two lists of members are the same just when they have the same members. -/
theorem insertionSort_eq_iff {members members' : List (List ℕ × Json)} (nodup : (members.map Prod.fst).Nodup) :
    members.insertionSort keyOrder = members'.insertionSort keyOrder ↔ members.Perm members' := by
  constructor
  · intro same
    exact (List.perm_insertionSort keyOrder members).symm.trans (same ▸ List.perm_insertionSort keyOrder members')
  · intro permuted
    have sorted : ∀ members : List (List ℕ × Json), (members.insertionSort keyOrder).Pairwise keyOrder :=
      List.pairwise_insertionSort keyOrder
    refine List.Perm.eq_of_pairwise ?_ (sorted members) (sorted members') ?_
    · intro a b listed listed' before after
      have mine : a ∈ members := (List.mem_insertionSort _).mp listed
      have others : b ∈ members := permuted.mem_iff.mpr ((List.mem_insertionSort _).mp listed')
      exact List.inj_on_of_nodup_map nodup mine others (le_antisymm before after)
    · exact (List.perm_insertionSort _ _).trans (permuted.trans (List.perm_insertionSort _ _).symm)

theorem sortMembers_keys (members : List (List ℕ × Json)) :
    (sortMembers members).map Prod.fst = members.map Prod.fst := by
  rw [sortMembers_eq, List.map_map]
  rfl

theorem sortKeys_obj {members members' : List (List ℕ × Json)} (nodup : (members.map Prod.fst).Nodup) :
    sortKeys (.obj members) = sortKeys (.obj members') ↔ (sortMembers members).Perm (sortMembers members') := by
  rw [sortKeys, sortKeys, Json.obj.injEq]
  exact insertionSort_eq_iff (sortMembers_keys members ▸ nodup)

/-- With the same distinct keys in the same order, permuted members are the same. -/
theorem eq_of_perm_of_keys {members members' : List (List ℕ × Json)} (nodup : (members.map Prod.fst).Nodup)
    (keys : members.map Prod.fst = members'.map Prod.fst) (permuted : members.Perm members') : members = members' := by
  have lengths : members.length = members'.length := permuted.length_eq
  refine List.ext_getElem lengths fun i inside inside' => ?_
  have listed : members'[i] ∈ members := permuted.mem_iff.mpr (List.getElem_mem inside')
  have same_key : members[i].1 = members'[i].1 := by
    have at_ := congrArg (fun keys : List (List ℕ) => keys[i]?) keys
    simpa [List.getElem?_map, inside, inside'] using at_
  exact List.inj_on_of_nodup_map nodup (List.getElem_mem inside) listed same_key

theorem codes_injective : Function.Injective fun s : String => s.toList.map Char.toNat := by
  intro s t same
  exact ofString_inj.mp (congrArg Json.str same)

theorem sortMembers_pairs (fields : List (String × Json)) :
    sortMembers (fields.map fun field => (field.1.toList.map Char.toNat, field.2)) =
      fields.map fun field => (field.1.toList.map Char.toNat, sortKeys field.2) := by
  rw [sortMembers_eq, List.map_map]
  rfl

theorem pairs_eq_iff {fields fields' : List (String × Json)} (keys : fields.map Prod.fst = fields'.map Prod.fst) :
    fields.map (fun field => (field.1.toList.map Char.toNat, sortKeys field.2)) =
        fields'.map (fun field => (field.1.toList.map Char.toNat, sortKeys field.2)) ↔
      fields.map (fun field => sortKeys field.2) = fields'.map fun field => sortKeys field.2 := by
  induction fields generalizing fields' with
  | nil =>
      cases fields' with
      | nil => exact iff_of_true rfl rfl
      | cons field rest => cases keys
  | cons first fields ih =>
      cases fields' with
      | nil => cases keys
      | cons first' fields' =>
          obtain ⟨key, later⟩ := List.cons.inj keys
          simp only [List.map_cons, List.cons.injEq, Prod.mk.injEq, key, true_and, ih later]

/-- Records with the same fields are the same, up to the order of keys, when the values of the fields are. -/
theorem sortKeys_record {fields fields' : List (String × Json)} (keys : fields.map Prod.fst = fields'.map Prod.fst)
    (nodup : (fields.map Prod.fst).Nodup) : sortKeys (record fields) = sortKeys (record fields') ↔
      fields.map (fun field => sortKeys field.2) = fields'.map fun field => sortKeys field.2 := by
  have names : ∀ fields : List (String × Json), (fields.map fun field => (field.1.toList.map Char.toNat, field.2)).map
      Prod.fst = (fields.map Prod.fst).map fun s : String => s.toList.map Char.toNat := by
    intro fields
    rw [List.map_map, List.map_map]
    rfl
  have nodup' := nodup.map codes_injective
  rw [← names] at nodup'
  rw [record, record, sortKeys_obj nodup', ← pairs_eq_iff keys, ← sortMembers_pairs, ← sortMembers_pairs]
  constructor
  · intro permuted
    refine eq_of_perm_of_keys ?_ ?_ permuted
    · rw [sortMembers_keys]
      exact nodup'
    · rw [sortMembers_keys, sortMembers_keys, names, names, keys]
  · intro same
    rw [same]

/-- `{name: f(value) for name, value in sorted(d.items())}` -/
def ofDict {α : Type} (f : α → Json) (d : Dict String α) : Json :=
  record ((d.entries.insertionSort fun a b => a.1 ≤ b.1).map fun entry => (entry.1, f entry.2))

/-- The members of a dictionary, with sorted keys in their values. -/
def dictMembers {α : Type} (f : α → Json) (d : Dict String α) : List (List ℕ × Json) :=
  (d.entries.insertionSort fun a b => a.1 ≤ b.1).map fun entry => (entry.1.toList.map Char.toNat, sortKeys (f entry.2))

theorem dictMembers_keys {α : Type} (f : α → Json) (d : Dict String α) :
    ((dictMembers f d).map Prod.fst).Nodup := by
  have names : (((d.entries.insertionSort fun a b => a.1 ≤ b.1).map Sigma.fst)).Nodup :=
    ((List.perm_insertionSort _ d.entries).map Sigma.fst).nodup_iff.mpr d.nodupKeys
  have codes := names.map codes_injective
  rw [List.map_map] at codes
  rw [dictMembers, List.map_map]
  exact codes

theorem mem_dictMembers {α : Type} {f : α → Json} {d : Dict String α} {member : List ℕ × Json} :
    member ∈ dictMembers f d ↔
      ∃ name v, d.lookup name = some v ∧ member = (name.toList.map Char.toNat, sortKeys (f v)) := by
  simp only [dictMembers, List.mem_map, List.mem_insertionSort]
  constructor
  · rintro ⟨⟨name, v⟩, listed, rfl⟩
    exact ⟨name, v, AList.mem_lookup_iff.mpr listed, rfl⟩
  · rintro ⟨name, v, known, rfl⟩
    exact ⟨⟨name, v⟩, AList.mem_lookup_iff.mp known, rfl⟩

theorem sortKeys_ofDict_eq {α : Type} (f : α → Json) (d : Dict String α) :
    sortKeys (ofDict f d) = .obj ((dictMembers f d).insertionSort keyOrder) := by
  rw [ofDict, record, sortKeys, sortMembers_pairs, List.map_map]
  rfl

/-- Dictionaries are the same, up to their order, when the same names have the same values. -/
theorem sortKeys_ofDict {α : Type} {f : α → Json} {d d' : Dict String α} :
    sortKeys (ofDict f d) = sortKeys (ofDict f d') ↔
      ∀ name, (d.lookup name).map (fun v => sortKeys (f v)) = (d'.lookup name).map fun v => sortKeys (f v) := by
  have nodup : ∀ d : Dict String α, (dictMembers f d).Nodup := fun d => (dictMembers_keys f d).of_map
  rw [sortKeys_ofDict_eq, sortKeys_ofDict_eq, Json.obj.injEq, insertionSort_eq_iff (dictMembers_keys f d),
    List.perm_ext_iff_of_nodup (nodup d) (nodup d')]
  have found : ∀ {d : Dict String α} {name : String} {w : Json},
      (name.toList.map Char.toNat, w) ∈ dictMembers f d ↔ (d.lookup name).map (fun v => sortKeys (f v)) = some w := by
    intro d name w
    rw [mem_dictMembers, Option.map_eq_some_iff]
    constructor
    · rintro ⟨name', v, known, same⟩
      obtain ⟨codes, rfl⟩ := Prod.mk.inj same
      obtain rfl : name = name' := codes_injective codes
      exact ⟨v, known, rfl⟩
    · rintro ⟨v, known, rfl⟩
      exact ⟨name, v, known, rfl⟩
  constructor
  · intro same name
    refine Option.ext fun w => ?_
    rw [← found, ← found]
    exact same _
  · rintro same ⟨codes, w⟩
    constructor
    · intro listed
      obtain ⟨name, v, known, rfl, rfl⟩ : ∃ name v, d.lookup name = some v ∧
          codes = name.toList.map Char.toNat ∧ w = sortKeys (f v) := by
        obtain ⟨name, v, known, equal⟩ := mem_dictMembers.mp listed
        exact ⟨name, v, known, (Prod.mk.inj equal).1, (Prod.mk.inj equal).2⟩
      exact found.mpr ((same name) ▸ found.mp listed)
    · intro listed
      obtain ⟨name, v, known, rfl, rfl⟩ : ∃ name v, d'.lookup name = some v ∧
          codes = name.toList.map Char.toNat ∧ w = sortKeys (f v) := by
        obtain ⟨name, v, known, equal⟩ := mem_dictMembers.mp listed
        exact ⟨name, v, known, (Prod.mk.inj equal).1, (Prod.mk.inj equal).2⟩
      exact found.mpr ((same name).symm ▸ found.mp listed)

/-! The other values. -/

theorem sortKeys_ofList {α : Type} {f : α → Json} {items items' : List α} :
    sortKeys (.arr (items.map f)) = sortKeys (.arr (items'.map f)) ↔
      items.map (fun v => sortKeys (f v)) = items'.map fun v => sortKeys (f v) := by
  simp only [sortKeys, sortAll_eq, List.map_map, Json.arr.injEq]
  exact Iff.rfl

/-- `None` or a value. -/
def ofOption {α : Type} (f : α → Json) (v : Option α) : Json := v.elim null f

/-- A float as `json.dumps` prints it. -/
def floatText (T : Text) : Double → String
  | .finite x => T.repr (.float (.finite x))
  | .inf false => "Infinity"
  | .inf true => "-Infinity"
  | .nan => "NaN"

def ofFloat (T : Text) (x : Double) : Json := .atom (floatText T x).toList

theorem ofFloat_inj {T : Text} {x y : Double} : ofFloat T x = ofFloat T y ↔ floatText T x = floatText T y := by
  constructor
  · intro same
    exact String.toList_injective (Json.atom.inj same)
  · intro same
    rw [ofFloat, same, ofFloat]

theorem FloatLiteral.ne_word {repr word : String} (literal : FloatLiteral repr)
    (no_number : isNumber word.toList = false) : repr ≠ word := by
  rintro rfl
  exact absurd literal.number (no_number ▸ Bool.false_ne_true)

theorem infinite_words : isNumber "Infinity".toList = false ∧ isNumber "-Infinity".toList = false ∧
    isNumber "NaN".toList = false := ⟨by decide, by decide, by decide⟩

/-- The same float, by its value. -/
def SameFloat : Double → Double → Prop
  | .finite x, .finite y => x.value = y.value
  | .inf negative, .inf negative' => negative = negative'
  | .nan, .nan => True
  | _, _ => False

/-- The sign of the zeros is the same too, where the floats are zeros. -/
def SameZero : Double → Double → Prop
  | .finite x, .finite y => x.value = 0 → y.value = 0 → x.minus = y.minus
  | _, _ => True

/-- The same float, with the sign of a zero. -/
def SameSigned (x y : Double) : Prop := SameFloat x y ∧ SameZero x y

/-- `repr` prints finite floats as JSON numbers, and two of them alike just when they have the same value and, where it
is zero, the same sign. -/
structure SeparatesFloats (T : Text) : Prop where
  prints : PrintsFloats T
  separates : ∀ x y : Finite, T.repr (.float (.finite x)) = T.repr (.float (.finite y)) ↔
    SameSigned (.finite x) (.finite y)

theorem floatText_eq_iff {T : Text} (floats : SeparatesFloats T) (x y : Double) :
    floatText T x = floatText T y ↔ SameSigned x y := by
  have infinite : ∀ z negative, T.repr (.float (.finite z)) ≠ floatText T (.inf negative) := by
    intro z negative
    cases negative with
    | false => exact (floats.prints z).ne_word infinite_words.1
    | true => exact (floats.prints z).ne_word infinite_words.2.1
  have undefined : ∀ z, T.repr (.float (.finite z)) ≠ floatText T .nan :=
    fun z => (floats.prints z).ne_word infinite_words.2.2
  cases x with
  | finite x =>
      cases y with
      | finite y => exact floats.separates x y
      | inf negative => exact iff_of_false (infinite x negative) fun same => same.1
      | nan => exact iff_of_false (undefined x) fun same => same.1
  | inf negative =>
      cases y with
      | finite y => exact iff_of_false (infinite y negative).symm fun same => same.1
      | inf negative' => cases negative <;> cases negative' <;> simp [floatText, SameSigned, SameFloat, SameZero]
      | nan => cases negative <;> simp [floatText, SameSigned, SameFloat]
  | nan =>
      cases y with
      | finite y => exact iff_of_false (undefined y).symm fun same => same.1
      | inf negative => cases negative <;> simp [floatText, SameSigned, SameFloat]
      | nan => exact iff_of_true rfl ⟨trivial, trivial⟩

theorem FloatLiteral.literal {repr : String} (float : FloatLiteral repr) : Literal repr.toList where
  known := by rw [isLiteral, float.number, Bool.or_true]
  chars := float.chars

theorem literal_infinite : Literal "Infinity".toList ∧ Literal "-Infinity".toList ∧ Literal "NaN".toList :=
  ⟨⟨by decide, List.all_eq_true.mp (by decide)⟩, ⟨by decide, List.all_eq_true.mp (by decide)⟩,
      ⟨by decide, List.all_eq_true.mp (by decide)⟩⟩

theorem writable_ofFloat {T : Text} (floats : PrintsFloats T) (x : Double) : (ofFloat T x).Writable := by
  cases x with
  | finite x => exact (floats x).literal
  | inf negative =>
      cases negative with
      | false => exact literal_infinite.1
      | true => exact literal_infinite.2.1
  | nan => exact literal_infinite.2.2

theorem writable_ofOption {α : Type} {f : α → Json} (each : ∀ v, (f v).Writable) (v : Option α) :
    (ofOption f v).Writable := by
  cases v with
  | none => exact literal_null
  | some v => exact each v

theorem writable_record {fields : List (String × Json)} (each : ∀ field ∈ fields, field.2.Writable) :
    (record fields).Writable := by
  refine membersWritable_iff.mpr fun member listed => ?_
  obtain ⟨field, given, rfl⟩ := List.mem_map.mp listed
  exact ⟨writable_ofString field.1, each field given⟩

theorem writable_ofDict {α : Type} {f : α → Json} (each : ∀ v, (f v).Writable) (d : Dict String α) :
    (ofDict f d).Writable := by
  refine writable_record fun field listed => ?_
  obtain ⟨entry, _, rfl⟩ := List.mem_map.mp listed
  exact each entry.2

end Json
