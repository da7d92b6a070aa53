import RuntimePlatform.Lib.Json

/-!
The texts which `json.dumps` writes: no blanks, and ASCII only. They are read back as the values they were written for,
so a text determines its value.
-/

namespace Json

def hexDigit (n : ℕ) : Char := "0123456789abcdef".toList.getD (n % 16) '0'

/-- A UTF-16 unit as `\uXXXX`. -/
def escapeUnit (n : ℕ) : List Char :=
  [backslash, 'u', hexDigit (n / 4096), hexDigit (n / 256), hexDigit (n / 16), hexDigit n]

def escapePoint (n : ℕ) : List Char :=
  if n = 34 ∨ n = 92 then [backslash, Char.ofNat n]
  else if 32 ≤ n ∧ n ≤ 126 then [Char.ofNat n]
  else if n = 8 then [backslash, 'b']
  else if n = 9 then [backslash, 't']
  else if n = 10 then [backslash, 'n']
  else if n = 12 then [backslash, 'f']
  else if n = 13 then [backslash, 'r']
  else if n < 0x10000 then escapeUnit n
  else escapeUnit (0xd800 + (n - 0x10000) / 1024) ++ escapeUnit (0xdc00 + (n - 0x10000) % 1024)

def quoted (codes : List ℕ) : List Char := quote :: codes.flatMap escapePoint ++ [quote]

/-- The parts with commas between them. -/
def separated : List (List Char) → List Char
  | [] => []
  | [part] => part
  | part :: rest => part ++ ',' :: separated rest

mutual
def text : Json → List Char
  | .atom literal => literal
  | .str codes => quoted codes
  | .arr items => '[' :: separated (texts items) ++ [']']
  | .obj members => openBrace :: separated (memberTexts members) ++ [closeBrace]
def texts : List Json → List (List Char)
  | [] => []
  | v :: rest => text v :: texts rest
def memberTexts : List (List ℕ × Json) → List (List Char)
  | [] => []
  | (key, v) :: rest => (quoted key ++ ':' :: text v) :: memberTexts rest
end

/-- A code point of a character. -/
def Scalar (n : ℕ) : Prop := n < 0xd800 ∨ 0xdfff < n ∧ n < 0x110000

/-- A literal of the grammar. -/
structure Literal (literal : List Char) : Prop where
  known : isLiteral literal = true
  chars : ∀ c ∈ literal, isLiteralChar c = true

mutual
/-- The values whose text is read back: their literals are literals, and their strings hold no half of a pair. -/
def Writable : Json → Prop
  | .atom literal => Literal literal
  | .str codes => ∀ n ∈ codes, Scalar n
  | .arr items => AllWritable items
  | .obj members => MembersWritable members
def AllWritable : List Json → Prop
  | [] => True
  | v :: rest => Writable v ∧ AllWritable rest
def MembersWritable : List (List ℕ × Json) → Prop
  | [] => True
  | (key, v) :: rest => (∀ n ∈ key, Scalar n) ∧ Writable v ∧ MembersWritable rest
end

/-! Strings are read back. -/

/-- The units of a code point as they stand in the text. -/
def units (n : ℕ) : List ℕ :=
  if n < 0x10000 then [n] else [0xd800 + (n - 0x10000) / 1024, 0xdc00 + (n - 0x10000) % 1024]

theorem joinPairs_cons {n : ℕ} (plain : isHigh n = false) (rest : List ℕ) :
    joinPairs (n :: rest) = n :: joinPairs rest := by
  cases rest with
  | nil => rfl
  | cons next rest => rw [joinPairs, if_neg (by simp [plain])]

theorem joinPairs_units {codes : List ℕ} (scalar : ∀ n ∈ codes, Scalar n) :
    joinPairs (codes.flatMap units) = codes := by
  induction codes with
  | nil => rfl
  | cons n rest ih =>
      obtain ⟨here, later⟩ := List.forall_mem_cons.mp scalar
      rw [List.flatMap_cons]
      by_cases small : n < 0x10000
      · have plain : isHigh n = false := by
          unfold Scalar at here
          unfold isHigh
          simp
          omega
        rw [units, if_pos small, List.singleton_append, joinPairs_cons plain, ih later]
      · have bound : n < 0x110000 := by
          unfold Scalar at here
          omega
        have high : isHigh (0xd800 + (n - 0x10000) / 1024) = true := by
          unfold isHigh
          simp
          omega
        have low : isLow (0xdc00 + (n - 0x10000) % 1024) = true := by
          unfold isLow
          simp
          omega
        have whole : 0x10000 + (0xd800 + (n - 0x10000) / 1024 - 0xd800) * 1024 +
            (0xdc00 + (n - 0x10000) % 1024 - 0xdc00) = n := by omega
        rw [units, if_neg small, List.cons_append, List.cons_append, List.nil_append, joinPairs, if_pos ⟨high, low⟩,
          ih later, whole]

theorem hexValue_hexDigit (n : ℕ) : hexValue (hexDigit n) = some (n % 16) := by
  have digits : ∀ d < 16, hexValue ("0123456789abcdef".toList.getD d '0') = some d := by decide
  exact digits (n % 16) (Nat.mod_lt n (by decide))

/-- Reading on from one place in a string. -/
def Partial.scanAll (s : Partial) (text : List Char) : Option Partial := text.foldlM Partial.next s

theorem Partial.scanAll_append (s : Partial) (before after : List Char) :
    s.scanAll (before ++ after) = (s.scanAll before).bind fun s => s.scanAll after := List.foldlM_append

theorem scan_escapeUnit {n : ℕ} (small : n < 0x10000) (done : List ℕ) :
    (Partial.mk .plain done).scanAll (escapeUnit n) = some ⟨.plain, done ++ [n]⟩ := by
  have value : (((0 * 16 + n / 4096 % 16) * 16 + n / 256 % 16) * 16 + n / 16 % 16) * 16 + n % 16 = n := by omega
  simp [Partial.scanAll, escapeUnit, Partial.next, hexValue_hexDigit]
  omega

theorem scan_escapePoint {n : ℕ} (scalar : Scalar n) (done : List ℕ) :
    (Partial.mk .plain done).scanAll (escapePoint n) = some ⟨.plain, done ++ units n⟩ := by
  have bound : n < 0x110000 := by
    unfold Scalar at scalar
    omega
  unfold escapePoint
  by_cases special : n = 34 ∨ n = 92
  · rw [if_pos special]
    rcases special with rfl | rfl
    · rfl
    · rfl
  rw [if_neg special]
  by_cases printed : 32 ≤ n ∧ n ≤ 126
  · have code : (Char.ofNat n).toNat = n := by
      have valid : n.isValidChar := Or.inl (by omega)
      rw [Char.ofNat, dif_pos valid]
      rfl
    have ordinary : Char.ofNat n ≠ backslash := by
      intro same
      have codes := congrArg Char.toNat same
      rw [code] at codes
      exact special (Or.inr codes)
    have unquoted : Char.ofNat n ≠ quote := by
      intro same
      have codes := congrArg Char.toNat same
      rw [code] at codes
      exact special (Or.inl codes)
    have small : n < 0x10000 := by omega
    simp [printed, Partial.scanAll, Partial.next, ordinary, unquoted, code, units, small]
  rw [if_neg printed]
  by_cases short : n = 8 ∨ n = 9 ∨ n = 10 ∨ n = 12 ∨ n = 13
  · rcases short with rfl | rfl | rfl | rfl | rfl
    · rfl
    · rfl
    · rfl
    · rfl
    · rfl
  obtain ⟨not_8, not_9, not_10, not_12, not_13⟩ : n ≠ 8 ∧ n ≠ 9 ∧ n ≠ 10 ∧ n ≠ 12 ∧ n ≠ 13 := by omega
  rw [if_neg not_8, if_neg not_9, if_neg not_10, if_neg not_12, if_neg not_13]
  by_cases small : n < 0x10000
  · rw [if_pos small, scan_escapeUnit small, units, if_pos small]
  · rw [if_neg small, Partial.scanAll_append, scan_escapeUnit (by omega), Option.bind_some,
      scan_escapeUnit (by omega), units, if_neg small, List.append_assoc]
    rfl

theorem scan_quoted {codes : List ℕ} (scalar : ∀ n ∈ codes, Scalar n) (done : List ℕ) :
    (Partial.mk .plain done).scanAll (codes.flatMap escapePoint) = some ⟨.plain, done ++ codes.flatMap units⟩ := by
  induction codes generalizing done with
  | nil => exact congrArg (fun units => some (Partial.mk .plain units)) (List.append_nil done).symm
  | cons n rest ih =>
      obtain ⟨here, later⟩ := List.forall_mem_cons.mp scalar
      rw [List.flatMap_cons, Partial.scanAll_append, scan_escapePoint here, Option.bind_some, ih later,
        List.flatMap_cons, List.append_assoc]

/-- A character at which a string goes on does not end it. -/
theorem inside_of_next {s s' : Partial} {c : Char} (next : s.next c = some s') : ¬ (s.scan = .plain ∧ c = quote) := by
  rintro ⟨plain, rfl⟩
  simp [Partial.next, plain, quote, backslash] at next

namespace Reader

/-- While a string is scanned the reader stays in it. -/
theorem run_scan {stack : List Frame} {s s' : Partial} {text : List Char} (role : Role)
    (scanned : s.scanAll text = some s') :
    (Reader.mk stack (role.inside s)).run text = ⟨stack, role.inside s'⟩ := by
  induction text generalizing s with
  | nil =>
      cases scanned
      rfl
  | cons c rest ih =>
      obtain ⟨next, first, later⟩ := Option.bind_eq_some_iff.mp scanned
      rw [run_cons, step_inside, if_neg (inside_of_next first), first]
      exact ih later

/-- A string is read from its first character to its last. -/
theorem run_string {codes : List ℕ} (scalar : ∀ n ∈ codes, Scalar n) (stack : List Frame) (role : Role) :
    (Reader.mk stack (role.inside ⟨.plain, []⟩)).run (codes.flatMap escapePoint ++ [quote]) =
      ⟨stack, role.ended codes⟩ := by
  rw [run_append, run_scan role (scan_quoted scalar []), run_cons, step_inside, if_pos ⟨rfl, rfl⟩, List.nil_append,
    joinPairs_units scalar]
  rfl

theorem run_quoted {codes : List ℕ} (scalar : ∀ n ∈ codes, Scalar n) (stack : List Frame) (fresh : Bool) :
    (Reader.mk stack (.value fresh)).run (quoted codes) = ⟨stack, .after (.str codes)⟩ := by
  have opened : (Reader.mk stack (.value fresh)).step quote = ⟨stack, Role.value.inside ⟨.plain, []⟩⟩ := rfl
  rw [quoted, List.cons_append, run_cons, opened, run_string scalar]
  rfl

theorem run_key {key : List ℕ} (scalar : ∀ n ∈ key, Scalar n) (stack : List Frame) (fresh : Bool)
    (done : List (List ℕ × Json)) :
    (Reader.mk stack (.key fresh done)).run (quoted key ++ [':']) = ⟨.member done key :: stack, .value false⟩ := by
  have opened : (Reader.mk stack (.key fresh done)).step quote = ⟨stack, (Role.key done).inside ⟨.plain, []⟩⟩ := rfl
  have whole : (Reader.mk stack (.key fresh done)).run (quoted key) = ⟨stack, (Role.key done).ended key⟩ := by
    rw [quoted, List.cons_append, run_cons, opened, run_string scalar]
  rw [run_append, whole]
  rfl

/-- What comes right behind a value: a bracket or a comma. -/
def Ends (c : Char) : Prop := c = ',' ∨ c = ']' ∨ c = closeBrace

theorem Ends.not_literal {c : Char} (ends : Ends c) : isLiteralChar c = false := by
  rcases ends with rfl | rfl | rfl
  · decide
  · decide
  · decide

theorem run_literal {literal : List Char} (stack : List Frame) (before : List Char)
    (chars : ∀ c ∈ literal, isLiteralChar c = true) :
    (Reader.mk stack (.atom before)).run literal = ⟨stack, .atom (before ++ literal)⟩ := by
  induction literal generalizing before with
  | nil => simp
  | cons c rest ih =>
      obtain ⟨here, later⟩ := List.forall_mem_cons.mp chars
      rw [run_cons, step_atom, if_pos here, ih _ later, List.append_assoc]
      rfl

theorem isBlank_iff {c : Char} : isBlank c = true ↔ c ∈ [' ', Char.ofNat 9, Char.ofNat 10, Char.ofNat 13] := by
  have by_code : ∀ d : Char, c.toNat = d.toNat ↔ c = d := fun d => Char.toNat_inj
  have tab := by_code (Char.ofNat 9)
  have feed := by_code (Char.ofNat 10)
  have return_ := by_code (Char.ofNat 13)
  simp only [isBlank, decide_eq_true_eq, List.mem_cons, List.not_mem_nil, or_false, ← tab, ← feed, ← return_]
  rfl

theorem beginValue_literal {c : Char} (stack : List Frame) (fresh : Bool) (literal : isLiteralChar c = true) :
    beginValue stack fresh c = ⟨stack, .atom [c]⟩ := by
  have others : ∀ d ∈ [' ', Char.ofNat 9, Char.ofNat 10, Char.ofNat 13, quote, '[', openBrace],
      isLiteralChar d = false := List.all_iff_forall_prop.mp (by decide)
  have different : ∀ d ∈ [' ', Char.ofNat 9, Char.ofNat 10, Char.ofNat 13, quote, '[', openBrace], c ≠ d := by
    rintro d listed rfl
    exact Bool.false_ne_true ((others c listed).symm.trans literal)
  have unblank : ¬ isBlank c = true := by
    intro blank
    exact different c (List.mem_append_left [quote, '[', openBrace] (isBlank_iff.mp blank)) rfl
  have unquoted : c ≠ quote := different quote (by simp)
  have unopened : c ≠ '[' := different '[' (by simp)
  have unopened' : c ≠ openBrace := different openBrace (by simp)
  simp [beginValue, unblank, unquoted, unopened, unopened', literal]

/-- Up to the character behind it a literal is pending; then it is a value. -/
theorem run_atom {literal : List Char} (valid : Literal literal) (stack : List Frame) (fresh : Bool) :
    (Reader.mk stack (.value fresh)).run literal = ⟨stack, .atom literal⟩ := by
  cases literal with
  | nil => exact absurd valid.known (by decide)
  | cons c rest =>
      obtain ⟨here, later⟩ := List.forall_mem_cons.mp valid.chars
      rw [run_cons, step_value, beginValue_literal stack fresh here, run_literal stack [c] later]
      rfl

theorem step_atom_ends {literal : List Char} (valid : Literal literal) (stack : List Frame) {c : Char}
    (ends : Ends c) : step ⟨stack, .atom literal⟩ c = step ⟨stack, .after (.atom literal)⟩ c := by
  have other : ¬ isLiteralChar c = true := by
    rw [ends.not_literal]
    decide
  rw [step_atom, if_neg other, if_pos valid.known, step_after]

mutual
/-- A text which is followed by a comma or a bracket is read as its value, wherever a value is expected. -/
theorem run_value : ∀ (v : Json), v.Writable → ∀ (stack : List Frame) (fresh : Bool) (c : Char) (rest : List Char),
    Ends c → (Reader.mk stack (.value fresh)).run (v.text ++ c :: rest) =
      (Reader.mk stack (.after v)).run (c :: rest)
  | .atom literal, valid, stack, fresh, c, rest, ends => by
      rw [text, run_append, run_atom valid, run_cons, run_cons, step_atom_ends valid stack ends]
  | .str codes, scalar, stack, fresh, c, rest, _ => by
      rw [text, run_append, run_quoted scalar]
  | .arr items, writable, stack, fresh, c, rest, _ => by
      have opened : (Reader.mk stack (.value fresh)).step '[' = ⟨.items [] :: stack, .value true⟩ := rfl
      rw [text, List.cons_append, List.cons_append, run_cons, opened, List.append_assoc, List.singleton_append]
      exact run_items items writable stack [] true (c :: rest) (Or.inr ⟨rfl, rfl⟩)
  | .obj members, writable, stack, fresh, c, rest, _ => by
      have opened : (Reader.mk stack (.value fresh)).step openBrace = ⟨stack, .key true []⟩ := rfl
      rw [text, List.cons_append, List.cons_append, run_cons, opened, List.append_assoc, List.singleton_append]
      exact run_members members writable stack [] true (c :: rest) (Or.inr ⟨rfl, rfl⟩)
theorem run_items : ∀ (items : List Json), AllWritable items → ∀ (stack : List Frame) (done : List Json)
    (fresh : Bool) (rest : List Char), items ≠ [] ∨ (done = [] ∧ fresh = true) →
    (Reader.mk (.items done :: stack) (.value fresh)).run (separated (texts items) ++ ']' :: rest) =
      (Reader.mk stack (.after (.arr (done ++ items)))).run rest
  | [], _, stack, done, fresh, rest, some_item => by
      obtain ⟨rfl, rfl⟩ : done = [] ∧ fresh = true := some_item.resolve_left fun bad => bad rfl
      rfl
  | [v], writable, stack, done, fresh, rest, _ => by
      rw [texts, texts, separated, run_value v writable.1 _ fresh ']' rest (Or.inr (Or.inl rfl)), run_cons]
      rfl
  | v :: w :: items, writable, stack, done, fresh, rest, _ => by
      have next : (Reader.mk (.items done :: stack) (.after v)).step ',' =
          ⟨.items (done ++ [v]) :: stack, .value false⟩ := rfl
      have later := run_items (w :: items) writable.2 stack (done ++ [v]) false rest (Or.inl (List.cons_ne_nil w items))
      rw [texts, texts, separated, ← texts, List.append_assoc, List.cons_append,
        run_value v writable.1 _ fresh ',' _ (Or.inl rfl), run_cons, next, later, List.append_assoc]
      · rfl
      · exact List.cons_ne_nil _ _
theorem run_members : ∀ (members : List (List ℕ × Json)), MembersWritable members → ∀ (stack : List Frame)
    (done : List (List ℕ × Json)) (fresh : Bool) (rest : List Char), members ≠ [] ∨ (done = [] ∧ fresh = true) →
    (Reader.mk stack (.key fresh done)).run (separated (memberTexts members) ++ closeBrace :: rest) =
      (Reader.mk stack (.after (.obj (done ++ members)))).run rest
  | [], _, stack, done, fresh, rest, some_member => by
      obtain ⟨rfl, rfl⟩ : done = [] ∧ fresh = true := some_member.resolve_left fun bad => bad rfl
      rfl
  | [(key, v)], writable, stack, done, fresh, rest, _ => by
      have parts : quoted key ++ ':' :: v.text ++ closeBrace :: rest =
          (quoted key ++ [':']) ++ (v.text ++ closeBrace :: rest) := by simp
      rw [memberTexts, memberTexts, separated, parts, run_append, run_key writable.1,
        run_value v writable.2.1 _ false closeBrace rest (Or.inr (Or.inr rfl)), run_cons]
      rfl
  | (key, v) :: member :: members, writable, stack, done, fresh, rest, _ => by
      have next : (Reader.mk (.member done key :: stack) (.after v)).step ',' =
          ⟨stack, .key false (done ++ [(key, v)])⟩ := rfl
      have later := run_members (member :: members) writable.2.2 stack (done ++ [(key, v)]) false rest
        (Or.inl (List.cons_ne_nil member members))
      have parts : quoted key ++ ':' :: v.text ++ ',' :: separated (memberTexts (member :: members)) ++
          closeBrace :: rest = (quoted key ++ [':']) ++
            (v.text ++ ',' :: (separated (memberTexts (member :: members)) ++ closeBrace :: rest)) := by simp
      have split : separated (memberTexts ((key, v) :: member :: members)) =
          quoted key ++ ':' :: v.text ++ ',' :: separated (memberTexts (member :: members)) := rfl
      rw [split, parts, run_append, run_key writable.1, run_value v writable.2.1 _ false ',' _ (Or.inl rfl), run_cons,
        next, later, List.append_assoc]
      rfl
end

end Reader

/-- What is written is read back. -/
theorem read_text {v : Json} (writable : v.Writable) : read v.text = some v := by
  unfold read Reader.start
  cases v with
  | atom literal =>
      rw [text, Reader.run_atom writable]
      exact if_pos writable.known
  | str codes =>
      rw [text, Reader.run_quoted writable]
      rfl
  | arr items =>
      have opened : (Reader.mk [] (.value false)).step '[' = ⟨[.items []], .value true⟩ := rfl
      have closed := Reader.run_items items writable [] [] true [] (Or.inr ⟨rfl, rfl⟩)
      rw [text, List.cons_append, Reader.run_cons, opened, closed]
      rfl
  | obj members =>
      have opened : (Reader.mk [] (.value false)).step openBrace = ⟨[], .key true []⟩ := rfl
      have closed := Reader.run_members members writable [] [] true [] (Or.inr ⟨rfl, rfl⟩)
      rw [text, List.cons_append, Reader.run_cons, opened, closed]
      rfl

/-- So a text determines its value. -/
theorem text_inj {v w : Json} (writable : v.Writable) (writable' : w.Writable) : v.text = w.text ↔ v = w := by
  constructor
  · intro same
    have values := read_text writable
    rw [same, read_text writable'] at values
    exact (Option.some.inj values).symm
  · rintro rfl
    rfl

end Json
