import RuntimePlatform.Lib.JsonObjects
import RuntimePlatform.Lib.Lines

/-!
What the reader makes of single characters: which of them it accepts within strings and outside of them, and where the
code points of the strings come from.
-/

namespace Json

/-- Where in a string the reader is, if it is in one. -/
def Mode.string : Mode → Option Scan
  | .text s => some s.scan
  | .keyText _ s => some s.scan
  | _ => none

/-- A character of the grammar outside of strings. -/
def isMark (c : Char) : Bool :=
  isBlank c || isLiteralChar c || decide (c ∈ [quote, '[', ']', openBrace, closeBrace, ',', ':'])

/-- The line ends of `splitlines` which may stand in a string as they are. -/
def isSeparator (c : Char) : Bool := decide (c.toNat = 0x85 ∨ c.toNat = 0x2028 ∨ c.toNat = 0x2029)

namespace Reader

theorem fail_of_unmarked {r : Reader} {c : Char} (outside : r.mode.string = none) (unmarked : isMark c = false) :
    r.step c = fail := by
  obtain ⟨stack, mode⟩ := r
  simp only [isMark, Bool.or_eq_false_iff, List.mem_cons, List.not_mem_nil, or_false, decide_eq_false_iff_not,
    not_or] at unmarked
  obtain ⟨⟨blank, literal⟩, no_quote, no_open, no_close, no_brace, no_unbrace, no_comma, no_colon⟩ := unmarked
  have closed : ∀ v : Json, continue_ stack v c = fail := by
    intro v
    cases stack with
    | nil => simp [continue_, blank]
    | cons frame outer =>
        cases frame with
        | items done => simp [continue_, blank, no_comma, no_close]
        | member done key => simp [continue_, blank, no_comma, no_unbrace]
  cases mode with
  | value fresh =>
      cases stack with
      | nil => simp [beginValue, blank, literal, no_quote, no_open, no_brace]
      | cons frame outer =>
          cases frame with
          | items done => simp [beginValue, blank, literal, no_quote, no_open, no_brace, no_close]
          | member done key => simp [beginValue, blank, literal, no_quote, no_open, no_brace]
  | key fresh done => simp [beginKey, blank, no_quote, no_unbrace]
  | colon done key => simp [step, blank, no_colon]
  | text s => cases outside
  | keyText done s => cases outside
  | atom literal' =>
      rw [step_atom, if_neg (Bool.eq_false_iff.mp literal), closed, ite_self]
  | after v => exact closed v
  | failed => rfl

theorem step_outside {r : Reader} {c : Char} (outside : r.mode.string = none) (unquoted : c ≠ quote) :
    (r.step c).mode.string = none := by
  obtain ⟨stack, mode⟩ := r
  have closed : ∀ v : Json, (continue_ stack v c).mode.string = none := by
    intro v
    cases stack with
    | nil =>
        simp only [continue_]
        split_ifs <;> rfl
    | cons frame outer =>
        cases frame with
        | items done =>
            simp only [continue_]
            split_ifs <;> rfl
        | member done key =>
            simp only [continue_]
            split_ifs <;> rfl
  cases mode with
  | value fresh =>
      cases stack with
      | nil =>
          simp only [step_value, beginValue, if_neg unquoted]
          split_ifs <;> rfl
      | cons frame outer =>
          cases frame with
          | items done =>
              simp only [step_value, beginValue, if_neg unquoted]
              split_ifs <;> rfl
          | member done key =>
              simp only [step_value, beginValue, if_neg unquoted]
              split_ifs <;> rfl
  | key fresh done =>
      rw [step_key, beginKey, if_neg unquoted]
      split_ifs <;> rfl
  | colon done key =>
      simp only [step]
      split_ifs <;> rfl
  | text s => cases outside
  | keyText done s => cases outside
  | atom literal =>
      rw [step_atom]
      split_ifs
      · rfl
      · exact closed _
      · rfl
  | after v => exact closed v
  | failed => rfl

/-- A quotation mark opens a string, if one may stand there. -/
theorem step_outside_quote {r : Reader} (outside : r.mode.string = none) :
    r.step quote = fail ∨ (r.step quote).mode.string = some .plain := by
  obtain ⟨stack, mode⟩ := r
  have closed : ∀ v : Json, continue_ stack v quote = fail := by
    intro v
    cases stack with
    | nil => rfl
    | cons frame outer =>
        cases frame with
        | items done => rfl
        | member done key => rfl
  cases mode with
  | value fresh => exact Or.inr rfl
  | key fresh done => exact Or.inr rfl
  | colon done key => exact Or.inl rfl
  | text s => cases outside
  | keyText done s => cases outside
  | atom literal =>
      have unliteral : ¬ isLiteralChar quote = true := by decide
      rw [step_atom, if_neg unliteral, closed, ite_self]
      exact Or.inl rfl
  | after v => exact Or.inl (closed v)
  | failed => exact Or.inl rfl

/-- The reader is in a string of either role. -/
theorem inside_of_string {mode : Mode} {scan : Scan} (known : mode.string = some scan) :
    ∃ role s, mode = Role.inside role s ∧ s.scan = scan := by
  cases mode with
  | text s => exact ⟨.value, s, rfl, Option.some.inj known⟩
  | keyText done s => exact ⟨.key done, s, rfl, Option.some.inj known⟩
  | _ => cases known

@[simp] theorem string_inside (role : Role) (s : Partial) : (role.inside s).string = some s.scan := by
  cases role with
  | value => rfl
  | key done => rfl

@[simp] theorem string_ended (role : Role) (codes : List ℕ) : (role.ended codes).string = none := by
  cases role with
  | value => rfl
  | key done => rfl

theorem step_plain_quote {r : Reader} (plain : r.mode.string = some .plain) : (r.step quote).mode.string = none := by
  obtain ⟨stack, mode⟩ := r
  obtain ⟨role, s, rfl, scan⟩ := inside_of_string plain
  rw [step_inside, if_pos ⟨scan, rfl⟩, string_ended]

theorem next_plain {s s' : Partial} {c : Char} (plain : s.scan = .plain) (ordinary : c ≠ backslash)
    (next : s.next c = some s') : s' = ⟨.plain, s.units ++ [c.toNat]⟩ := by
  simp only [Partial.next, plain, if_neg ordinary] at next
  split_ifs at next
  exact (Option.some.inj next).symm

/-- Other characters go on with it. -/
theorem step_plain {r : Reader} {c : Char} (plain : r.mode.string = some .plain) (unquoted : c ≠ quote)
    (ordinary : c ≠ backslash) : r.step c = fail ∨ (r.step c).mode.string = some .plain := by
  obtain ⟨stack, mode⟩ := r
  obtain ⟨role, s, rfl, scan⟩ := inside_of_string plain
  rw [step_inside, if_neg fun ended => unquoted ended.2]
  cases next : s.next c with
  | none => exact Or.inl rfl
  | some s' =>
      obtain rfl := next_plain scan ordinary next
      exact Or.inr (string_inside role _)

/-- Only a quotation mark ends a string. -/
theorem step_string {r : Reader} {c : Char} (inside : r.mode.string ≠ none) (unquoted : c ≠ quote) :
    r.step c = fail ∨ (r.step c).mode.string ≠ none := by
  obtain ⟨stack, mode⟩ := r
  obtain ⟨scan, known⟩ := Option.ne_none_iff_exists'.mp inside
  obtain ⟨role, s, rfl, -⟩ := inside_of_string known
  rw [step_inside, if_neg fun ended => unquoted ended.2]
  cases s.next c with
  | none => exact Or.inl rfl
  | some s' =>
      refine Or.inr ?_
      change (role.inside s').string ≠ none
      rw [string_inside]
      exact Option.some_ne_none s'.scan

/-- Control characters do not. -/
theorem step_plain_control {r : Reader} {c : Char} (plain : r.mode.string = some .plain) (low : c.toNat < 32) :
    r.step c = fail := by
  have no_quote : c ≠ quote := by
    rintro rfl
    exact absurd low (by decide)
  have no_backslash : c ≠ backslash := by
    rintro rfl
    exact absurd low (by decide)
  have stops : ∀ s : Partial, s.scan = .plain → s.next c = none := by
    intro s plain
    simp [Partial.next, plain, no_backslash, low]
  obtain ⟨stack, mode⟩ := r
  obtain ⟨role, s, rfl, scan⟩ := inside_of_string plain
  rw [step_inside, if_neg fun ended => no_quote ended.2, stops s scan]
  rfl

/-- A step which does not fail. -/
def Accepts (r : Reader) (c : Char) : Prop := r.step c ≠ fail

theorem accepts_of_run {r : Reader} {c : Char} {text : List Char} (unfailed : r.run (c :: text) ≠ fail) :
    r.Accepts c := by
  intro failed
  rw [run_cons, failed, run_fail] at unfailed
  exact unfailed rfl

theorem isLineEnd_of_separator {c : Char} (separator : isSeparator c = true) :
    Lines.isLineEnd c = true ∧ Lines.isReturnOrFeed c = false := by
  simp only [isSeparator, decide_eq_true_eq] at separator
  constructor
  · simp only [Lines.isLineEnd, Bool.or_eq_true, Bool.and_eq_true, decide_eq_true_eq]
    omega
  · refine decide_eq_false ?_
    rintro (rfl | rfl)
    · exact absurd separator (by decide)
    · exact absurd separator (by decide)

/-- Line ends of `splitlines` other than returns and feeds are accepted nowhere else. -/
theorem Accepts.lineEnd {r : Reader} {c : Char} (accepts : r.Accepts c) (ends : Lines.isLineEnd c = true)
    (inner : Lines.isReturnOrFeed c = false) :
    isSeparator c = true ∧ r.mode.string = some .plain ∧ (r.step c).mode.string = some .plain := by
  have listed : c ∈ [11, 12, 28, 29, 30, 0x85, 0x2028, 0x2029].map Char.ofNat := by
    have code : Char.ofNat c.toNat = c := Char.ofNat_toNat c
    have other : c.toNat ≠ 10 ∧ c.toNat ≠ 13 := by
      simp only [Lines.isReturnOrFeed, decide_eq_false_iff_not, not_or] at inner
      exact ⟨fun same => inner.1 (code.symm.trans (congrArg Char.ofNat same)),
        fun same => inner.2 (code.symm.trans (congrArg Char.ofNat same))⟩
    rw [← code]
    refine List.mem_map_of_mem ?_
    simp only [Lines.isLineEnd, Bool.or_eq_true, Bool.and_eq_true, decide_eq_true_eq] at ends
    simp only [List.mem_cons, List.not_mem_nil, or_false]
    omega
  have unknown : ∀ d ∈ [11, 12, 28, 29, 30, 0x85, 0x2028, 0x2029].map Char.ofNat, isMark d = false ∧ d ≠ 'u' ∧
      unescaped d = none ∧ hexValue d = none ∧ d ≠ quote ∧ d ≠ backslash ∧ (d.toNat < 32 ∨ isSeparator d = true) :=
    List.all_iff_forall_prop.mp (by decide)
  obtain ⟨unmarked, no_u, no_escape, no_digit, unquoted, ordinary, far⟩ := unknown c listed
  have plain : r.mode.string = some .plain := by
    obtain ⟨stack, mode⟩ := r
    have inside : ∀ s : Partial, s.scan ≠ .plain → s.next c = none := by
      rintro ⟨scan, units⟩ other
      cases scan with
      | plain => exact absurd rfl other
      | escaped => simp [Partial.next, no_u, no_escape]
      | hex left value => simp [Partial.next, no_digit]
    have next_none : ∀ s : Partial, s.scan ≠ .plain → ∀ f : Partial → Reader, (s.next c).elim fail f = fail := by
      intro s other f
      rw [inside s other]
      rfl
    by_contra other
    refine accepts ?_
    cases known : mode.string with
    | none => exact fail_of_unmarked known unmarked
    | some scan =>
        obtain ⟨role, s, rfl, -⟩ := inside_of_string known
        rw [string_inside] at other
        have open_ : s.scan ≠ .plain := fun plain => other (congrArg some plain)
        rw [step_inside, if_neg fun ended => open_ ended.1, next_none s open_]
  have separator : isSeparator c = true := far.resolve_left fun low => accepts (step_plain_control plain low)
  exact ⟨separator, plain, (step_plain plain unquoted ordinary).resolve_left accepts⟩

/-! Spaces around a text. -/

/-- What `strip` takes away is a blank of the grammar, or nothing of it outside of strings. -/
theorem space_unmarked {c : Char} (space : Python.isSpace c = true) :
    c ≠ quote ∧ c ≠ backslash ∧ isLiteralChar c = false ∧ (isBlank c = true ∨ isMark c = false) := by
  have listed : c ∈ ([9, 10, 11, 12, 13, 28, 29, 30, 31, 32, 0x85, 0xa0, 0x1680, 0x2000, 0x2001, 0x2002, 0x2003, 0x2004,
      0x2005, 0x2006, 0x2007, 0x2008, 0x2009, 0x200a, 0x2028, 0x2029, 0x202f, 0x205f, 0x3000].map Char.ofNat) := by
    have code : Char.ofNat c.toNat = c := Char.ofNat_toNat c
    rw [← code]
    refine List.mem_map_of_mem ?_
    simp only [Python.isSpace, Bool.or_eq_true, Bool.and_eq_true, decide_eq_true_eq] at space
    simp only [List.mem_cons, List.not_mem_nil, or_false]
    omega
  have all : ∀ d ∈ ([9, 10, 11, 12, 13, 28, 29, 30, 31, 32, 0x85, 0xa0, 0x1680, 0x2000, 0x2001, 0x2002, 0x2003, 0x2004,
      0x2005, 0x2006, 0x2007, 0x2008, 0x2009, 0x200a, 0x2028, 0x2029, 0x202f, 0x205f, 0x3000].map Char.ofNat),
      d ≠ quote ∧ d ≠ backslash ∧ isLiteralChar d = false ∧ (isBlank d = true ∨ isMark d = false) :=
    List.all_iff_forall_prop.mp (by decide +kernel)
  exact all c listed

/-- A blank outside of strings changes nothing, or ends a literal. -/
theorem step_blank {r : Reader} {c : Char} (outside : r.mode.string = none) (blank : isBlank c = true)
    (unliteral : isLiteralChar c = false) : r.step c = r ∨ r.step c = fail ∨
      ∃ literal, r.mode = .atom literal ∧ isLiteral literal = true ∧ r.step c = ⟨r.stack, .after (.atom literal)⟩ := by
  obtain ⟨stack, mode⟩ := r
  have same : ∀ v : Json, continue_ stack v c = ⟨stack, .after v⟩ := fun v => if_pos blank
  cases mode with
  | value fresh => exact Or.inl (if_pos blank)
  | key fresh done => exact Or.inl (if_pos blank)
  | colon done key => exact Or.inl (if_pos blank)
  | text s => cases outside
  | keyText done s => cases outside
  | atom literal =>
      rw [step_atom, if_neg (Bool.eq_false_iff.mp unliteral)]
      by_cases known : isLiteral literal = true
      · rw [if_pos known, same]
        exact Or.inr (Or.inr ⟨literal, rfl, known, rfl⟩)
      · rw [if_neg known]
        exact Or.inr (Or.inl rfl)
  | after v => exact Or.inl (same v)
  | failed => exact Or.inr (Or.inl rfl)

/-- In a string nothing is finished. -/
theorem finish_of_string {r : Reader} (inside : r.mode.string ≠ none) : r.finish = none := by
  obtain ⟨stack, mode⟩ := r
  cases stack with
  | nil =>
      cases mode with
      | text s => rfl
      | keyText done s => rfl
      | _ => exact absurd rfl inside
  | cons frame outer => rfl

/-- What is finished behind a space was finished before it. -/
theorem finish_of_step_space {r : Reader} {c : Char} (space : Python.isSpace c = true) {v : Json}
    (done : (r.step c).finish = some v) : r.finish = some v := by
  have unfailed : r.step c ≠ fail := by
    intro failed
    rw [failed] at done
    cases done
  obtain ⟨unquoted, -, unliteral, kind⟩ := space_unmarked space
  by_cases outside : r.mode.string = none
  · have blank : isBlank c = true := kind.resolve_right fun unmarked => unfailed (fail_of_unmarked outside unmarked)
    rcases step_blank outside blank unliteral with same | failed | ⟨literal, atom, known, after⟩
    · rwa [same] at done
    · exact absurd failed unfailed
    · obtain ⟨stack, mode⟩ := r
      obtain rfl : mode = .atom literal := atom
      rw [after] at done
      cases stack with
      | nil =>
          obtain rfl := Option.some.inj done
          exact if_pos known
      | cons frame outer => cases done
  · rw [finish_of_string ((step_string outside unquoted).resolve_left unfailed)] at done
    cases done

theorem finish_of_run_spaces {r : Reader} {text spaces : List Char} (all : ∀ c ∈ spaces, Python.isSpace c = true)
    {v : Json} (done : (r.run (text ++ spaces)).finish = some v) : (r.run text).finish = some v := by
  induction spaces generalizing text with
  | nil => rwa [List.append_nil] at done
  | cons c spaces ih =>
      obtain ⟨here, later⟩ := List.forall_mem_cons.mp all
      have regrouped : (r.run (text ++ [c] ++ spaces)).finish = some v := by simpa using done
      have before := ih later regrouped
      rw [run_append] at before
      exact finish_of_step_space here before

/-- Spaces in front are blanks, or nothing is read. -/
theorem run_lstrip (text : List Char) : start.run text = fail ∨ start.run text = start.run (Lines.lstrip text) := by
  induction text with
  | nil => exact Or.inr rfl
  | cons c text ih =>
      cases space : Python.isSpace c with
      | false =>
          rw [Lines.lstrip, List.dropWhile_cons_of_neg (Bool.eq_false_iff.mp space)]
          exact Or.inr rfl
      | true =>
          rw [Lines.lstrip, List.dropWhile_cons_of_pos space]
          obtain ⟨-, -, -, blank | unmarked⟩ := space_unmarked space
          · have same : start.step c = start := if_pos blank
            rw [run_cons, same]
            exact ih
          · have failed : start.step c = fail := fail_of_unmarked rfl unmarked
            rw [run_cons, failed, run_fail]
            exact Or.inl rfl

/-- A text is read without the spaces around it as well. -/
theorem read_stripped {text : List Char} {v : Json} (done : read text = some v) :
    read (Lines.stripped text) = some v := by
  have unfailed : start.run text ≠ fail := by
    intro failed
    rw [read, failed] at done
    cases done
  have parts : Lines.stripped text ++ (Lines.lstrip text).rtakeWhile Python.isSpace = Lines.lstrip text :=
    List.rdropWhile_append_rtakeWhile
  rw [read, (run_lstrip text).resolve_left unfailed, ← parts] at done
  exact finish_of_run_spaces (fun c member => List.mem_rtakeWhile_imp member) done

/-- When a value is complete no string is begun behind it. -/
theorem string_of_finish {r : Reader} {v : Json} (done : r.finish = some v) (text : List Char) :
    (r.run text).mode.string = none := by
  have complete : r.stack = [] ∧ ((∃ v, r.mode = .after v) ∨ (∃ literal, r.mode = .atom literal) ∨
      r.mode = .failed) := by
    obtain ⟨stack, mode⟩ := r
    cases stack with
    | nil =>
        cases mode with
        | after v => exact ⟨rfl, Or.inl ⟨v, rfl⟩⟩
        | atom literal => exact ⟨rfl, Or.inr (Or.inl ⟨literal, rfl⟩)⟩
        | _ => cases done
    | cons frame outer => cases done
  clear done
  induction text generalizing r with
  | nil =>
      obtain ⟨stack, mode⟩ := r
      obtain ⟨-, ⟨v, rfl⟩ | ⟨literal, rfl⟩ | rfl⟩ := complete
      · rfl
      · rfl
      · rfl
  | cons c text ih =>
      refine ih ?_
      obtain ⟨stack, mode⟩ := r
      have closed : ∀ v : Json, continue_ [] v c = ⟨[], .after v⟩ ∨ continue_ [] v c = fail := by
        intro v
        simp only [continue_]
        split_ifs
        · exact Or.inl rfl
        · exact Or.inr rfl
      have ended : ∀ v : Json, (continue_ [] v c).stack = [] ∧ ((∃ w, (continue_ [] v c).mode = .after w) ∨
          (∃ literal, (continue_ [] v c).mode = .atom literal) ∨ (continue_ [] v c).mode = .failed) := by
        intro v
        rcases closed v with after | failed
        · rw [after]
          exact ⟨rfl, Or.inl ⟨v, rfl⟩⟩
        · rw [failed]
          exact ⟨rfl, Or.inr (Or.inr rfl)⟩
      obtain ⟨rfl, ⟨v, rfl⟩ | ⟨literal, rfl⟩ | rfl⟩ := complete
      · exact ended v
      · rw [step_atom]
        split_ifs
        · exact ⟨rfl, Or.inr (Or.inl ⟨literal ++ [c], rfl⟩)⟩
        · exact ended _
        · exact ⟨rfl, Or.inr (Or.inr rfl)⟩
      · exact ⟨rfl, Or.inr (Or.inr rfl)⟩

end Reader

theorem Serialises.rstripped {text : List Char} {members : Members} (serialises : Serialises text members) :
    Serialises (text.rdropWhile Python.isSpace) members := by
  have parts : text.rdropWhile Python.isSpace ++ text.rtakeWhile Python.isSpace = text :=
    List.rdropWhile_append_rtakeWhile
  have reads := serialises.reads
  rw [read, ← parts] at reads
  exact ⟨Reader.finish_of_run_spaces (fun c member => List.mem_rtakeWhile_imp member) reads, serialises.distinct⟩

/-- The spaces behind the object are no separators. -/
theorem Serialises.separator_inside {text : List Char} {members : Members} (serialises : Serialises text members)
    {c : Char} (listed : c ∈ text) (separator : isSeparator c = true) : c ∈ text.rdropWhile Python.isSpace := by
  have parts : text.rdropWhile Python.isSpace ++ text.rtakeWhile Python.isSpace = text :=
    List.rdropWhile_append_rtakeWhile
  rw [← parts] at listed
  refine (List.mem_append.mp listed).resolve_right fun behind => ?_
  obtain ⟨before, after, tail⟩ := List.append_of_mem behind
  have unfailed : (Reader.start.run (text.rdropWhile Python.isSpace ++ before)).run (c :: after) ≠ Reader.fail := by
    rw [← Reader.run_append, List.append_assoc, ← tail, parts]
    intro failed
    have reads := serialises.reads
    rw [read, failed] at reads
    cases reads
  have complete := Reader.string_of_finish serialises.rstripped.reads before
  rw [← Reader.run_append] at complete
  have inside := (Reader.accepts_of_run unfailed).lineEnd (Reader.isLineEnd_of_separator separator).1
    (Reader.isLineEnd_of_separator separator).2
  rw [complete] at inside
  cases inside.2.1

theorem Serialises.stripped {text : List Char} {members : Members} (serialises : Serialises text members) :
    Serialises (Lines.stripped text) members :=
  ⟨Reader.read_stripped serialises.reads, serialises.distinct⟩

end Json
