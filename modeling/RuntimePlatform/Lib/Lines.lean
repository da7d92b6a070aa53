import RuntimePlatform.Lib.Python

/-!
The lines of a text. Where a line ends is a parameter: Python's `splitlines` knows more ends than event streams do.
-/

namespace Lines

def lineFeed : Char := Char.ofNat 10

def carriageReturn : Char := Char.ofNat 13

/-- `text.lstrip()` -/
def lstrip (text : List Char) : List Char := text.dropWhile Python.isSpace

/-- `text.strip()` -/
def stripped (text : List Char) : List Char := (lstrip text).rdropWhile Python.isSpace

/-- Where `str.splitlines` breaks a text. -/
def isLineEnd (c : Char) : Bool :=
  let n := c.toNat
  (10 ≤ n && n ≤ 13) || (28 ≤ n && n ≤ 30) || n = 0x85 || n = 0x2028 || n = 0x2029

/-- Where a line of an event stream ends. -/
def isReturnOrFeed (c : Char) : Bool := decide (c = lineFeed ∨ c = carriageReturn)

/-- The lines of what is left of a text, of whose first line a part has been read already. Right after a carriage return
a line feed belongs to the same end. -/
def linesFrom (ends : Char → Bool) (line : List Char) (afterReturn : Bool) : List Char → List (List Char)
  | [] => if line = [] then [] else [line]
  | c :: rest =>
    if afterReturn ∧ c = lineFeed then linesFrom ends line false rest
    else if ends c then line :: linesFrom ends [] (decide (c = carriageReturn)) rest
    else linesFrom ends (line ++ [c]) false rest

def lines (ends : Char → Bool) (text : List Char) : List (List Char) := linesFrom ends [] false text

/-- `text.splitlines()` -/
def splitlines (text : List Char) : List (List Char) := lines isLineEnd text

theorem lstrip_lstrip (text : List Char) : lstrip (lstrip text) = lstrip text := List.dropWhile_idempotent _ _

/-- How the lines of a text are ended, all of them alike. -/
inductive Ending where
  | feed
  | return_
  | returnFeed
  deriving DecidableEq

def Ending.text : Ending → List Char
  | .feed => [lineFeed]
  | .return_ => [carriageReturn]
  | .returnFeed => [carriageReturn, lineFeed]

/-- Whether the reader is right after a carriage return when the line has been ended. -/
def Ending.leavesReturn (e : Ending) : Bool := decide (e = .return_)

/-- The lines with their ends. -/
def ended (e : Ending) (rows : List (List Char)) : List Char := rows.flatMap fun row => row ++ e.text

section Read
variable {ends : Char → Bool} {line : List Char} {afterReturn : Bool}

/-- No character of the text ends a line. -/
def Unbroken (ends : Char → Bool) (text : List Char) : Prop := ∀ c ∈ text, ends c = false

/-- The reader takes an end for one, and `\r\n` for one end. -/
structure Breaks (ends : Char → Bool) : Prop where
  feed : ends lineFeed = true
  return_ : ends carriageReturn = true

theorem breaks_isLineEnd : Breaks isLineEnd := ⟨by decide, by decide⟩

theorem breaks_isReturnOrFeed : Breaks isReturnOrFeed := ⟨by decide, by decide⟩

/-- An end closes the line, whichever it is. -/
theorem linesFrom_ending (breaks : Breaks ends) (e : Ending) (fits : afterReturn = true → e ≠ .feed)
    (rest : List Char) :
    linesFrom ends line afterReturn (e.text ++ rest) = line :: linesFrom ends [] e.leavesReturn rest := by
  have unlike : ¬ (afterReturn = true ∧ carriageReturn = lineFeed) := by
    rintro ⟨-, same⟩
    exact absurd same (by decide)
  cases e with
  | feed =>
      have plain : ¬ (afterReturn = true ∧ lineFeed = lineFeed) := fun both => fits both.1 rfl
      change linesFrom ends line afterReturn (lineFeed :: rest) = _
      rw [linesFrom, if_neg plain, if_pos breaks.feed]
      rfl
  | return_ =>
      change linesFrom ends line afterReturn (carriageReturn :: rest) = _
      rw [linesFrom, if_neg unlike, if_pos breaks.return_]
      rfl
  | returnFeed =>
      change linesFrom ends line afterReturn (carriageReturn :: lineFeed :: rest) = _
      rw [linesFrom, if_neg unlike, if_pos breaks.return_, linesFrom, if_pos ⟨rfl, rfl⟩]
      rfl

/-- A row of the text: neither a return nor a feed is in it. -/
def IsRow (row : List Char) : Prop := Unbroken isReturnOrFeed row

theorem isRow_of_unbroken (breaks : Breaks ends) {text : List Char} (unbroken : Unbroken ends text) : IsRow text := by
  intro c member
  have inner := unbroken c member
  refine decide_eq_false ?_
  rintro (rfl | rfl)
  · exact Bool.false_ne_true (inner.symm.trans breaks.feed)
  · exact Bool.false_ne_true (inner.symm.trans breaks.return_)

theorem modifyHead_nil_append (pieces : List (List Char)) :
    pieces.modifyHead (fun piece => [] ++ piece) = pieces := by
  cases pieces with
  | nil => rfl
  | cons piece rest => rfl

/-- A row falls into pieces at the ends within it. -/
theorem linesFrom_row (breaks : Breaks ends) {row : List Char} (whole : IsRow row) (e : Ending)
    (fits : afterReturn = true → e ≠ .feed) (rest : List Char) :
    linesFrom ends line afterReturn (row ++ (e.text ++ rest)) =
      (row.splitOnP ends).modifyHead (fun piece => line ++ piece) ++ linesFrom ends [] e.leavesReturn rest := by
  induction row generalizing line afterReturn with
  | nil =>
      rw [List.nil_append, linesFrom_ending breaks e fits, List.splitOnP_nil, List.modifyHead_cons, List.append_nil]
      rfl
  | cons c row ih =>
      obtain ⟨here, later⟩ := List.forall_mem_cons.mp whole
      simp only [isReturnOrFeed, decide_eq_false_iff_not, not_or] at here
      have no_feed : ¬ (afterReturn = true ∧ c = lineFeed) := fun both => here.1 both.2
      have no_return : decide (c = carriageReturn) = false := decide_eq_false here.2
      have fits' : false = true → e ≠ .feed := fun impossible => absurd impossible Bool.false_ne_true
      rw [List.cons_append, linesFrom, if_neg no_feed, List.splitOnP_cons_eq_if_modifyHead]
      cases closed : ends c with
      | true =>
          rw [if_pos rfl, if_pos rfl, no_return, ih later fits', List.modifyHead_cons, List.append_nil,
            modifyHead_nil_append, List.cons_append]
      | false =>
          rw [if_neg Bool.false_ne_true, if_neg Bool.false_ne_true, ih later fits', List.modifyHead_modifyHead]
          simp [Function.comp_def]

/-- The lines of rows with their ends are the pieces of the rows. -/
theorem linesFrom_ended (breaks : Breaks ends) {rows : List (List Char)} (whole : ∀ row ∈ rows, IsRow row) (e : Ending)
    (fits : afterReturn = true → e ≠ .feed) :
    linesFrom ends [] afterReturn (ended e rows) = rows.flatMap fun row => row.splitOnP ends := by
  induction rows generalizing afterReturn with
  | nil => rfl
  | cons row rows ih =>
      obtain ⟨here, later⟩ := List.forall_mem_cons.mp whole
      have fits' : e.leavesReturn = true → e ≠ .feed := by
        rintro left rfl
        exact absurd left (by decide)
      rw [ended, List.flatMap_cons, List.append_assoc, linesFrom_row breaks here e fits, List.flatMap_cons]
      exact congrArg₂ (fun pieces more => pieces ++ more) (modifyHead_nil_append _) (ih later fits')

theorem lines_ended (breaks : Breaks ends) {rows : List (List Char)} (whole : ∀ row ∈ rows, IsRow row) (e : Ending) :
    lines ends (ended e rows) = rows.flatMap fun row => row.splitOnP ends :=
  linesFrom_ended breaks whole e fun impossible => absurd impossible Bool.false_ne_true

/-- The last line needs no end. -/
theorem linesFrom_unended (breaks : Breaks ends) (e : Ending) {text : List Char} {c : Char} (inner : ends c = false) :
    linesFrom ends line afterReturn (text ++ [c]) = linesFrom ends line afterReturn (text ++ [c] ++ e.text) := by
  induction text generalizing line afterReturn with
  | nil =>
      have no_feed : ¬ (afterReturn = true ∧ c = lineFeed) := by
        rintro ⟨-, rfl⟩
        exact Bool.false_ne_true (inner.symm.trans breaks.feed)
      have fits : false = true → e ≠ .feed := fun impossible => absurd impossible Bool.false_ne_true
      have last : linesFrom ends (line ++ [c]) false (e.text ++ []) =
          (line ++ [c]) :: linesFrom ends [] e.leavesReturn [] := linesFrom_ending breaks e fits []
      rw [List.append_nil] at last
      have read : ∀ rest, linesFrom ends line afterReturn (c :: rest) = linesFrom ends (line ++ [c]) false rest := by
        intro rest
        rw [linesFrom, if_neg no_feed, if_neg (Bool.eq_false_iff.mp inner)]
      have some_line : ¬ line ++ [c] = [] := by simp
      change linesFrom ends line afterReturn (c :: []) = linesFrom ends line afterReturn (c :: e.text)
      rw [read, read, last, linesFrom, linesFrom, if_neg some_line, if_pos rfl]
  | cons d text ih =>
      rw [List.cons_append, List.cons_append, linesFrom, linesFrom]
      simp only [ih]

/-- Every line is a stretch of the text without an end in it. -/
theorem mem_linesFrom (unbroken : Unbroken ends line) (fresh : afterReturn = true → line = []) {text l : List Char}
    (listed : l ∈ linesFrom ends line afterReturn text) : l <:+: line ++ text ∧ Unbroken ends l := by
  induction text generalizing line afterReturn with
  | nil =>
      rw [linesFrom] at listed
      split_ifs at listed with empty
      · exact absurd listed List.not_mem_nil
      · rw [List.mem_singleton.mp listed, List.append_nil]
        exact ⟨List.infix_rfl, unbroken⟩
  | cons c text ih =>
      have none : Unbroken ends [] := fun c impossible => absurd impossible List.not_mem_nil
      have unread : false = true → ∀ line : List Char, line = [] :=
          fun impossible => absurd impossible Bool.false_ne_true
      rw [linesFrom] at listed
      split_ifs at listed with swallowed closed
      · obtain ⟨inside, inner⟩ := ih unbroken (fun impossible => unread impossible line) listed
        rw [fresh swallowed.1, List.nil_append] at inside ⊢
        exact ⟨inside.trans (List.suffix_cons c text).isInfix, inner⟩
      · rcases List.mem_cons.mp listed with rfl | later
        · exact ⟨(List.prefix_append l (c :: text)).isInfix, unbroken⟩
        · obtain ⟨inside, inner⟩ := ih none (fun _ => rfl) later
          exact ⟨inside.trans ((List.suffix_cons c text).trans (List.suffix_append line _)).isInfix, inner⟩
      · have longer : Unbroken ends (line ++ [c]) := by
          intro d member
          rcases List.mem_append.mp member with old | new
          · exact unbroken d old
          · rw [List.mem_singleton.mp new]
            exact Bool.eq_false_iff.mpr closed
        obtain ⟨inside, inner⟩ := ih longer (fun impossible => unread impossible _) listed
        rw [List.append_assoc] at inside
        exact ⟨inside, inner⟩

theorem mem_lines {text l : List Char} (listed : l ∈ lines ends text) : l <:+: text ∧ Unbroken ends l :=
  mem_linesFrom (fun _ impossible => absurd impossible List.not_mem_nil) (fun _ => rfl) listed

theorem lines_unbroken (breaks : Breaks ends) {text : List Char} (unbroken : Unbroken ends text)
    (some_text : text ≠ []) :
    lines ends text = [text] := by
  obtain ⟨before, c, rfl⟩ := (List.eq_nil_or_concat' text).resolve_left some_text
  have row := isRow_of_unbroken breaks unbroken
  have one := lines_ended breaks (List.forall_mem_singleton.mpr row) .feed
  rw [List.flatMap_singleton, List.splitOnP_eq_singleton unbroken] at one
  rw [← one, ended, List.flatMap_singleton]
  exact linesFrom_unended breaks .feed (unbroken c (List.mem_append_right before List.mem_cons_self))

/-- A text is one piece, or an end cuts its first piece off. -/
theorem unbroken_or_cut (ends : Char → Bool) (text : List Char) : Unbroken ends text ∨
    ∃ first c rest, text = first ++ c :: rest ∧ Unbroken ends first ∧ ends c = true := by
  induction text with
  | nil => exact Or.inl fun c impossible => absurd impossible List.not_mem_nil
  | cons c text ih =>
      cases here : ends c with
      | true => exact Or.inr ⟨[], c, text, rfl, fun c impossible => absurd impossible List.not_mem_nil, here⟩
      | false =>
          rcases ih with unbroken | ⟨first, d, rest, rfl, unbroken, closed⟩
          · exact Or.inl (List.forall_mem_cons.mpr ⟨here, unbroken⟩)
          · exact Or.inr ⟨c :: first, d, rest, rfl, List.forall_mem_cons.mpr ⟨here, unbroken⟩, closed⟩

end Read

end Lines
