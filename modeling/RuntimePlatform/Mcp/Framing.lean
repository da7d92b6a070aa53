import RuntimePlatform.Lib.JsonCodes
import RuntimePlatform.Mcp.Transport

/-!
Event streams of JSON objects, and which of their objects the gateway reads back.
-/

namespace RuntimePlatform.Mcp
open Lines

/-- An event: the row of its data between rows of other fields, and a blank row. -/
structure Frame where
  before : List (List Char)
  text : List Char
  after : List (List Char)
  object : Json.Members

def Frame.fields (frame : Frame) : List (List Char) := frame.before ++ frame.after

def Frame.rows (frame : Frame) : List (List Char) :=
  frame.before ++ ("data:".toList ++ frame.text) :: frame.after ++ [[]]

/-- An `event:` or an `id:` row. -/
structure IsField (row : List Char) : Prop where
  named : "event:".toList <+: row ∨ "id:".toList <+: row
  row : IsRow row

/-- The text is one of the object's, on one row. -/
structure Frame.Valid (frame : Frame) : Prop where
  fields : ∀ row ∈ frame.fields, IsField row
  row : IsRow frame.text
  serialises : Json.Serialises frame.text frame.object

/-- `splitlines` finds no more rows in the other fields than there are. -/
def Frame.PlainFields (frame : Frame) : Prop := ∀ row ∈ frame.fields, Unbroken isLineEnd row

/-- The text holds no `U+0085`, `U+2028` or `U+2029`. -/
def Frame.PlainText (frame : Frame) : Prop := ∀ c ∈ frame.text, Json.isSeparator c = false

def done_rows (done : Bool) : List (List Char) := if done then ["data: [DONE]".toList, []] else []

/-- The events, all lines of them ended alike. -/
def stream_text (e : Ending) (frames : List Frame) (done : Bool) : List Char :=
  ended e (frames.flatMap Frame.rows ++ done_rows done)

/-! Rows with nothing that breaks them. -/

/-- The lines of rows, read one after the other. -/
def read_rows (s : Reading) (rows : List (List Char)) : Reading :=
  (rows.flatMap fun row => row.splitOnP isLineEnd).foldl read_line s

theorem read_rows_append (s : Reading) (rows more : List (List Char)) :
    read_rows s (rows ++ more) = read_rows (read_rows s rows) more := by
  rw [read_rows, List.flatMap_append, List.foldl_append]
  rfl

theorem read_rows_cons (s : Reading) (row : List Char) (rows : List (List Char)) :
    read_rows s (row :: rows) = read_rows ((row.splitOnP isLineEnd).foldl read_line s) rows := by
  rw [read_rows, List.flatMap_cons, List.foldl_append]
  rfl

theorem read_rows_blank (s : Reading) (rows : List (List Char)) :
    read_rows s (rows ++ [[]]) = read_line (read_rows s rows) [] := by
  rw [read_rows_append]
  rfl

/-- Behind a blank row nothing is pending. -/
theorem pending_rows (s : Reading) (frame : Frame) : (read_rows s frame.rows).data_lines = [] := by
  rw [Frame.rows, read_rows_blank, read_blank]

/-- A row is its own line, without returns at its end to be taken off. -/
theorem line_of_row {row : List Char} (whole : IsRow row) :
    (row.rdropWhile fun c => decide (c = carriageReturn)) = row := by
  refine List.rdropWhile_eq_self_iff.mpr fun some_row => ?_
  have last := whole _ (List.getLast_mem some_row)
  simp only [isReturnOrFeed, decide_eq_false_iff_not, not_or] at last
  simpa using last.2

theorem read_data {row text : List Char} (whole : IsRow row) (data : row = "data:".toList ++ text) (s : Reading) :
    read_line s row = { s with data_lines := s.data_lines ++ [lstrip text] } := by
  rw [read_line, line_of_row whole, data]
  rw [if_pos (List.prefix_append _ _)]
  rfl

/-- Other rows are passed over. -/
theorem read_other {row : List Char} (whole : IsRow row) (other : ¬ "data:".toList <+: row) (some_row : row ≠ [])
    (s : Reading) : read_line s row = s := by
  rw [read_line, line_of_row whole]
  rw [if_neg other, if_neg fun blank => some_row blank.1]

theorem IsField.not_data {row : List Char} (field : IsField row) : ¬ "data:".toList <+: row ∧ row ≠ [] := by
  rcases field.named with ⟨rest, rfl⟩ | ⟨rest, rfl⟩
  · exact ⟨by simp, by simp⟩
  · exact ⟨by simp, by simp⟩

theorem read_fields {rows : List (List Char)} (fields : ∀ row ∈ rows, IsField row)
    (plain : ∀ row ∈ rows, Unbroken isLineEnd row) (s : Reading) : read_rows s rows = s := by
  induction rows with
  | nil => rfl
  | cons row rows ih =>
      obtain ⟨field, fields⟩ := List.forall_mem_cons.mp fields
      obtain ⟨unbroken, plain⟩ := List.forall_mem_cons.mp plain
      have other := field.not_data
      have same : (row.splitOnP isLineEnd).foldl read_line s = s := by
        rw [List.splitOnP_eq_singleton unbroken]
        exact read_other field.row other.1 other.2 s
      rw [read_rows_cons, same]
      exact ih fields plain

/-! The end of the stream. -/

theorem isSpace_of_ending (e : Ending) : ∀ c ∈ e.text, Python.isSpace c = true := by
  cases e with
  | feed => exact List.all_eq_true.mp (by decide)
  | return_ => exact List.all_eq_true.mp (by decide)
  | returnFeed => exact List.all_eq_true.mp (by decide)

theorem rdropWhile_spaces {text spaces : List Char} (all : ∀ c ∈ spaces, Python.isSpace c = true) :
    (text ++ spaces).rdropWhile Python.isSpace = text.rdropWhile Python.isSpace := by
  induction spaces using List.reverseRecOn with
  | nil => rw [List.append_nil]
  | append_singleton spaces c ih =>
      rw [← List.append_assoc, List.rdropWhile_concat_pos _ _ _ (all c (List.mem_append_right _ List.mem_cons_self))]
      exact ih fun d member => all d (List.mem_append_left _ member)

/-- Within a row which is not blank nothing but spaces of its own is stripped off. -/
theorem rdropWhile_row {before row : List Char} (some_row : row.rdropWhile Python.isSpace ≠ []) :
    (before ++ row).rdropWhile Python.isSpace = before ++ row.rdropWhile Python.isSpace := by
  have parts : row.rdropWhile Python.isSpace ++ row.rtakeWhile Python.isSpace = row := List.rdropWhile_append_rtakeWhile
  have spaces : ∀ c ∈ row.rtakeWhile Python.isSpace, Python.isSpace c = true := fun c => List.mem_rtakeWhile_imp
  rw [← parts, ← List.append_assoc, rdropWhile_spaces spaces, parts]
  refine List.rdropWhile_eq_self_iff.mpr fun some_text => ?_
  rw [List.getLast_append_of_ne_nil _ some_row]
  exact List.rdropWhile_last_not _ _ some_row

theorem isSpace_of_lineEnd {c : Char} (ends : isLineEnd c = true) : Python.isSpace c = true := by
  simp only [isLineEnd, Bool.or_eq_true, Bool.and_eq_true, decide_eq_true_eq] at ends
  simp only [Python.isSpace, Bool.or_eq_true, Bool.and_eq_true, decide_eq_true_eq]
  omega

theorem ended_append (e : Ending) (rows more : List (List Char)) :
    ended e (rows ++ more) = ended e rows ++ ended e more :=
  List.flatMap_append

/-- The lines of a stream without the spaces around it, where the last row of the last event has lost those at its
end. -/
theorem splitlines_stripped {e : Ending} {rows : List (List Char)} {row : List Char} (whole : ∀ r ∈ rows, IsRow r)
    (whole' : IsRow row)
    (begun : lstrip (ended e (rows ++ [row, []])) = ended e (rows ++ [row, []]))
    (some_row : row.rdropWhile Python.isSpace ≠ []) :
    splitlines (stripped (ended e (rows ++ [row, []]))) =
      (rows ++ [row.rdropWhile Python.isSpace]).flatMap fun r => r.splitOnP isLineEnd := by
  have cut : stripped (ended e (rows ++ [row, []])) = ended e rows ++ row.rdropWhile Python.isSpace := by
    have spaces : ∀ c ∈ e.text ++ e.text, Python.isSpace c = true :=
      List.forall_mem_append.mpr ⟨isSpace_of_ending e, isSpace_of_ending e⟩
    have tail : ended e [row, []] = row ++ (e.text ++ e.text) := by simp [ended]
    rw [stripped, begun, ended_append, tail, ← List.append_assoc, rdropWhile_spaces spaces, rdropWhile_row some_row]
  have unspaced := List.rdropWhile_last_not Python.isSpace row some_row
  have part : row.rdropWhile Python.isSpace <+: row := List.rdropWhile_prefix _ _
  generalize row.rdropWhile Python.isSpace = trimmed at some_row unspaced cut part ⊢
  obtain ⟨before, c, rfl⟩ := (List.eq_nil_or_concat' trimmed).resolve_left some_row
  have inner : isLineEnd c = false := by
    rw [List.getLast_concat] at unspaced
    exact Bool.eq_false_iff.mpr fun ends => unspaced (isSpace_of_lineEnd ends)
  have trimmed_row : IsRow (before ++ [c]) := fun d member => whole' d (part.subset member)
  have all : ∀ r ∈ rows ++ [before ++ [c]], IsRow r :=
    List.forall_mem_append.mpr ⟨whole, List.forall_mem_singleton.mpr trimmed_row⟩
  have closed : ended e (rows ++ [before ++ [c]]) = ended e rows ++ before ++ [c] ++ e.text := by
    rw [ended_append]
    simp [ended]
  rw [cut, splitlines, ← List.append_assoc, lines, linesFrom_unended breaks_isLineEnd e inner, ← closed]
  exact lines_ended breaks_isLineEnd all e

theorem prefix_rdropWhile {mark row : List Char} (marked : mark <+: row)
    (unspaced : mark.rdropWhile Python.isSpace = mark) : mark <+: row.rdropWhile Python.isSpace := by
  obtain ⟨rest, rfl⟩ := marked
  by_cases spaces : rest.rdropWhile Python.isSpace = []
  · have same := (rdropWhile_spaces (List.rdropWhile_eq_nil_iff.mp spaces)).trans unspaced
    exact ⟨[], (List.append_nil mark).trans same.symm⟩
  · rw [rdropWhile_row spaces]
    exact List.prefix_append _ _

theorem isRow_of_prefix {row part : List Char} (whole : IsRow row) (is_part : part <+: row) : IsRow part :=
  fun c member => whole c (is_part.subset member)

theorem IsField.trimmed {row : List Char} (field : IsField row) : IsField (row.rdropWhile Python.isSpace) where
  named := by
    rcases field.named with event | id
    · exact Or.inl (prefix_rdropWhile event (by decide))
    · exact Or.inr (prefix_rdropWhile id (by decide))
  row := isRow_of_prefix field.row (List.rdropWhile_prefix _ _)

/-- The same event, some spaces at the end of it apart. -/
structure Frame.Trims (frame trimmed : Frame) : Prop where
  valid : trimmed.Valid
  object : trimmed.object = frame.object
  fields : frame.PlainFields → trimmed.PlainFields
  text : trimmed.PlainText ↔ frame.PlainText

theorem Frame.Valid.trims {frame : Frame} (valid : frame.Valid) : frame.Trims frame := ⟨valid, rfl, id, Iff.rfl⟩

theorem isRow_data {text : List Char} (whole : IsRow text) : IsRow ("data:".toList ++ text) :=
  List.forall_mem_append.mpr ⟨List.all_iff_forall_prop.mp (by decide), whole⟩

theorem Frame.Valid.rows {frame : Frame} (valid : frame.Valid) : ∀ row ∈ frame.rows, IsRow row := by
  obtain ⟨before, after⟩ := List.forall_mem_append.mp valid.fields
  refine List.forall_mem_append.mpr ⟨List.forall_mem_append.mpr ⟨fun row listed => (before row listed).row, ?_⟩, ?_⟩
  · exact List.forall_mem_cons.mpr ⟨isRow_data valid.row, fun row listed => (after row listed).row⟩
  · exact List.forall_mem_singleton.mpr fun c impossible => absurd impossible List.not_mem_nil

theorem trims_text {frame : Frame} (valid : frame.Valid) :
    frame.Trims { frame with text := frame.text.rdropWhile Python.isSpace } where
  valid := ⟨valid.fields, isRow_of_prefix valid.row (List.rdropWhile_prefix _ _), valid.serialises.rstripped⟩
  object := rfl
  fields := id
  text := by
    constructor
    · intro plain c listed
      by_contra separator
      have inside := valid.serialises.separator_inside listed (Bool.eq_true_of_not_eq_false separator)
      exact separator (plain c inside)
    · intro plain c listed
      exact plain c ((List.rdropWhile_prefix _ _).subset listed)

theorem trims_after {frame : Frame} (valid : frame.Valid) {after : List (List Char)} {row : List Char}
    (last : frame.after = after ++ [row]) :
    frame.Trims { frame with after := after ++ [row.rdropWhile Python.isSpace] } := by
  have each : ∀ {p : List Char → Prop}, (∀ r ∈ frame.fields, p r) → (p row → p (row.rdropWhile Python.isSpace)) →
      ∀ r ∈ frame.before ++ (after ++ [row.rdropWhile Python.isSpace]), p r := by
    intro p all kept
    rw [Frame.fields, last, List.forall_mem_append, List.forall_mem_append, List.forall_mem_singleton] at all
    rw [List.forall_mem_append, List.forall_mem_append, List.forall_mem_singleton]
    exact ⟨all.1, all.2.1, kept all.2.2⟩
  refine ⟨⟨each valid.fields IsField.trimmed, valid.row, valid.serialises⟩, rfl, fun plain => ?_, Iff.rfl⟩
  exact each plain fun unbroken c member => unbroken c ((List.rdropWhile_prefix _ _).subset member)

/-- The rows before the blank one, of which the last loses the spaces at its end, are those of such an event. -/
theorem Frame.Valid.trimmed {frame : Frame} (valid : frame.Valid) : ∃ trimmed rows row, frame.Trims trimmed ∧
    frame.rows = rows ++ [row, []] ∧ trimmed.rows = rows ++ [row.rdropWhile Python.isSpace, []] ∧
    row.rdropWhile Python.isSpace ≠ [] := by
  rcases List.eq_nil_or_concat' frame.after with none | ⟨after, row, last⟩
  · have some_text : frame.text.rdropWhile Python.isSpace ≠ [] := by
      intro empty
      have reads := valid.serialises.rstripped.reads
      rw [empty] at reads
      cases reads
    have data : ("data:".toList ++ frame.text).rdropWhile Python.isSpace =
        "data:".toList ++ frame.text.rdropWhile Python.isSpace := rdropWhile_row some_text
    refine ⟨_, frame.before, "data:".toList ++ frame.text, trims_text valid, ?_, ?_, ?_⟩
    · simp [Frame.rows, none]
    · rw [data]
      simp [Frame.rows, none]
    · rw [data]
      exact List.append_ne_nil_of_left_ne_nil (by decide) _
  · have field : IsField row := valid.fields row
        (List.mem_append_right _ (last ▸ List.mem_append_right _ List.mem_cons_self))
    refine ⟨_, frame.before ++ ("data:".toList ++ frame.text) :: after, row, trims_after valid last, ?_, ?_,
      field.trimmed.not_data.2⟩
    · simp [Frame.rows, last]
    · simp [Frame.rows]

/-! The stream as a whole. -/

theorem lstrip_ended {mark row : List Char} (marked : mark <+: row) (unspaced : mark.head?.any Python.isSpace = false)
    (some_mark : mark ≠ []) (e : Ending) (rows : List (List Char)) :
    lstrip (ended e (row :: rows)) = ended e (row :: rows) := by
  obtain ⟨rest, rfl⟩ := marked
  obtain ⟨c, mark, rfl⟩ := List.exists_cons_of_ne_nil some_mark
  exact List.dropWhile_cons_of_neg (Bool.eq_false_iff.mp unspaced)

/-- A stream begins with the name of a field. -/
theorem lstrip_stream {frame : Frame} (valid : frame.Valid) (e : Ending) (rows : List (List Char)) :
    lstrip (ended e (frame.rows ++ rows)) = ended e (frame.rows ++ rows) := by
  obtain ⟨before, text, after, object⟩ := frame
  cases before with
  | nil => exact lstrip_ended (List.prefix_append "data:".toList text) (by decide) (by decide) e _
  | cons row before =>
      have field : IsField row := valid.fields row List.mem_cons_self
      rcases field.named with event | id
      · exact lstrip_ended event (by decide) (by decide) e _
      · exact lstrip_ended id (by decide) (by decide) e _

theorem stream_rows {frames : List Frame} (valid : ∀ frame ∈ frames, frame.Valid) :
    ∀ row ∈ frames.flatMap Frame.rows, IsRow row := by
  intro row listed
  obtain ⟨frame, member, inside⟩ := List.mem_flatMap.mp listed
  exact (valid frame member).rows row inside

theorem lower_event_stream (T : Python.Text) : T.lower "text/event-stream" = "text/event-stream" := by
  have ascii : ∀ c ∈ "text/event-stream".toList, c.toNat < 128 := List.all_iff_forall_prop.mp (by decide)
  rw [T.lower_ascii "text/event-stream" ascii]
  decide

/-- The response is read as a stream, and the spaces around it are stripped off. -/
theorem parse_body (T : Python.Text) (text : List Char) :
    parse_mcp_response_body T "text/event-stream" (Utf8.encode text) = parse_sse_jsonrpc (stripped text) := by
  have decoded : Utf8.decodeReplace (Utf8.encode text) = text := Utf8.decode_encode _ text
  unfold parse_mcp_response_body
  rw [decoded, lower_event_stream]
  exact if_pos (Or.inl List.infix_rfl)

/-- The end marker is no message. -/
theorem read_done {s : Reading} (read_up : s.data_lines = []) :
    (read_line (read_rows s ["data: [DONE]".toList]) []).last = s.last := by
  obtain ⟨last, data_lines⟩ := s
  obtain rfl : data_lines = [] := read_up
  have row : IsRow "data: [DONE]".toList := List.all_iff_forall_prop.mp (by decide)
  have data : "data: [DONE]".toList = "data:".toList ++ " [DONE]".toList := by decide
  have pieces : ("data: [DONE]".toList).splitOnP isLineEnd = ["data: [DONE]".toList] := by decide
  have marker : message [lstrip " [DONE]".toList] = none := rfl
  rw [read_rows_cons, pieces, List.foldl_cons, List.foldl_nil, read_data row data, read_blank]
  change ((message [lstrip " [DONE]".toList]).or last) = last
  rw [marker, Option.none_or]

/-- What is read of a stream is what its rows leave. -/
theorem parse_stream (T : Python.Text) (e : Ending) {earlier : List Frame} {last : Frame} (done : Bool)
    (valid : ∀ frame ∈ earlier ++ [last], frame.Valid) : ∃ trimmed, last.Trims trimmed ∧ ∀ parsed,
      parse_mcp_response_body T "text/event-stream" (Utf8.encode (stream_text e (earlier ++ [last]) done)) =
        .ok parsed ↔ (read_rows ⟨none, []⟩ ((earlier ++ [trimmed]).flatMap Frame.rows)).last = some parsed := by
  have last_valid : last.Valid := valid last (List.mem_append_right _ List.mem_cons_self)
  have begun : ∀ rows, lstrip (ended e ((earlier ++ [last]).flatMap Frame.rows ++ rows)) =
      ended e ((earlier ++ [last]).flatMap Frame.rows ++ rows) := by
    intro rows
    cases earlier with
    | nil =>
        rw [List.nil_append, List.flatMap_cons, List.flatMap_nil, List.append_nil]
        exact lstrip_stream last_valid e rows
    | cons frame earlier =>
        rw [List.cons_append, List.flatMap_cons, List.append_assoc]
        exact lstrip_stream (valid frame List.mem_cons_self) e _
  cases done with
  | true =>
      refine ⟨last, last_valid.trims, fun parsed => ?_⟩
      have marker : ("data: [DONE]".toList).rdropWhile Python.isSpace = "data: [DONE]".toList := by decide
      have row : IsRow "data: [DONE]".toList := List.all_iff_forall_prop.mp (by decide)
      have lines := splitlines_stripped (stream_rows valid) row (begun _) (by decide)
      have read_up : (read_rows ⟨none, []⟩ ((earlier ++ [last]).flatMap Frame.rows)).data_lines = [] := by
        rw [List.flatMap_append, List.flatMap_singleton, read_rows_append]
        exact pending_rows _ last
      rw [parse_body, parse_sse_jsonrpc_eq_ok, stream_text, done_rows, if_pos rfl, lines, marker]
      change (read_line (read_rows _ _) []).last = _ ↔ _
      rw [read_rows_append, read_done read_up]
  | false =>
      obtain ⟨trimmed, rows, row, trims, whole, less, some_row⟩ := last_valid.trimmed
      refine ⟨trimmed, trims, fun parsed => ?_⟩
      have all : ∀ r ∈ earlier.flatMap Frame.rows ++ rows ++ [row], IsRow r := by
        intro r listed
        refine stream_rows valid r ?_
        rw [List.flatMap_append, List.flatMap_singleton, whole]
        simp only [List.mem_append, List.mem_cons, List.not_mem_nil, or_false] at listed ⊢
        tauto
      obtain ⟨rows_whole, row_whole⟩ := List.forall_mem_append.mp all
      have text : stream_text e (earlier ++ [last]) false =
          ended e (earlier.flatMap Frame.rows ++ rows ++ [row, []]) := by
        simp [stream_text, done_rows, whole]
      have start := begun []
      rw [List.append_nil, List.flatMap_append, List.flatMap_singleton, whole, ← List.append_assoc] at start
      have lines := splitlines_stripped rows_whole (row_whole row List.mem_cons_self) start some_row
      rw [parse_body, parse_sse_jsonrpc_eq_ok, text, lines]
      change (read_line (read_rows _ _) []).last = _ ↔ _
      rw [← read_rows_blank, List.flatMap_append, List.flatMap_singleton, less]
      simp only [List.append_assoc, List.cons_append, List.nil_append]

end RuntimePlatform.Mcp
