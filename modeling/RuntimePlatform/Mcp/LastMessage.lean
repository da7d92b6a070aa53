import RuntimePlatform.Mcp.Framing

/-!
Which object of a stream is returned. A row which `splitlines` breaks within a string is lost: its first piece ends
within the string, and whatever object is read from the rest holds none of the characters it was broken at.
-/

namespace RuntimePlatform.Mcp
open Lines Json

/-- A code point which is no separator. -/
def Ordinary (n : ℕ) : Prop := n ≠ 0x85 ∧ n ≠ 0x2028 ∧ n ≠ 0x2029

theorem keepsPairs_ordinary : KeepsPairs Ordinary where
  half := by
    intro n half
    simp only [isHigh, isLow, decide_eq_true_eq] at half
    unfold Ordinary
    omega
  joined := by
    intro n large
    unfold Ordinary
    omega

theorem ordinary_iff {c : Char} : Ordinary c.toNat ↔ isSeparator c = false := by
  simp only [Ordinary, isSeparator, decide_eq_false_iff_not, not_or]

theorem ordinary_of_unbroken {text : List Char} (unbroken : Unbroken isLineEnd text) :
    ∀ c ∈ text, Ordinary c.toNat := by
  intro c member
  refine ordinary_iff.mpr (Bool.eq_false_iff.mpr fun separator => ?_)
  exact Bool.false_ne_true ((unbroken c member).symm.trans (Reader.isLineEnd_of_separator separator).1)

/-! Collected data. -/

def joined (data_lines : List (List Char)) : List Char := [lineFeed].intercalate data_lines

theorem joined_concat {data_lines : List (List Char)} (some_data : data_lines ≠ []) (data : List Char) :
    joined (data_lines ++ [data]) = joined data_lines ++ lineFeed :: data := by
  unfold joined
  induction data_lines with
  | nil => exact absurd rfl some_data
  | cons first rest ih =>
      by_cases last : rest = []
      · subst last
        simp
      · rw [List.cons_append, List.intercalate_cons_of_ne_nil (by simp), ih last, List.intercalate_cons_of_ne_nil last]
        simp

/-- Only ordinary objects are read from the data so far, wherever it is cut off. -/
def Values (data_lines : List (List Char)) : Prop :=
  ∀ part, part <+: lstrip (joined data_lines) → ∀ v, read part = some v → v.EveryCode Ordinary

/-- On the next line the reader of the data is not in a string, if it has not failed. -/
def Next (data_lines : List (List Char)) : Prop :=
  Reader.start.run (lstrip (joined data_lines) ++ [lineFeed]) = Reader.fail ∨
    (Reader.start.run (lstrip (joined data_lines) ++ [lineFeed])).EveryCode Ordinary ∧
      (Reader.start.run (lstrip (joined data_lines) ++ [lineFeed])).mode.string = none

theorem values_nil : Values [] := by
  intro part is_part v reads
  obtain rfl := List.prefix_nil.mp is_part
  cases reads

theorem next_nil : Next [] := Or.inr ⟨⟨fun _ impossible => absurd impossible List.not_mem_nil, trivial⟩, rfl⟩

theorem Values.message {data_lines : List (List Char)} (values : Values data_lines) {parsed : Members}
    (found : message data_lines = some parsed) : (Json.obj parsed).EveryCode Ordinary := by
  obtain ⟨v, reads, dict⟩ := message_eq_some found
  have every := values _ (List.rdropWhile_prefix _ _) v reads
  rw [← dict]
  exact everyCode_dict v every

/-- What the data becomes with one more line. -/
theorem lstrip_joined (data_lines : List (List Char)) (content : List Char) :
    lstrip (joined (data_lines ++ [lstrip content])) = if lstrip (joined data_lines) = [] then lstrip content
      else lstrip (joined data_lines) ++ lineFeed :: lstrip content := by
  by_cases none : data_lines = []
  · subst none
    change lstrip (joined [lstrip content]) = lstrip content
    rw [joined, List.intercalate_singleton, lstrip_lstrip]
  · have feed : lstrip (lineFeed :: lstrip content) = lstrip content := lstrip_lstrip content
    rw [joined_concat none, lstrip, List.dropWhile_append]
    simp only [List.isEmpty_iff]
    exact if_congr Iff.rfl feed rfl

/-! Within a broken row. The reader of the whole row is in a string wherever a piece of it begins. -/

section Broken
variable {m : Reader}

theorem accepted_before {r : Reader} {before after : List Char} (accepted : r.run (before ++ after) ≠ Reader.fail) :
    r.run before ≠ Reader.fail := by
  intro failed
  rw [Reader.run_append, failed, Reader.run_fail] at accepted
  exact accepted rfl

/-- Characters other than quotation marks and backslashes do not lead out of the string. -/
theorem plain_run {text : List Char} (plain : m.mode.string = some .plain) (accepted : m.run text ≠ Reader.fail)
    (ordinary : ∀ c ∈ text, c ≠ quote ∧ c ≠ backslash) : (m.run text).mode.string = some .plain := by
  induction text generalizing m with
  | nil => exact plain
  | cons c text ih =>
      obtain ⟨here, later⟩ := List.forall_mem_cons.mp ordinary
      have inside := (Reader.step_plain plain here.1 here.2).resolve_left (Reader.accepts_of_run accepted)
      exact ih inside accepted later

/-- Where the whole row is read within a string, what is collected is read outside of one. -/
theorem Next.shadows {data_lines : List (List Char)} (next : Next data_lines) (plain : m.mode.string = some .plain) :
    Reader.Shadows Ordinary m (Reader.start.run (lstrip (joined data_lines) ++ [lineFeed])) := by
  rcases next with failed | ⟨every, outside⟩
  · exact Or.inl failed
  · exact Or.inr ⟨every, Or.inl ⟨plain, outside⟩⟩

theorem shadows_feed {b : Reader} (shadows : Reader.Shadows Ordinary m b) (plain : m.mode.string = some .plain) :
    b.step lineFeed = Reader.fail ∨
      (b.step lineFeed).EveryCode Ordinary ∧ (b.step lineFeed).mode.string = none := by
  by_cases failed : b.step lineFeed = Reader.fail
  · exact Or.inl failed
  rcases shadows with rfl | ⟨every, ⟨-, outside⟩ | ⟨outside, -⟩⟩
  · exact absurd rfl failed
  · exact Or.inr ⟨((Reader.everyCode_outside outside).resolve_left failed).mpr every,
      Reader.step_outside outside (by decide)⟩
  · rw [plain] at outside
    cases outside

/-- One more line of data. -/
theorem data_added {data_lines : List (List Char)} (values : Values data_lines) (next : Next data_lines)
    (plain : m.mode.string = some .plain) {content : List Char} (unbroken : Unbroken isLineEnd content)
    (accepted : m.run content ≠ Reader.fail) : Values (data_lines ++ [lstrip content]) ∧
      ((m.run content).mode.string = some .plain → Next (data_lines ++ [lstrip content])) := by
  have parts : content.takeWhile Python.isSpace ++ lstrip content = content := List.takeWhile_append_dropWhile
  have front : ∀ c ∈ content.takeWhile Python.isSpace, c ≠ quote ∧ c ≠ backslash := by
    intro c member
    have space := Reader.space_unmarked (List.mem_takeWhile_imp member)
    exact ⟨space.1, space.2.1⟩
  rw [← parts] at accepted
  have behind := plain_run plain (accepted_before accepted) front
  rw [Reader.run_append] at accepted
  have whole : m.run content = (m.run (content.takeWhile Python.isSpace)).run (lstrip content) := by
    rw [← Reader.run_append, parts]
  have such : ∀ c ∈ lstrip content, Ordinary c.toNat := by
    intro c member
    exact ordinary_of_unbroken unbroken c ((List.dropWhile_suffix _).subset member)
  have shadows := next.shadows behind
  have on_the_way : ∀ part, part <+: lstrip content → Reader.Shadows Ordinary
      ((m.run (content.takeWhile Python.isSpace)).run part)
      ((Reader.start.run (lstrip (joined data_lines) ++ [lineFeed])).run part) := by
    intro part is_part
    obtain ⟨rest, split⟩ := is_part
    rw [← split] at accepted such
    exact shadows.run keepsPairs_ordinary (accepted_before accepted)
        fun c member => such c (List.mem_append_left _ member)
  rw [whole]
  generalize m.run (content.takeWhile Python.isSpace) = m' at on_the_way
  have all := on_the_way (lstrip content) List.prefix_rfl
  by_cases none : lstrip (joined data_lines) = []
  · have grown := (lstrip_joined data_lines content).trans (if_pos none)
    have begun : Reader.start.run (lstrip (joined data_lines) ++ [lineFeed]) = Reader.start := by
      rw [none]
      rfl
    rw [begun] at on_the_way all
    refine ⟨fun part is_part v reads => ?_, fun plain => ?_⟩
    · rw [grown] at is_part
      exact (on_the_way part is_part).value reads
    · rw [Next, grown, Reader.run_append]
      exact shadows_feed all plain
  · have grown := (lstrip_joined data_lines content).trans (if_neg none)
    have order : ∀ rest, lstrip (joined data_lines) ++ lineFeed :: rest =
        lstrip (joined data_lines) ++ [lineFeed] ++ rest := fun rest => by simp
    refine ⟨fun part is_part v reads => ?_, fun plain => ?_⟩
    · rw [grown] at is_part
      rcases List.prefix_or_prefix_of_prefix is_part (List.prefix_append _ _) with early | ⟨rest, rfl⟩
      · exact values part early v reads
      · rcases List.prefix_cons_iff.mp ((List.prefix_append_right_inj _).mp is_part) with rfl | ⟨later, rfl, is_later⟩
        · rw [List.append_nil] at reads
          exact values _ List.prefix_rfl v reads
        · rw [Json.read, order, Reader.run_append] at reads
          exact (on_the_way later is_later).value reads
    · rw [Next, grown, order, Reader.run_append, Reader.run_append]
      exact shadows_feed all plain

/-- One piece of the row. -/
theorem read_piece {v : Members} (other : ¬ (Json.obj v).EveryCode Ordinary) {s : Reading}
    (values : Values s.data_lines)
    (next : Next s.data_lines) (unlike : s.last ≠ some v) (plain : m.mode.string = some .plain) {piece : List Char}
    (unbroken : Unbroken isLineEnd piece) (accepted : m.run piece ≠ Reader.fail) :
    (read_line s piece).last ≠ some v ∧ Values (read_line s piece).data_lines ∧
      ((m.run piece).mode.string = some .plain → Next (read_line s piece).data_lines) := by
  have row : IsRow piece := isRow_of_unbroken breaks_isLineEnd unbroken
  by_cases blank : piece = []
  · subst blank
    rw [read_blank]
    refine ⟨fun found => ?_, values_nil, fun _ => next_nil⟩
    rcases Option.or_eq_some_iff.mp found with new | ⟨-, old⟩
    · exact other (values.message new)
    · exact unlike old
  by_cases data : "data:".toList <+: piece
  · obtain ⟨content, rfl⟩ := data
    have mark : ∀ c ∈ "data:".toList, c ≠ quote ∧ c ≠ backslash := List.all_iff_forall_prop.mp (by decide)
    have inside := plain_run plain (accepted_before accepted) mark
    rw [Reader.run_append] at accepted ⊢
    rw [read_data row rfl]
    exact ⟨unlike, data_added values next inside (fun c member => unbroken c (List.mem_append_right _ member)) accepted⟩
  · rw [read_other row data blank]
    exact ⟨unlike, values, fun _ => next⟩

/-- All of them. -/
theorem read_pieces {v : Members} (other : ¬ (Json.obj v).EveryCode Ordinary) {s : Reading}
    (values : Values s.data_lines)
    (next : Next s.data_lines) (unlike : s.last ≠ some v) (plain : m.mode.string = some .plain) {row : List Char}
    (whole : IsRow row) (accepted : m.run row ≠ Reader.fail) :
    ((row.splitOnP isLineEnd).foldl read_line s).last ≠ some v ∧
      Values ((row.splitOnP isLineEnd).foldl read_line s).data_lines := by
  induction size : row.length using Nat.strong_induction_on generalizing row m s with
  | _ n ih =>
      rcases unbroken_or_cut isLineEnd row with unbroken | ⟨first, c, rest, rfl, unbroken, ends⟩
      · rw [List.splitOnP_eq_singleton unbroken]
        have piece := read_piece other values next unlike plain unbroken accepted
        exact ⟨piece.1, piece.2.1⟩
      · rw [List.splitOnP_append_cons_of_forall_mem unbroken c ends, List.foldl_cons]
        have piece := read_piece other values next unlike plain unbroken (accepted_before accepted)
        have inner : isReturnOrFeed c = false := whole c (List.mem_append_right _ List.mem_cons_self)
        rw [Reader.run_append] at accepted
        obtain ⟨-, before, after⟩ := (Reader.accepts_of_run accepted).lineEnd ends inner
        refine ih rest.length ?_ piece.2.1 (piece.2.2 before) piece.1 after ?_ accepted rfl
        · rw [← size]
          simp
          omega
        · intro d member
          exact whole d (List.mem_append_right _ (List.mem_cons_of_mem c member))

end Broken

/-! Events. -/

theorem Frame.Valid.accepted {frame : Frame} (valid : frame.Valid) : Reader.start.run frame.text ≠ Reader.fail := by
  intro failed
  have reads := valid.serialises.reads
  rw [Json.read, failed] at reads
  cases reads

/-- A text which is accepted and holds no separator is one line. -/
theorem Frame.Valid.unbroken {frame : Frame} (valid : frame.Valid) (plain : frame.PlainText) :
    Unbroken isLineEnd frame.text := by
  intro c member
  by_contra ends
  obtain ⟨before, after, split⟩ := List.append_of_mem member
  have accepted := valid.accepted
  rw [split, Reader.run_append] at accepted
  have separator := ((Reader.accepts_of_run accepted).lineEnd (Bool.eq_true_of_not_eq_false ends)
    (valid.row c member)).1
  exact Bool.false_ne_true ((plain c member).symm.trans separator)

/-- A separator in the text is one in the object. -/
theorem Frame.Valid.not_ordinary {frame : Frame} (valid : frame.Valid) (broken : ¬ frame.PlainText) :
    ¬ (Json.obj frame.object).EveryCode Ordinary := by
  intro every
  refine broken fun c member => ?_
  by_contra found
  have separator : isSeparator c = true := Bool.eq_true_of_not_eq_false found
  obtain ⟨before, after, split⟩ := List.append_of_mem member
  have accepted := valid.accepted
  have reads := valid.serialises.reads
  have kept := (Reader.everyCode_finish reads).mp every
  rw [split, Reader.run_append] at accepted kept
  have place := Reader.isLineEnd_of_separator separator
  obtain ⟨-, inside, inside'⟩ := (Reader.accepts_of_run accepted).lineEnd place.1 place.2
  have strange : ¬ Ordinary c.toNat := fun ordinary => found (ordinary_iff.mp ordinary)
  exact Reader.not_everyCode_step inside inside' strange (kept.of_run keepsPairs_ordinary accepted)

/-- The rows of an event before those which are passed over. -/
theorem read_frame {frame : Frame} (valid : frame.Valid) (plain : frame.PlainFields) (s : Reading) :
    read_rows s frame.rows =
      read_line ((("data:".toList ++ frame.text).splitOnP isLineEnd).foldl read_line s) [] := by
  obtain ⟨before, after⟩ := List.forall_mem_append.mp valid.fields
  obtain ⟨plain_before, plain_after⟩ := List.forall_mem_append.mp plain
  rw [Frame.rows, read_rows_blank, read_rows_append, read_fields before plain_before, read_rows_cons,
    read_fields after plain_after]

/-- An event on rows which are lines gives its object. -/
theorem read_plain {frame : Frame} (valid : frame.Valid) (fields : frame.PlainFields) (plain : frame.PlainText)
    {s : Reading} (read_up : s.data_lines = []) : (read_rows s frame.rows).last = some frame.object := by
  have unbroken : Unbroken isLineEnd ("data:".toList ++ frame.text) :=
    List.forall_mem_append.mpr ⟨List.all_iff_forall_prop.mp (by decide), valid.unbroken plain⟩
  rw [read_frame valid fields, List.splitOnP_eq_singleton unbroken, List.foldl_cons, List.foldl_nil,
    read_data (isRow_data valid.row) rfl, read_blank, read_up, List.nil_append, message_of_serialises valid.serialises]
  rfl

/-- The first piece of broken data ends within a string, and the next line fails in it. -/
theorem first_piece {first : List Char} (accepted : Reader.start.run first ≠ Reader.fail)
    (inside : (Reader.start.run first).mode.string = some .plain) : Values [lstrip first] ∧ Next [lstrip first] := by
  have data : lstrip (joined [lstrip first]) = lstrip first := by
    rw [joined, List.intercalate_singleton, lstrip_lstrip]
  rw [(Reader.run_lstrip first).resolve_left accepted] at inside
  constructor
  · rintro part ⟨rest, whole⟩ v reads
    rw [data] at whole
    have complete := Reader.string_of_finish reads rest
    rw [← Reader.run_append, whole, inside] at complete
    cases complete
  · rw [Next, data, Reader.run_append]
    exact Or.inl (Reader.step_plain_control inside (by decide))

/-- One whose data is broken gives nothing with a separator in it. -/
theorem read_broken {frame : Frame} (valid : frame.Valid) (fields : frame.PlainFields) (broken : ¬ frame.PlainText)
    {v : Members} (other : ¬ (Json.obj v).EveryCode Ordinary) {s : Reading} (read_up : s.data_lines = [])
    (unlike : s.last ≠ some v) : (read_rows s frame.rows).last ≠ some v := by
  have cut : ∃ first c rest, frame.text = first ++ c :: rest ∧ Unbroken isLineEnd first ∧ isLineEnd c = true := by
    refine (unbroken_or_cut isLineEnd frame.text).resolve_left fun unbroken => broken fun c member => ?_
    by_contra separator
    have ends := (Reader.isLineEnd_of_separator (Bool.eq_true_of_not_eq_false separator)).1
    exact Bool.false_ne_true ((unbroken c member).symm.trans ends)
  obtain ⟨first, c, rest, split, unbroken, ends⟩ := cut
  have accepted := valid.accepted
  have row := valid.row
  rw [split, Reader.run_append] at accepted
  rw [split] at row
  obtain ⟨-, inside, inside'⟩ := (Reader.accepts_of_run accepted).lineEnd ends
    (row c (List.mem_append_right _ List.mem_cons_self))
  have row_first : IsRow ("data:".toList ++ first) := isRow_data fun d member => row d (List.mem_append_left _ member)
  have unbroken' : Unbroken isLineEnd ("data:".toList ++ first) := 
    List.forall_mem_append.mpr ⟨List.all_iff_forall_prop.mp (by decide), unbroken⟩
  have order : "data:".toList ++ (first ++ c :: rest) = "data:".toList ++ first ++ c :: rest :=
    (List.append_assoc _ _ _).symm
  rw [read_frame valid fields, split, order, List.splitOnP_append_cons_of_forall_mem unbroken' c ends, List.foldl_cons,
    read_data row_first rfl, read_up, List.nil_append]
  have first_accepted : Reader.start.run first ≠ Reader.fail := by
    intro failed
    rw [failed, Reader.run_fail] at accepted
    exact accepted rfl
  obtain ⟨values, next⟩ := first_piece first_accepted inside
  have pieces := read_pieces (s := ⟨s.last, [lstrip first]⟩) other values next unlike inside'
    (fun d member => row d (List.mem_append_right _ (List.mem_cons_of_mem c member))) accepted
  rw [read_blank]
  intro found
  rcases Option.or_eq_some_iff.mp found with new | ⟨-, old⟩
  · exact other (pieces.2.message new)
  · exact pieces.1 old

/-- Events with other objects, or broken ones, do not give an object with a separator in it. -/
theorem read_frames {frames : List Frame} (valid : ∀ frame ∈ frames, frame.Valid)
    (fields : ∀ frame ∈ frames, frame.PlainFields) {v : Members} (other : ¬ (Json.obj v).EveryCode Ordinary)
    (different : ∀ frame ∈ frames, frame.object = v → ¬ frame.PlainText) {s : Reading} (read_up : s.data_lines = [])
    (unlike : s.last ≠ some v) : (read_rows s (frames.flatMap Frame.rows)).last ≠ some v := by
  induction frames generalizing s with
  | nil => exact unlike
  | cons frame frames ih =>
      obtain ⟨valid, valid_later⟩ := List.forall_mem_cons.mp valid
      obtain ⟨plain, plain_later⟩ := List.forall_mem_cons.mp fields
      obtain ⟨apart, apart_later⟩ := List.forall_mem_cons.mp different
      rw [List.flatMap_cons, read_rows_append]
      refine ih valid_later plain_later apart_later (pending_rows s frame) ?_
      by_cases text : frame.PlainText
      · rw [read_plain valid plain text read_up]
        exact fun same => apart (Option.some.inj same) text
      · exact read_broken valid plain text other read_up unlike

/-- The last object is returned if its text holds no separator, and the other rows of its event break nowhere. Where an
object with a separator in its text comes back, it has been sent before. -/
theorem last_object_returned (T : Python.Text) (e : Ending) (earlier : List Frame) (last : Frame) (done : Bool)
    (valid : ∀ frame ∈ earlier ++ [last], frame.Valid) :
    (last.PlainFields → last.PlainText →
      parse_mcp_response_body T "text/event-stream" (Utf8.encode (stream_text e (earlier ++ [last]) done)) =
        .ok last.object) ∧
    ((∀ frame ∈ earlier ++ [last], frame.PlainFields) → (∀ frame ∈ earlier, frame.object ≠ last.object) →
      (parse_mcp_response_body T "text/event-stream" (Utf8.encode (stream_text e (earlier ++ [last]) done)) =
        .ok last.object ↔ last.PlainText)) := by
  obtain ⟨trimmed, trims, parsed⟩ := parse_stream T e done valid
  have start : (Reading.mk none []).data_lines = [] := rfl
  have sufficient : last.PlainFields → last.PlainText →
      parse_mcp_response_body T "text/event-stream" (Utf8.encode (stream_text e (earlier ++ [last]) done)) =
        .ok last.object := by
    intro fields plain
    have pending : (read_rows ⟨none, []⟩ (earlier.flatMap Frame.rows)).data_lines = [] := by
      rcases List.eq_nil_or_concat' earlier with rfl | ⟨frames, frame, rfl⟩
      · rfl
      · rw [List.flatMap_append, List.flatMap_singleton, read_rows_append]
        exact pending_rows _ frame
    rw [parsed, List.flatMap_append, List.flatMap_singleton, read_rows_append,
      read_plain trims.valid (trims.fields fields) (trims.text.mpr plain) pending, trims.object]
  refine ⟨sufficient, fun fields different => ⟨fun returned => ?_, sufficient (fields last (by simp))⟩⟩
  by_contra broken
  obtain ⟨fields_earlier, fields_last⟩ := List.forall_mem_append.mp fields
  have valid_earlier := (List.forall_mem_append.mp valid).1
  have other := (valid last (by simp)).not_ordinary broken
  refine absurd ((parsed last.object).mp returned) ?_
  refine read_frames ?_ ?_ other ?_ start (Option.some_ne_none _).symm
  · exact List.forall_mem_append.mpr ⟨valid_earlier, List.forall_mem_singleton.mpr trims.valid⟩
  · exact List.forall_mem_append.mpr ⟨fields_earlier,
      List.forall_mem_singleton.mpr (trims.fields (fields_last last List.mem_cons_self))⟩
  · refine List.forall_mem_append.mpr ⟨fun frame member same => absurd same (different frame member), ?_⟩
    exact List.forall_mem_singleton.mpr fun _ plain => broken (trims.text.mp plain)

/-- An answer with a name and an id, and the end marker behind it. -/
def answer : Frame where
  before := ["event: message".toList]
  text := " \x7b\"ok\":1\x7d".toList
  after := ["id: 7".toList]
  object := [([111, 107], .atom ['1'])]

theorem answer_returned : parse_mcp_response_body Python.asciiText "text/event-stream"
    (Utf8.encode (stream_text .returnFeed ([] ++ [answer]) true)) = .ok answer.object := by
  have rows : ∀ row ∈ answer.fields, IsField row := List.forall_mem_cons.mpr
    ⟨⟨Or.inl (by decide), List.all_iff_forall_prop.mp (by decide)⟩,
      List.forall_mem_singleton.mpr ⟨Or.inr (by decide), List.all_iff_forall_prop.mp (by decide)⟩⟩
  have distinct : (Json.obj answer.object).DistinctKeys := ⟨by decide, trivial, trivial⟩
  have valid : answer.Valid := ⟨rows, List.all_iff_forall_prop.mp (by decide), rfl, distinct⟩
  have fields : answer.PlainFields := List.forall_mem_cons.mpr
    ⟨List.all_iff_forall_prop.mp (by decide), List.forall_mem_singleton.mpr (List.all_iff_forall_prop.mp (by decide))⟩
  exact (last_object_returned Python.asciiText .returnFeed [] answer true (List.forall_mem_singleton.mpr valid)).1
    fields (List.all_iff_forall_prop.mp (by decide))

/-- An answer with a line separator in a string. -/
def separated_answer : Frame where
  before := []
  text := " \x7b\"a\":\"x\u2028y\"\x7d".toList
  after := []
  object := [([97], .str [120, 0x2028, 121])]

theorem separated_answer_lost : ¬ ∀ (T : Python.Text) (e : Ending) (earlier : List Frame) (last : Frame) (done : Bool),
    (∀ frame ∈ earlier ++ [last], frame.Valid) →
      parse_mcp_response_body T "text/event-stream" (Utf8.encode (stream_text e (earlier ++ [last]) done)) =
        .ok last.object := by
  intro returned
  have fields : ∀ row ∈ separated_answer.fields, IsField row := fun _ impossible => absurd impossible List.not_mem_nil
  have row : ∀ c ∈ separated_answer.text, isReturnOrFeed c = false := List.all_iff_forall_prop.mp (by decide)
  have distinct : (Json.obj separated_answer.object).DistinctKeys := ⟨by decide, trivial, trivial⟩
  have valid : separated_answer.Valid := ⟨fields, row, rfl, distinct⟩
  have lost : (parse_mcp_response_body Python.asciiText "text/event-stream"
      (Utf8.encode (stream_text .feed ([] ++ [separated_answer]) false))).isOk = false := by decide +kernel
  rw [returned Python.asciiText .feed [] separated_answer false (List.forall_mem_singleton.mpr valid)] at lost
  cases lost

end RuntimePlatform.Mcp
