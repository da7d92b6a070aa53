import RuntimePlatform.Lib.JsonReading
import RuntimePlatform.Usage.Streams

/-!
Streams whose chunks end where their events do: what the loop over the chunks counts is then what the stream says, if no
chunk reports two usages.
-/

namespace RuntimePlatform.Usage
open Lines

/-- The data of one event: a JSON text on one line, or the end marker. -/
structure IsData (text : List Char) : Prop where
  unbroken : Unbroken isLineEnd text
  known : text = DONE ∨ ∃ v, Json.read text = some v

def event_rows (text : List Char) : List (List Char) := ["data: ".toList ++ text, []]

/-- Some events, all lines of them ended alike. -/
def whole_events (e : Ending) (texts : List (List Char)) : List UInt8 :=
  Utf8.encode (ended e (texts.flatMap event_rows))

/-- The usage which an event reports. -/
def text_usage (text : List Char) : Option Json.Members := (Json.loads text).bind reported_usage

theorem isRow_event {text : List Char} (data : IsData text) : ∀ row ∈ event_rows text, IsRow row := by
  have marked : Unbroken isLineEnd ("data: ".toList ++ text) :=
    List.forall_mem_append.mpr ⟨List.all_iff_forall_prop.mp (by decide), data.unbroken⟩
  refine List.forall_mem_cons.mpr ⟨isRow_of_unbroken breaks_isLineEnd marked, List.forall_mem_singleton.mpr ?_⟩
  exact fun c impossible => absurd impossible List.not_mem_nil

theorem isRow_events {texts : List (List Char)} (data : ∀ text ∈ texts, IsData text) :
    ∀ row ∈ texts.flatMap event_rows, IsRow row := by
  intro row listed
  obtain ⟨text, member, inside⟩ := List.mem_flatMap.mp listed
  exact isRow_event (data text member) row inside

theorem splitOnP_event {ends : Char → Bool} {text : List Char} (unbroken : Unbroken ends ("data: ".toList ++ text)) :
    ((event_rows text).flatMap fun row => row.splitOnP ends) = event_rows text := by
  change ("data: ".toList ++ text).splitOnP ends ++ (([] : List Char).splitOnP ends ++ []) = _
  rw [List.splitOnP_eq_singleton unbroken]
  rfl

/-- The lines of the events are their rows. -/
theorem lines_events {ends : Char → Bool} (breaks : Breaks ends) (e : Ending) {texts : List (List Char)}
    (data : ∀ text ∈ texts, IsData text) (unbroken : ∀ text ∈ texts, Unbroken ends ("data: ".toList ++ text)) :
    lines ends (ended e (texts.flatMap event_rows)) = texts.flatMap event_rows := by
  rw [lines_ended breaks (isRow_events data), List.flatMap_assoc]
  exact List.flatMap_congr fun text member => splitOnP_event (unbroken text member)

/-! What a chunk gives. -/

theorem line_usage_data {text : List Char} (data : IsData text) :
    line_usage ("data: ".toList ++ text) = text_usage text := by
  have mark : "data:".toList <+: "data: ".toList ++ text := ⟨' ' :: text, rfl⟩
  have content : stripped (("data: ".toList ++ text).drop 5) = stripped text := rfl
  rw [line_usage, if_pos mark, content, text_usage]
  rcases data.known with rfl | ⟨v, reads⟩
  · have unread : Json.read DONE = none := rfl
    have same : stripped DONE = DONE := by decide
    rw [same, if_pos (Or.inr rfl), Json.loads, unread]
    rfl
  · have reads' := Json.Reader.read_stripped reads
    have some_text : ¬ (stripped text = [] ∨ stripped text = DONE) := by
      rintro (empty | marker)
      · rw [empty] at reads'
        cases reads'
      · rw [marker] at reads'
        cases reads'
    rw [if_neg some_text, Json.loads, Json.loads, reads', reads]

theorem extract_events (e : Ending) {texts : List (List Char)} (data : ∀ text ∈ texts, IsData text) :
    extract_usage_from_sse (whole_events e texts) = texts.findSome? text_usage := by
  have unbroken : ∀ text ∈ texts, Unbroken isLineEnd ("data: ".toList ++ text) :=
    fun text member => List.forall_mem_append.mpr ⟨List.all_iff_forall_prop.mp (by decide), (data text member).unbroken⟩
  have decoded : Utf8.decodeIgnore (whole_events e texts) = ended e (texts.flatMap event_rows) :=
    Utf8.decode_encode _ _
  rw [extract_usage_from_sse, decoded, splitlines, lines_events breaks_isLineEnd e data unbroken]
  clear decoded unbroken
  induction texts with
  | nil => rfl
  | cons text texts ih =>
      obtain ⟨here, later⟩ := List.forall_mem_cons.mp data
      have blank : line_usage [] = none := rfl
      rw [List.flatMap_cons, List.findSome?_append, ih later, List.findSome?_cons, event_rows, List.findSome?_cons,
        line_usage_data here, List.findSome?_cons, blank, List.findSome?_nil]
      cases text_usage text with
      | none => rfl
      | some usage => rfl

/-! What the stream says. -/

theorem whole_events_append (e : Ending) (texts more : List (List Char)) :
    whole_events e (texts ++ more) = whole_events e texts ++ whole_events e more := by
  rw [whole_events, List.flatMap_append, ended, List.flatMap_append, Utf8.encode, List.flatMap_append]
  rfl

theorem flatten_events (e : Ending) (chunks : List (List (List Char))) :
    (chunks.map (whole_events e)).flatten = whole_events e chunks.flatten := by
  induction chunks with
  | nil => rfl
  | cons texts chunks ih => rw [List.map_cons, List.flatten_cons, ih, List.flatten_cons, whole_events_append]

/-- The data of the events are their texts. -/
theorem events_eq (e : Ending) {texts : List (List Char)} (data : ∀ text ∈ texts, IsData text) :
    EventStream.events (ended e (texts.flatMap event_rows)) = texts := by
  have unbroken : ∀ text ∈ texts, Unbroken isReturnOrFeed ("data: ".toList ++ text) :=
    fun text member => isRow_event (data text member) _ List.mem_cons_self
  have fold : ∀ (texts before : List (List Char)),
      (texts.flatMap event_rows).foldl EventStream.row ⟨[], before⟩ = ⟨[], before ++ texts⟩ := by
    intro texts
    induction texts with
    | nil => exact fun before => congrArg (EventStream.State.mk []) (List.append_nil before).symm
    | cons text texts ih =>
        intro before
        have one : EventStream.row (EventStream.row ⟨[], before⟩ ("data: ".toList ++ text)) [] =
            ⟨[], before ++ [[lineFeed].intercalate [text]]⟩ := rfl
        rw [List.flatMap_cons, List.foldl_append, event_rows, List.foldl_cons, List.foldl_cons, List.foldl_nil, one,
          List.intercalate_singleton, ih, List.append_assoc]
        rfl
  rw [EventStream.events, lines_events breaks_isReturnOrFeed e data unbroken, fold, List.nil_append]

theorem last_usage_events (e : Ending) {texts : List (List Char)} (data : ∀ text ∈ texts, IsData text) :
    last_usage (whole_events e texts) = (texts.filterMap text_usage).getLast? := by
  have decoded : Utf8.decodeReplace (whole_events e texts) = ended e (texts.flatMap event_rows) :=
    Utf8.decode_encode _ _
  rw [last_usage, decoded, events_eq e data]
  rfl

theorem ends_with_break (e : Ending) {texts : List (List Char)} (some_text : texts ≠ []) :
    ∃ bytes b, whole_events e texts = bytes ++ [b] ∧ b ∉ Utf8.encode DONE := by
  obtain ⟨before, text, rfl⟩ := (List.eq_nil_or_concat' texts).resolve_left some_text
  have tail : ended e (event_rows text) = "data: ".toList ++ text ++ e.text ++ e.text := by
    simp [event_rows, ended]
  have encoded : ∀ x y : List Char, Utf8.encode (x ++ y) = Utf8.encode x ++ Utf8.encode y :=
    fun x y => List.flatMap_append
  have last : ∃ bytes b, Utf8.encode e.text = bytes ++ [b] ∧ b ∉ Utf8.encode DONE := by
    cases e with
    | feed => exact ⟨[], 10, rfl, by decide⟩
    | return_ => exact ⟨[], 13, rfl, by decide⟩
    | returnFeed => exact ⟨[13], 10, rfl, by decide⟩
  obtain ⟨bytes, b, split, other⟩ := last
  refine ⟨whole_events e before ++ (Utf8.encode ("data: ".toList ++ text ++ e.text) ++ bytes), b, ?_, other⟩
  rw [whole_events_append, whole_events, whole_events, List.flatMap_singleton, tail, encoded _ e.text, split]
  simp only [List.append_assoc]

/-- The end marker does not reach from one chunk into the next. -/
theorem marker_in_chunk (e : Ending) (texts : List (List Char)) {rest : List UInt8} :
    Utf8.encode DONE <:+: whole_events e texts ++ rest ↔
      Utf8.encode DONE <:+: whole_events e texts ∨ Utf8.encode DONE <:+: rest := by
  by_cases none : texts = []
  · subst none
    have short : ¬ Utf8.encode DONE <:+: [] := by decide
    exact (or_iff_right short).symm
  obtain ⟨bytes, b, split, other⟩ := ends_with_break e none
  rw [List.infix_append_iff_ne_nil, split]
  refine or_congr_right (or_iff_left ?_)
  rintro ⟨early, late, some_bytes, -, marker, is_suffix, -⟩
  obtain ⟨before, d, rfl⟩ := (List.eq_nil_or_concat' early).resolve_left some_bytes
  obtain rfl : d = b := by
    obtain ⟨front, whole⟩ := is_suffix
    rw [← List.append_assoc] at whole
    exact (List.append_inj' whole rfl).2 |> List.singleton_inj.mp
  exact other (marker ▸ List.mem_append_left late (List.mem_append_right before List.mem_cons_self))

/-! The stream, chunk by chunk. -/

theorem usage_of_chunks (e : Ending) {chunks : List (List (List Char))}
    (data : ∀ texts ∈ chunks, ∀ text ∈ texts, IsData text)
    (single : ∀ texts ∈ chunks, (texts.filterMap text_usage).length ≤ 1) (s : Progress) :
    ((chunks.map (whole_events e)).foldl observe_chunk s).usage =
      (chunks.flatten.filterMap text_usage).getLast?.or s.usage := by
  induction chunks generalizing s with
  | nil => rfl
  | cons texts chunks ih =>
      obtain ⟨here, later⟩ := List.forall_mem_cons.mp data
      obtain ⟨one, ones⟩ := List.forall_mem_cons.mp single
      have only : texts.findSome? text_usage = (texts.filterMap text_usage).getLast? := by
        rw [← List.head?_filterMap]
        generalize texts.filterMap text_usage = found at one
        rcases found with _ | ⟨usage, _ | ⟨usage', rest⟩⟩
        · rfl
        · rfl
        · exact absurd one (by simp)
      rw [List.map_cons, List.foldl_cons, ih later ones, List.flatten_cons, List.filterMap_append,
        List.getLast?_append, Option.or_assoc, observe_chunk, extract_events e here, only]

theorem done_of_chunks (e : Ending) (chunks : List (List (List Char))) (s : Progress) :
    ((chunks.map (whole_events e)).foldl observe_chunk s).saw_done = true ↔
      s.saw_done = true ∨ Utf8.encode DONE <:+: whole_events e chunks.flatten := by
  induction chunks generalizing s with
  | nil =>
      have short : ¬ Utf8.encode DONE <:+: [] := by decide
      exact (or_iff_left short).symm
  | cons texts chunks ih =>
      rw [List.map_cons, List.foldl_cons, ih, List.flatten_cons, whole_events_append, marker_in_chunk]
      simp [observe_chunk, or_assoc]

/-- Cut between its events a stream is counted as it stands, if no chunk reports two usages. -/
theorem whole_events_counted (e : Ending) {chunks : List (List (List Char))}
    (data : ∀ texts ∈ chunks, ∀ text ∈ texts, IsData text)
    (single : ∀ texts ∈ chunks, (texts.filterMap text_usage).length ≤ 1) :
    (observe_upstream_stream (chunks.map (whole_events e)) none).usage =
        last_usage (chunks.map (whole_events e)).flatten ∧
      ((observe_upstream_stream (chunks.map (whole_events e)) none).saw_done = true ↔
        Utf8.encode DONE <:+: (chunks.map (whole_events e)).flatten) := by
  have all : ∀ text ∈ chunks.flatten, IsData text := by
    intro text member
    obtain ⟨texts, listed, inside⟩ := List.mem_flatten.mp member
    exact data texts listed text inside
  rw [flatten_events, last_usage_events e all]
  constructor
  · exact (usage_of_chunks e data single ⟨0, false, none⟩).trans Option.or_none
  · exact (done_of_chunks e chunks ⟨0, false, none⟩).trans (or_iff_right Bool.false_ne_true)

end RuntimePlatform.Usage
