import RuntimePlatform.Chat.Handler
import RuntimePlatform.Lib.EventStream
import RuntimePlatform.Lib.JsonObjects
import RuntimePlatform.Lib.Utf8

/-!
What is counted of a stream: the bytes, the end marker and the usage, chunk by chunk as the upstream sends them.
-/

namespace RuntimePlatform.Usage
open Lines

def DONE : List Char := "[DONE]".toList

/-- `payload["usage"]`, if both are dicts. -/
def reported_usage : Json → Option Json.Members
  | .obj payload =>
    match Json.get payload "usage" with
    | some (.obj usage) => some usage
    | _ => none
  | _ => none

/-- One turn of the loop over the lines. -/
def line_usage (line : List Char) : Option Json.Members :=
  if "data:".toList <+: line then
    let data := stripped (line.drop 5)
    if data = [] ∨ data = DONE then none else (Json.loads data).bind reported_usage
  else none

def extract_usage_from_sse (chunk : List UInt8) : Option Json.Members :=
  (splitlines (Utf8.decodeIgnore chunk)).findSome? line_usage

structure StreamObservation where
  outcome : Chat.StreamOutcome
  bytes_sent : ℕ
  saw_done : Bool
  usage : Option Json.Members

/-- What `observe_upstream_stream` has counted between two chunks. -/
structure Progress where
  bytes_sent : ℕ
  saw_done : Bool
  usage : Option Json.Members

def observe_chunk (s : Progress) (chunk : List UInt8) : Progress where
  bytes_sent := s.bytes_sent + chunk.length
  saw_done := s.saw_done || decide (Utf8.encode DONE <:+: chunk)
  usage := (extract_usage_from_sse chunk).or s.usage

/-- The observation of a stream which ends with `error`, or as it should. -/
def observe_upstream_stream (chunks : List (List UInt8)) (error : Option Chat.Exc) : StreamObservation :=
  let s := chunks.foldl observe_chunk ⟨0, false, none⟩
  ⟨Chat.classify_stream_outcome s.bytes_sent s.saw_done error, s.bytes_sent, s.saw_done, s.usage⟩

/-! What the stream says, however it is cut. -/

/-- The usage of the last event whose data is an object with one. -/
def last_usage (stream : List UInt8) : Option Json.Members :=
  ((EventStream.events (Utf8.decodeReplace stream)).filterMap fun data =>
    (Json.loads data).bind reported_usage).getLast?

/-- The stream, cut into chunks which are not empty. -/
structure Cut (stream : List UInt8) (chunks : List (List UInt8)) : Prop where
  whole : chunks.flatten = stream
  full : ∀ chunk ∈ chunks, chunk ≠ []

/-- Both observations report the same. -/
structure Same (a b : StreamObservation) : Prop where
  outcome : a.outcome = b.outcome
  saw_done : a.saw_done = b.saw_done
  usage : a.usage = b.usage

/-- The bytes are those of one `data:` line, the object of which has a usage. -/
def UsageLine (block : List UInt8) : Prop :=
  Unbroken isLineEnd (Utf8.decodeIgnore block) ∧ line_usage (Utf8.decodeIgnore block) ≠ none

/-! One chunk after the other. -/

theorem saw_done_iff (chunks : List (List UInt8)) (s : Progress) : (chunks.foldl observe_chunk s).saw_done = true ↔
    s.saw_done = true ∨ ∃ chunk ∈ chunks, Utf8.encode DONE <:+: chunk := by
  induction chunks generalizing s with
  | nil => simp
  | cons chunk chunks ih =>
      rw [List.foldl_cons, ih]
      simp [observe_chunk, or_assoc]

theorem usage_eq_none_iff (chunks : List (List UInt8)) (s : Progress) : (chunks.foldl observe_chunk s).usage = none ↔
    s.usage = none ∧ ∀ chunk ∈ chunks, extract_usage_from_sse chunk = none := by
  induction chunks generalizing s with
  | nil => simp
  | cons chunk chunks ih =>
      rw [List.foldl_cons, ih]
      simp only [observe_chunk, Option.or_eq_none_iff, List.forall_mem_cons]
      tauto

theorem bytes_sent_eq (chunks : List (List UInt8)) (s : Progress) :
    (chunks.foldl observe_chunk s).bytes_sent = s.bytes_sent + chunks.flatten.length := by
  induction chunks generalizing s with
  | nil => rfl
  | cons chunk chunks ih =>
      rw [List.foldl_cons, ih, List.flatten_cons, List.length_append]
      exact Nat.add_assoc _ _ _

theorem usage_eq (chunks : List (List UInt8)) (s : Progress) : (chunks.foldl observe_chunk s).usage =
    (chunks.filterMap extract_usage_from_sse).getLast?.or s.usage := by
  induction chunks generalizing s with
  | nil => rfl
  | cons chunk chunks ih =>
      rw [List.foldl_cons, ih, observe_chunk]
      cases found : extract_usage_from_sse chunk with
      | none => rw [List.filterMap_cons_none found, Option.none_or]
      | some usage =>
          rw [List.filterMap_cons_some found, List.getLast?_cons, Option.some_or]
          cases (chunks.filterMap extract_usage_from_sse).getLast? with
          | none => rfl
          | some last => rfl

/-- What the handler knows of a chunk. -/
def chunk_seen (entries : Json.Members → Python.Entries) (chunk : List UInt8) : Chat.Chunk where
  length := chunk.length
  has_done := decide (Utf8.encode DONE <:+: chunk)
  usage := (extract_usage_from_sse chunk).map entries

/-- The handler's observation is the one of the bytes. -/
theorem observation_eq (entries : Json.Members → Python.Entries) (chunks : List (List UInt8))
    (error : Option Chat.Exc) : Chat.observation ⟨chunks.map (chunk_seen entries), error⟩ =
      ⟨(observe_upstream_stream chunks error).outcome, (observe_upstream_stream chunks error).usage.map entries⟩ := by
  have bytes : ((chunks.map (chunk_seen entries)).map Chat.Chunk.length).sum =
      (chunks.foldl observe_chunk ⟨0, false, none⟩).bytes_sent := by
    rw [bytes_sent_eq, Nat.zero_add, List.length_flatten, List.map_map]
    rfl
  have done : (chunks.map (chunk_seen entries)).any Chat.Chunk.has_done =
      (chunks.foldl observe_chunk ⟨0, false, none⟩).saw_done := by
    rw [Bool.eq_iff_iff, saw_done_iff, List.any_map, List.any_eq_true]
    simp [chunk_seen]
  have usage : ((chunks.map (chunk_seen entries)).filterMap Chat.Chunk.usage).getLast? =
      (observe_upstream_stream chunks error).usage.map entries := by
    have found := usage_eq chunks ⟨0, false, none⟩
    rw [Option.or_none] at found
    have seen : (chunks.map (chunk_seen entries)).filterMap Chat.Chunk.usage =
        (chunks.filterMap extract_usage_from_sse).map entries := by
      rw [List.filterMap_map, List.map_filterMap]
      rfl
    rw [seen, List.getLast?_map]
    exact congrArg (Option.map entries) found.symm
  rw [Chat.observation, bytes, done, usage]
  rfl

theorem extract_none_of_blocks {chunk : List UInt8} (silent : ∀ block, block <:+: chunk → ¬ UsageLine block) :
    extract_usage_from_sse chunk = none := by
  refine List.findSome?_eq_none_iff.mpr fun line listed => ?_
  obtain ⟨inside, unbroken⟩ := mem_lines listed
  obtain ⟨block, part, rfl⟩ := Utf8.decode_part inside
  by_contra found
  exact silent block part ⟨unbroken, found⟩

theorem extract_of_usageLine {block : List UInt8} (line : UsageLine block) : extract_usage_from_sse block ≠ none := by
  have some_text : Utf8.decodeIgnore block ≠ [] := by
    intro empty
    exact line.2 (by rw [empty]; decide)
  rw [extract_usage_from_sse, splitlines, lines_unbroken breaks_isLineEnd line.1 some_text, List.findSome?_singleton]
  exact line.2

/-- In a single byte there is nothing to be found. -/
theorem extract_singleton (b : UInt8) : extract_usage_from_sse [b] = none := by
  refine List.findSome?_eq_none_iff.mpr fun line listed => ?_
  have short : line.length ≤ 1 := (mem_lines listed).1.length_le.trans (Utf8.decode_singleton b)
  refine if_neg fun is_data => ?_
  have long : 5 ≤ line.length := is_data.length_le
  omega

/-- A stream, byte by byte. -/
theorem cut_bytes (stream : List UInt8) : Cut stream (stream.map fun b => [b]) where
  whole := by
    induction stream with
    | nil => rfl
    | cons b rest ih => exact congrArg (List.cons b) ih
  full := by
    intro chunk listed
    obtain ⟨b, -, rfl⟩ := List.mem_map.mp listed
    exact List.cons_ne_nil b []

/-- A stream with one stretch of it for a chunk. -/
theorem cut_around {stream block : List UInt8} (part : block <:+: stream) (some_bytes : block ≠ []) :
    ∃ chunks, Cut stream chunks ∧ block ∈ chunks := by
  obtain ⟨before, after, rfl⟩ := part
  refine ⟨(before.map fun b => [b]) ++ block :: after.map fun b => [b], ⟨?_, ?_⟩, by simp⟩
  · rw [List.flatten_append, List.flatten_cons, (cut_bytes before).whole, (cut_bytes after).whole, List.append_assoc]
  · intro chunk listed
    rcases List.mem_append.mp listed with early | late
    · exact (cut_bytes before).full chunk early
    · rcases List.mem_cons.mp late with rfl | later
      · exact some_bytes
      · exact (cut_bytes after).full chunk later

theorem infix_of_mem {stream : List UInt8} {chunks : List (List UInt8)} (cut : Cut stream chunks) {chunk : List UInt8}
    (listed : chunk ∈ chunks) : chunk <:+: stream := by
  obtain ⟨before, after, rfl⟩ := List.append_of_mem listed
  refine ⟨before.flatten, after.flatten, ?_⟩
  rw [← cut.whole, List.flatten_append, List.flatten_cons, List.append_assoc]

/-- Only of streams with nothing to report is the report the same for every cutting. -/
theorem chunking_ignored_iff (stream : List UInt8) :
    (∀ chunks chunks', Cut stream chunks → Cut stream chunks' →
      Same (observe_upstream_stream chunks none) (observe_upstream_stream chunks' none) ∧
        (observe_upstream_stream chunks none).usage = last_usage stream) ↔
    ¬ Utf8.encode DONE <:+: stream ∧ (∀ block, block <:+: stream → ¬ UsageLine block) ∧ last_usage stream = none := by
  constructor
  · intro ignored
    have bytes := cut_bytes stream
    have unfound : (observe_upstream_stream (stream.map fun b => [b]) none).usage = none := by
      refine (usage_eq_none_iff _ _).mpr ⟨rfl, fun chunk listed => ?_⟩
      obtain ⟨b, -, rfl⟩ := List.mem_map.mp listed
      exact extract_singleton b
    have unseen : ¬ (observe_upstream_stream (stream.map fun b => [b]) none).saw_done = true := by
      intro seen
      obtain impossible | ⟨chunk, listed, marker⟩ := (saw_done_iff _ _).mp seen
      · exact Bool.false_ne_true impossible
      · obtain ⟨b, -, rfl⟩ := List.mem_map.mp listed
        have long : 6 ≤ [b].length := marker.length_le
        exact absurd long (by simp)
    refine ⟨fun marker => ?_, fun block part line => ?_, (ignored _ _ bytes bytes).2.symm.trans unfound⟩
    · obtain ⟨chunks, cut, listed⟩ := cut_around marker (by decide)
      have seen := (saw_done_iff chunks ⟨0, false, none⟩).mpr (Or.inr ⟨_, listed, List.infix_rfl⟩)
      exact unseen ((ignored _ _ bytes cut).1.saw_done.trans seen)
    · have some_bytes : block ≠ [] := by
        rintro rfl
        exact line.2 (by decide)
      obtain ⟨chunks, cut, listed⟩ := cut_around part some_bytes
      have missed := (usage_eq_none_iff _ _).mp ((ignored _ _ bytes cut).1.usage.symm.trans unfound)
      exact extract_of_usageLine line (missed.2 block listed)
  · rintro ⟨unmarked, silent, unreported⟩ chunks chunks' cut cut'
    have nothing : ∀ chunks, Cut stream chunks → (observe_upstream_stream chunks none).usage = none ∧
        (observe_upstream_stream chunks none).saw_done = false ∧
        (observe_upstream_stream chunks none).bytes_sent = stream.length := by
      intro chunks cut
      refine ⟨(usage_eq_none_iff _ _).mpr ⟨rfl, fun chunk listed => ?_⟩, Bool.eq_false_iff.mpr fun seen => ?_, ?_⟩
      · exact extract_none_of_blocks fun block part => silent block (part.trans (infix_of_mem cut listed))
      · obtain impossible | ⟨chunk, listed, marker⟩ := (saw_done_iff _ _).mp seen
        · exact Bool.false_ne_true impossible
        · exact unmarked (marker.trans (infix_of_mem cut listed))
      · have counted := bytes_sent_eq chunks ⟨0, false, none⟩
        rw [cut.whole] at counted
        exact counted.trans (Nat.zero_add _)
    obtain ⟨usage, done, bytes⟩ := nothing chunks cut
    obtain ⟨usage', done', bytes'⟩ := nothing chunks' cut'
    refine ⟨⟨?_, done.trans done'.symm, usage.trans usage'.symm⟩, usage.trans unreported.symm⟩
    change Chat.classify_stream_outcome (observe_upstream_stream chunks none).bytes_sent
        (observe_upstream_stream chunks none).saw_done none =
      Chat.classify_stream_outcome (observe_upstream_stream chunks' none).bytes_sent
        (observe_upstream_stream chunks' none).saw_done none
    rw [done, done', bytes, bytes']

/-- An event with a usage, and the end marker. -/
def reporting : List UInt8 := Utf8.encode "data: \x7b\"usage\":\x7b\x7d\x7d\n\ndata: [DONE]\n\n".toList

/-- The same stream, cut through both. -/
def reporting_pieces : List (List UInt8) := [reporting.take 10, (reporting.drop 10).take 18, reporting.drop 28]

theorem chunking_observed : ¬ ∀ stream chunks chunks', Cut stream chunks → Cut stream chunks' →
    Same (observe_upstream_stream chunks none) (observe_upstream_stream chunks' none) ∧
      (observe_upstream_stream chunks none).usage = last_usage stream := by
  intro ignored
  have whole : Cut reporting [reporting] := ⟨by decide, by decide⟩
  have pieces : Cut reporting reporting_pieces := ⟨by decide, by decide⟩
  have same := (ignored reporting [reporting] reporting_pieces whole pieces).1
  have found : (observe_upstream_stream [reporting] none).usage.isSome = true := by decide +kernel
  have missed : (observe_upstream_stream reporting_pieces none).usage.isSome = false := by decide +kernel
  rw [same.usage, missed] at found
  exact Bool.false_ne_true found

end RuntimePlatform.Usage
