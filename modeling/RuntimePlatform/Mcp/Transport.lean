import Mathlib.Data.List.Infix
import RuntimePlatform.Lib.JsonReading
import RuntimePlatform.Lib.Utf8

/-!
What the gateway reads from the body of an MCP response: one JSON object, or the last one of an event stream.
-/

namespace RuntimePlatform.Mcp
open Lines

/-- The text which ends a stream in place of a message. -/
def DONE : List Char := "[DONE]".toList

/-- The loop of `_parse_sse_jsonrpc`: the last message, and the data since. -/
structure Reading where
  last : Option Json.Members
  data_lines : List (List Char)

/-- The message which the collected data are, if they are one. -/
def message (data_lines : List (List Char)) : Option Json.Members :=
  let blob := stripped ([lineFeed].intercalate data_lines)
  if blob = [] ∨ blob = DONE then none
  else
    match Json.loads blob with
    | some (.obj parsed) => some parsed
    | _ => none

def read_line (s : Reading) (raw_line : List Char) : Reading :=
  let line := raw_line.rdropWhile fun c => decide (c = carriageReturn)
  if "data:".toList <+: line then { s with data_lines := s.data_lines ++ [lstrip (line.drop 5)] }
  else if line = [] ∧ s.data_lines ≠ [] then ⟨(message s.data_lines).or s.last, []⟩
  else s

def parse_sse_jsonrpc (text : List Char) : Except Python.Error Json.Members :=
  let s := (splitlines text).foldl read_line ⟨none, []⟩
  let last := if s.data_lines ≠ [] then (message s.data_lines).or s.last else s.last
  last.elim (.error ⟨.valueError, "MCP SSE stream contained no JSON-RPC message"⟩) .ok

def parse_mcp_response_body (T : Python.Text) (content_type : String) (body : List UInt8) :
    Except Python.Error Json.Members :=
  let ctype := (T.lower content_type).toList
  let text := stripped (Utf8.decodeReplace body)
  if "text/event-stream".toList <:+: ctype ∨ "event:".toList <+: text ∨ "data:".toList <+: text then
    parse_sse_jsonrpc text
  else
    match Json.loads text with
    | none => .error ⟨.valueError, "MCP server returned non-JSON body"⟩
    | some (.obj payload) => .ok payload
    | some _ => .error ⟨.valueError, "MCP server returned non-object JSON"⟩

/-! One line after the other. -/

@[simp] theorem message_nil : message [] = none := rfl

/-- A message is an object which the stripped text stands for. -/
theorem message_eq_some {data_lines : List (List Char)} {parsed : Json.Members}
    (found : message data_lines = some parsed) :
    ∃ v, Json.read (stripped ([lineFeed].intercalate data_lines)) = some v ∧ v.dict = .obj parsed := by
  unfold message Json.loads at found
  dsimp only at found
  split_ifs at found
  cases value : Json.read (stripped ([lineFeed].intercalate data_lines)) with
  | none =>
      rw [value] at found
      cases found
  | some v =>
      rw [value, Option.map_some] at found
      refine ⟨v, rfl, ?_⟩
      cases object : v.dict with
      | obj members =>
          rw [object] at found
          exact congrArg Json.obj (Option.some.inj found)
      | atom literal =>
          rw [object] at found
          cases found
      | str codes =>
          rw [object] at found
          cases found
      | arr items =>
          rw [object] at found
          cases found

/-- The text of an object is the message, whatever spaces are around it. -/
theorem message_of_serialises {text : List Char} {parsed : Json.Members} (serialises : Json.Serialises text parsed) :
    message [lstrip text] = some parsed := by
  have blob : stripped ([lineFeed].intercalate [lstrip text]) = stripped text := by
    rw [List.intercalate_singleton, stripped, lstrip_lstrip]
    rfl
  have some_text : ¬ (stripped text = [] ∨ stripped text = DONE) := by
    have unread : Json.read [] = none ∧ Json.read DONE = none := ⟨rfl, rfl⟩
    have reads := serialises.stripped.reads
    rintro (empty | marker)
    · rw [empty, unread.1] at reads
      cases reads
    · rw [marker, unread.2] at reads
      cases reads
  rw [message, blob]
  rw [if_neg some_text, serialises.stripped.loads]

/-- A blank line ends the message. -/
theorem read_blank (s : Reading) : read_line s [] = ⟨(message s.data_lines).or s.last, []⟩ := by
  obtain ⟨last, data_lines⟩ := s
  cases data_lines with
  | nil => rfl
  | cons data rest => rfl

/-- The end of the text does as well. -/
theorem parse_sse_jsonrpc_eq (text : List Char) : parse_sse_jsonrpc text =
    (read_line ((splitlines text).foldl read_line ⟨none, []⟩) []).last.elim
      (.error ⟨.valueError, "MCP SSE stream contained no JSON-RPC message"⟩) .ok := by
  rw [read_blank, parse_sse_jsonrpc]
  generalize (splitlines text).foldl read_line ⟨none, []⟩ = s
  obtain ⟨last, data_lines⟩ := s
  cases data_lines with
  | nil => rfl
  | cons data rest => rfl

theorem parse_sse_jsonrpc_eq_ok {text : List Char} {parsed : Json.Members} : parse_sse_jsonrpc text = .ok parsed ↔
    (read_line ((splitlines text).foldl read_line ⟨none, []⟩) []).last = some parsed := by
  rw [parse_sse_jsonrpc_eq]
  cases (read_line ((splitlines text).foldl read_line ⟨none, []⟩) []).last with
  | none => simp
  | some last => simp

end RuntimePlatform.Mcp
