import RuntimePlatform.Lib.Lines

/-!
Event streams (`text/event-stream`): a line ends with a feed, a return or both, the `data` fields up to a blank line are
the data of one event, and an event which is not ended by a blank line is none.
-/

namespace EventStream
open Lines

/-- A field's name, before the first colon. -/
def name (row : List Char) : List Char := row.takeWhile fun c => decide (c ≠ ':')

/-- A field's value, without one space in front of it. -/
def value (row : List Char) : List Char :=
  match row.dropWhile fun c => decide (c ≠ ':') with
  | _ :: ' ' :: rest => rest
  | _ :: rest => rest
  | [] => []

/-- The events so far, and the `data` fields since the last of them. -/
structure State where
  data : List (List Char)
  events : List (List Char)

def row (s : State) (row : List Char) : State :=
  if row = [] then
    if s.data = [] then s else ⟨[], s.events ++ [[lineFeed].intercalate s.data]⟩
  else if name row = "data".toList then ⟨s.data ++ [value row], s.events⟩
  else s

/-- The data of the events of a text. -/
def events (text : List Char) : List (List Char) := ((lines isReturnOrFeed text).foldl row ⟨[], []⟩).events

end EventStream
