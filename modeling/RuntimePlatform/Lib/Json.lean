import Mathlib.Data.Bool.AllAny
import Mathlib.Data.List.Basic

/-!
JSON texts and the values they stand for. The reader is the automaton of the grammar, which takes a text character by
character; what is open around the place it has come to is a stack.
-/

/-- A JSON value. `null`, `true`, `false` and the numbers are told apart by their literals; a string is given by its
code points, among which `\ud800` and its like may stand alone. -/
inductive Json where
  | atom (literal : List Char)
  | str (codes : List ℕ)
  | arr (items : List Json)
  | obj (members : List (List ℕ × Json))

namespace Json

/-! The characters of the grammar. -/

def quote : Char := Char.ofNat 34

def backslash : Char := Char.ofNat 92

def openBrace : Char := Char.ofNat 123

def closeBrace : Char := Char.ofNat 125

def isBlank (c : Char) : Bool := decide (c = ' ' ∨ c.toNat = 9 ∨ c.toNat = 10 ∨ c.toNat = 13)

/-- A character of a number or of a name. -/
def isLiteralChar (c : Char) : Bool := c.isAlphanum || decide (c = '+' ∨ c = '-' ∨ c = '.')

/-! Literals. -/

/-- Drops one digit or more. -/
def afterDigits : List Char → Option (List Char)
  | c :: rest => if c.isDigit then some (rest.dropWhile Char.isDigit) else none
  | [] => none

def afterInteger : List Char → Option (List Char)
  | '0' :: rest => some rest
  | text => afterDigits text

def afterFraction : List Char → Option (List Char)
  | '.' :: rest => afterDigits rest
  | text => some text

def afterExponent : List Char → Option (List Char)
  | c :: rest =>
    if c = 'e' ∨ c = 'E' then
      match rest with
      | s :: digits => if s = '+' ∨ s = '-' then afterDigits digits else afterDigits rest
      | [] => none
    else some (c :: rest)
  | [] => some []

def isUnsigned (literal : List Char) : Bool :=
  decide ((((afterInteger literal).bind afterFraction).bind afterExponent) = some [])

/-- `-?(0|[1-9][0-9]*)(\.[0-9]+)?([eE][+-]?[0-9]+)?` -/
def isNumber : List Char → Bool
  | '-' :: rest => isUnsigned rest
  | literal => isUnsigned literal

def names : List (List Char) :=
  ["null".toList, "true".toList, "false".toList, "NaN".toList, "Infinity".toList, "-Infinity".toList]

def isLiteral (literal : List Char) : Bool := decide (literal ∈ names) || isNumber literal

/-! Strings. -/

def hexValue (c : Char) : Option ℕ :=
  let n := c.toNat
  if 48 ≤ n ∧ n ≤ 57 then some (n - 48)
  else if 97 ≤ n ∧ n ≤ 102 then some (n - 87)
  else if 65 ≤ n ∧ n ≤ 70 then some (n - 55)
  else none

def unescaped (c : Char) : Option ℕ :=
  if c = quote ∨ c = backslash ∨ c = '/' then some c.toNat
  else if c = 'b' then some 8
  else if c = 'f' then some 12
  else if c = 'n' then some 10
  else if c = 'r' then some 13
  else if c = 't' then some 9
  else none

def isHigh (n : ℕ) : Bool := decide (0xd800 ≤ n ∧ n ≤ 0xdbff)

def isLow (n : ℕ) : Bool := decide (0xdc00 ≤ n ∧ n ≤ 0xdfff)

/-- The halves of a character beyond the first plane, put together. -/
def joinPairs : List ℕ → List ℕ
  | high :: low :: rest =>
    if isHigh high ∧ isLow low then (0x10000 + (high - 0xd800) * 1024 + (low - 0xdc00)) :: joinPairs rest
    else high :: joinPairs (low :: rest)
  | codes => codes

/-- Where in a string the reader is: between characters, behind a backslash, or within four hexadecimal digits. -/
inductive Scan where
  | plain
  | escaped
  | hex (left value : ℕ)
  deriving DecidableEq

/-- A string which is being read, with the units read so far. -/
structure Partial where
  scan : Scan
  units : List ℕ

/-- One character which does not end the string; control characters have to be escaped. -/
def Partial.next (s : Partial) (c : Char) : Option Partial :=
  match s.scan with
  | .plain =>
    if c = backslash then some ⟨.escaped, s.units⟩
    else if c = quote ∨ c.toNat < 32 then none
    else some ⟨.plain, s.units ++ [c.toNat]⟩
  | .escaped =>
    if c = 'u' then some ⟨.hex 3 0, s.units⟩
    else (unescaped c).map fun n => ⟨.plain, s.units ++ [n]⟩
  | .hex left value => (hexValue c).map fun digit =>
    if left = 0 then ⟨.plain, s.units ++ [value * 16 + digit]⟩ else ⟨.hex (left - 1) (value * 16 + digit), s.units⟩

/-! The reader. -/

/-- An open array with its items, or an open object with its members and the key whose value is being read. -/
inductive Frame where
  | items (done : List Json)
  | member (done : List (List ℕ × Json)) (key : List ℕ)

/-- What the reader is about; `fresh` is the place right after an opening bracket, where it may be closed. -/
inductive Mode where
  | value (fresh : Bool)
  | key (fresh : Bool) (done : List (List ℕ × Json))
  | colon (done : List (List ℕ × Json)) (key : List ℕ)
  | text (s : Partial)
  | keyText (done : List (List ℕ × Json)) (s : Partial)
  | atom (literal : List Char)
  | after (v : Json)
  | failed

/-- A string is a value, or the key of the next member. -/
inductive Role where
  | value
  | key (done : List (List ℕ × Json))

/-- What the reader is about in a string of this role. -/
def Role.inside : Role → Partial → Mode
  | .value, s => .text s
  | .key done, s => .keyText done s

/-- What it is about behind the string. -/
def Role.ended : Role → List ℕ → Mode
  | .value, codes => .after (.str codes)
  | .key done, codes => .colon done codes

structure Reader where
  stack : List Frame
  mode : Mode

namespace Reader

def start : Reader := ⟨[], .value false⟩

def fail : Reader := ⟨[], .failed⟩

/-- A character where a value may begin. -/
def beginValue (stack : List Frame) (fresh : Bool) (c : Char) : Reader :=
  if isBlank c then ⟨stack, .value fresh⟩
  else if c = quote then ⟨stack, .text ⟨.plain, []⟩⟩
  else if c = '[' then ⟨.items [] :: stack, .value true⟩
  else if c = openBrace then ⟨stack, .key true []⟩
  else if isLiteralChar c then ⟨stack, .atom [c]⟩
  else
    match stack with
    | .items done :: outer => if c = ']' ∧ fresh then ⟨outer, .after (.arr done)⟩ else fail
    | _ => fail

def beginKey (stack : List Frame) (fresh : Bool) (done : List (List ℕ × Json)) (c : Char) : Reader :=
  if isBlank c then ⟨stack, .key fresh done⟩
  else if c = quote then ⟨stack, .keyText done ⟨.plain, []⟩⟩
  else if c = closeBrace ∧ fresh then ⟨stack, .after (.obj done)⟩
  else fail

/-- A character behind a value: the next one, or the end of what is open. -/
def continue_ (stack : List Frame) (v : Json) (c : Char) : Reader :=
  if isBlank c then ⟨stack, .after v⟩
  else
    match stack with
    | .items done :: outer =>
      if c = ',' then ⟨.items (done ++ [v]) :: outer, .value false⟩
      else if c = ']' then ⟨outer, .after (.arr (done ++ [v]))⟩
      else fail
    | .member done key :: outer =>
      if c = ',' then ⟨outer, .key false (done ++ [(key, v)])⟩
      else if c = closeBrace then ⟨outer, .after (.obj (done ++ [(key, v)]))⟩
      else fail
    | [] => fail

def step (r : Reader) (c : Char) : Reader :=
  match r.mode with
  | .value fresh => beginValue r.stack fresh c
  | .key fresh done => beginKey r.stack fresh done c
  | .colon done key =>
    if isBlank c then r
    else if c = ':' then ⟨.member done key :: r.stack, .value false⟩
    else fail
  | .text s =>
    if s.scan = .plain ∧ c = quote then ⟨r.stack, .after (.str (joinPairs s.units))⟩
    else (s.next c).elim fail fun s => ⟨r.stack, .text s⟩
  | .keyText done s =>
    if s.scan = .plain ∧ c = quote then ⟨r.stack, .colon done (joinPairs s.units)⟩
    else (s.next c).elim fail fun s => ⟨r.stack, .keyText done s⟩
  | .atom literal =>
    if isLiteralChar c then ⟨r.stack, .atom (literal ++ [c])⟩
    else if isLiteral literal then continue_ r.stack (.atom literal) c
    else fail
  | .after v => continue_ r.stack v c
  | .failed => fail

section Steps
variable (stack : List Frame) (c : Char)

@[simp] theorem step_value (fresh : Bool) : step ⟨stack, .value fresh⟩ c = beginValue stack fresh c := rfl

@[simp] theorem step_key (fresh : Bool) (done : List (List ℕ × Json)) :
    step ⟨stack, .key fresh done⟩ c = beginKey stack fresh done c := rfl

@[simp] theorem step_after (v : Json) : step ⟨stack, .after v⟩ c = continue_ stack v c := rfl

@[simp] theorem step_failed : step ⟨stack, .failed⟩ c = fail := rfl

theorem step_inside (role : Role) (s : Partial) : step ⟨stack, role.inside s⟩ c =
    if s.scan = .plain ∧ c = quote then ⟨stack, role.ended (joinPairs s.units)⟩
    else (s.next c).elim fail fun s => ⟨stack, role.inside s⟩ := by
  cases role with
  | value => rfl
  | key done => rfl

theorem step_atom (literal : List Char) : step ⟨stack, .atom literal⟩ c =
    if isLiteralChar c then ⟨stack, .atom (literal ++ [c])⟩
    else if isLiteral literal then continue_ stack (.atom literal) c
    else fail := rfl

end Steps

/-- The value at the end of the text, if nothing is open. -/
def finish (r : Reader) : Option Json :=
  match r.stack, r.mode with
  | [], .after v => some v
  | [], .atom literal => if isLiteral literal then some (.atom literal) else none
  | _, _ => none

def run (r : Reader) (text : List Char) : Reader := text.foldl step r

@[simp] theorem run_nil (r : Reader) : r.run [] = r := rfl

@[simp] theorem run_cons (r : Reader) (c : Char) (text : List Char) : r.run (c :: text) = (r.step c).run text := rfl

@[simp] theorem run_append (r : Reader) (before after : List Char) :
    r.run (before ++ after) = (r.run before).run after := List.foldl_append

theorem run_fail (text : List Char) : fail.run text = fail := by
  induction text with
  | nil => rfl
  | cons c rest ih => exact ih

end Reader

/-- The value of a text. Objects have their members as they are written. -/
def read (text : List Char) : Option Json := (Reader.start.run text).finish

end Json
