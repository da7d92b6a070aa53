import Mathlib.Data.Rat.Floor
import Mathlib.Data.List.DropRight

/-!
The values that cross the gateway's boundaries (JSON bodies, store replies), and the
Python built-ins the code applies to them. What the built-ins take from the Unicode
tables and from the printing of floats is a parameter, `Text`.
-/

namespace Python

/-- The classes of exception which some handler tells apart. -/
inductive ErrorKind where
  | typeError
  | valueError
  | arithmeticError
  | lookupError
  | attributeError
  | timeoutError
  | cancelledError
  | other
  deriving DecidableEq, Repr

structure Error where
  kind : ErrorKind
  text : String
  deriving DecidableEq, Repr

/-- `except Exception` stops everything but a cancellation. -/
def Error.isException (e : Error) : Bool := decide (e.kind ≠ .cancelledError)

/-- The largest double, `2 ^ 1024 - 2 ^ 971`. -/
def maxDouble : ℚ := (2 ^ 54 - 2) * 2 ^ 970

/-- A finite double: its value, the decimal which its `str` prints, and the sign of a zero, which `==` does not see. -/
structure Finite where
  value : ℚ
  printed : ℚ
  bounded : |printed| ≤ maxDouble
  minus : Bool := false

def Finite.zero : Finite where
  value := 0
  printed := 0
  bounded := by
    rw [abs_zero]
    exact mul_nonneg (by norm_num) (pow_nonneg (by norm_num) _)

inductive Double where
  | finite (x : Finite)
  | inf (negative : Bool)
  | nan

inductive Value where
  | none
  | bool (b : Bool)
  | int (n : ℤ)
  | float (x : Double)
  | str (s : String)
  | bytes (b : List UInt8)
  | list (items : List Value)
  | dict (entries : List (Value × Value))
  /-- Anything else: no number, no text, not subscriptable. -/
  | object (name : String)

/-- The entries of a dict, in insertion order. -/
abbrev Entries := List (Value × Value)

namespace Value

/-- `bool(v)`, the test of `if v` and of `v or w`. -/
def truthy : Value → Bool
  | none => false
  | bool b => b
  | int n => decide (n ≠ 0)
  | float (.finite x) => decide (x.value ≠ 0)
  | float _ => true
  | str s => decide (s ≠ "")
  | bytes b => !b.isEmpty
  | list items => !items.isEmpty
  | dict entries => !entries.isEmpty
  | object _ => true

def isKey (key : String) : Value → Bool
  | str s => decide (s = key)
  | _ => false

/-- The integer that a dict key is equal to: `True` and `1.0` are the key `1`. -/
def asIndex : Value → Option ℤ
  | bool b => some b.toInt
  | int n => some n
  | float (.finite x) => if x.value = ⌊x.value⌋ then some ⌊x.value⌋ else Option.none
  | _ => Option.none

end Value

namespace Entries

/-- `d.get(key)` -/
def get (d : Entries) (key : String) : Option Value :=
  (d.find? fun e => e.1.isKey key).map Prod.snd

/-- `d.get(key)` with Python's own default. -/
def orNone (d : Entries) (key : String) : Value := (d.get key).getD .none

/-- `d[key] = v` -/
def set (d : Entries) (key : String) (v : Value) : Entries :=
  if d.any fun e => e.1.isKey key then d.map fun e => if e.1.isKey key then (e.1, v) else e
  else d ++ [(.str key, v)]

theorem isKey_of_ne {key other : String} (different : key ≠ other) {v : Value} (h : v.isKey key = true) :
    v.isKey other = false := by
  cases v with
  | str s =>
      simp only [Value.isKey, decide_eq_true_eq, decide_eq_false_iff_not] at h ⊢
      exact h ▸ different
  | _ => rfl

/-- A write leaves the other keys alone. -/
theorem get_set_ne (d : Entries) {key other : String} (v : Value) (different : key ≠ other) :
    (d.set key v).get other = d.get other := by
  have missed : ∀ e : Value × Value, e.1.isKey key = true → e.1.isKey other = false :=
    fun e h => isKey_of_ne different h
  unfold set get
  by_cases present : (d.any fun e => e.1.isKey key) = true
  · rw [if_pos present]
    congr 1
    clear present
    induction d with
    | nil => rfl
    | cons e es ih =>
        by_cases here : e.1.isKey key = true
        · simp only [List.map_cons, here, if_true, List.find?_cons, missed e here, ih]
        · rw [List.map_cons, if_neg here, List.find?_cons, List.find?_cons, ih]
  · rw [if_neg present, List.find?_append]
    have tail : ([(Value.str key, v)] : Entries).find? (fun e => e.1.isKey other) = none := by
      simp only [List.find?_cons, List.find?_nil, Value.isKey, different, decide_false]
    rw [tail, Option.or_none]

end Entries

/-- `result[i]` for a small non-negative index. -/
def item (v : Value) (i : ℕ) : Except Error Value :=
  let missing : Except Error Value := .error ⟨.lookupError, "index out of range"⟩
  match v with
  | .list items => (items[i]?).elim missing .ok
  | .str s => (s.toList[i]?).elim missing fun c => .ok (.str (String.ofList [c]))
  | .bytes b => (b[i]?).elim missing fun byte => .ok (.int byte.toNat)
  | .dict entries =>
    (entries.find? fun e => e.1.asIndex = some (i : ℤ)).elim missing fun e => .ok e.2
  | _ => .error ⟨.typeError, "object is not subscriptable"⟩

/-- Case folding, the printing of values which are not text, and the integers read from
text and bytes. For ASCII text `lower` needs no table. -/
structure Text where
  lower : String → String
  repr : Value → String
  numeral : Value → Option ℤ
  lower_ascii : ∀ s : String, (∀ c ∈ s.toList, c.toNat < 128) →
    lower s = String.ofList (s.toList.map Char.toLower)

/-- `str.isspace`, character by character. -/
def isSpace (c : Char) : Bool :=
  let n := c.toNat
  (9 ≤ n && n ≤ 13) || (28 ≤ n && n ≤ 32) || n = 0x85 || n = 0xa0 || n = 0x1680 ||
    (0x2000 ≤ n && n ≤ 0x200a) || n = 0x2028 || n = 0x2029 || n = 0x202f || n = 0x205f || n = 0x3000

/-- `s.strip()` -/
def strip (s : String) : String := String.ofList ((s.toList.dropWhile isSpace).rdropWhile isSpace)

def isAscii (s : String) : Bool := s.toList.all fun c => decide (c.toNat < 128)

namespace Text
variable (T : Text)

/-- `str(v)` -/
def str : Value → String
  | .none => "None"
  | .bool true => "True"
  | .bool false => "False"
  | .int n => toString n
  | .str s => s
  | v => T.repr v

/-- `str(d.get(key) or "")` -/
def given (d : Entries) (key : String) : String :=
  match d.get key with
  | some v => if v.truthy then T.str v else ""
  | none => ""

/-- `int(v)` -/
def int : Value → Except Error ℤ
  | .bool b => .ok b.toInt
  | .int n => .ok n
  | .float (.finite x) => .ok (if x.value < 0 then ⌈x.value⌉ else ⌊x.value⌋)
  | .float (.inf _) => .error ⟨.arithmeticError, "cannot convert float infinity to integer"⟩
  | .float .nan => .error ⟨.valueError, "cannot convert float NaN to integer"⟩
  | .str s => (T.numeral (.str s)).elim (.error ⟨.valueError, "invalid literal for int()"⟩) .ok
  | .bytes b => (T.numeral (.bytes b)).elim (.error ⟨.valueError, "invalid literal for int()"⟩) .ok
  | _ => .error ⟨.typeError, "int() argument must be a string or a number"⟩

@[simp] theorem int_int (n : ℤ) : T.int (.int n) = .ok n := rfl

end Text

/-- The tables cut down to ASCII: enough for every fixed input below. -/
def asciiText : Text where
  lower s := String.ofList (s.toList.map Char.toLower)
  repr _ := ""
  numeral
    | .str "1" => some 1
    | .str "0" => some 0
    | _ => none
  lower_ascii _ _ := rfl

end Python

/-! Programs which raise: when such a program returns. -/
namespace Except
variable {ε α β : Type}

def Returns (x : Except ε α) : Prop := ∃ a, x = .ok a

@[simp] theorem bind_ok (a : α) (f : α → Except ε β) : (ok a >>= f) = f a := rfl

@[simp] theorem bind_error (e : ε) (f : α → Except ε β) : (error e >>= f) = error e := rfl

@[simp] theorem tryCatch_ok (a : α) (handler : ε → Except ε α) : tryCatch (ok a) handler = ok a := rfl

@[simp] theorem tryCatch_error (e : ε) (handler : ε → Except ε α) :
    tryCatch (error e) handler = handler e := rfl

theorem bind_eq_ok {x : Except ε α} {f : α → Except ε β} {b : β} :
    x >>= f = .ok b ↔ ∃ a, x = .ok a ∧ f a = .ok b := by
  cases x with
  | error e =>
      constructor
      · intro h
        cases h
      · rintro ⟨a, h, _⟩
        cases h
  | ok a =>
      constructor
      · intro h
        exact ⟨a, rfl, h⟩
      · rintro ⟨a', h, result⟩
        cases h
        exact result

theorem returns_bind {x : Except ε α} {f : α → Except ε β} :
    (x >>= f).Returns ↔ ∃ a, x = .ok a ∧ (f a).Returns := by
  constructor
  · rintro ⟨b, h⟩
    obtain ⟨a, first, second⟩ := bind_eq_ok.mp h
    exact ⟨a, first, b, second⟩
  · rintro ⟨a, first, b, second⟩
    exact ⟨b, bind_eq_ok.mpr ⟨a, first, second⟩⟩

theorem bind_eq_error {x : Except ε α} {f : α → Except ε β} {e : ε} :
    x >>= f = .error e ↔ x = .error e ∨ ∃ a, x = .ok a ∧ f a = .error e := by
  cases x with
  | error e' =>
      constructor
      · intro h
        cases h
        exact Or.inl rfl
      · rintro (h | ⟨a, h, _⟩)
        · cases h
          rfl
        · cases h
  | ok a =>
      constructor
      · intro h
        exact Or.inr ⟨a, rfl, h⟩
      · rintro (h | ⟨a', h, result⟩)
        · cases h
        · cases h
          exact result

@[simp] theorem returns_ok (a : α) : (ok a : Except ε α).Returns := ⟨a, rfl⟩

@[simp] theorem returns_error (e : ε) : ¬ (error e : Except ε α).Returns := by
  rintro ⟨a, h⟩
  cases h

/-- `if c: raise e` -/
def raiseIf (c : Prop) [Decidable c] (e : ε) : Except ε Unit := if c then .error e else .ok ()

@[simp] theorem raiseIf_eq_ok {c : Prop} [Decidable c] {e : ε} {u : Unit} :
    raiseIf c e = .ok u ↔ ¬ c := by
  unfold raiseIf
  by_cases h : c
  · rw [if_pos h]
    exact ⟨fun (bad : error e = ok u) => (nomatch bad), fun absent => absurd h absent⟩
  · rw [if_neg h]
    exact ⟨fun _ => h, fun _ => rfl⟩

/-- The program raises nothing which `except Exception` lets through. -/
def Quiet (x : Except Python.Error α) : Prop := ∀ e, x = .error e → e.kind ≠ .cancelledError

theorem quiet_ok (a : α) : Quiet (.ok a) := fun _ h => (nomatch h)

theorem quiet_error {e : Python.Error} (h : e.kind ≠ .cancelledError) : Quiet (.error e : Except _ α) := by
  rintro e' raised
  cases raised
  exact h

theorem Quiet.bind {x : Except Python.Error α} {f : α → Except Python.Error β} (first : Quiet x)
    (second : ∀ a, Quiet (f a)) : Quiet (x >>= f) := by
  intro e h
  rcases bind_eq_error.mp h with raised | ⟨a, _, raised⟩
  · exact first e raised
  · exact second a e raised

end Except

namespace Python

theorem quiet_item (v : Value) (i : ℕ) : Except.Quiet (item v i) := by
  have found : ∀ {γ : Type} (o : Option γ) (f : γ → Value),
      Except.Quiet (o.elim (.error ⟨.lookupError, "index out of range"⟩) fun a => .ok (f a)) := by
    intro γ o f
    cases o with
    | none => exact Except.quiet_error (by decide)
    | some a => exact Except.quiet_ok _
  cases v with
  | list items => exact found _ id
  | str s => exact found _ _
  | bytes b => exact found _ _
  | dict entries => exact found _ _
  | _ => exact Except.quiet_error (by decide)

theorem Text.quiet_int (T : Text) (v : Value) : Except.Quiet (T.int v) := by
  have read : ∀ o : Option ℤ, Except.Quiet (o.elim (.error ⟨.valueError, "invalid literal for int()"⟩) .ok) := by
    intro o
    cases o with
    | none => exact Except.quiet_error (by decide)
    | some a => exact Except.quiet_ok _
  cases v with
  | bool b => exact Except.quiet_ok _
  | int n => exact Except.quiet_ok _
  | float x => cases x <;> first | exact Except.quiet_ok _ | exact Except.quiet_error (by decide)
  | str s => exact read _
  | bytes b => exact read _
  | _ => exact Except.quiet_error (by decide)

end Python
