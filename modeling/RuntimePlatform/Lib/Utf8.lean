import Mathlib.Data.List.Basic

/-!
UTF-8 as Python's decoders read it, byte by byte. What is no UTF-8 is left out, or stands as a replacement character.
-/

namespace Utf8

/-- Between characters, or within one: how many bytes come after the next one, the value of those read, and the bounds
of the next one. -/
inductive State where
  | ready
  | expecting (left value low high : ℕ)

/-- The first byte of a character. -/
def first (bad : List Char) (b : ℕ) : List Char × State :=
  if b < 0x80 then ([Char.ofNat b], .ready)
  else if b < 0xc2 then (bad, .ready)
  else if b < 0xe0 then ([], .expecting 0 (b - 0xc0) 0x80 0xbf)
  else if b < 0xf0 then
    ([], .expecting 1 (b - 0xe0) (if b = 0xe0 then 0xa0 else 0x80) (if b = 0xed then 0x9f else 0xbf))
  else if b < 0xf5 then
    ([], .expecting 2 (b - 0xf0) (if b = 0xf0 then 0x90 else 0x80) (if b = 0xf4 then 0x8f else 0xbf))
  else (bad, .ready)

/-- A byte which does not continue the character begins another one. -/
def next (bad : List Char) : State → ℕ → List Char × State
  | .ready, b => first bad b
  | .expecting left value low high, b =>
    if low ≤ b ∧ b ≤ high then
      if left = 0 then ([Char.ofNat (value * 64 + (b - 0x80))], .ready)
      else ([], .expecting (left - 1) (value * 64 + (b - 0x80)) 0x80 0xbf)
    else (bad ++ (first bad b).1, (first bad b).2)

def decodeFrom (bad : List Char) : State → List UInt8 → List Char
  | .ready, [] => []
  | .expecting _ _ _ _, [] => bad
  | s, b :: rest => (next bad s b.toNat).1 ++ decodeFrom bad (next bad s b.toNat).2 rest

/-- `body.decode("utf-8", errors="ignore")` -/
def decodeIgnore : List UInt8 → List Char := decodeFrom [] .ready

/-- `body.decode("utf-8", errors="replace")` -/
def decodeReplace : List UInt8 → List Char := decodeFrom [Char.ofNat 0xfffd] .ready

/-! Encoding. -/

def encodeChar (c : Char) : List UInt8 :=
  let n := c.toNat
  if n < 0x80 then [.ofNat n]
  else if n < 0x800 then [.ofNat (0xc0 + n / 64), .ofNat (0x80 + n % 64)]
  else if n < 0x10000 then [.ofNat (0xe0 + n / 4096), .ofNat (0x80 + n / 64 % 64), .ofNat (0x80 + n % 64)]
  else [.ofNat (0xf0 + n / 262144), .ofNat (0x80 + n / 4096 % 64), .ofNat (0x80 + n / 64 % 64),
    .ofNat (0x80 + n % 64)]

/-- `text.encode("utf-8")` -/
def encode (text : List Char) : List UInt8 := text.flatMap encodeChar

section Decoded
variable (bad : List Char) (rest : List UInt8)

theorem decodeFrom_cons (s : State) (b : UInt8) :
    decodeFrom bad s (b :: rest) = (next bad s b.toNat).1 ++ decodeFrom bad (next bad s b.toNat).2 rest := by
  cases s with
  | ready => rfl
  | expecting left value low high => rfl

theorem decodeFrom_byte (s : State) {n : ℕ} (small : n < 256) : decodeFrom bad s (.ofNat n :: rest) =
    (next bad s n).1 ++ decodeFrom bad (next bad s n).2 rest := by
  rw [decodeFrom_cons, UInt8.toNat_ofNat_of_lt' small]

/-- A byte within its bounds, after which more are to come. -/
theorem next_more {left value low high b : ℕ} (within : low ≤ b ∧ b ≤ high) (more : left ≠ 0) :
    next bad (.expecting left value low high) b = ([], .expecting (left - 1) (value * 64 + (b - 0x80)) 0x80 0xbf) := by
  rw [next, if_pos within, if_neg more]

/-- The last byte of a character. -/
theorem next_last {value low high b : ℕ} (within : low ≤ b ∧ b ≤ high) :
    next bad (.expecting 0 value low high) b = ([Char.ofNat (value * 64 + (b - 0x80))], .ready) := by
  rw [next, if_pos within, if_pos rfl]

theorem decode_encodeChar (c : Char) :
    decodeFrom bad .ready (encodeChar c ++ rest) = c :: decodeFrom bad .ready rest := by
  have valid : c.toNat < 0xd800 ∨ 0xdfff < c.toNat ∧ c.toNat < 0x110000 := c.valid
  have whole : Char.ofNat c.toNat = c := Char.ofNat_toNat c
  unfold encodeChar
  generalize c.toNat = n at valid whole
  subst whole
  dsimp only
  by_cases one : n < 0x80
  · rw [if_pos one, List.singleton_append, decodeFrom_byte _ _ _ (by omega), next, first, if_pos one]
    rfl
  by_cases two : n < 0x800
  · have start : next bad .ready (0xc0 + n / 64) = ([], .expecting 0 (n / 64) 0x80 0xbf) := by
      rw [next, first, if_neg (by omega), if_neg (by omega), if_pos (by omega), Nat.add_sub_cancel_left]
    have last : n / 64 * 64 + (0x80 + n % 64 - 0x80) = n := by omega
    rw [if_neg one, if_pos two]
    simp only [List.cons_append, List.nil_append]
    rw [decodeFrom_byte _ _ _ (by omega), start, decodeFrom_byte _ _ _ (by omega), next_last _ (by omega), last]
    rfl
  by_cases three : n < 0x10000
  · have start : next bad .ready (0xe0 + n / 4096) = ([], .expecting 1 (n / 4096)
        (if 0xe0 + n / 4096 = 0xe0 then 0xa0 else 0x80) (if 0xe0 + n / 4096 = 0xed then 0x9f else 0xbf)) := by
      rw [next, first, if_neg (by omega), if_neg (by omega), if_neg (by omega), if_pos (by omega),
        Nat.add_sub_cancel_left]
    have within : (if 0xe0 + n / 4096 = 0xe0 then 0xa0 else 0x80) ≤ 0x80 + n / 64 % 64 ∧
        0x80 + n / 64 % 64 ≤ if 0xe0 + n / 4096 = 0xed then 0x9f else 0xbf := by
      constructor
      · split <;> omega
      · split <;> omega
    have last : (n / 4096 * 64 + (0x80 + n / 64 % 64 - 0x80)) * 64 + (0x80 + n % 64 - 0x80) = n := by omega
    rw [if_neg one, if_neg two, if_pos three]
    simp only [List.cons_append, List.nil_append]
    rw [decodeFrom_byte _ _ _ (by omega), start, decodeFrom_byte _ _ _ (by omega), next_more _ within (by decide),
      decodeFrom_byte _ _ _ (by omega), next_last _ (by omega), last]
    rfl
  · have start : next bad .ready (0xf0 + n / 262144) = ([], .expecting 2 (n / 262144)
        (if 0xf0 + n / 262144 = 0xf0 then 0x90 else 0x80) (if 0xf0 + n / 262144 = 0xf4 then 0x8f else 0xbf)) := by
      rw [next, first, if_neg (by omega), if_neg (by omega), if_neg (by omega), if_neg (by omega), if_pos (by omega),
        Nat.add_sub_cancel_left]
    have within : (if 0xf0 + n / 262144 = 0xf0 then 0x90 else 0x80) ≤ 0x80 + n / 4096 % 64 ∧
        0x80 + n / 4096 % 64 ≤ if 0xf0 + n / 262144 = 0xf4 then 0x8f else 0xbf := by
      constructor
      · split <;> omega
      · split <;> omega
    have last : ((n / 262144 * 64 + (0x80 + n / 4096 % 64 - 0x80)) * 64 + (0x80 + n / 64 % 64 - 0x80)) * 64 +
        (0x80 + n % 64 - 0x80) = n := by omega
    rw [if_neg one, if_neg two, if_neg three]
    simp only [List.cons_append, List.nil_append]
    rw [decodeFrom_byte _ _ _ (by omega), start, decodeFrom_byte _ _ _ (by omega), next_more _ within (by decide),
      decodeFrom_byte _ _ _ (by omega), next_more _ (by omega) (by decide), decodeFrom_byte _ _ _ (by omega),
      next_last _ (by omega), last]
    rfl

end Decoded

/-- Every text is decoded from its encoding. -/
theorem decode_encode (bad text : List Char) : decodeFrom bad .ready (encode text) = text := by
  induction text with
  | nil => rfl
  | cons c text ih =>
      rw [encode, List.flatMap_cons, decode_encodeChar]
      exact congrArg (List.cons c) ih

/-! Where what is no UTF-8 is left out, each stretch of the text is that of a stretch of the bytes. -/

/-- A byte completes a character, or none. -/
theorem next_nil (s : State) (b : ℕ) : (next [] s b).1 = [] ∨ ∃ c, next [] s b = ([c], .ready) := by
  have begun : (first [] b).1 = [] ∨ ∃ c, first [] b = ([c], .ready) := by
    by_cases ascii : b < 0x80
    · refine Or.inr ⟨Char.ofNat b, ?_⟩
      rw [first, if_pos ascii]
    · refine Or.inl ?_
      rw [first, if_neg ascii]
      split_ifs
      all_goals rfl
  cases s with
  | ready => exact begun
  | expecting left value low high =>
      by_cases within : low ≤ b ∧ b ≤ high
      · by_cases last : left = 0
        · subst last
          exact Or.inr ⟨_, next_last [] within⟩
        · exact Or.inl (congrArg Prod.fst (next_more [] within last))
      · have again : next [] (.expecting left value low high) b = first [] b := by
          rw [next, if_neg within]
          rfl
        rw [again]
        exact begun

theorem decode_split {s : State} {bytes : List UInt8} {before after : List Char}
    (decoded : decodeFrom [] s bytes = before ++ after) (fresh : before = [] → s = .ready) :
    ∃ bytes₁ bytes₂, bytes = bytes₁ ++ bytes₂ ∧ decodeFrom [] s bytes₁ = before ∧ decodeIgnore bytes₂ = after := by
  induction bytes generalizing s before with
  | nil =>
      have nothing : decodeFrom [] s [] = [] := by
        cases s with
        | ready => rfl
        | expecting left value low high => rfl
      obtain ⟨rfl, rfl⟩ := List.append_eq_nil_iff.mp (decoded.symm.trans nothing)
      exact ⟨[], [], rfl, nothing, rfl⟩
  | cons b bytes ih =>
      rcases before with _ | ⟨c, before⟩
      · obtain rfl := fresh rfl
        exact ⟨[], b :: bytes, rfl, rfl, decoded⟩
      rw [decodeFrom_cons] at decoded
      rcases next_nil s b.toNat with nothing | ⟨d, one⟩
      · rw [nothing] at decoded
        obtain ⟨bytes₁, bytes₂, rfl, first, rest⟩ :=
            ih decoded fun impossible => absurd impossible (List.cons_ne_nil c before)
        refine ⟨b :: bytes₁, bytes₂, rfl, ?_, rest⟩
        rw [decodeFrom_cons, nothing, first, List.nil_append]
      · rw [one] at decoded
        obtain ⟨rfl, later⟩ := List.cons.inj decoded
        obtain ⟨bytes₁, bytes₂, rfl, first, rest⟩ := ih later fun _ => rfl
        refine ⟨b :: bytes₁, bytes₂, rfl, ?_, rest⟩
        rw [decodeFrom_cons, one, first, List.singleton_append]

theorem decode_part {bytes : List UInt8} {text : List Char} (part : text <:+: decodeIgnore bytes) :
    ∃ block, block <:+: bytes ∧ decodeIgnore block = text := by
  obtain ⟨before, after, whole⟩ := part
  rw [List.append_assoc] at whole
  obtain ⟨bytes₁, rest, rfl, -, later⟩ := decode_split whole.symm fun _ => rfl
  obtain ⟨block, bytes₂, rfl, decoded, -⟩ := decode_split later fun _ => rfl
  exact ⟨block, ⟨bytes₁, bytes₂, List.append_assoc _ _ _⟩, decoded⟩

/-- One byte is one character at most. -/
theorem decode_singleton (b : UInt8) : (decodeIgnore [b]).length ≤ 1 := by
  have single : (first [] b.toNat).1.length ≤ 1 := by
    unfold first
    split_ifs <;> simp
  have done : ∀ s : State, decodeFrom [] s [] = [] := by
    intro s
    cases s with
    | ready => rfl
    | expecting left value low high => rfl
  rw [decodeIgnore, decodeFrom_cons, done, List.append_nil]
  exact single

end Utf8
