import Mathlib.Data.List.DropRight
import Mathlib.Data.List.Basic
import Mathlib.Tactic.NormNum

/-!
Base64 in the alphabet for URLs and file names, as Python's `base64` module writes and reads it. The reader leaves out
what is no digit, and what comes after a full group of digits and padding.
-/

namespace Base64

def digit (v : ℕ) : Char :=
  if v < 26 then Char.ofNat (65 + v)
  else if v < 52 then Char.ofNat (71 + v)
  else if v < 62 then Char.ofNat (v - 4)
  else if v = 62 then '-' else '_'

/-- The reader takes the digits of the usual alphabet as well. -/
def value (c : Char) : Option ℕ :=
  let n := c.toNat
  if 65 ≤ n ∧ n ≤ 90 then some (n - 65)
  else if 97 ≤ n ∧ n ≤ 122 then some (n - 71)
  else if 48 ≤ n ∧ n ≤ 57 then some (n + 4)
  else if c = '-' ∨ c = '+' then some 62
  else if c = '_' ∨ c = '/' then some 63
  else none

/-- The digits of some bytes, six bits each, without padding. -/
def digits : List UInt8 → List Char
  | [] => []
  | [a] => [digit (a.toNat / 4), digit (a.toNat % 4 * 16)]
  | [a, b] => [digit (a.toNat / 4), digit (a.toNat % 4 * 16 + b.toNat / 16), digit (b.toNat % 16 * 4)]
  | a :: b :: c :: rest =>
    digit (a.toNat / 4) :: digit (a.toNat % 4 * 16 + b.toNat / 16) :: digit (b.toNat % 16 * 4 + c.toNat / 64) ::
      digit (c.toNat % 64) :: digits rest

/-- `"=" * (-n % 4)` -/
def padding (n : ℕ) : List Char := List.replicate ((4 - n % 4) % 4) '='

/-- `base64.urlsafe_b64encode` -/
def urlsafe_b64encode (bytes : List UInt8) : List Char := digits bytes ++ padding (digits bytes).length

/-- Where the reader is in a group of four digits: how many it has, the bits which are left, and the padding since. -/
structure Reader where
  quad : ℕ
  left : ℕ
  pads : ℕ

def decodeFrom : Reader → List Char → Option (List UInt8)
  | r, [] => if r.quad = 0 then some [] else none
  | r, c :: rest =>
    if c = '=' then
      if 2 ≤ r.quad then
        if 4 ≤ r.quad + (r.pads + 1) then some [] else decodeFrom { r with pads := r.pads + 1 } rest
      else decodeFrom r rest
    else
      match value c with
      | none => decodeFrom r rest
      | some v =>
        match r.quad with
        | 0 => decodeFrom ⟨1, v, 0⟩ rest
        | 1 => (decodeFrom ⟨2, v % 16, 0⟩ rest).map (.ofNat (r.left * 4 + v / 16) :: ·)
        | 2 => (decodeFrom ⟨3, v % 4, 0⟩ rest).map (.ofNat (r.left * 16 + v / 4) :: ·)
        | _ => (decodeFrom ⟨0, 0, 0⟩ rest).map (.ofNat (r.left * 64 + v) :: ·)

/-- `base64.urlsafe_b64decode`, if there is no `binascii.Error`. Other text than ASCII is a `ValueError`. -/
def urlsafe_b64decode (text : List Char) : Option (List UInt8) :=
  if text.all fun c => decide (c.toNat < 128) then decodeFrom ⟨0, 0, 0⟩ text else none

/-! What is written is read back. -/

theorem value_digit {v : ℕ} (small : v < 64) : value (digit v) = some v := by
  have every : ∀ v < 64, value (digit v) = some v := by decide
  exact every v small

theorem digit_plain {v : ℕ} (small : v < 64) : digit v ≠ '=' ∧ digit v ≠ '.' ∧ (digit v).toNat < 128 := by
  have every : ∀ v < 64, digit v ≠ '=' ∧ digit v ≠ '.' ∧ (digit v).toNat < 128 := by decide
  exact every v small

theorem byte_lt (b : UInt8) : b.toNat < 256 := b.toNat_lt

/-- The digits are digits, and no padding. -/
theorem digits_plain (bytes : List UInt8) : ∀ c ∈ digits bytes, c ≠ '=' ∧ c ≠ '.' ∧ c.toNat < 128 := by
  induction bytes using digits.induct with
  | case1 =>
      intro c member
      exact absurd member List.not_mem_nil
  | case2 a =>
      have := byte_lt a
      simp only [digits, List.forall_mem_cons, List.not_mem_nil, false_imp_iff, implies_true, and_true]
      exact ⟨digit_plain (by omega), digit_plain (by omega)⟩
  | case3 a b =>
      have := byte_lt a
      have := byte_lt b
      simp only [digits, List.forall_mem_cons, List.not_mem_nil, false_imp_iff, implies_true, and_true]
      exact ⟨digit_plain (by omega), digit_plain (by omega), digit_plain (by omega)⟩
  | case4 a b c rest ih =>
      have := byte_lt a
      have := byte_lt b
      have := byte_lt c
      simp only [digits, List.forall_mem_cons]
      exact ⟨digit_plain (by omega), digit_plain (by omega), digit_plain (by omega), digit_plain (by omega), ih⟩

section Steps
variable {left pads v : ℕ} {rest : List Char}

theorem decode_first (small : v < 64) : decodeFrom ⟨0, left, pads⟩ (digit v :: rest) = decodeFrom ⟨1, v, 0⟩ rest := by
  rw [decodeFrom, if_neg (digit_plain small).1, value_digit small]
  rfl

theorem decode_second (small : v < 64) : decodeFrom ⟨1, left, pads⟩ (digit v :: rest) =
    (decodeFrom ⟨2, v % 16, 0⟩ rest).map (.ofNat (left * 4 + v / 16) :: ·) := by
  rw [decodeFrom, if_neg (digit_plain small).1, value_digit small]
  rfl

theorem decode_third (small : v < 64) : decodeFrom ⟨2, left, pads⟩ (digit v :: rest) =
    (decodeFrom ⟨3, v % 4, 0⟩ rest).map (.ofNat (left * 16 + v / 4) :: ·) := by
  rw [decodeFrom, if_neg (digit_plain small).1, value_digit small]
  rfl

theorem decode_fourth (small : v < 64) : decodeFrom ⟨3, left, pads⟩ (digit v :: rest) =
    (decodeFrom ⟨0, 0, 0⟩ rest).map (.ofNat (left * 64 + v) :: ·) := by
  rw [decodeFrom, if_neg (digit_plain small).1, value_digit small]
  rfl

end Steps

theorem ofNat_eq {n : ℕ} {b : UInt8} (same : n = b.toNat) : UInt8.ofNat n = b := by
  rw [same, UInt8.ofNat_toNat]

/-- The digits with their padding are read as the bytes. -/
theorem decode_digits (bytes : List UInt8) :
    decodeFrom ⟨0, 0, 0⟩ (digits bytes ++ padding (digits bytes).length) = some bytes := by
  induction bytes using digits.induct with
  | case1 => rfl
  | case2 a =>
      have := byte_lt a
      simp only [digits, List.cons_append, List.nil_append]
      rw [decode_first (by omega), decode_second (by omega)]
      have whole : UInt8.ofNat (a.toNat / 4 * 4 + a.toNat % 4 * 16 / 16) = a := ofNat_eq (by omega)
      rw [whole]
      rfl
  | case3 a b =>
      have := byte_lt a
      have := byte_lt b
      simp only [digits, List.cons_append, List.nil_append]
      rw [decode_first (by omega), decode_second (by omega), decode_third (by omega)]
      have first : UInt8.ofNat (a.toNat / 4 * 4 + (a.toNat % 4 * 16 + b.toNat / 16) / 16) = a := ofNat_eq (by omega)
      have second : UInt8.ofNat ((a.toNat % 4 * 16 + b.toNat / 16) % 16 * 16 + b.toNat % 16 * 4 / 4) = b :=
        ofNat_eq (by omega)
      rw [first, second]
      rfl
  | case4 a b c rest ih =>
      have := byte_lt a
      have := byte_lt b
      have := byte_lt c
      have whole : padding (digits rest).length = padding (digits (a :: b :: c :: rest)).length := by
        simp only [padding, digits, List.length_cons]
        congr 1
        omega
      rw [← whole]
      simp only [digits, List.cons_append]
      rw [decode_first (by omega), decode_second (by omega), decode_third (by omega), decode_fourth (by omega), ih]
      have first : UInt8.ofNat (a.toNat / 4 * 4 + (a.toNat % 4 * 16 + b.toNat / 16) / 16) = a := ofNat_eq (by omega)
      have second : UInt8.ofNat ((a.toNat % 4 * 16 + b.toNat / 16) % 16 * 16 +
          (b.toNat % 16 * 4 + c.toNat / 64) / 4) = b := ofNat_eq (by omega)
      have third : UInt8.ofNat ((b.toNat % 16 * 4 + c.toNat / 64) % 4 * 64 + c.toNat % 64) = c := ofNat_eq (by omega)
      rw [first, second, third]
      rfl

theorem urlsafe_b64decode_encode (bytes : List UInt8) : urlsafe_b64decode (urlsafe_b64encode bytes) = some bytes := by
  have ascii : (urlsafe_b64encode bytes).all (fun c => decide (c.toNat < 128)) = true := by
    rw [List.all_eq_true]
    intro c member
    rw [decide_eq_true_eq]
    rcases List.mem_append.mp member with plain | pad
    · exact (digits_plain bytes c plain).2.2
    · rw [List.eq_of_mem_replicate pad]
      decide
  rw [urlsafe_b64decode, if_pos ascii]
  exact decode_digits bytes

/-- `urlsafe_b64encode(bytes).rstrip(b"=")` -/
theorem rstrip_encode (bytes : List UInt8) :
    (urlsafe_b64encode bytes).rdropWhile (fun c => decide (c = '=')) = digits bytes := by
  have padded : ∀ n, (digits bytes ++ List.replicate n '=').rdropWhile (fun c => decide (c = '=')) = digits bytes := by
    intro n
    induction n with
    | zero =>
        rw [List.replicate_zero, List.append_nil, List.rdropWhile_eq_self_iff]
        intro some_digit pad
        exact (digits_plain bytes _ (List.getLast_mem some_digit)).1 (of_decide_eq_true pad)
    | succ n ih =>
        rw [List.replicate_succ', ← List.append_assoc, List.rdropWhile_concat_pos _ _ _ (by decide)]
        exact ih
  exact padded _

end Base64
