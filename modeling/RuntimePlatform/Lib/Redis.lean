import RuntimePlatform.Lib.Dict
import Mathlib.Data.Finset.Card
import Mathlib.Order.Lattice
import Mathlib.Data.Int.Basic

/-!
Redis keys which carry a time to live. A key exists while its value is not the
empty one: the last removal from a hash or a sorted set deletes the key together
with its deadline. A deadline is compared strictly, as the server compares it.
-/

namespace Redis

/-- A key as the server holds it; the `default` value stands for a key that does not exist. -/
structure Key (α : Type) where
  value : α
  deadline : Option ℤ

section Expiry
variable {α : Type} [Inhabited α]

def Key.missing : Key α := ⟨default, none⟩

def Key.expired (now : ℤ) (k : Key α) : Prop := ∃ d, k.deadline = some d ∧ d < now

instance (now : ℤ) (k : Key α) : Decidable (k.expired now) :=
  match h : k.deadline with
  | none => isFalse (by rintro ⟨d, found, _⟩; simp only [h, reduceCtorEq] at found)
  | some d => decidable_of_iff (d < now) (by simp [Key.expired, h])

/-- What a command issued at `now` finds: an expired key is gone. -/
def Key.evict (now : ℤ) (k : Key α) : Key α := if k.expired now then Key.missing else k

@[simp] theorem Key.missing_value : (Key.missing : Key α).value = default := rfl
@[simp] theorem Key.missing_deadline : (Key.missing : Key α).deadline = none := rfl

@[simp] theorem Key.evict_missing (now : ℤ) : (Key.missing : Key α).evict now = Key.missing := by
  unfold Key.evict
  split <;> rfl

theorem Key.evict_of_not {now : ℤ} {k : Key α} (h : ¬ k.expired now) : k.evict now = k := if_neg h

theorem Key.evict_of {now : ℤ} {k : Key α} (h : k.expired now) : k.evict now = Key.missing := if_pos h

theorem Key.evict_cases (now : ℤ) (k : Key α) : k.evict now = k ∨ k.evict now = Key.missing := by
  unfold Key.evict
  split
  · exact .inr rfl
  · exact .inl rfl

variable [∀ v : α, Decidable (v = default)]

/-- Write a new value, keeping the deadline of a key that stays in existence. -/
def Key.put (k : Key α) (v : α) : Key α :=
  if v = default then Key.missing else ⟨v, k.deadline⟩

/-- `PEXPIRE`: nothing on a missing key, a deletion when the time is not positive. -/
def Key.pexpire (now ttl : ℤ) (k : Key α) : Key α :=
  if k.value = default then k
  else if ttl ≤ 0 then Key.missing
  else { k with deadline := some (now + ttl) }

@[simp] theorem Key.put_value (k : Key α) (v : α) : (k.put v).value = v := by
  unfold Key.put
  split
  · next empty => exact empty.symm
  · rfl

theorem Key.put_deadline (k : Key α) {v : α} (h : v ≠ default) :
    (k.put v).deadline = k.deadline := by
  rw [Key.put, if_neg h]

theorem Key.pexpire_value {now ttl : ℤ} (k : Key α) (h : 0 < ttl) :
    (k.pexpire now ttl).value = k.value := by
  unfold Key.pexpire
  split
  · rfl
  · rw [if_neg (not_le.mpr h)]

theorem Key.pexpire_deadline {now ttl : ℤ} {k : Key α} (h : 0 < ttl) (e : k.value ≠ default) :
    (k.pexpire now ttl).deadline = some (now + ttl) := by
  rw [Key.pexpire, if_neg e, if_neg (not_le.mpr h)]

theorem Key.pexpire_cases (now ttl : ℤ) (k : Key α) :
    (k.pexpire now ttl).value = k.value ∨ (k.pexpire now ttl).value = default := by
  unfold Key.pexpire
  split
  · exact .inl rfl
  · split
    · exact .inr rfl
    · exact .inl rfl

/-- A key which is missing or expires at `d`: what commands on an existing key leave of it. -/
def Key.Until (d : ℤ) (k : Key α) : Prop := k = Key.missing ∨ k.deadline = some d

omit [∀ v : α, Decidable (v = default)] in
theorem Key.Until.evict_of_lt {d now : ℤ} {k : Key α} (u : k.Until d) (h : d < now) :
    k.evict now = Key.missing := by
  rcases u with rfl | due
  · exact Key.evict_missing now
  · exact Key.evict_of ⟨d, due, h⟩

omit [∀ v : α, Decidable (v = default)] in
theorem Key.Until.evict_of_le {d now : ℤ} {k : Key α} (u : k.Until d) (h : now ≤ d) :
    k.evict now = k := by
  rcases u with rfl | due
  · exact Key.evict_missing now
  · refine Key.evict_of_not ?_
    rintro ⟨e, found, passed⟩
    rw [due, Option.some.injEq] at found
    omega

theorem Key.Until.put {d : ℤ} {k : Key α} (u : k.Until d) {v : α}
    (kept : k.value = default → v = default) : (k.put v).Until d := by
  by_cases empty : v = default
  · exact .inl (if_pos empty)
  · rcases u with rfl | due
    · exact absurd (kept rfl) empty
    · exact .inr (by rw [Key.put_deadline k empty, due])

theorem Key.until_pexpire_put {now ttl : ℤ} (h : 0 < ttl) (k : Key α) (v : α) :
    ((k.put v).pexpire now ttl).Until (now + ttl) := by
  by_cases empty : v = default
  · refine .inl ?_
    rw [Key.put, if_pos empty]
    exact if_pos rfl
  · refine .inr (Key.pexpire_deadline h ?_)
    rwa [Key.put_value]

end Expiry

/-! Sorted sets, as dictionaries from members to scores. -/

abbrev ZSet (ι : Type) := Dict ι ℤ

section Scores
variable {ι : Type}

/-- `ZRANGEBYSCORE key -inf now`. -/
def rangeByScore (now : ℤ) (z : ZSet ι) : List ι := (z.filter fun _ score => decide (score ≤ now)).keys

/-- What `ZREMRANGEBYSCORE key -inf now` leaves. -/
def remRangeByScore (now : ℤ) (z : ZSet ι) : ZSet ι :=
  z.filter fun _ score => !decide (score ≤ now)

theorem rangeByScore_nodup (now : ℤ) (z : ZSet ι) : (rangeByScore now z).Nodup :=
  AList.keys_nodup _

variable [DecidableEq ι]

/-- `ZCARD`. -/
def card (z : ZSet ι) : ℕ := z.ids.card

theorem mem_rangeByScore {now : ℤ} {z : ZSet ι} {k : ι} :
    k ∈ rangeByScore now z ↔ ∃ score, z.lookup k = some score ∧ score ≤ now := by
  rw [rangeByScore, ← AList.mem_keys, AList.mem_filter]
  simp only [decide_eq_true_eq]

theorem mem_remRangeByScore {now : ℤ} {z : ZSet ι} {k : ι} :
    k ∈ remRangeByScore now z ↔ k ∈ z ∧ k ∉ rangeByScore now z := by
  rw [remRangeByScore, AList.mem_filter_not, rangeByScore, ← AList.mem_keys]

theorem lookup_remRangeByScore {now : ℤ} {z : ZSet ι} {k : ι} {score : ℤ} :
    (remRangeByScore now z).lookup k = some score ↔ z.lookup k = some score ∧ now < score := by
  rw [remRangeByScore, AList.lookup_filter_eq_some]
  simp only [Bool.not_eq_true', decide_eq_false_iff_not, not_le]

end Scores
end Redis
