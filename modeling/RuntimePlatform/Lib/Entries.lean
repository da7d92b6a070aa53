import RuntimePlatform.Lib.Python

/-!
Dicts as the code merges them, and what is found under a key afterwards.
-/

namespace Python

theorem Value.isKey_iff {key : String} {v : Value} : v.isKey key = true ↔ v = .str key := by
  cases v with
  | str s => rw [Value.isKey, decide_eq_true_eq, Value.str.injEq]
  | _ => simp [Value.isKey]

namespace Entries

/-- `d[key] = v`; a key which is no text is not in the dict before. -/
def setItem (d : Entries) (key v : Value) : Entries :=
  match key with
  | .str s => d.set s v
  | _ => d ++ [(key, v)]

/-- `{**d, **other}` -/
def merge (d other : Entries) : Entries := other.foldl (fun d e => d.setItem e.1 e.2) d

/-- `d.setdefault(key, v)` -/
def setdefault (d : Entries) (key : String) (v : Value) : Entries := if (d.get key).isSome then d else d.set key v

/-- The dict under a key, where one stands there. -/
def dictAt (d : Entries) (key : String) : Option Entries :=
  match d.get key with
  | some (.dict entries) => some entries
  | _ => none

theorem dictAt_eq_some {d entries : Entries} {key : String} :
    d.dictAt key = some entries ↔ d.get key = some (.dict entries) := by
  unfold dictAt
  split
  · next found known => rw [known, Option.some.injEq, Option.some.injEq, Value.dict.injEq]
  · next other => exact iff_of_false (fun same => nomatch same) (other entries)

theorem get_eq_none {d : Entries} {key : String} : d.get key = none ↔ ∀ e ∈ d, e.1.isKey key = false := by
  rw [get, Option.map_eq_none_iff, List.find?_eq_none]
  exact forall₂_congr fun e _ => iff_of_eq (Bool.not_eq_true _)

theorem get_cons (e : Value × Value) (d : Entries) (key : String) :
    get (e :: d) key = if e.1.isKey key = true then some e.2 else d.get key := by
  unfold get
  by_cases here : e.1.isKey key = true
  · rw [if_pos here, List.find?_cons, here]
    rfl
  · rw [if_neg here, List.find?_cons, Bool.eq_false_iff.mpr here]

theorem get_append (d other : Entries) (key : String) : get (d ++ other) key = (d.get key).or (other.get key) := by
  rw [get, List.find?_append, Option.map_or, get, get]

/-- A write is read back. -/
theorem get_set_self (d : Entries) (key : String) (v : Value) : (d.set key v).get key = some v := by
  unfold set
  split
  · next present =>
      induction d with
      | nil => exact absurd present Bool.false_ne_true
      | cons e rest ih =>
          rw [List.map_cons, get_cons]
          by_cases here : e.1.isKey key = true
          · rw [if_pos here, if_pos here]
          · rw [if_neg here, if_neg here]
            rw [List.any_cons, Bool.or_eq_true] at present
            exact ih (present.resolve_left here)
  · next absent =>
      have missing : d.get key = none := get_eq_none.mpr fun e member =>
        Bool.eq_false_iff.mpr fun here => absent (List.any_eq_true.mpr ⟨e, member, here⟩)
      rw [get_append, missing, Option.none_or, get_cons, if_pos (Value.isKey_iff.mpr rfl)]

theorem get_setItem_self (d : Entries) {key : String} {k : Value} (here : k.isKey key = true) (v : Value) :
    (d.setItem k v).get key = some v := by
  rw [Value.isKey_iff] at here
  subst here
  exact d.get_set_self key v

/-- A write to another key is not seen. -/
theorem get_setItem_ne (d : Entries) {key : String} {k : Value} (other : k.isKey key = false) (v : Value) :
    (d.setItem k v).get key = d.get key := by
  have appended : get (d ++ [(k, v)]) key = d.get key := by
    rw [get_append, get_eq_none.mpr (List.forall_mem_singleton.mpr other), Option.or_none]
  cases k with
  | str s =>
      rw [Value.isKey, decide_eq_false_iff_not] at other
      exact get_set_ne d v other
  | _ => exact appended

/-- What is merged in stays away from the other keys. -/
theorem get_merge_absent (d : Entries) {other : Entries} {key : String} (absent : ∀ e ∈ other, e.1.isKey key = false) :
    (d.merge other).get key = d.get key := by
  unfold merge
  induction other generalizing d with
  | nil => rfl
  | cons e other ih =>
      rw [List.forall_mem_cons] at absent
      rw [List.foldl_cons, ih (d.setItem e.1 e.2) absent.2]
      exact d.get_setItem_ne absent.1 e.2

theorem get_merge_present (d : Entries) {other : Entries} {key : String} {v : Value}
    (distinct : (other.map Prod.fst).Nodup) (found : other.get key = some v) : (d.merge other).get key = some v := by
  induction other generalizing d with
  | nil => cases found
  | cons e other ih =>
      rw [List.map_cons, List.nodup_cons] at distinct
      rw [get_cons] at found
      change Entries.get (Entries.merge (d.setItem e.1 e.2) other) key = some v
      by_cases here : e.1.isKey key = true
      · rw [if_pos here] at found
        have absent : ∀ e' ∈ other, e'.1.isKey key = false := by
          intro e' member
          apply Bool.eq_false_iff.mpr
          intro again
          apply distinct.1
          rw [Value.isKey_iff.mp here, ← Value.isKey_iff.mp again]
          exact List.mem_map_of_mem member
        rw [get_merge_absent _ absent, d.get_setItem_self here, found]
      · rw [if_neg here] at found
        exact ih _ distinct.2 found

theorem get_setdefault_ne (d : Entries) {key other : String} (v : Value) (different : key ≠ other) :
    (d.setdefault key v).get other = d.get other := by
  unfold setdefault
  split
  · rfl
  · exact d.get_set_ne v different

end Entries

/-! The values which JSON has. -/

mutual
/-- A JSON value: the keys of its objects are texts, and no key comes twice. -/
def IsJson : Value → Prop
  | .bytes _ => False
  | .object _ => False
  | .list items => AllJson items
  | .dict entries => (entries.map Prod.fst).Nodup ∧ EntriesJson entries
  | _ => True
def AllJson : List Value → Prop
  | [] => True
  | v :: rest => IsJson v ∧ AllJson rest
def EntriesJson : List (Value × Value) → Prop
  | [] => True
  | (key, v) :: rest => (∃ s, key = .str s) ∧ IsJson v ∧ EntriesJson rest
end

end Python
