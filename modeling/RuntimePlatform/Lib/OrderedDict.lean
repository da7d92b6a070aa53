import Mathlib.Data.List.Basic

/-!
Python's `dict`: one entry for each key, in the order in which the keys were first written.
A key which is written again keeps its place, so that a scan over the values is well defined.
-/

structure OrderedDict (κ α : Type*) where
  items : List (κ × α)
  nodup : (items.map Prod.fst).Nodup

namespace OrderedDict
variable {κ α β : Type*} [DecidableEq κ]

def empty : OrderedDict κ α := ⟨[], List.nodup_nil⟩

/-- `list(d)` -/
def keys (d : OrderedDict κ α) : List κ := d.items.map Prod.fst

/-- `d.get(k)` -/
def get (d : OrderedDict κ α) (k : κ) : Option α := (d.items.find? fun e => decide (e.1 = k)).map Prod.snd

/-- `d[k] = v` on the list of the entries. -/
def write (k : κ) (v : α) : List (κ × α) → List (κ × α)
  | [] => [(k, v)]
  | e :: es => if e.1 = k then (k, v) :: es else e :: write k v es

theorem write_keys (k : κ) (v : α) (items : List (κ × α)) :
    (write k v items).map Prod.fst =
      if k ∈ items.map Prod.fst then items.map Prod.fst else items.map Prod.fst ++ [k] := by
  induction items with
  | nil => rfl
  | cons e es ih =>
      unfold write
      by_cases here : e.1 = k
      · rw [if_pos here, List.map_cons, List.map_cons, here, if_pos List.mem_cons_self]
      · rw [if_neg here, List.map_cons, List.map_cons, ih]
        by_cases later : k ∈ es.map Prod.fst
        · rw [if_pos later, if_pos (List.mem_cons_of_mem _ later)]
        · rw [if_neg later, if_neg fun bad => (List.mem_cons.mp bad).elim (fun same => here same.symm) later]
          rfl

/-- `d[k] = v` -/
def set (d : OrderedDict κ α) (k : κ) (v : α) : OrderedDict κ α where
  items := write k v d.items
  nodup := by
    rw [write_keys]
    split
    · exact d.nodup
    · next new =>
        refine List.nodup_append.mpr ⟨d.nodup, List.pairwise_singleton _ k, fun a member b single => ?_⟩
        rw [List.mem_singleton.mp single]
        exact fun same => new (same ▸ member)

/-- `d.pop(k, None)` -/
def erase (d : OrderedDict κ α) (k : κ) : OrderedDict κ α where
  items := d.items.filter fun e => decide (e.1 ≠ k)
  nodup := d.nodup.sublist (List.filter_sublist.map _)

/-- The first entry whose value passes the test. -/
def findValue (d : OrderedDict κ α) (p : α → Bool) : Option (κ × α) := d.items.find? fun e => p e.2

/-- `d.update(other)` -/
def update (d : OrderedDict κ α) (other : List (κ × α)) : OrderedDict κ α :=
  other.foldl (fun d e => d.set e.1 e.2) d

@[simp] theorem get_empty (k : κ) : (empty : OrderedDict κ α).get k = none := rfl

theorem find_write (k : κ) (v : α) (items : List (κ × α)) (k' : κ) :
    ((write k v items).find? fun e => decide (e.1 = k')).map Prod.snd =
      if k' = k then some v else (items.find? fun e => decide (e.1 = k')).map Prod.snd := by
  induction items with
  | nil =>
      by_cases same : k = k'
      · rw [if_pos same.symm, write, List.find?_cons_of_pos (by simpa using same)]
        rfl
      · rw [if_neg (Ne.symm same), write, List.find?_cons_of_neg (by simpa using same)]
  | cons e es ih =>
      unfold write
      by_cases here : e.1 = k
      · rw [if_pos here]
        by_cases same : k = k'
        · rw [if_pos same.symm, List.find?_cons_of_pos (by simpa using same)]
          rfl
        · rw [if_neg (Ne.symm same), List.find?_cons_of_neg (by simpa using same),
            List.find?_cons_of_neg (by simpa [here] using same)]
      · rw [if_neg here]
        by_cases same : e.1 = k'
        · rw [if_neg fun bad => here (same.trans bad), List.find?_cons_of_pos (by simpa using same),
            List.find?_cons_of_pos (by simpa using same)]
        · rw [List.find?_cons_of_neg (by simpa using same), List.find?_cons_of_neg (by simpa using same), ih]

theorem get_set (d : OrderedDict κ α) (k : κ) (v : α) (k' : κ) :
    (d.set k v).get k' = if k' = k then some v else d.get k' := find_write k v d.items k'

@[simp] theorem get_set_self (d : OrderedDict κ α) (k : κ) (v : α) : (d.set k v).get k = some v := by
  rw [get_set, if_pos rfl]

theorem get_set_ne (d : OrderedDict κ α) {k k' : κ} (v : α) (different : k' ≠ k) : (d.set k v).get k' = d.get k' := by
  rw [get_set, if_neg different]

theorem keys_set (d : OrderedDict κ α) (k : κ) (v : α) :
    (d.set k v).keys = if k ∈ d.keys then d.keys else d.keys ++ [k] := write_keys k v d.items

theorem get_eq_some_of_mem {d : OrderedDict κ α} {e : κ × α} (member : e ∈ d.items) : d.get e.1 = some e.2 := by
  obtain ⟨items, nodup⟩ := d
  unfold get
  dsimp only at member ⊢
  induction items with
  | nil => cases member
  | cons first rest ih =>
      rw [List.map_cons, List.nodup_cons] at nodup
      rcases List.mem_cons.mp member with rfl | member
      · rw [List.find?_cons_of_pos (by simp)]
        rfl
      · have different : first.1 ≠ e.1 := fun same => nodup.1 (same ▸ List.mem_map_of_mem member)
        rw [List.find?_cons_of_neg (by simpa using different)]
        exact ih nodup.2 member

theorem get_eq_some {d : OrderedDict κ α} {k : κ} {v : α} : d.get k = some v ↔ (k, v) ∈ d.items := by
  constructor
  · intro found
    obtain ⟨e, first, rfl⟩ := Option.map_eq_some_iff.mp found
    have same := @List.find?_some _ (fun e : κ × α => decide (e.1 = k)) _ _ first
    rw [← of_decide_eq_true same]
    exact List.mem_of_find?_eq_some first
  · exact fun member => get_eq_some_of_mem member

theorem get_eq_none {d : OrderedDict κ α} {k : κ} : d.get k = none ↔ k ∉ d.keys := by
  constructor
  · intro missing listed
    obtain ⟨e, member, rfl⟩ := List.mem_map.mp listed
    rw [get_eq_some_of_mem member] at missing
    cases missing
  · intro unlisted
    cases found : d.get k with
    | none => rfl
    | some v => exact absurd (List.mem_map_of_mem (get_eq_some.mp found)) unlisted

theorem keys_erase (d : OrderedDict κ α) (k : κ) : (d.erase k).keys = d.keys.filter fun k' => decide (k' ≠ k) := by
  unfold keys erase
  rw [List.filter_map]
  rfl

theorem get_of_erase {d : OrderedDict κ α} {k k' : κ} {v : α} (left : (d.erase k).get k' = some v) :
    d.get k' = some v := by
  rw [get_eq_some] at left ⊢
  exact List.mem_of_mem_filter left

/-- The value of the one pair with this key in a list of pairs. -/
theorem find_eq_some {other : List (κ × α)} (nodup : (other.map Prod.fst).Nodup) {k : κ} {v : α} :
    (other.find? fun e => decide (e.1 = k)).map Prod.snd = some v ↔ (k, v) ∈ other :=
  get_eq_some (d := ⟨other, nodup⟩)

/-- After an update each key holds what the update wrote, or what it held before. -/
theorem get_update {other : List (κ × α)} (nodup : (other.map Prod.fst).Nodup) (d : OrderedDict κ α) (k : κ) :
    (d.update other).get k = ((other.find? fun e => decide (e.1 = k)).map Prod.snd).or (d.get k) := by
  unfold update
  induction other generalizing d with
  | nil => rfl
  | cons e es ih =>
      rw [List.map_cons, List.nodup_cons] at nodup
      rw [List.foldl_cons, ih nodup.2, get_set]
      by_cases same : e.1 = k
      · have missing : (es.find? fun e => decide (e.1 = k)) = none := by
          refine List.find?_eq_none.mpr fun e' member written => nodup.1 ?_
          rw [same, ← of_decide_eq_true written]
          exact List.mem_map_of_mem member
        rw [missing, if_pos same.symm, List.find?_cons_of_pos (by simpa using same)]
        rfl
      · rw [if_neg (Ne.symm same), List.find?_cons_of_neg (by simpa using same)]

/-! Writes beside a filter, and in two lists side by side. -/

theorem mem_write {k : κ} {v : α} {items : List (κ × α)} {e : κ × α} (member : e ∈ write k v items) :
    e = (k, v) ∨ e ∈ items := by
  induction items with
  | nil => exact Or.inl (List.mem_singleton.mp member)
  | cons first rest ih =>
      unfold write at member
      by_cases here : first.1 = k
      · rw [if_pos here] at member
        exact (List.mem_cons.mp member).imp_right fun later => List.mem_cons_of_mem _ later
      · rw [if_neg here] at member
        rcases List.mem_cons.mp member with rfl | later
        · exact Or.inr List.mem_cons_self
        · exact (ih later).imp_right fun older => List.mem_cons_of_mem _ older

/-- A write which the filter keeps is a write to what the filter keeps. -/
theorem filter_write_kept {p : κ × α → Bool} {k : κ} {v : α} {items : List (κ × α)} (kept : p (k, v) = true)
    (before : ∀ e ∈ items, e.1 = k → p e = true) : (write k v items).filter p = write k v (items.filter p) := by
  induction items with
  | nil => rw [write, List.filter_cons_of_pos kept]; rfl
  | cons first rest ih =>
      have later := ih fun e member => before e (List.mem_cons_of_mem _ member)
      by_cases here : first.1 = k
      · rw [List.filter_cons_of_pos (before first List.mem_cons_self here), write, if_pos here,
          List.filter_cons_of_pos kept, write, if_pos here]
      · rw [write, if_neg here]
        by_cases keeps : p first = true
        · rw [List.filter_cons_of_pos keeps, List.filter_cons_of_pos keeps, later, write, if_neg here]
        · rw [List.filter_cons_of_neg keeps, List.filter_cons_of_neg keeps, later]

/-- A write which the filter drops changes nothing of what it keeps. -/
theorem filter_write_dropped {p : κ × α → Bool} {k : κ} {v : α} {items : List (κ × α)} (dropped : ¬ p (k, v) = true)
    (before : ∀ e ∈ items, e.1 = k → ¬ p e = true) : (write k v items).filter p = items.filter p := by
  induction items with
  | nil => rw [write, List.filter_cons_of_neg dropped]
  | cons first rest ih =>
      have later := ih fun e member => before e (List.mem_cons_of_mem _ member)
      by_cases here : first.1 = k
      · rw [write, if_pos here, List.filter_cons_of_neg dropped,
          List.filter_cons_of_neg (before first List.mem_cons_self here)]
      · rw [write, if_neg here]
        by_cases keeps : p first = true
        · rw [List.filter_cons_of_pos keeps, List.filter_cons_of_pos keeps, later]
        · rw [List.filter_cons_of_neg keeps, List.filter_cons_of_neg keeps, later]

omit [DecidableEq κ] in
/-- A filter which keeps what a scan finds leaves it the first. -/
theorem find_filter_of_kept {p q : κ × α → Bool} {l : List (κ × α)} {x : κ × α} (found : l.find? q = some x)
    (kept : p x = true) : (l.filter p).find? q = some x := by
  induction l with
  | nil => cases found
  | cons first rest ih =>
      by_cases hit : q first = true
      · rw [List.find?_cons_of_pos hit] at found
        cases found
        rw [List.filter_cons_of_pos kept, List.find?_cons_of_pos hit]
      · rw [List.find?_cons_of_neg hit] at found
        by_cases keeps : p first = true
        · rw [List.filter_cons_of_pos keeps, List.find?_cons_of_neg hit]
          exact ih found
        · rw [List.filter_cons_of_neg keeps]
          exact ih found

section Related
variable {R : κ × α → κ × α → Prop} {l l' : List (κ × α)}

theorem forall₂_write (keyed : ∀ {x y}, R x y → x.1 = y.1) {k : κ} {v v' : α} (related : List.Forall₂ R l l')
    (both : R (k, v) (k, v')) : List.Forall₂ R (write k v l) (write k v' l') := by
  induction related with
  | nil => exact .cons both .nil
  | @cons x y xs ys here rest ih =>
      unfold write
      by_cases same : x.1 = k
      · rw [if_pos same, if_pos ((keyed here).symm.trans same)]
        exact .cons both rest
      · rw [if_neg same, if_neg fun bad => same ((keyed here).trans bad)]
        exact .cons here ih

/-- A write on one side of a key which is there. -/
theorem forall₂_write_right {k : κ} {v : α} (related : List.Forall₂ R l l') (present : k ∈ l'.map Prod.fst)
    (one : ∀ x ∈ l, ∀ y ∈ l', y.1 = k → R x y → R x (k, v)) : List.Forall₂ R l (write k v l') := by
  induction related with
  | nil => cases present
  | @cons x y xs ys here rest ih =>
      unfold write
      by_cases same : y.1 = k
      · rw [if_pos same]
        exact .cons (one x List.mem_cons_self y List.mem_cons_self same here) rest
      · rw [if_neg same]
        rw [List.map_cons, List.mem_cons, or_iff_right (Ne.symm same)] at present
        refine .cons here (ih present fun x' member y' member' => ?_)
        exact one x' (List.mem_cons_of_mem _ member) y' (List.mem_cons_of_mem _ member')

omit [DecidableEq κ] in
/-- Scans which test related entries alike find related ones. -/
theorem forall₂_find {p q : κ × α → Bool} (alike : ∀ {x y}, R x y → p x = q y) (related : List.Forall₂ R l l') :
    l.find? p = none ∧ l'.find? q = none ∨ ∃ x y, l.find? p = some x ∧ l'.find? q = some y ∧ R x y := by
  induction related with
  | nil => exact Or.inl ⟨rfl, rfl⟩
  | @cons x y xs ys here rest ih =>
      by_cases hit : p x = true
      · exact Or.inr ⟨x, y, List.find?_cons_of_pos hit, List.find?_cons_of_pos (alike here ▸ hit), here⟩
      · have miss : ¬ q y = true := alike here ▸ hit
        rw [List.find?_cons_of_neg hit, List.find?_cons_of_neg miss]
        exact ih

end Related
end OrderedDict
