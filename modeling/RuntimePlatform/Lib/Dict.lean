import Mathlib.Data.List.AList
import Mathlib.Data.Finset.Basic
import Mathlib.Data.Finset.Dedup

/-!
Finite dictionaries: association lists with one entry per key, after Mathlib's
`AList`. The operations added here are the bulk ones: keeping the entries a test
accepts, writing or erasing a whole list of keys in a loop, and the finite set
of keys over which totals are taken.
-/

abbrev Dict (κ : Type*) (α : Type*) := AList fun _ : κ => α

namespace AList
variable {κ α : Type*}

/-- Emptiness is a test of the list; it asks for no equality on keys or values. -/
instance (priority := high) (d : Dict κ α) : Decidable (d = default) :=
  decidable_of_iff (d.entries.isEmpty = true) (by
    rw [List.isEmpty_iff]
    exact ⟨fun h => AList.ext h, fun h => h ▸ rfl⟩)

/-- The entries which pass the test, in their old order. -/
def filter (p : κ → α → Bool) (d : Dict κ α) : Dict κ α :=
  ⟨d.entries.filter fun e => p e.1 e.2, d.nodupKeys.sublist List.filter_sublist⟩

variable [DecidableEq κ]

/-- The keys as a finite set. -/
def ids (d : Dict κ α) : Finset κ := d.keys.toFinset

/-- One write per listed key, in the order of the list. -/
def insertEach (f : κ → α) : List κ → Dict κ α → Dict κ α
  | [], d => d
  | k :: ks, d => insertEach f ks (d.insert k (f k))

/-- One removal per listed key, in the order of the list. -/
def eraseEach : List κ → Dict κ α → Dict κ α
  | [], d => d
  | k :: ks, d => eraseEach ks (d.erase k)

@[simp] theorem mem_ids {d : Dict κ α} {k : κ} : k ∈ d.ids ↔ k ∈ d := by
  simp only [ids, List.mem_toFinset, mem_keys]

theorem mem_iff_lookup {d : Dict κ α} {k : κ} : k ∈ d ↔ ∃ v, d.lookup k = some v := by
  rw [← lookup_isSome, Option.isSome_iff_exists]

theorem mem_of_lookup {d : Dict κ α} {k : κ} {v : α} (h : d.lookup k = some v) : k ∈ d :=
  mem_iff_lookup.mpr ⟨v, h⟩

omit [DecidableEq κ] in
theorem eq_default_iff {d : Dict κ α} : d = default ↔ ∀ k, k ∉ d := by
  constructor
  · rintro rfl k
    exact notMem_empty k
  · intro none
    refine AList.ext (List.eq_nil_iff_forall_not_mem.mpr fun e member => ?_)
    exact none e.1 (List.mem_map_of_mem member)

omit [DecidableEq κ] in
theorem ne_default_of_mem {d : Dict κ α} {k : κ} (h : k ∈ d) : d ≠ default :=
  fun empty => eq_default_iff.mp empty k h

@[simp] theorem ids_empty : (∅ : Dict κ α).ids = ∅ := rfl

@[simp] theorem ids_insert (d : Dict κ α) (k : κ) (v : α) :
    (d.insert k v).ids = Insert.insert k d.ids := by
  ext j
  simp only [mem_ids, mem_insert, Finset.mem_insert]

@[simp] theorem ids_erase (d : Dict κ α) (k : κ) : (d.erase k).ids = d.ids.erase k := by
  ext j
  simp only [mem_ids, mem_erase, Finset.mem_erase]

theorem lookup_filter (p : κ → α → Bool) (d : Dict κ α) (k : κ) :
    (d.filter p).lookup k = (d.lookup k).filter (p k) := by
  rcases d with ⟨entries, nodup⟩
  simp only [filter, lookup]
  induction entries with
  | nil => rfl
  | cons e es ih =>
      obtain ⟨j, v⟩ := e
      obtain ⟨fresh, rest⟩ := List.nodupKeys_cons.mp nodup
      by_cases same : k = j
      · subst same
        have absent : List.dlookup k es = none := List.dlookup_eq_none.mpr fresh
        rw [List.dlookup_cons_eq]
        cases keep : p k v with
        | true => simp only [List.filter_cons, keep, if_true, List.dlookup_cons_eq, Option.filter_some]
        | false =>
            simp only [List.filter_cons, keep, Bool.false_eq_true, if_false, Option.filter_some]
            rw [ih rest, absent, Option.filter_none]
      · rw [List.dlookup_cons_ne es ⟨j, v⟩ same, ← ih rest]
        cases keep : p j v with
        | true =>
            simp only [List.filter_cons, keep, if_true]
            rw [List.dlookup_cons_ne _ _ same]
        | false => simp only [List.filter_cons, keep, Bool.false_eq_true, if_false]

theorem lookup_filter_eq_some {p : κ → α → Bool} {d : Dict κ α} {k : κ} {v : α} :
    (d.filter p).lookup k = some v ↔ d.lookup k = some v ∧ p k v = true := by
  rw [lookup_filter, Option.filter_eq_some_iff]

theorem mem_filter {p : κ → α → Bool} {d : Dict κ α} {k : κ} :
    k ∈ d.filter p ↔ ∃ v, d.lookup k = some v ∧ p k v = true := by
  simp only [mem_iff_lookup, lookup_filter_eq_some]

/-- A key is dropped by a filter exactly when the opposite filter keeps it. -/
theorem mem_filter_not {p : κ → α → Bool} {d : Dict κ α} {k : κ} :
    k ∈ d.filter (fun k v => !p k v) ↔ k ∈ d ∧ k ∉ d.filter p := by
  rw [mem_filter]
  constructor
  · rintro ⟨v, found, drop⟩
    refine ⟨mem_of_lookup found, fun kept => ?_⟩
    obtain ⟨w, found', keep⟩ := mem_filter.mp kept
    obtain rfl : v = w := Option.some.inj (found.symm.trans found')
    simp only [keep, Bool.not_true, Bool.false_eq_true] at drop
  · rintro ⟨member, dropped⟩
    obtain ⟨v, found⟩ := mem_iff_lookup.mp member
    refine ⟨v, found, ?_⟩
    cases keep : p k v with
    | true => exact absurd (mem_filter.mpr ⟨v, found, keep⟩) dropped
    | false => rfl

theorem lookup_insert_if (d : Dict κ α) (j k : κ) (v : α) :
    (d.insert k v).lookup j = if j = k then some v else d.lookup j := by
  by_cases same : j = k
  · subst same; rw [if_pos rfl, lookup_insert]
  · rw [if_neg same, lookup_insert_ne same]

theorem lookup_erase_if (d : Dict κ α) (j k : κ) :
    (d.erase k).lookup j = if j = k then none else d.lookup j := by
  by_cases same : j = k
  · subst same; rw [if_pos rfl, lookup_erase]
  · rw [if_neg same, lookup_erase_ne same]

theorem lookup_insertEach (f : κ → α) (ks : List κ) (d : Dict κ α) (k : κ) :
    (insertEach f ks d).lookup k = if k ∈ ks then some (f k) else d.lookup k := by
  induction ks generalizing d with
  | nil => simp [insertEach]
  | cons j ks ih =>
      rw [insertEach, ih, lookup_insert_if]
      by_cases here : k = j
      · subst here; simp
      · simp [here]

theorem lookup_eraseEach (ks : List κ) (d : Dict κ α) (k : κ) :
    (eraseEach ks d).lookup k = if k ∈ ks then none else d.lookup k := by
  induction ks generalizing d with
  | nil => simp [eraseEach]
  | cons j ks ih =>
      rw [eraseEach, ih, lookup_erase_if]
      by_cases here : k = j
      · subst here; simp
      · simp [here]

theorem mem_eraseEach {ks : List κ} {d : Dict κ α} {k : κ} :
    k ∈ eraseEach ks d ↔ k ∈ d ∧ k ∉ ks := by
  simp only [mem_iff_lookup, lookup_eraseEach]
  by_cases here : k ∈ ks <;> simp [here]

end AList
