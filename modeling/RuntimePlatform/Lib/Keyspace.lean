import RuntimePlatform.Lib.Runs
import Mathlib.Data.List.Basic
import Mathlib.Logic.Equiv.Defs
import Mathlib.Logic.Function.Basic

/-!
One keyspace for many components. A slot is a value which a component keeps under names of its own; an operation works
on one slot, and fails where one of the names holds an entry of another kind. Operations whose slots have no common
name do not meet.
-/

namespace Keyspace
variable {κ E ε C A : Type}

/-- A value which is kept under some names. -/
structure Slot (κ E ε C : Type) where
  names : List κ
  load : (κ → E) → Except ε C
  store : C → (κ → E) → κ → E
  load_congr : ∀ s s', (∀ name ∈ names, s name = s' name) → load s = load s'
  store_congr : ∀ c s s', ∀ name ∈ names, store c s name = store c s' name
  store_other : ∀ c s, ∀ name ∉ names, store c s name = s name
  load_store : ∀ c s, load (store c s) = .ok c

namespace Slot
variable (slot : Slot κ E ε C) (work : C → A × C) (s : κ → E)

/-- An operation on the value of a slot. Where it cannot be loaded, nothing is written. -/
def apply : Except ε A × (κ → E) :=
  match slot.load s with
  | .error e => (.error e, s)
  | .ok c => (.ok (work c).1, slot.store (work c).2 s)

variable {s}

theorem apply_of_ok {c : C} (loaded : slot.load s = .ok c) :
    slot.apply work s = (.ok (work c).1, slot.store (work c).2 s) := by
  simp only [apply, loaded]

theorem apply_of_error {e : ε} (stuck : slot.load s = .error e) : slot.apply work s = (.error e, s) := by
  simp only [apply, stuck]

/-- What an operation leaves in its slot. -/
theorem load_apply {c : C} (loaded : slot.load s = .ok c) : slot.load (slot.apply work s).2 = .ok (work c).2 := by
  rw [slot.apply_of_ok work loaded]
  exact slot.load_store _ _

theorem apply_other {name : κ} (other : name ∉ slot.names) : (slot.apply work s).2 name = s name := by
  cases loaded : slot.load s with
  | error e => rw [slot.apply_of_error work loaded]
  | ok c =>
      rw [slot.apply_of_ok work loaded]
      exact slot.store_other _ _ name other

theorem apply_congr {s' : κ → E} (same : ∀ name ∈ slot.names, s name = s' name) :
    (slot.apply work s).1 = (slot.apply work s').1 ∧
      ∀ name ∈ slot.names, (slot.apply work s).2 name = (slot.apply work s').2 name := by
  have loads := slot.load_congr s s' same
  cases loaded : slot.load s with
  | error e =>
      rw [slot.apply_of_error work loaded, slot.apply_of_error work (loads.symm.trans loaded)]
      exact ⟨rfl, same⟩
  | ok c =>
      rw [slot.apply_of_ok work loaded, slot.apply_of_ok work (loads.symm.trans loaded)]
      exact ⟨rfl, slot.store_congr _ _ _⟩

end Slot

/-! Slots of one name, and of several. -/

/-- How a kind of value is kept in an entry. -/
structure Kind (E ε V : Type) where
  wrap : V → E
  read : E → Except ε V
  read_wrap : ∀ v, read (wrap v) = .ok v

/-- A value of a kind, under one name. -/
def Kind.slot [DecidableEq κ] {V : Type} (kind : Kind E ε V) (name : κ) : Slot κ E ε V where
  names := [name]
  load s := kind.read (s name)
  store v s := Function.update s name (kind.wrap v)
  load_congr s s' same := congrArg kind.read (same name List.mem_cons_self)
  store_congr v s s' other member := by
    rw [List.mem_singleton.mp member, Function.update_self, Function.update_self]
  store_other v s other absent := Function.update_of_ne (fun same => absent (List.mem_singleton.mpr same)) _ _
  load_store v s := by
    rw [Function.update_self]
    exact kind.read_wrap v

/-- Two slots which share no name. -/
def Slot.prod {D : Type} (first : Slot κ E ε C) (second : Slot κ E ε D)
    (apart : first.names.Disjoint second.names) : Slot κ E ε (C × D) where
  names := first.names ++ second.names
  load s := do
    let c ← first.load s
    let d ← second.load s
    .ok (c, d)
  store v s := second.store v.2 (first.store v.1 s)
  load_congr s s' same := by
    rw [first.load_congr s s' fun name mine => same name (List.mem_append_left _ mine),
      second.load_congr s s' fun name mine => same name (List.mem_append_right _ mine)]
  store_congr v s s' name member := by
    by_cases later : name ∈ second.names
    · exact second.store_congr _ _ _ name later
    · rw [second.store_other _ _ name later, second.store_other _ _ name later]
      exact first.store_congr _ _ _ name ((List.mem_append.mp member).resolve_right later)
  store_other v s name absent := by
    rw [second.store_other _ _ name fun mine => absent (List.mem_append_right _ mine)]
    exact first.store_other _ _ name fun mine => absent (List.mem_append_left _ mine)
  load_store v s := by
    have kept : first.load (second.store v.2 (first.store v.1 s)) = first.load (first.store v.1 s) :=
      first.load_congr _ _ fun name mine => second.store_other _ _ name fun theirs => apart mine theirs
    rw [kept, first.load_store, second.load_store]
    rfl

/-- A slot of the same values in another form. -/
def Slot.map {D : Type} (slot : Slot κ E ε C) (form : C ≃ D) : Slot κ E ε D where
  names := slot.names
  load s := (slot.load s).map form
  store d := slot.store (form.symm d)
  load_congr s s' same := congrArg (Except.map form) (slot.load_congr s s' same)
  store_congr d := slot.store_congr (form.symm d)
  store_other d := slot.store_other (form.symm d)
  load_store d s := by
    rw [slot.load_store]
    exact congrArg Except.ok (form.apply_symm_apply d)

/-! Machines whose operations work on names. -/

variable {α β : Type}

/-- An operation answers by what its names hold, writes by it, and writes nothing else. -/
structure Confined (perform : (κ → E) → α → β × (κ → E)) (names : α → List κ) : Prop where
  answer : ∀ s s' op, (∀ name ∈ names op, s name = s' name) → (perform s op).1 = (perform s' op).1
  writes : ∀ s s' op, (∀ name ∈ names op, s name = s' name) →
    ∀ name ∈ names op, (perform s op).2 name = (perform s' op).2 name
  frame : ∀ s op, ∀ name ∉ names op, (perform s op).2 name = s name

variable {perform : (κ → E) → α → β × (κ → E)} {ω : Type} [DecidableEq ω] {names : ω → List κ} {owner : α → ω}

variable (names owner) in
/-- Where different owners have no name in common, the operations of one are answered as if the others were left out. -/
theorem Confined.answers_alone (confined : Confined perform fun op => names (owner op))
    (apart : ∀ o o', o ≠ o' → (names o).Disjoint (names o')) (own : ω) (s : κ → E) (ops : List α) :
    Runs.answers perform (fun op => decide (owner op = own)) s ops =
      Runs.answers perform (fun op => decide (owner op = own)) s (ops.filter fun op => decide (owner op = own)) := by
  apply Runs.answers_filter (R := fun s s' => ∀ name ∈ names own, s name = s' name)
  · intro s s' op same other
    refine ⟨other, fun name mine => ?_⟩
    have disjoint := apart (owner op) own (of_decide_eq_false other)
    rw [confined.frame s op name fun theirs => disjoint theirs mine]
    exact same name mine
  · intro s s' op same mine
    have equal := of_decide_eq_true mine
    rw [← equal] at same ⊢
    exact ⟨fun _ => confined.answer s s' op same, confined.writes s s' op same⟩
  · exact fun _ _ => rfl

end Keyspace
