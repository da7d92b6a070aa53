import RuntimePlatform.Lib.Runs
import Mathlib.Algebra.Order.Ring.Int
import Mathlib.Data.List.Perm.Basic
import Mathlib.Tactic.Linarith

/-!
A shared value which callers read with one command and write with another. Between the two commands of
a call other calls may write. The value is then the outcome of the calls one after another exactly when no call writes
what it computed from a value which another call has replaced.
-/

namespace ReadThenWrite

/-- `put` gives a call the value which it read, and the value which its write replaces. A touch is one command. -/
structure Cell (V α β : Type*) where
  put : α → V → V → V
  touch : β → V → V

/-- A call between its two commands. `seen` counts the writes before its read. -/
structure Pending (V α : Type*) where
  call : α
  read : V
  seen : ℕ

structure State (V α β : Type*) where
  value : V
  pending : List (Pending V α)
  done : List (α ⊕ β)

inductive Event (α β : Type*) where
  | read (call : α)
  | write (k : ℕ)
  | touch (b : β)

variable {V α β : Type*}

/-- How many calls have written. -/
def writes (done : List (α ⊕ β)) : ℕ := done.countP Sum.isLeft

def start (v : V) : State V α β := ⟨v, [], []⟩

/-- The calls of which a run holds the first command. -/
def calls (events : List (Event α β)) : List α :=
  events.filterMap fun
    | .read call => some call
    | _ => none

namespace Cell
variable (C : Cell V α β)

def step (s : State V α β) : Event α β → State V α β
  | .read call => { s with pending := s.pending ++ [⟨call, s.value, writes s.done⟩] }
  | .write k =>
      match s.pending[k]? with
      | none => s
      | some p =>
          { value := C.put p.call p.read s.value
            pending := s.pending.eraseIdx k
            done := s.done ++ [.inl p.call] }
  | .touch b => { s with value := C.touch b s.value, done := s.done ++ [.inr b] }

/-- The commands as if each call were one. -/
def serial (v : V) (done : List (α ⊕ β)) : V :=
  done.foldl (fun v => Sum.elim (fun a => C.put a v v) fun b => C.touch b v) v

end Cell

/-- No call has written since the read of the call which writes now. -/
def Fresh (s : State V α β) : Event α β → Prop
  | .write k => ∀ p, s.pending[k]? = some p → p.seen = writes s.done
  | _ => True

@[simp] theorem writes_append (before after : List (α ⊕ β)) :
    writes (before ++ after) = writes before + writes after := List.countP_append

@[simp] theorem writes_call (call : α) : writes [(.inl call : α ⊕ β)] = 1 := rfl

@[simp] theorem writes_touch (b : β) : writes [(.inr b : α ⊕ β)] = 0 := rfl

namespace Cell
variable (C : Cell V α β) {s : State V α β}

theorem serial_append (v : V) (before after : List (α ⊕ β)) :
    C.serial v (before ++ after) = C.serial (C.serial v before) after := List.foldl_append

@[simp] theorem serial_call (v : V) (call : α) : C.serial v [.inl call] = C.put call v v := rfl

@[simp] theorem serial_touch (v : V) (b : β) : C.serial v [.inr b] = C.touch b v := rfl

theorem step_write {k : ℕ} {p : Pending V α} (found : s.pending[k]? = some p) :
    C.step s (.write k) =
      ⟨C.put p.call p.read s.value, s.pending.eraseIdx k, s.done ++ [.inl p.call]⟩ := by
  simp only [step, found]

theorem step_missing {k : ℕ} (missing : s.pending[k]? = none) : C.step s (.write k) = s := by
  simp only [step, missing]

/-- Every call of a run has written or is pending. -/
theorem calls_perm (s : State V α β) (events : List (Event α β)) :
    ((Runs.run C.step s events).done.filterMap Sum.getLeft? ++ (Runs.run C.step s events).pending.map Pending.call).Perm
      (s.done.filterMap Sum.getLeft? ++ s.pending.map Pending.call ++ calls events) := by
  induction events generalizing s with
  | nil => exact (List.append_nil _).symm ▸ List.Perm.refl _
  | cons e events ih =>
      refine (ih (C.step s e)).trans ?_
      cases e with
      | read call => simp [step, calls]
      | touch b =>
          have unseen : (s.done ++ [(.inr b : α ⊕ β)]).filterMap Sum.getLeft? = s.done.filterMap Sum.getLeft? := by
            rw [List.filterMap_append]
            exact List.append_nil _
          change List.Perm ((s.done ++ [(.inr b : α ⊕ β)]).filterMap Sum.getLeft? ++ _ ++ _) _
          rw [unseen]
          exact List.Perm.refl _
      | write k =>
          rcases found : s.pending[k]? with _ | p
          · rw [step_missing C found]
            exact List.Perm.refl _
          · rw [step_write C found]
            obtain ⟨bound, rfl⟩ := List.getElem?_eq_some_iff.mp found
            refine List.Perm.append_right _ ?_
            simp only [List.filterMap_append, List.append_assoc]
            refine List.Perm.append_left _ ?_
            exact ((List.getElem_cons_eraseIdx_perm bound).map Pending.call)

/-- What a call computes does not depend on the touches since its read. -/
def Blind : Prop := ∀ a b v v', C.put a (C.touch b v) v' = C.put a v v'

/-- A pending call has seen only past writes; and if it has seen all, its read is as good as one now. -/
def Current (s : State V α β) : Prop :=
  ∀ p ∈ s.pending, p.seen ≤ writes s.done ∧ (p.seen = writes s.done → ∀ a v, C.put a p.read v = C.put a s.value v)

/-- The touches of a history are events of its run. -/
theorem touch_mem {b : β} {events : List (Event α β)}
    (touched : (.inr b : α ⊕ β) ∈ (Runs.run C.step s events).done) : .inr b ∈ s.done ∨ .touch b ∈ events := by
  induction events generalizing s with
  | nil => exact .inl touched
  | cons e events ih =>
      rcases ih touched with before | later
      · cases e with
        | read call => exact .inl before
        | touch b' =>
            rcases List.mem_append.mp before with old | new
            · exact .inl old
            · cases List.mem_singleton.mp new
              exact .inr List.mem_cons_self
        | write k =>
            rcases found : s.pending[k]? with _ | p
            · rw [step_missing C found] at before
              exact .inl before
            · rw [step_write C found] at before
              rcases List.mem_append.mp before with old | new
              · exact .inl old
              · cases List.mem_singleton.mp new
      · exact .inr (List.mem_cons_of_mem e later)

variable {C}

theorem Current.step (blind : C.Blind) (current : C.Current s) (e : Event α β) : C.Current (C.step s e) := by
  cases e with
  | read call =>
      intro p member
      rcases List.mem_append.mp member with old | new
      · exact current p old
      · rw [List.mem_singleton.mp new]
        exact ⟨le_rfl, fun _ _ _ => rfl⟩
  | touch b =>
      intro p member
      obtain ⟨past, same⟩ := current p member
      have unchanged : writes (s.done ++ [(.inr b : α ⊕ β)]) = writes s.done := by simp
      refine ⟨unchanged ▸ past, fun seen a v => ?_⟩
      exact (same (seen.trans unchanged) a v).trans (blind a b s.value v).symm
  | write k =>
      rcases found : s.pending[k]? with _ | written
      · rw [step_missing C found]
        exact current
      · rw [step_write C found]
        intro p member
        have past := (current p (List.mem_of_mem_eraseIdx member)).1
        have grown : writes (s.done ++ [(.inl written.call : α ⊕ β)]) = writes s.done + 1 := by simp
        refine ⟨grown ▸ past.trans (Nat.le_succ _), fun seen => ?_⟩
        have := seen.trans grown
        omega

/-- As long as every write is fresh, the value is that of the calls one after another. -/
theorem serial_of_fresh (blind : C.Blind) (v : V) {events : List (Event α β)}
    (fresh : Runs.EveryStep C.step Fresh (start v) events) :
    (Runs.run C.step (start v) events).value = C.serial v (Runs.run C.step (start v) events).done := by
  have keeps : ∀ (s : State V α β) e, C.Current s ∧ s.value = C.serial v s.done → Fresh s e →
      C.Current (C.step s e) ∧ (C.step s e).value = C.serial v (C.step s e).done := by
    rintro s e ⟨current, same⟩ fresh
    refine ⟨current.step blind e, ?_⟩
    cases e with
    | read call => exact same
    | touch b =>
        change C.touch b s.value = C.serial v (s.done ++ [.inr b])
        rw [serial_append, serial_touch, same]
    | write k =>
        rcases found : s.pending[k]? with _ | p
        · rw [step_missing C found]
          exact same
        · rw [step_write C found]
          change C.put p.call p.read s.value = C.serial v (s.done ++ [.inl p.call])
          have now := (current p (List.mem_of_getElem? found)).2 (fresh p found) p.call s.value
          rw [serial_append, serial_call, now, same]
  have initial : C.Current (start v : State V α β) := fun p member => (nomatch member)
  have every := Runs.everyState_of_keeps keeps ⟨initial, rfl⟩ fresh
  exact (Runs.everyState_iff.mp every events [] (List.append_nil _).symm).2

/-! A write which is not fresh loses other calls, and does nothing else. -/
section Losses

/-- The touches of a history, without its calls. -/
def touches (done : List (α ⊕ β)) : List (α ⊕ β) := done.filter Sum.isRight

/-- A history with calls left out, but no touch. -/
structure Kept (done kept : List (α ⊕ β)) : Prop where
  sublist : kept.Sublist done
  whole : touches kept = touches done

variable (C) in
/-- The writes make no difference between these two. -/
def SameRest (w w' : V) : Prop := ∀ a v, C.put a v w = C.put a v w'

/-- A write sets the same things whatever it finds there, and only touches set the rest. -/
structure Overwrites (C : Cell V α β) : Prop where
  blind : C.Blind
  put : ∀ a v w, C.SameRest (C.put a v w) w
  touch : ∀ b w w', C.SameRest w w' → C.SameRest (C.touch b w) (C.touch b w')

variable (C) in
/-- The value is what some of the calls make, one after another, with all touches between them. -/
def SomeOf (v : V) (done : List (α ⊕ β)) (value : V) : Prop := ∃ kept, Kept done kept ∧ value = C.serial v kept

theorem Kept.append {done kept done' kept' : List (α ⊕ β)} (first : Kept done kept) (second : Kept done' kept') :
    Kept (done ++ done') (kept ++ kept') := by
  constructor
  · exact first.sublist.append second.sublist
  · calc touches (kept ++ kept') = touches kept ++ touches kept' := List.filter_append kept kept'
      _ = touches done ++ touches done' := by rw [first.whole, second.whole]
      _ = touches (done ++ done') := (List.filter_append done done').symm

theorem Kept.refl (done : List (α ⊕ β)) : Kept done done := ⟨List.Sublist.refl done, rfl⟩

theorem Kept.of_touches (done : List (α ⊕ β)) : Kept done (touches done) :=
  ⟨List.filter_sublist, List.filter_filter.trans (by simp only [Bool.and_self, touches])⟩

/-- What the writes leave is what the touches make. -/
theorem Overwrites.rest_serial (overwrites : Overwrites C) (done : List (α ⊕ β)) {w w' : V} (same : C.SameRest w w') :
    C.SameRest (C.serial w done) (C.serial w' (touches done)) := by
  induction done generalizing w w' with
  | nil => exact same
  | cons first done ih =>
      cases first with
      | inl call =>
          apply ih
          intro a v
          exact (overwrites.put call w w a v).trans (same a v)
      | inr b => exact ih (overwrites.touch b w w' same)

/-- A call computes the same from what touches have changed since its read. -/
theorem put_touches (blind : C.Blind) (done : List (α ⊕ β)) (a : α) (v w : V) :
    C.put a (C.serial v (touches done)) w = C.put a v w := by
  induction done generalizing v with
  | nil => rfl
  | cons first done ih =>
      cases first with
      | inl call => exact ih v
      | inr b => exact (ih (C.touch b v)).trans (blind a b v w)

/-- The write of a call which read the value when `before` was done loses the calls in `since`, and no others. -/
theorem SomeOf.put (overwrites : Overwrites C) {v read value : V} {before since : List (α ⊕ β)} (call : α)
    (was : C.SomeOf v before read) (now : C.SomeOf v (before ++ since) value) :
    C.SomeOf v (before ++ since ++ [.inl call]) (C.put call read value) := by
  obtain ⟨kept, stays, rfl⟩ := was
  obtain ⟨kept', stays', rfl⟩ := now
  have chosen := stays.append (Kept.of_touches since)
  refine ⟨kept ++ touches since ++ [.inl call], chosen.append (Kept.refl _), ?_⟩
  have rest : C.SameRest (C.serial v kept') (C.serial v (kept ++ touches since)) := by
    intro a u
    have one := overwrites.rest_serial kept' (fun _ _ => rfl : C.SameRest v v) a u
    have other := overwrites.rest_serial (kept ++ touches since) (fun _ _ => rfl : C.SameRest v v) a u
    rw [stays'.whole, ← chosen.whole] at one
    exact one.trans other.symm
  calc C.put call (C.serial v kept) (C.serial v kept')
      = C.put call (C.serial v kept) (C.serial v (kept ++ touches since)) := rest _ _
    _ = C.put call (C.serial v (kept ++ touches since)) (C.serial v (kept ++ touches since)) := by
        rw [serial_append C v kept (touches since), put_touches overwrites.blind]
    _ = C.serial v (kept ++ touches since ++ [.inl call]) := by
        rw [serial_append C v (kept ++ touches since), serial_call]

variable (C) in
/-- The value comes of some of the calls, and so does what each pending call has read. -/
structure Lossy (v : V) (s : State V α β) : Prop where
  value : C.SomeOf v s.done s.value
  pending : ∀ p ∈ s.pending, ∃ before since, s.done = before ++ since ∧ C.SomeOf v before p.read

theorem Lossy.step (overwrites : Overwrites C) {v : V} (lossy : C.Lossy v s) (e : Event α β) : C.Lossy v (C.step s e) := by
  have later : ∀ (last : α ⊕ β), ∀ p ∈ s.pending,
      ∃ before since, s.done ++ [last] = before ++ since ∧ C.SomeOf v before p.read := by
    intro last p member
    obtain ⟨before, since, split, read⟩ := lossy.pending p member
    exact ⟨before, since ++ [last], by rw [split, List.append_assoc], read⟩
  cases e with
  | read call =>
      refine ⟨lossy.value, fun p member => ?_⟩
      rcases List.mem_append.mp member with old | new
      · exact lossy.pending p old
      · rw [List.mem_singleton.mp new]
        exact ⟨s.done, [], (List.append_nil _).symm, lossy.value⟩
  | touch b =>
      refine ⟨?_, later _⟩
      obtain ⟨kept, stays, value⟩ := lossy.value
      refine ⟨kept ++ [.inr b], stays.append (Kept.refl _), ?_⟩
      rw [serial_append, serial_touch, ← value]
      rfl
  | write k =>
      rcases found : s.pending[k]? with _ | p
      · rw [step_missing C found]
        exact lossy
      · rw [step_write C found]
        refine ⟨?_, fun q left => later _ q (List.mem_of_mem_eraseIdx left)⟩
        obtain ⟨before, since, split, read⟩ := lossy.pending p (List.mem_of_getElem? found)
        have now := lossy.value
        rw [split] at now
        have lost := read.put overwrites p.call now
        rw [← split] at lost
        exact lost

/-- However reads and writes come between each other, the value comes of some of the calls and of all touches. -/
theorem everyState_someOf (overwrites : Overwrites C) (v : V) (events : List (Event α β)) :
    Runs.EveryState C.step (fun s => C.SomeOf v s.done s.value) (start v) events := by
  have initial : C.Lossy v (start v : State V α β) :=
    ⟨⟨[], Kept.refl [], rfl⟩, fun p member => (nomatch member)⟩
  have every : Runs.EveryState C.step (C.Lossy v) (start v) events :=
    Runs.everyState_of_invariant (fun _ e lossy => lossy.step overwrites e) initial
  exact every.mono fun s lossy => lossy.value

end Losses

/-! A count of the writes shows every write which was not fresh. -/
section Rank
variable (rank : V → ℤ)

/-- The rank is one more than that of the value which the writer read. -/
structure Counts (C : Cell V α β) : Prop where
  put : ∀ a v v', rank (C.put a v v') = rank v + 1
  touch : ∀ b v, rank (C.touch b v) = rank v

variable {rank}

/-- No rank is above the number of writes. -/
def Bounded (rank : V → ℤ) (s : State V α β) : Prop :=
  rank s.value ≤ writes s.done ∧ ∀ p ∈ s.pending, rank p.read ≤ p.seen

theorem Bounded.step (counts : Counts rank C) (current : C.Current s) (bounded : Bounded rank s) (e : Event α β) :
    Bounded rank (C.step s e) := by
  obtain ⟨low, pending⟩ := bounded
  cases e with
  | read call =>
      refine ⟨low, fun p member => ?_⟩
      rcases List.mem_append.mp member with old | new
      · exact pending p old
      · rw [List.mem_singleton.mp new]
        exact low
  | touch b =>
      refine ⟨?_, pending⟩
      change rank (C.touch b s.value) ≤ (writes (s.done ++ [(.inr b : α ⊕ β)]) : ℕ)
      rw [counts.touch, writes_append, writes_touch, Nat.add_zero]
      exact low
  | write k =>
      rcases found : s.pending[k]? with _ | written
      · rw [step_missing C found]
        exact ⟨low, pending⟩
      · rw [step_write C found]
        have member := List.mem_of_getElem? found
        refine ⟨?_, fun p left => pending p (List.mem_of_mem_eraseIdx left)⟩
        change rank (C.put written.call written.read s.value) ≤ (writes (s.done ++ [(.inl written.call : α ⊕ β)]) : ℕ)
        rw [counts.put, writes_append, writes_call]
        have read := pending written member
        have past := (current written member).1
        push_cast
        omega

/-- The rank keeps up with the writes over a step just when the step is fresh. -/
theorem rank_step (counts : Counts rank C) (current : C.Current s) (bounded : Bounded rank s) (e : Event α β) :
    rank (C.step s e).value = writes (C.step s e).done ↔ rank s.value = writes s.done ∧ Fresh s e := by
  cases e with
  | read call => exact (and_iff_left trivial).symm
  | touch b =>
      change rank (C.touch b s.value) = (writes (s.done ++ [(.inr b : α ⊕ β)]) : ℕ) ↔ _
      rw [counts.touch, writes_append, writes_touch, Nat.add_zero]
      exact (and_iff_left trivial).symm
  | write k =>
      rcases found : s.pending[k]? with _ | p
      · rw [step_missing C found]
        exact (and_iff_left fun q at_k => nomatch found.symm.trans at_k).symm
      · have member := List.mem_of_getElem? found
        have fresh : Fresh s (.write k : Event α β) ↔ p.seen = writes s.done := by
          constructor
          · exact fun every => every p found
          · intro seen q at_k
            cases found.symm.trans at_k
            exact seen
        rw [step_write C found, fresh]
        change rank (C.put p.call p.read s.value) = (writes (s.done ++ [(.inl p.call : α ⊕ β)]) : ℕ) ↔ _
        rw [counts.put, writes_append, writes_call]
        obtain ⟨past, same⟩ := current p member
        have read := bounded.2 p member
        by_cases seen : p.seen = writes s.done
        · -- A fresh call read a value of the rank which the value has now.
          have equal : rank p.read = rank s.value := by
            have := congrArg rank (same seen p.call s.value)
            rw [counts.put, counts.put] at this
            omega
          rw [equal, and_iff_left seen]
          push_cast
          omega
        · -- A stale one read a value from before the last write.
          refine iff_of_false (fun up => ?_) fun both => seen both.2
          push_cast at up
          omega

/-- The rank of the value is the number of writes exactly when every write was fresh. -/
theorem rank_eq_writes_iff (blind : C.Blind) (counts : Counts rank C) {v : V} (zero : rank v = 0)
    (events : List (Event α β)) :
    rank (Runs.run C.step (start v) events).value = writes (Runs.run C.step (start v) events).done ↔
      Runs.EveryStep C.step Fresh (start v) events := by
  have initial : C.Current (start v : State V α β) ∧ Bounded rank (start v : State V α β) :=
    ⟨fun p member => (nomatch member), zero.le, fun p member => (nomatch member)⟩
  refine (Runs.run_iff_everyStep (I := fun s => C.Current s ∧ Bounded rank s)
    (Q := fun s => rank s.value = writes s.done) ?_ ?_ initial).trans (and_iff_right zero)
  · exact fun s e both => ⟨both.1.step blind e, both.2.step counts both.1 e⟩
  · exact fun s e both => rank_step counts both.1 both.2 e

end Rank
end Cell
end ReadThenWrite
