import Mathlib.Data.List.Basic
import Mathlib.Data.List.Perm.Basic
import Mathlib.Tactic.Common

/-!
`asyncio.Semaphore` and `asyncio.Lock` of CPython 3.12, up to the suspension points of the tasks
which use them. A waiter keeps its place in the queue until its task runs again; a permit which
was handed to a task that is cancelled before that goes back.
-/

namespace Asyncio

/-- The future of a waiter. A task which is cancelled after its future has a result runs into the cancellation all
the same; `revoked` is such a one. -/
inductive Fut where
  | pending
  | done
  | cancelled
  | revoked
  deriving DecidableEq, Repr

/-- `task.cancel()` on a task which waits for the future. -/
def Fut.cancel : Fut → Fut
  | pending => cancelled
  | done => revoked
  | f => f

/-- The future has a result, whatever has become of the task. -/
def Fut.given : Fut → Bool
  | done | revoked => true
  | pending | cancelled => false

variable {W : Type*}

/-- The waiters, in order of arrival. -/
abbrev Waiters (W : Type*) := List (W × Fut)

def Waiters.tasks (waiters : Waiters W) : List W := waiters.map Prod.fst

/-- `fut.set_result(True)` for the first future which is not done. -/
def Waiters.wake : Waiters W → Option (Waiters W)
  | [] => none
  | (w, .pending) :: rest => some ((w, .done) :: rest)
  | first :: rest => (wake rest).map (first :: ·)

def Waiters.cancel (waiters : Waiters W) (i : ℕ) : Waiters W := waiters.modify i fun w => (w.1, w.2.cancel)

def Waiters.given (waiters : Waiters W) : ℕ := waiters.countP fun w => w.2.given

def Waiters.allCancelled (waiters : Waiters W) : Bool := waiters.all fun w => decide (w.2 = .cancelled)

namespace Waiters
variable {waiters waiters' : Waiters W}

theorem wake_eq_some (woken : waiters.wake = some waiters') :
    waiters'.tasks = waiters.tasks ∧ waiters'.given = waiters.given + 1 := by
  induction waiters generalizing waiters' with
  | nil => cases woken
  | cons first rest ih =>
      obtain ⟨w, fut⟩ := first
      have later : ∀ {fut : Fut}, (wake rest).map ((w, fut) :: ·) = some waiters' →
          waiters'.tasks = w :: tasks rest ∧ waiters'.given = given ((w, fut) :: rest) + 1 := by
        intro fut mapped
        obtain ⟨rest', found, rfl⟩ := Option.map_eq_some_iff.mp mapped
        obtain ⟨same, more⟩ := ih found
        refine ⟨congrArg (w :: ·) same, ?_⟩
        change List.countP _ ((w, fut) :: rest') = List.countP _ ((w, fut) :: rest) + 1
        change List.countP _ rest' = List.countP _ rest + 1 at more
        rw [List.countP_cons, List.countP_cons, more]
        omega
      cases fut with
      | pending =>
          cases woken
          refine ⟨rfl, ?_⟩
          change List.countP _ ((w, .done) :: rest) = List.countP _ ((w, .pending) :: rest) + 1
          rw [List.countP_cons, List.countP_cons]
          rfl
      | done => exact later woken
      | cancelled => exact later woken
      | revoked => exact later woken

theorem wake_eq_none (asleep : waiters.wake = none) : ∀ w ∈ waiters, w.2 ≠ .pending := by
  induction waiters with
  | nil => exact fun _ none => nomatch none
  | cons first rest ih =>
      obtain ⟨w, fut⟩ := first
      have later : ∀ {fut : Fut}, (wake rest).map ((w, fut) :: ·) = none → wake rest = none := fun mapped =>
        Option.map_eq_none_iff.mp mapped
      cases fut with
      | pending => cases asleep
      | done => exact List.forall_mem_cons.mpr ⟨nofun, ih (later asleep)⟩
      | cancelled => exact List.forall_mem_cons.mpr ⟨nofun, ih (later asleep)⟩
      | revoked => exact List.forall_mem_cons.mpr ⟨nofun, ih (later asleep)⟩

@[simp] theorem tasks_cancel (waiters : Waiters W) (i : ℕ) : (waiters.cancel i).tasks = waiters.tasks := by
  unfold tasks cancel
  induction waiters generalizing i with
  | nil => cases i <;> rfl
  | cons first rest ih =>
      cases i with
      | zero => rfl
      | succ i =>
          rw [List.modify_succ_cons, List.map_cons, ih, List.map_cons]

@[simp] theorem given_cancel (waiters : Waiters W) (i : ℕ) : (waiters.cancel i).given = waiters.given := by
  unfold given cancel
  induction waiters generalizing i with
  | nil => cases i <;> rfl
  | cons first rest ih =>
      cases i with
      | zero =>
          obtain ⟨w, fut⟩ := first
          rw [List.modify_zero_cons, List.countP_cons, List.countP_cons]
          cases fut <;> rfl
      | succ i => rw [List.modify_succ_cons, List.countP_cons, List.countP_cons, ih]

@[simp] theorem tasks_append (waiters : Waiters W) (w : W) (fut : Fut) :
    tasks (waiters ++ [(w, fut)]) = waiters.tasks ++ [w] := List.map_append

theorem given_append_pending (waiters : Waiters W) (w : W) : given (waiters ++ [(w, .pending)]) = waiters.given := by
  unfold given
  rw [List.countP_append]
  rfl

theorem tasks_eraseIdx (waiters : Waiters W) (i : ℕ) : tasks (waiters.eraseIdx i) = waiters.tasks.eraseIdx i :=
  (List.eraseIdx_map _ _ _).symm

end Waiters

/-- Taking one element out of a list. -/
theorem countP_eraseIdx {α : Type*} {l : List α} {i : ℕ} {a : α} (here : l[i]? = some a) (p : α → Bool) :
    l.countP p = (l.eraseIdx i).countP p + if p a = true then 1 else 0 := by
  obtain ⟨inside, rfl⟩ := List.getElem?_eq_some_iff.mp here
  rw [← (List.getElem_cons_eraseIdx_perm inside).countP_eq p, List.countP_cons]

/-! ## `asyncio.Semaphore` -/

structure Semaphore (W : Type*) where
  value : ℕ
  waiters : Waiters W

namespace Semaphore

/-- The permits which no task holds, those of woken waiters included. -/
def free (s : Semaphore W) : ℕ := s.value + s.waiters.given

def new (value : ℕ) : Semaphore W := ⟨value, []⟩

/-- Whether a permit cannot be had at once. -/
def locked (s : Semaphore W) : Bool := decide (s.value = 0) || !s.waiters.allCancelled

/-- `acquire`, up to its first suspension: `true` with a permit, `false` in the queue. -/
def acquire (w : W) (s : Semaphore W) : Bool × Semaphore W :=
  if s.locked = true then (false, { s with waiters := s.waiters ++ [(w, .pending)] })
  else (true, { s with value := s.value - 1 })

def wake_up_next (s : Semaphore W) : Semaphore W :=
  match s.waiters.wake with
  | some waiters => ⟨s.value - 1, waiters⟩
  | none => s

def release (s : Semaphore W) : Semaphore W := wake_up_next { s with value := s.value + 1 }

def cancel (s : Semaphore W) (i : ℕ) : Semaphore W := { s with waiters := s.waiters.cancel i }

/-- The task of a waiter whose future is done runs on in `acquire`: `true` with a permit, `false` with the
cancellation. -/
def resume (i : ℕ) (s : Semaphore W) : Option (W × Bool × Semaphore W) :=
  match s.waiters[i]? with
  | none | some (_, .pending) => none
  | some (w, .done) =>
    let s := { s with waiters := s.waiters.eraseIdx i }
    some (w, true, if s.value > 0 then s.wake_up_next else s)
  | some (w, .cancelled) => some (w, false, { s with waiters := s.waiters.eraseIdx i })
  | some (w, .revoked) => some (w, false, wake_up_next ⟨s.value + 1, s.waiters.eraseIdx i⟩)

variable {s s' : Semaphore W} {w : W} {i : ℕ}

theorem wake_up_next_spec (positive : 0 < s.value) :
    s.wake_up_next.waiters.tasks = s.waiters.tasks ∧ s.wake_up_next.free = s.free := by
  unfold wake_up_next
  cases woken : s.waiters.wake with
  | none => exact ⟨rfl, rfl⟩
  | some waiters =>
      obtain ⟨same, more⟩ := Waiters.wake_eq_some woken
      refine ⟨same, ?_⟩
      change s.value - 1 + waiters.given = s.value + s.waiters.given
      omega

theorem release_spec (s : Semaphore W) : s.release.waiters.tasks = s.waiters.tasks ∧ s.release.free = s.free + 1 := by
  obtain ⟨same, kept⟩ := wake_up_next_spec (s := { s with value := s.value + 1 }) (Nat.succ_pos _)
  refine ⟨same, kept.trans ?_⟩
  change s.value + 1 + s.waiters.given = s.value + s.waiters.given + 1
  omega

theorem acquire_true (acquired : s.acquire w = (true, s')) :
    s'.waiters.tasks = s.waiters.tasks ∧ s'.free + 1 = s.free := by
  unfold acquire at acquired
  split at acquired
  · cases acquired
  · next unlocked =>
      cases acquired
      have positive : ¬ s.value = 0 := fun zero => unlocked (by rw [locked, decide_eq_true zero, Bool.true_or])
      refine ⟨rfl, ?_⟩
      change s.value - 1 + s.waiters.given + 1 = s.value + s.waiters.given
      omega

theorem acquire_false (queued : s.acquire w = (false, s')) :
    s'.waiters.tasks = s.waiters.tasks ++ [w] ∧ s'.free = s.free := by
  unfold acquire at queued
  split at queued
  · cases queued
    refine ⟨Waiters.tasks_append _ _ _, ?_⟩
    change s.value + Waiters.given (s.waiters ++ [(w, .pending)]) = s.value + s.waiters.given
    rw [Waiters.given_append_pending]
  · cases queued

theorem cancel_spec (s : Semaphore W) (i : ℕ) :
    (s.cancel i).waiters.tasks = s.waiters.tasks ∧ (s.cancel i).free = s.free := by
  refine ⟨Waiters.tasks_cancel _ _, ?_⟩
  change s.value + (s.waiters.cancel i).given = s.value + s.waiters.given
  rw [Waiters.given_cancel]

/-- Whichever way a waiter leaves, no permit is lost. -/
theorem resume_spec {acquired : Bool} (resumed : s.resume i = some (w, acquired, s')) :
    s.waiters.tasks[i]? = some w ∧ s'.waiters.tasks = s.waiters.tasks.eraseIdx i ∧
      s'.free + (if acquired = true then 1 else 0) = s.free := by
  unfold resume at resumed
  cases here : s.waiters[i]? with
  | none =>
      rw [here] at resumed
      cases resumed
  | some waiter =>
      obtain ⟨w', fut⟩ := waiter
      have listed : s.waiters.tasks[i]? = some w' := by
        unfold Waiters.tasks
        rw [List.getElem?_map, here]
        rfl
      have given : s.waiters.given = Waiters.given (s.waiters.eraseIdx i) + if fut.given = true then 1 else 0 :=
        countP_eraseIdx here _
      have erased := Waiters.tasks_eraseIdx s.waiters i
      rw [here] at resumed
      cases fut with
      | pending => cases resumed
      | done =>
          cases resumed
          change s.waiters.given = Waiters.given (s.waiters.eraseIdx i) + 1 at given
          refine ⟨listed, ?_⟩
          split
          · next positive =>
              obtain ⟨same, kept⟩ := wake_up_next_spec (s := { s with waiters := s.waiters.eraseIdx i }) positive
              refine ⟨same.trans erased, ?_⟩
              rw [kept]
              change s.value + Waiters.given (s.waiters.eraseIdx i) + 1 = s.value + s.waiters.given
              omega
          · refine ⟨erased, ?_⟩
            change s.value + Waiters.given (s.waiters.eraseIdx i) + 1 = s.value + s.waiters.given
            omega
      | cancelled =>
          cases resumed
          refine ⟨listed, erased, ?_⟩
          change s.value + Waiters.given (s.waiters.eraseIdx i) + 0 = s.value + s.waiters.given
          change s.waiters.given = Waiters.given (s.waiters.eraseIdx i) + 0 at given
          omega
      | revoked =>
          cases resumed
          obtain ⟨same, kept⟩ := wake_up_next_spec (s := ⟨s.value + 1, s.waiters.eraseIdx i⟩) (Nat.succ_pos _)
          refine ⟨listed, same.trans erased, ?_⟩
          rw [kept]
          change s.value + 1 + Waiters.given (s.waiters.eraseIdx i) + 0 = s.value + s.waiters.given
          change s.waiters.given = Waiters.given (s.waiters.eraseIdx i) + 1 at given
          omega

end Semaphore

/-! ## `asyncio.Lock` -/

structure Lock (W : Type*) where
  locked : Bool
  waiters : Waiters W

namespace Lock

def new : Lock W := ⟨false, []⟩

/-- `acquire`, up to its first suspension: `true` with the lock, `false` in the queue. -/
def acquire (w : W) (l : Lock W) : Bool × Lock W :=
  if l.locked = false ∧ l.waiters.allCancelled = true then (true, { l with locked := true })
  else (false, { l with waiters := l.waiters ++ [(w, .pending)] })

/-- `_wake_up_first`: the first waiter only, and only if it is not done. -/
def wake_up_first : Waiters W → Waiters W
  | (w, .pending) :: rest => (w, .done) :: rest
  | waiters => waiters

def release (l : Lock W) : Lock W := ⟨false, wake_up_first l.waiters⟩

def cancel (l : Lock W) (i : ℕ) : Lock W := { l with waiters := l.waiters.cancel i }

/-- The task of a waiter whose future is done runs on in `acquire`: `true` with the lock, `false` with the
cancellation. -/
def resume (i : ℕ) (l : Lock W) : Option (W × Bool × Lock W) :=
  match l.waiters[i]? with
  | none | some (_, .pending) => none
  | some (w, .done) => some (w, true, ⟨true, l.waiters.eraseIdx i⟩)
  | some (w, .cancelled) | some (w, .revoked) =>
    some (w, false, if l.locked = true then ⟨true, l.waiters.eraseIdx i⟩
      else ⟨false, wake_up_first (l.waiters.eraseIdx i)⟩)

/-- Only the first waiter may have been woken, and none while a task is inside. -/
structure Exclusive (l : Lock W) : Prop where
  outside : l.locked = true → ∀ w ∈ l.waiters, w.2.given = false
  first : ∀ w ∈ l.waiters.tail, w.2.given = false

variable {l l' : Lock W} {w : W} {i : ℕ}

@[simp] theorem tasks_wake_up_first (waiters : Waiters W) : (wake_up_first waiters).tasks = waiters.tasks := by
  unfold wake_up_first
  split <;> rfl

theorem tail_wake_up_first (waiters : Waiters W) : (wake_up_first waiters).tail = waiters.tail := by
  unfold wake_up_first
  split <;> rfl

theorem exclusive_new : Exclusive (new : Lock W) := ⟨(fun _ _ none => nomatch none), fun _ none => nomatch none⟩

theorem Exclusive.acquire_true (exclusive : l.Exclusive) (entered : l.acquire w = (true, l')) :
    l.locked = false ∧ l'.Exclusive ∧ l'.locked = true ∧ l'.waiters = l.waiters := by
  unfold acquire at entered
  split at entered
  · next free =>
      cases entered
      refine ⟨free.1, ⟨fun _ w member => ?_, exclusive.first⟩, rfl, rfl⟩
      have cancelled := of_decide_eq_true (List.all_eq_true.mp free.2 w member)
      rw [cancelled]
      rfl
  · cases entered

theorem Exclusive.acquire_false (exclusive : l.Exclusive) (queued : l.acquire w = (false, l')) :
    l'.Exclusive ∧ l'.locked = l.locked ∧ l'.waiters.tasks = l.waiters.tasks ++ [w] := by
  unfold acquire at queued
  split at queued
  · cases queued
  · cases queued
    refine ⟨⟨fun inside w' member => ?_, fun w' member => ?_⟩, rfl, Waiters.tasks_append _ _ _⟩
    · rcases List.mem_append.mp member with older | new
      · exact exclusive.outside inside w' older
      · rw [List.mem_singleton.mp new]
        rfl
    · change w' ∈ (l.waiters ++ [(w, Fut.pending)]).tail at member
      cases waiting : l.waiters with
      | nil =>
          rw [waiting] at member
          cases member
      | cons head rest =>
          rw [waiting] at member
          rcases List.mem_append.mp member with older | new
          · exact exclusive.first w' (by rw [waiting]; exact older)
          · rw [List.mem_singleton.mp new]
            rfl

theorem Exclusive.release (exclusive : l.Exclusive) : l.release.Exclusive :=
  ⟨nofun, fun w member => exclusive.first w (tail_wake_up_first l.waiters ▸ member)⟩

theorem mem_cancel {waiters : Waiters W} {v : W × Fut} (member : v ∈ waiters.cancel i) :
    ∃ u ∈ waiters, v.2.given = u.2.given := by
  obtain ⟨j, inside, rfl⟩ := List.mem_iff_getElem.mp member
  unfold Waiters.cancel at inside ⊢
  rw [List.length_modify] at inside
  refine ⟨waiters[j], List.getElem_mem inside, ?_⟩
  rw [List.getElem_modify]
  split
  · cases waiters[j].2 <;> rfl
  · rfl

theorem Exclusive.cancel (exclusive : l.Exclusive) (i : ℕ) : (l.cancel i).Exclusive := by
  refine ⟨fun inside w member => ?_, fun w member => ?_⟩
  · obtain ⟨u, present, same⟩ := mem_cancel member
    rw [same]
    exact exclusive.outside inside u present
  · have first := exclusive.first
    change w ∈ (l.waiters.modify i _).tail at member
    cases waiting : l.waiters with
    | nil =>
        rw [waiting] at member
        cases i <;> cases member
    | cons head rest =>
        rw [waiting] at member first
        cases i with
        | zero => exact first w member
        | succ i =>
            rw [List.modify_succ_cons] at member
            obtain ⟨u, present, same⟩ := mem_cancel member
            rw [same]
            exact first u present

theorem mem_tail_eraseIdx {α : Type*} {list : List α} {a : α} (member : a ∈ (list.eraseIdx i).tail) :
    a ∈ list.tail := by
  cases list with
  | nil => cases member
  | cons head rest =>
      cases i with
      | zero => exact List.mem_of_mem_tail member
      | succ i => exact List.mem_of_mem_eraseIdx member

/-- A task which gets the lock from the queue finds no task inside. -/
theorem Exclusive.resume_true (exclusive : l.Exclusive) (entered : l.resume i = some (w, true, l')) :
    l.locked = false ∧ l'.Exclusive ∧ l'.locked = true ∧ l.waiters.tasks[i]? = some w ∧
      l'.waiters.tasks = l.waiters.tasks.eraseIdx i := by
  unfold resume at entered
  cases here : l.waiters[i]? with
  | none =>
      rw [here] at entered
      cases entered
  | some waiter =>
      obtain ⟨w', fut⟩ := waiter
      rw [here] at entered
      cases fut with
      | pending => cases entered
      | cancelled => cases entered
      | revoked => cases entered
      | done =>
          cases entered
          have member := List.mem_of_getElem? here
          have open_ : l.locked = false := by
            cases inside : l.locked with
            | false => rfl
            | true => exact absurd (exclusive.outside inside _ member) nofun
          have rest : ∀ v ∈ l.waiters.eraseIdx i, v.2.given = false := by
            intro v kept
            cases waiting : l.waiters with
            | nil =>
                rw [waiting] at here
                cases here
            | cons head rest =>
                have first := exclusive.first
                rw [waiting] at here kept first
                cases i with
                | zero => exact first v kept
                | succ i => exact absurd (first _ (List.mem_of_getElem? here)) nofun
          refine ⟨open_, ⟨fun _ => rest, fun v kept => rest v (List.mem_of_mem_tail kept)⟩, rfl, ?_, ?_⟩
          · unfold Waiters.tasks
            rw [List.getElem?_map, here]
            rfl
          · exact Waiters.tasks_eraseIdx _ _

theorem Exclusive.resume_false (exclusive : l.Exclusive) (left : l.resume i = some (w, false, l')) :
    l'.Exclusive ∧ l'.locked = l.locked ∧ l.waiters.tasks[i]? = some w ∧
      l'.waiters.tasks = l.waiters.tasks.eraseIdx i := by
  unfold resume at left
  cases here : l.waiters[i]? with
  | none =>
      rw [here] at left
      cases left
  | some waiter =>
      obtain ⟨w', fut⟩ := waiter
      have listed : l.waiters.tasks[i]? = some w' := by
        unfold Waiters.tasks
        rw [List.getElem?_map, here]
        rfl
      have leaves : ∀ {left : Lock W}, left = (if l.locked = true then ⟨true, l.waiters.eraseIdx i⟩
          else ⟨false, wake_up_first (l.waiters.eraseIdx i)⟩) →
            left.Exclusive ∧ left.locked = l.locked ∧ left.waiters.tasks = l.waiters.tasks.eraseIdx i := by
        rintro _ rfl
        have first : ∀ v ∈ (l.waiters.eraseIdx i).tail, v.2.given = false := fun v member =>
          exclusive.first v (mem_tail_eraseIdx member)
        cases inside : l.locked with
        | true =>
            rw [if_pos rfl]
            exact ⟨⟨fun _ v member => exclusive.outside inside v (List.mem_of_mem_eraseIdx member), first⟩, rfl,
              Waiters.tasks_eraseIdx _ _⟩
        | false =>
            rw [if_neg Bool.false_ne_true]
            refine ⟨⟨nofun, fun v member => first v ?_⟩, rfl, ?_⟩
            · rw [← tail_wake_up_first]
              exact member
            · rw [tasks_wake_up_first]
              exact Waiters.tasks_eraseIdx _ _
      rw [here] at left
      cases fut with
      | pending => cases left
      | done => cases left
      | cancelled =>
          cases left
          obtain ⟨exclusive', same, erased⟩ := leaves rfl
          exact ⟨exclusive', same, listed, erased⟩
      | revoked =>
          cases left
          obtain ⟨exclusive', same, erased⟩ := leaves rfl
          exact ⟨exclusive', same, listed, erased⟩

end Lock

end Asyncio
