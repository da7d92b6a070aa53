import RuntimePlatform.Lib.Asyncio
import Mathlib.Data.List.Pairwise

/-!
The queue of `asyncio.Semaphore` is fair. A permit is handed to the first task which still waits, and no permit stays
unused while one waits, unless a task which has got one has yet to run.
-/

namespace Asyncio
variable {W : Type*}

namespace Waiters
variable {waiters waiters' : Waiters W}

/-- No task has been handed a permit before one which came earlier and still waits. -/
def Ordered (waiters : Waiters W) : Prop :=
  waiters.Pairwise fun earlier later => earlier.2 = .pending → later.2.given = false

/-- No task waits for a permit. -/
def Idle (waiters : Waiters W) : Prop := ∀ w ∈ waiters, w.2 ≠ .pending

/-- The first which waits is woken. -/
theorem Ordered.wake (ordered : waiters.Ordered) (woken : waiters.wake = some waiters') : waiters'.Ordered := by
  induction waiters generalizing waiters' with
  | nil => cases woken
  | cons first rest ih =>
      obtain ⟨w, fut⟩ := first
      obtain ⟨_, behind⟩ := List.pairwise_cons.mp ordered
      have passed : ∀ {fut : Fut}, (Waiters.wake rest).map ((w, fut) :: ·) = some waiters' → fut ≠ .pending →
          waiters'.Ordered := by
        intro fut mapped waits
        obtain ⟨rest', found, rfl⟩ := Option.map_eq_some_iff.mp mapped
        exact List.pairwise_cons.mpr ⟨fun _ _ pending => absurd pending waits, ih behind found⟩
      cases fut with
      | pending =>
          cases woken
          exact List.pairwise_cons.mpr ⟨nofun, behind⟩
      | done => exact passed woken nofun
      | cancelled => exact passed woken nofun
      | revoked => exact passed woken nofun

theorem Ordered.append (ordered : waiters.Ordered) (w : W) : Ordered (waiters ++ [(w, .pending)]) := by
  refine List.pairwise_append.mpr ⟨ordered, List.pairwise_singleton _ _, fun _ _ last member _ => ?_⟩
  rw [List.mem_singleton.mp member]
  rfl

theorem Ordered.eraseIdx (ordered : waiters.Ordered) (i : ℕ) : Ordered (waiters.eraseIdx i) :=
  List.Pairwise.sublist (List.eraseIdx_sublist _ _) ordered

/-- A cancelled task is not handed a permit by that, and does not begin to wait. -/
theorem mem_cancel {i : ℕ} {v : W × Fut} (member : v ∈ waiters.cancel i) :
    ∃ u ∈ waiters, v.2.given = u.2.given ∧ (v.2 = .pending → u.2 = .pending) := by
  obtain ⟨j, inside, rfl⟩ := List.mem_iff_getElem.mp member
  unfold cancel at inside ⊢
  rw [List.length_modify] at inside
  refine ⟨waiters[j], List.getElem_mem inside, ?_⟩
  rw [List.getElem_modify]
  split
  · cases waiters[j].2 <;> simp [Fut.cancel, Fut.given]
  · exact ⟨rfl, id⟩

theorem Ordered.cancel (ordered : waiters.Ordered) (i : ℕ) : (waiters.cancel i).Ordered := by
  induction waiters generalizing i with
  | nil => cases i <;> exact ordered
  | cons first rest ih =>
      obtain ⟨ahead, behind⟩ := List.pairwise_cons.mp ordered
      cases i with
      | zero =>
          refine List.pairwise_cons.mpr ⟨fun _ _ pending => ?_, behind⟩
          cases waiting : first.2 with
          | _ => simp [waiting, Fut.cancel] at pending
      | succ i =>
          refine List.pairwise_cons.mpr ⟨fun v member pending => ?_, ih behind i⟩
          obtain ⟨u, present, same, _⟩ := mem_cancel member
          rw [same]
          exact ahead u present pending

theorem Idle.cancel (idle : waiters.Idle) (i : ℕ) : (waiters.cancel i).Idle := by
  intro v member pending
  obtain ⟨u, present, _, waits⟩ := mem_cancel member
  exact idle u present (waits pending)

theorem given_pos {w : W × Fut} (member : w ∈ waiters) (handed : w.2.given = true) : 0 < waiters.given :=
  List.countP_pos_iff.mpr ⟨w, member, handed⟩

theorem idle_of_allCancelled (cancelled : waiters.allCancelled = true) : waiters.Idle := by
  intro w member pending
  have same := of_decide_eq_true (List.all_eq_true.mp cancelled w member)
  cases same.symm.trans pending

end Waiters

namespace Semaphore
variable {s s' : Semaphore W} {w : W} {i : ℕ}

/-- Permits are handed over in order, and none is unused while a task waits and none is about to run. -/
structure Fair (s : Semaphore W) : Prop where
  ordered : s.waiters.Ordered
  awake : s.value = 0 ∨ 0 < s.waiters.given ∨ s.waiters.Idle

theorem fair_new (value : ℕ) : Fair (new value : Semaphore W) :=
  ⟨List.Pairwise.nil, .inr (.inr fun _ none => nomatch none)⟩

theorem fair_wake_up_next (ordered : s.waiters.Ordered) : s.wake_up_next.Fair := by
  unfold wake_up_next
  cases woken : s.waiters.wake with
  | none => exact ⟨ordered, .inr (.inr (Waiters.wake_eq_none woken))⟩
  | some waiters =>
      refine ⟨ordered.wake woken, .inr (.inl ?_)⟩
      change 0 < waiters.given
      rw [(Waiters.wake_eq_some woken).2]
      exact Nat.succ_pos _

theorem Fair.release (fair : s.Fair) : s.release.Fair := fair_wake_up_next fair.ordered

theorem Fair.cancel (fair : s.Fair) (i : ℕ) : (s.cancel i).Fair := by
  refine ⟨fair.ordered.cancel i, ?_⟩
  rcases fair.awake with none | given | idle
  · exact .inl none
  · exact .inr (.inl (by rw [Semaphore.cancel, Waiters.given_cancel]; exact given))
  · exact .inr (.inr (idle.cancel i))

/-- A task which cannot have a permit at once finds none, or somebody before it. -/
theorem Fair.acquire {acquired : Bool} (fair : s.Fair) (tried : s.acquire w = (acquired, s')) : s'.Fair := by
  unfold Semaphore.acquire at tried
  split at tried
  · next locked =>
      cases tried
      refine ⟨fair.ordered.append w, ?_⟩
      change s.value = 0 ∨ 0 < Waiters.given (s.waiters ++ [(w, .pending)]) ∨ _
      rw [Waiters.given_append_pending]
      rcases Bool.or_eq_true_iff.mp locked with none | ahead
      · exact .inl (of_decide_eq_true none)
      · rcases fair.awake with none | given | idle
        · exact .inl none
        · exact .inr (.inl given)
        · rw [Bool.not_eq_true', Waiters.allCancelled, List.all_eq_false] at ahead
          obtain ⟨other, member, running⟩ := ahead
          have handed : other.2.given = true := by
            have waits := idle other member
            cases future : other.2 with
            | pending => exact absurd future waits
            | done => rfl
            | revoked => rfl
            | cancelled => exact absurd (decide_eq_true future) running
          exact .inr (.inl (Waiters.given_pos member handed))
  · next free =>
      cases tried
      rw [locked, Bool.or_eq_true, not_or, Bool.not_eq_true', Bool.not_eq_false] at free
      exact ⟨fair.ordered, .inr (.inr (Waiters.idle_of_allCancelled free.2))⟩

theorem Fair.resume {acquired : Bool} (fair : s.Fair) (resumed : s.resume i = some (w, acquired, s')) : s'.Fair := by
  have rest := fair.ordered.eraseIdx i
  unfold Semaphore.resume at resumed
  cases here : s.waiters[i]? with
  | none =>
      rw [here] at resumed
      cases resumed
  | some waiter =>
      obtain ⟨w', fut⟩ := waiter
      rw [here] at resumed
      cases fut with
      | pending => cases resumed
      | done =>
          cases resumed
          split
          · exact fair_wake_up_next (s := { s with waiters := s.waiters.eraseIdx i }) rest
          · next spent => exact ⟨rest, .inl (Nat.eq_zero_of_not_pos spent)⟩
      | cancelled =>
          cases resumed
          refine ⟨rest, ?_⟩
          have kept : s.waiters.given = Waiters.given (s.waiters.eraseIdx i) := countP_eraseIdx here _
          rcases fair.awake with none | given | idle
          · exact .inl none
          · exact .inr (.inl (kept ▸ given))
          · exact .inr (.inr fun v member => idle v (List.mem_of_mem_eraseIdx member))
      | revoked =>
          cases resumed
          exact fair_wake_up_next (s := ⟨s.value + 1, s.waiters.eraseIdx i⟩) rest

/-- Where nobody is about to run and somebody waits, no permit is free. -/
theorem Fair.none_free (fair : s.Fair) (quiet : ∀ w ∈ s.waiters, w.2.given = false)
    (waits : ∃ w ∈ s.waiters, w.2 = .pending) : s.free = 0 := by
  have handed : s.waiters.given = 0 := by
    apply List.countP_eq_zero.mpr
    intro w member given
    rw [quiet w member] at given
    cases given
  rcases fair.awake with none | given | idle
  · rw [free, none, handed]
  · exact absurd handed (Nat.pos_iff_ne_zero.mp given)
  · obtain ⟨w, member, pending⟩ := waits
    exact absurd pending (idle w member)

end Semaphore

end Asyncio
