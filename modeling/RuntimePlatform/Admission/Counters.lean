import RuntimePlatform.Admission.Controller

/-!
What the counters of a controller count. Every section that raises or lowers one belongs to a
task which is somewhere, or has given it up; so the counters are the numbers of tasks in their
places, for any answers of Redis and any cancellations.
-/

namespace RuntimePlatform.Admission
open Asyncio Runs
open Chat (AdmissionMode)

variable {ρ κ : Type} [DecidableEq κ]

/-- How many tasks want a section of a kind: those at the lock, and those which gave it up. -/
def Process.wanting (s : Process ρ κ) (p : Want ρ → Bool) : ℕ := s.lock.waiters.tasks.countP p + s.lost.countP p

/-- The running task, if it wants a section of a kind. -/
def owing (hand : Option (Want ρ)) (p : Want ρ → Bool) : ℕ := hand.toList.countP p

/-- The tasks in the queue of a scope's semaphore. -/
def Process.waiting (s : Process ρ κ) (k : κ) : ℕ :=
  ((s.semaphores k).map fun sem => sem.waiters.tasks.length).getD 0

namespace Limits
variable (L : Limits ρ κ)

def inScope (k : κ) (request : ρ) : Bool := decide (L.scope_key request = k)

/-- One for the scope of the request. -/
def here (k : κ) (request : ρ) : ℕ := if L.scope_key request = k then 1 else 0

/-- The section lowers `queued` of the scope. -/
def ticketOf (k : κ) : Want ρ → Bool
  | .settle request _ | .settle_local request _ _ => L.inScope k request
  | _ => false

/-- The section lowers `inflight` of the scope. -/
def slotOf (k : κ) : Want ρ → Bool
  | .leave lease => L.inScope k lease.request
  | _ => false

/-- The task in the section has a permit of the scope's semaphore. -/
def permitOf (k : κ) : Want ρ → Bool
  | .settle_local request _ true => L.inScope k request
  | _ => false

def occupies (k : κ) (lease : Granted ρ) : Bool := decide (lease.mode ≠ .fail_open) && L.inScope k lease.request

def usesPermit (k : κ) (lease : Granted ρ) : Bool :=
  decide (lease.mode = .local_ ∨ lease.mode = .degraded) && L.inScope k lease.request

variable (hand : Option (Want ρ)) (s : Process ρ κ) (k : κ)

/-- The tasks which have counted themselves in `queued`. -/
def tickets : ℕ :=
  s.wanting (L.ticketOf k) + s.acquiring.countP (fun wait => L.inScope k wait.request) +
    s.sleeping.countP (fun wait => L.inScope k wait.request) + s.waiting k

/-- The leases which have counted themselves in `inflight`. -/
def slots : ℕ :=
  s.wanting (L.slotOf k) + s.held.countP (L.occupies k) + s.releasing.countP (fun lease => L.inScope k lease.request)

/-- The permits of the scope's semaphore which tasks have. -/
def permitsOut : ℕ := s.wanting (L.permitOf k) + s.held.countP (L.usesPermit k)

/-- The semaphore of a scope has all its permits, free or out, and only tasks of the scope in its queue. -/
def Conserves (sem : Semaphore (ρ × LocalMode)) (k : κ) (out : ℕ) : Prop :=
  (∃ request, L.scope_key request = k ∧ sem.free + out = L.permits request) ∧
    ∀ w ∈ sem.waiters.tasks, L.scope_key w.1 = k

/-- The counters count, and no permit is lost. -/
structure Counts : Prop where
  queued : ∀ k, s.queued k = L.tickets s k + owing hand (L.ticketOf k)
  inflight : ∀ k, s.inflight k = L.slots s k + owing hand (L.slotOf k)
  permits : ∀ k sem, s.semaphores k = some sem → L.Conserves sem k (L.permitsOut s k + owing hand (L.permitOf k))
  unmade : ∀ k, s.semaphores k = none → L.permitsOut s k + owing hand (L.permitOf k) = 0

/-- Between the sections: a task which probes is the one inside the lock, and what it has read is still so. -/
structure Between : Prop extends L.Counts hand s where
  exclusive : s.lock.Exclusive
  inside : s.probing.length = if s.lock.locked = true then 1 else 0
  read : ∀ p ∈ s.probing, p.2 = s.queued (L.scope_key p.1)

/-- The running task is inside the lock, for the section which it wants. -/
structure Inside (w : Want ρ) : Prop extends L.Counts (some w) s where
  exclusive : s.lock.Exclusive
  locked : s.lock.locked = true
  alone : s.probing = []

end Limits

/-! What an operation changes of the numbers. -/
section Numbers
variable {L : Limits ρ κ} {s : Process ρ κ} {w : Want ρ} {request : ρ} {k : κ}

theorem Limits.here_eq (L : Limits ρ κ) (k : κ) (request : ρ) :
    (if L.inScope k request = true then 1 else 0) = L.here k request := by
  unfold Limits.inScope Limits.here
  simp only [decide_eq_true_eq]

omit [DecidableEq κ] in
theorem owing_none (p : Want ρ → Bool) : owing none p = 0 := rfl

omit [DecidableEq κ] in
theorem owing_some (w : Want ρ) (p : Want ρ → Bool) : owing (some w) p = if p w = true then 1 else 0 := by
  unfold owing
  rw [Option.toList_some, List.countP_singleton]

omit [DecidableEq κ] in
theorem owing_not {p : Want ρ → Bool} (other : p w = false) : owing (some w) p = 0 := by
  rw [owing_some, other]
  rfl

theorem owing_here {p : Want ρ → Bool} (own : p w = L.inScope k request) : owing (some w) p = L.here k request := by
  rw [owing_some, own, L.here_eq]

theorem update_succ (f : κ → ℕ) (a k : κ) : Function.update f a (f a + 1) k = f k + if a = k then 1 else 0 := by
  rw [Function.update_apply]
  by_cases same : a = k
  · rw [if_pos same.symm, if_pos same, same]
  · rw [if_neg (Ne.symm same), if_neg same, Nat.add_zero]

theorem update_pred (f : κ → ℕ) (a k : κ) : Function.update f a (f a - 1) k = f k - if a = k then 1 else 0 := by
  rw [Function.update_apply]
  by_cases same : a = k
  · rw [if_pos same.symm, if_pos same, same]
  · rw [if_neg (Ne.symm same), if_neg same, Nat.sub_zero]

theorem queued_addQueued : (L.addQueued request s).queued k = s.queued k + L.here k request := update_succ _ _ _

theorem queued_lowerQueued : (L.lowerQueued request s).queued k = s.queued k - L.here k request := update_pred _ _ _

theorem inflight_addInflight : (L.addInflight request s).inflight k = s.inflight k + L.here k request :=
  update_succ _ _ _

theorem inflight_lowerInflight : (L.lowerInflight request s).inflight k = s.inflight k - L.here k request :=
  update_pred _ _ _

theorem slots_grant {mode : AdmissionMode} (takes : mode ≠ .fail_open) :
    L.slots (s.grant request mode) k = L.slots s k + L.here k request := by
  have own : L.occupies k ⟨request, mode⟩ = L.inScope k request := by
    unfold Limits.occupies
    rw [decide_eq_true takes, Bool.true_and]
  change s.wanting _ + (s.held ++ [(⟨request, mode⟩ : Granted ρ)]).countP _ + s.releasing.countP _ = _
  rw [List.countP_append, List.countP_singleton, own, L.here_eq, Limits.slots]
  omega

theorem slots_grant_fail_open : L.slots (s.grant request .fail_open) k = L.slots s k := by
  change s.wanting _ + (s.held ++ [(⟨request, .fail_open⟩ : Granted ρ)]).countP _ + s.releasing.countP _ = _
  rw [List.countP_append, List.countP_singleton, Limits.slots]
  rfl

theorem permitsOut_grant_local (mode : LocalMode) :
    L.permitsOut (s.grant request mode.mode) k = L.permitsOut s k + L.here k request := by
  have own : L.usesPermit k ⟨request, mode.mode⟩ = L.inScope k request := by cases mode <;> rfl
  change s.wanting _ + (s.held ++ [(⟨request, mode.mode⟩ : Granted ρ)]).countP _ = _
  rw [List.countP_append, List.countP_singleton, own, L.here_eq, Limits.permitsOut]
  omega

theorem permitsOut_grant (mode : AdmissionMode) (other : ¬ (mode = .local_ ∨ mode = .degraded)) :
    L.permitsOut (s.grant request mode) k = L.permitsOut s k := by
  have none : L.usesPermit k ⟨request, mode⟩ = false := by
    unfold Limits.usesPermit
    rw [decide_eq_false other, Bool.false_and]
  change s.wanting _ + (s.held ++ [(⟨request, mode⟩ : Granted ρ)]).countP _ = _
  rw [List.countP_append, List.countP_singleton, none, Limits.permitsOut]
  rfl

/-- Where as many permits are out as before, only the two counters are counted anew. -/
theorem Limits.Counts.transfer {hand hand' : Option (Want ρ)} {s' : Process ρ κ} (counts : L.Counts hand s)
    (queued : ∀ k, s'.queued k = L.tickets s' k + owing hand' (L.ticketOf k))
    (inflight : ∀ k, s'.inflight k = L.slots s' k + owing hand' (L.slotOf k))
    (semaphores : s'.semaphores = s.semaphores)
    (out : ∀ k, L.permitsOut s' k + owing hand' (L.permitOf k) = L.permitsOut s k + owing hand (L.permitOf k)) :
    L.Counts hand' s' := by
  refine ⟨queued, inflight, fun k sem made => ?_, fun k none => ?_⟩
  · rw [out]
    exact counts.permits k sem (semaphores ▸ made)
  · rw [out]
    exact counts.unmade k (semaphores ▸ none)

/-- What the counts depend on. -/
theorem Limits.Counts.congr {hand hand' : Option (Want ρ)} {s' : Process ρ κ} (counts : L.Counts hand s)
    (wanting : ∀ p, s'.wanting p + owing hand' p = s.wanting p + owing hand p)
    (same : { s' with lock := s.lock, lost := s.lost, probing := s.probing, outcomes := s.outcomes } = s) :
    L.Counts hand' s' := by
  obtain ⟨_, _, acquiring, sleeping, semaphores, held, releasing, queued, inflight, _, _⟩ := Process.mk.inj same
  have out : ∀ k, L.permitsOut s' k + owing hand' (L.permitOf k) = L.permitsOut s k + owing hand (L.permitOf k) := by
    intro k
    have moved := wanting (L.permitOf k)
    unfold Limits.permitsOut
    rw [held]
    omega
  refine counts.transfer (fun k => ?_) (fun k => ?_) semaphores out
  · have counted := counts.queued k
    have moved := wanting (L.ticketOf k)
    unfold Limits.tickets Process.waiting at counted ⊢
    rw [acquiring, sleeping, semaphores, queued]
    omega
  · have counted := counts.inflight k
    have moved := wanting (L.slotOf k)
    unfold Limits.slots at counted ⊢
    rw [held, releasing, inflight]
    omega

end Numbers

/-! Every section keeps the counts. -/
section Sections
variable {L : Limits ρ κ} {s : Process ρ κ} {w : Want ρ}

/-- The task gets the lock at once, or waits for it with what it wants. -/
theorem Limits.Between.lockThen {section_ : Process ρ κ → Process ρ κ}
    (between : L.Between (some w) s) (enters : ∀ s', L.Inside s' w → L.Between none (section_ s')) :
    L.Between none (s.lockThen w section_) := by
  unfold Process.lockThen
  cases lock : s.lock.acquire w with
  | mk entered lock' =>
      cases entered with
      | true =>
          obtain ⟨free, exclusive, inside, same⟩ := between.exclusive.acquire_true lock
          have empty := between.inside
          rw [free, if_neg Bool.false_ne_true] at empty
          refine enters _ ⟨?_, exclusive, inside, List.length_eq_zero_iff.mp empty⟩
          refine between.toCounts.congr (fun p => ?_) rfl
          unfold Process.wanting
          rw [same]
      | false =>
          obtain ⟨exclusive, inside, same⟩ := between.exclusive.acquire_false lock
          refine ⟨between.toCounts.congr (fun p => ?_) rfl, exclusive, ?_, between.read⟩
          · unfold Process.wanting owing
            dsimp only
            rw [same, List.countP_append, Option.toList_none, Option.toList_some, List.countP_nil]
            omega
          · dsimp only
            rw [inside]
            exact between.inside

/-- A task which leaves its section has still to count itself out of what it wanted. -/
theorem Limits.Inside.unlock (inside : L.Inside s w) : L.Between (some w) s.unlock ∧ s.unlock.probing = [] := by
  refine ⟨⟨inside.toCounts.congr (fun p => ?_) rfl, inside.exclusive.release, ?_, ?_⟩, inside.alone⟩
  · unfold Process.wanting Process.unlock Lock.release
    dsimp only
    rw [Lock.tasks_wake_up_first]
  · change s.probing.length = _
    rw [inside.alone]
    rfl
  · intro p member
    change p ∈ s.probing at member
    rw [inside.alone] at member
    cases member

theorem Limits.Between.finish {hand : Option (Want ρ)} (between : L.Between hand s) (request : ρ) (outcome : Outcome) :
    L.Between hand (s.finish request outcome) :=
  ⟨between.toCounts.congr (fun _ => rfl) rfl, between.exclusive, between.inside, between.read⟩

/-- The section raises and lowers nothing for its task. -/
def Limits.Uncounted (L : Limits ρ κ) (w : Want ρ) : Prop :=
  ∀ k, L.ticketOf k w = false ∧ L.slotOf k w = false ∧ L.permitOf k w = false

theorem Limits.uncounted_probe (L : Limits ρ κ) (request : ρ) : L.Uncounted (.probe request) :=
  fun _ => ⟨rfl, rfl, rfl⟩

theorem Limits.uncounted_enter_local (L : Limits ρ κ) (request : ρ) (mode : LocalMode) :
    L.Uncounted (.enter_local request mode) := fun _ => ⟨rfl, rfl, rfl⟩

/-- What counts of the running task. -/
theorem Limits.Counts.recount {hand hand' : Option (Want ρ)} (counts : L.Counts hand s)
    (same : ∀ k, owing hand (L.ticketOf k) = owing hand' (L.ticketOf k) ∧
      owing hand (L.slotOf k) = owing hand' (L.slotOf k) ∧ owing hand (L.permitOf k) = owing hand' (L.permitOf k)) :
    L.Counts hand' s := by
  refine ⟨fun k => ?_, fun k => ?_, fun k sem made => ?_, fun k none => ?_⟩
  · rw [← (same k).1]
    exact counts.queued k
  · rw [← (same k).2.1]
    exact counts.inflight k
  · rw [← (same k).2.2]
    exact counts.permits k sem made
  · rw [← (same k).2.2]
    exact counts.unmade k none

theorem Limits.Uncounted.counts (uncounted : L.Uncounted w) : L.Counts (some w) s ↔ L.Counts none s := by
  have nothing : ∀ k, owing (some w) (L.ticketOf k) = 0 ∧ owing (some w) (L.slotOf k) = 0 ∧
      owing (some w) (L.permitOf k) = 0 := fun k =>
    ⟨owing_not (uncounted k).1, owing_not (uncounted k).2.1, owing_not (uncounted k).2.2⟩
  exact ⟨fun counts => counts.recount nothing, fun counts => counts.recount fun k =>
    ⟨(nothing k).1.symm, (nothing k).2.1.symm, (nothing k).2.2.symm⟩⟩

theorem Limits.Uncounted.between (uncounted : L.Uncounted w) : L.Between (some w) s ↔ L.Between none s :=
  ⟨fun ⟨counts, exclusive, inside, read⟩ => ⟨uncounted.counts.mp counts, exclusive, inside, read⟩,
    fun ⟨counts, exclusive, inside, read⟩ => ⟨uncounted.counts.mpr counts, exclusive, inside, read⟩⟩

/-- The end of `_acquire_local`: the ticket becomes a lease with its permit, or goes with the task. -/
theorem Limits.Inside.settleLocalSection {request : ρ} {mode : LocalMode} {acquired : Bool}
    (inside : L.Inside s (.settle_local request mode acquired)) :
    L.Between none (L.settleLocalSection request mode acquired s) := by
  obtain ⟨⟨counts, exclusive, open_, _⟩, alone⟩ := inside.unlock
  have lowered : ∀ k, (L.lowerQueued request s.unlock).queued k = L.tickets s.unlock k + 0 := by
    intro k
    have counted := counts.queued k
    rw [owing_here rfl] at counted
    rw [queued_lowerQueued, counted]
    omega
  have unread : ∀ p ∈ s.unlock.probing, p.2 = (L.lowerQueued request s.unlock).queued (L.scope_key p.1) := by
    rw [alone]
    exact fun _ none => nomatch none
  cases acquired with
  | true =>
      have takes : mode.mode ≠ .fail_open := by cases mode <;> decide
      refine ⟨counts.transfer lowered (fun k => ?_) rfl fun k => ?_, exclusive, open_, unread⟩
      · have counted := counts.inflight k
        rw [owing_not rfl] at counted
        change (L.addInflight request s.unlock).inflight k = L.slots (s.unlock.grant request mode.mode) k + 0
        rw [inflight_addInflight, counted, slots_grant takes]
        omega
      · rw [owing_here rfl]
        exact permitsOut_grant_local mode
  | false =>
      refine ⟨counts.transfer lowered (fun k => ?_) rfl fun k => ?_, exclusive, open_, unread⟩
      · have counted := counts.inflight k
        rw [owing_not rfl] at counted
        exact counted
      · rw [owing_not rfl]
        rfl

theorem Limits.Between.settleLocal {request : ρ} {mode : LocalMode} {acquired : Bool}
    (between : L.Between (some (.settle_local request mode acquired)) s) :
    L.Between none (L.settleLocal request mode acquired s) :=
  between.lockThen fun _ inside => inside.settleLocalSection

omit [DecidableEq κ] in
theorem waiting_local_semaphore (L : Limits ρ κ) (request : ρ) (s : Process ρ κ) :
    s.waiting (L.scope_key request) = (L.local_semaphore request s).waiters.tasks.length := by
  unfold Process.waiting Limits.local_semaphore
  cases s.semaphores (L.scope_key request) <;> rfl

/-- The semaphore of a scope, made now or before, has all its permits. -/
theorem Limits.Counts.local_semaphore {hand : Option (Want ρ)} (counts : L.Counts hand s) (request : ρ) :
    L.Conserves (L.local_semaphore request s) (L.scope_key request)
      (L.permitsOut s (L.scope_key request) + owing hand (L.permitOf (L.scope_key request))) := by
  unfold Limits.local_semaphore
  cases made : s.semaphores (L.scope_key request) with
  | none =>
      rw [counts.unmade _ made]
      exact ⟨⟨request, rfl, rfl⟩, fun _ none => nomatch none⟩
  | some sem => exact counts.permits _ sem made

/-- A semaphore with the same permits, where the tasks of its queue and the running one hold the same tickets. -/
theorem Limits.Between.put {hand hand' : Option (Want ρ)} (between : L.Between hand s) {request : ρ}
    {sem : Semaphore (ρ × LocalMode)}
    (conserves : L.Conserves sem (L.scope_key request)
      (L.permitsOut s (L.scope_key request) + owing hand' (L.permitOf (L.scope_key request))))
    (tickets : sem.waiters.tasks.length + owing hand' (L.ticketOf (L.scope_key request)) =
      s.waiting (L.scope_key request) + owing hand (L.ticketOf (L.scope_key request)))
    (slots : ∀ k, owing hand' (L.slotOf k) = owing hand (L.slotOf k))
    (elsewhere : ∀ k, k ≠ L.scope_key request → owing hand' (L.ticketOf k) = owing hand (L.ticketOf k) ∧
      owing hand' (L.permitOf k) = owing hand (L.permitOf k)) : L.Between hand' (L.putSemaphore request sem s) := by
  obtain ⟨⟨queued, inflight, permits, unmade⟩, exclusive, inside, read⟩ := between
  have made : ∀ k, (L.putSemaphore request sem s).semaphores k =
      if k = L.scope_key request then some sem else s.semaphores k := fun k => Function.update_apply _ _ _ _
  refine ⟨⟨fun k => ?_, fun k => ?_, fun k sem' found => ?_, fun k none => ?_⟩, exclusive, inside, read⟩
  · have counted := queued k
    change s.queued k = s.wanting _ + s.acquiring.countP _ + s.sleeping.countP _ +
      (L.putSemaphore request sem s).waiting k + _
    change s.queued k = s.wanting _ + s.acquiring.countP _ + s.sleeping.countP _ + s.waiting k + _ at counted
    by_cases here : k = L.scope_key request
    · subst here
      have now : (L.putSemaphore request sem s).waiting (L.scope_key request) = sem.waiters.tasks.length := by
        unfold Process.waiting
        rw [made, if_pos rfl]
        rfl
      omega
    · have now : (L.putSemaphore request sem s).waiting k = s.waiting k := by
        unfold Process.waiting
        rw [made, if_neg here]
      rw [now, (elsewhere k here).1]
      exact counted
  · rw [slots k]
    exact inflight k
  · rw [made] at found
    change L.Conserves sem' k (L.permitsOut s k + _)
    by_cases here : k = L.scope_key request
    · subst here
      rw [if_pos rfl] at found
      cases found
      exact conserves
    · rw [if_neg here] at found
      rw [(elsewhere k here).2]
      exact permits k sem' found
  · rw [made] at none
    change L.permitsOut s k + _ = 0
    by_cases here : k = L.scope_key request
    · rw [if_pos here] at none
      cases none
    · rw [if_neg here] at none
      rw [(elsewhere k here).2]
      exact unmade k none

theorem here_ne {request : ρ} {k : κ} (different : k ≠ L.scope_key request) : L.here k request = 0 :=
  if_neg (Ne.symm different)

theorem here_self (L : Limits ρ κ) (request : ρ) : L.here (L.scope_key request) request = 1 := if_pos rfl

/-- The test of `_acquire_local` lets the task through with a ticket. -/
theorem Limits.Between.addQueued (between : L.Between none s) (alone : s.probing = []) (request : ρ)
    (mode : LocalMode) : L.Between (some (.settle_local request mode false)) (L.addQueued request s) := by
  obtain ⟨⟨queued, inflight, permits, unmade⟩, exclusive, inside, _⟩ := between
  refine ⟨⟨fun k => ?_, inflight, permits, unmade⟩, exclusive, inside, ?_⟩
  · rw [queued_addQueued, queued, owing_here rfl]
    rfl
  · intro p member
    change p ∈ s.probing at member
    rw [alone] at member
    cases member

theorem Limits.Inside.enterLocalSection {request : ρ} {mode : LocalMode}
    (inside : L.Inside s (.enter_local request mode)) :
    L.Between none (L.enterLocalSection request mode s) := by
  obtain ⟨wanted, alone⟩ := inside.unlock
  have between := (L.uncounted_enter_local request mode).between.mp wanted
  unfold Limits.enterLocalSection
  split
  · exact between.finish _ _
  · have ticketed := between.addQueued alone request mode
    have made := ticketed.toCounts.local_semaphore request
    have queue := waiting_local_semaphore L request (L.addQueued request s.unlock)
    have left : (L.addQueued request s).unlock = L.addQueued request s.unlock := rfl
    dsimp only
    rw [left]
    rw [owing_not rfl] at made
    cases tried : (L.local_semaphore request (L.addQueued request s.unlock)).acquire (request, mode) with
    | mk entered sem =>
        obtain ⟨⟨maker, same, total⟩, inQueue⟩ := made
        cases entered with
        | true =>
            obtain ⟨tasks, less⟩ := Semaphore.acquire_true tried
            refine Limits.Between.settleLocal (ticketed.put ⟨⟨maker, same, ?_⟩, tasks ▸ inQueue⟩ ?_ (fun _ => rfl) ?_)
            · rw [owing_here rfl, here_self]
              omega
            · rw [tasks, queue]
              rfl
            · intro k different
              refine ⟨rfl, ?_⟩
              rw [owing_here rfl, here_ne different]
              rfl
        | false =>
            obtain ⟨tasks, kept⟩ := Semaphore.acquire_false tried
            refine ticketed.put ⟨⟨maker, same, ?_⟩, ?_⟩ ?_ (fun _ => rfl) ?_
            · rw [owing_none]
              omega
            · intro waiter member
              rw [tasks] at member
              rcases List.mem_append.mp member with older | new
              · exact inQueue waiter older
              · rw [List.mem_singleton.mp new]
            · rw [tasks, queue, owing_here rfl, here_self, List.length_append]
              rfl
            · intro k different
              refine ⟨?_, rfl⟩
              rw [owing_here rfl, here_ne different]
              rfl

theorem Limits.Between.acquire_local (between : L.Between none s) (request : ρ) (mode : LocalMode) :
    L.Between none (L.acquire_local request mode s) := by
  have made := between.toCounts.local_semaphore request
  have queue := waiting_local_semaphore L request s
  have put := between.put made (congrArg (· + _) queue.symm) (fun _ => rfl) fun _ _ => ⟨rfl, rfl⟩
  exact ((L.uncounted_enter_local request mode).between.mpr put).lockThen fun _ inside => inside.enterLocalSection

theorem Limits.Between.acquire_unavailable (between : L.Between none s) (request : ρ) :
    L.Between none (L.acquire_unavailable request s) := by
  unfold Limits.acquire_unavailable
  split
  · exact between.finish _ _
  · obtain ⟨counts, exclusive, inside, read⟩ := between
    refine ⟨counts.transfer counts.queued (fun k => ?_) rfl fun k => ?_, exclusive, inside, read⟩
    · rw [slots_grant_fail_open]
      exact counts.inflight k
    · rw [permitsOut_grant .fail_open (by decide)]
  · exact between.acquire_local request .degraded

/-- The ticket of a task is given back. -/
theorem Limits.Between.lowerQueued {request : ρ} {ended : Ended} (between : L.Between (some (.settle request ended)) s)
    (alone : s.probing = []) : L.Between none (L.lowerQueued request s) := by
  obtain ⟨counts, exclusive, inside, _⟩ := between
  refine ⟨counts.transfer (fun k => ?_) (fun k => ?_) rfl fun k => ?_, exclusive, inside, ?_⟩
  · have counted := counts.queued k
    rw [owing_here rfl] at counted
    rw [queued_lowerQueued, counted]
    change _ = L.tickets s k + 0
    omega
  · have counted := counts.inflight k
    rw [owing_not rfl] at counted
    exact counted
  · rw [owing_not rfl]
    rfl
  · intro p member
    change p ∈ s.probing at member
    rw [alone] at member
    cases member

theorem Limits.Inside.settleSection {request : ρ} {ended : Ended} (inside : L.Inside s (.settle request ended)) :
    L.Between none (L.settleSection request ended s) := by
  obtain ⟨wanted, alone⟩ := inside.unlock
  have between := wanted.lowerQueued alone
  cases ended with
  | granted =>
      obtain ⟨counts, exclusive, open_, read⟩ := between
      refine ⟨counts.transfer counts.queued (fun k => ?_) rfl fun k => ?_, exclusive, open_, read⟩
      · have counted := counts.inflight k
        change (L.addInflight request (L.lowerQueued request s.unlock)).inflight k =
          L.slots ((L.lowerQueued request s.unlock).grant request .redis) k + 0
        rw [inflight_addInflight, counted, slots_grant (by decide : AdmissionMode.redis ≠ .fail_open)]
        rfl
      · exact congrArg (· + 0) (permitsOut_grant .redis (by decide))
  | rejected => exact between.finish _ _
  | failed => exact between.acquire_unavailable request
  | cancelled => exact between.finish _ _

theorem Limits.Between.settle {request : ρ} {ended : Ended} (between : L.Between (some (.settle request ended)) s) :
    L.Between none (L.settle request ended s) := between.lockThen fun _ inside => inside.settleSection

theorem Limits.Inside.probeSection {request : ρ} (inside : L.Inside s (.probe request)) :
    L.Between none (L.probeSection request s) := by
  obtain ⟨⟨queued, inflight, permits, unmade⟩, exclusive, locked, alone⟩ := inside
  refine ⟨⟨queued, inflight, permits, unmade⟩, exclusive, ?_, ?_⟩
  · change (s.probing ++ [_]).length = if s.lock.locked = true then 1 else 0
    rw [alone, locked]
    rfl
  · intro p member
    change p ∈ s.probing ++ [_] at member
    rw [alone] at member
    rw [List.mem_singleton.mp member]
    rfl

theorem Limits.Inside.leaveSection {lease : Granted ρ} (inside : L.Inside s (.leave lease)) :
    L.Between none (L.leaveSection lease s) := by
  obtain ⟨⟨⟨queued, inflight, permits, unmade⟩, exclusive, open_, read⟩, _⟩ := inside.unlock
  refine ⟨⟨queued, fun k => ?_, permits, unmade⟩, exclusive, open_, read⟩
  have counted := inflight k
  rw [owing_here rfl] at counted
  change (L.lowerInflight lease.request s.unlock).inflight k = L.slots s.unlock k + 0
  rw [inflight_lowerInflight, counted]
  omega

theorem Limits.Between.leave {lease : Granted ρ} (between : L.Between (some (.leave lease)) s) :
    L.Between none (L.leave lease s) := between.lockThen fun _ inside => inside.leaveSection

theorem Limits.Inside.enter (inside : L.Inside s w) : L.Between none (L.enter w s) := by
  cases w with
  | probe request => exact inside.probeSection
  | settle request ended => exact inside.settleSection
  | enter_local request mode => exact inside.enterLocalSection
  | settle_local request mode acquired => exact inside.settleLocalSection
  | leave lease => exact inside.leaveSection

/-- A task which gives its section up goes on counting. -/
theorem Limits.Between.giveUp (between : L.Between (some w) s) : L.Between none (Process.giveUp w s) := by
  have kept : L.Between none { s with lost := s.lost ++ [w] } := by
    refine ⟨between.toCounts.congr (fun p => ?_) rfl, between.exclusive, between.inside, between.read⟩
    unfold Process.wanting owing
    dsimp only
    rw [List.countP_append, Option.toList_none, Option.toList_some, List.countP_nil]
    omega
  cases w with
  | probe request =>
      exact ((L.uncounted_probe request).between.mp between).finish _ _
  | settle request ended => exact kept.finish _ _
  | enter_local request mode =>
      exact ((L.uncounted_enter_local request mode).between.mp between).finish _ _
  | settle_local request mode acquired => exact kept.finish _ _
  | leave lease => exact kept

end Sections

/-! Every step keeps the counts. -/
section Steps
variable {L : Limits ρ κ} {s : Process ρ κ}

theorem Limits.Between.acquire_lease (between : L.Between none s) (request : ρ) :
    L.Between none (L.acquire_lease request s) := by
  unfold Limits.acquire_lease
  split
  · exact ((L.uncounted_probe request).between.mpr between).lockThen fun _ inside => inside.probeSection
  · exact between.acquire_local request .local_

/-- The probing task is the one inside the lock. -/
theorem Limits.Between.probing {i : ℕ} {request : ρ} {queued : ℕ} (between : L.Between none s)
    (here : s.probing[i]? = some (request, queued)) :
    L.Inside { s with probing := s.probing.eraseIdx i } (.probe request) ∧ queued = s.queued (L.scope_key request) := by
  have member := List.mem_of_getElem? here
  have one := between.inside
  cases locked : s.lock.locked with
  | false =>
      rw [locked, if_neg Bool.false_ne_true, List.length_eq_zero_iff] at one
      rw [one] at member
      cases member
  | true =>
      rw [locked, if_pos rfl] at one
      obtain ⟨p, single⟩ := List.length_eq_one_iff.mp one
      have zero : i = 0 := by
        obtain ⟨inside, _⟩ := List.getElem?_eq_some_iff.mp here
        rw [single] at inside
        exact Nat.lt_one_iff.mp inside
      refine ⟨⟨?_, between.exclusive, locked, ?_⟩, between.read _ member⟩
      · exact ((L.uncounted_probe request).counts.mpr between.toCounts).congr (fun _ => rfl) rfl
      · rw [single, zero]
        rfl

theorem Limits.Between.probed {i : ℕ} {request : ρ} {queued : ℕ} (between : L.Between none s)
    (here : s.probing[i]? = some (request, queued)) (reply : Reply ℕ) :
    L.Between none (L.probed request queued reply { s with probing := s.probing.eraseIdx i }) := by
  obtain ⟨inside, rfl⟩ := between.probing here
  obtain ⟨wanted, alone⟩ := inside.unlock
  have free := (L.uncounted_probe request).between.mp wanted
  unfold Limits.probed
  cases reply with
  | raised => exact free.acquire_unavailable request
  | cancelled => exact free.finish _ _
  | answered inflight =>
      dsimp only
      split
      · exact free.finish _ _
      · obtain ⟨⟨queued, inflight, permits, unmade⟩, exclusive, open_, read⟩ := free
        refine ⟨⟨fun k => ?_, inflight, permits, unmade⟩, exclusive, open_, ?_⟩
        · have counted := queued k
          change s.queued k =
            s.unlock.wanting _ + s.acquiring.countP _ + s.sleeping.countP _ + s.waiting k + 0 at counted
          change (L.addQueued request s).queued k = s.unlock.wanting _ + (s.acquiring ++ [_]).countP _ +
            s.sleeping.countP _ + s.waiting k + 0
          rw [queued_addQueued, counted, List.countP_append, List.countP_singleton, L.here_eq]
          dsimp only
          omega
        · intro p member
          change p ∈ s.probing.eraseIdx i at member
          have empty : s.probing.eraseIdx i = [] := alone
          rw [empty] at member
          cases member

/-- A task of the fleet's queue comes off its place. -/
theorem Limits.Between.acquiring {i : ℕ} {wait : FleetWait ρ} (between : L.Between none s)
    (here : s.acquiring[i]? = some wait) (ended : Ended) :
    L.Between (some (.settle wait.request ended)) { s with acquiring := s.acquiring.eraseIdx i } := by
  obtain ⟨⟨queued, inflight, permits, unmade⟩, exclusive, inside, read⟩ := between
  refine ⟨⟨fun k => ?_, inflight, permits, unmade⟩, exclusive, inside, read⟩
  have counted := queued k
  rw [owing_here rfl]
  change s.queued k = s.wanting _ + s.acquiring.countP _ + s.sleeping.countP _ + s.waiting k + 0 at counted
  change s.queued k = s.wanting _ + (s.acquiring.eraseIdx i).countP _ + s.sleeping.countP _ + s.waiting k + _
  rw [countP_eraseIdx here, L.here_eq] at counted
  omega

theorem Limits.Between.sleeping {i : ℕ} {wait : FleetWait ρ} (between : L.Between none s)
    (here : s.sleeping[i]? = some wait) (ended : Ended) :
    L.Between (some (.settle wait.request ended)) { s with sleeping := s.sleeping.eraseIdx i } := by
  obtain ⟨⟨queued, inflight, permits, unmade⟩, exclusive, inside, read⟩ := between
  refine ⟨⟨fun k => ?_, inflight, permits, unmade⟩, exclusive, inside, read⟩
  have counted := queued k
  rw [owing_here rfl]
  change s.queued k = s.wanting _ + s.acquiring.countP _ + s.sleeping.countP _ + s.waiting k + 0 at counted
  change s.queued k = s.wanting _ + s.acquiring.countP _ + (s.sleeping.eraseIdx i).countP _ + s.waiting k + _
  rw [countP_eraseIdx here, L.here_eq] at counted
  omega

/-- It goes to another of these places instead. -/
theorem Limits.Between.move {request : ρ} {ended : Ended} (between : L.Between (some (.settle request ended)) s)
    (wait' : FleetWait ρ) (same : wait'.request = request) :
    L.Between none { s with acquiring := s.acquiring ++ [wait'] } ∧
      L.Between none { s with sleeping := s.sleeping ++ [wait'] } := by
  obtain ⟨⟨queued, inflight, permits, unmade⟩, exclusive, inside, read⟩ := between
  have moved : ∀ k, s.queued k = L.tickets s k + if L.inScope k wait'.request = true then 1 else 0 := by
    intro k
    have counted := queued k
    rw [owing_here rfl] at counted
    rw [same, L.here_eq]
    exact counted
  refine ⟨⟨⟨fun k => ?_, inflight, permits, unmade⟩, exclusive, inside, read⟩,
    ⟨⟨fun k => ?_, inflight, permits, unmade⟩, exclusive, inside, read⟩⟩
  · have counted := moved k
    change s.queued k = s.wanting _ + s.acquiring.countP _ + s.sleeping.countP _ + s.waiting k + _ at counted
    change s.queued k = s.wanting _ + (s.acquiring ++ [wait']).countP _ + s.sleeping.countP _ + s.waiting k + 0
    rw [List.countP_append, List.countP_singleton]
    omega
  · have counted := moved k
    change s.queued k = s.wanting _ + s.acquiring.countP _ + s.sleeping.countP _ + s.waiting k + _ at counted
    change s.queued k = s.wanting _ + s.acquiring.countP _ + (s.sleeping ++ [wait']).countP _ + s.waiting k + 0
    rw [List.countP_append, List.countP_singleton]
    omega

theorem Limits.Between.acquired {i : ℕ} {wait : FleetWait ρ} (between : L.Between none s)
    (here : s.acquiring[i]? = some wait) (reply : Reply Bool) :
    L.Between none (L.acquired wait reply { s with acquiring := s.acquiring.eraseIdx i }) := by
  unfold Limits.acquired
  cases reply with
  | raised => exact (between.acquiring here .failed).settle
  | cancelled => exact (between.acquiring here .cancelled).settle
  | answered got =>
      cases got with
      | true => exact (between.acquiring here .granted).settle
      | false =>
          dsimp only
          split
          · exact (between.acquiring here .rejected).settle
          · exact ((between.acquiring here .rejected).move { wait with lost := true } rfl).2

theorem semaphores_cancel (s : Process ρ κ) (k : κ) (i : ℕ) (k' : κ) : (s.cancel_semaphore k i).semaphores k' =
    if k' = k then (s.semaphores k).map fun sem => sem.cancel i else s.semaphores k' := Function.update_apply _ _ _ _

/-- A waiter which is cancelled stays in the queue until it runs. -/
theorem waiting_cancel (s : Process ρ κ) (k : κ) (i : ℕ) (k' : κ) :
    (s.cancel_semaphore k i).waiting k' = s.waiting k' := by
  unfold Process.waiting
  rw [semaphores_cancel]
  split
  · next here =>
      rw [here]
      cases s.semaphores k with
      | none => rfl
      | some sem => exact congrArg List.length (Semaphore.cancel_spec sem i).1
  · rfl

theorem Limits.Between.cancel_semaphore (between : L.Between none s) (k : κ) (i : ℕ) :
    L.Between none (s.cancel_semaphore k i) := by
  obtain ⟨⟨queued, inflight, permits, unmade⟩, exclusive, inside, read⟩ := between
  refine ⟨⟨fun k' => ?_, inflight, fun k' sem made => ?_, fun k' none => ?_⟩, exclusive, inside, read⟩
  · have counted := queued k'
    change s.queued k' = s.wanting _ + s.acquiring.countP _ + s.sleeping.countP _ + s.waiting k' + 0 at counted
    change s.queued k' = s.wanting _ + s.acquiring.countP _ + s.sleeping.countP _ + _ + 0
    rw [waiting_cancel]
    exact counted
  · rw [semaphores_cancel] at made
    split at made
    · next here =>
        obtain ⟨before, found, rfl⟩ := Option.map_eq_some_iff.mp made
        subst here
        obtain ⟨⟨maker, own, total⟩, inQueue⟩ := permits k' before found
        obtain ⟨tasks, free⟩ := Semaphore.cancel_spec before i
        exact ⟨⟨maker, own, free ▸ total⟩, tasks ▸ inQueue⟩
    · exact permits k' sem made
  · rw [semaphores_cancel] at none
    split at none
    · next here =>
        subst here
        exact unmade k' (Option.map_eq_none_iff.mp none)
    · exact unmade k' none

theorem Limits.Between.resume_semaphore (between : L.Between none s) (k : κ) (i : ℕ) :
    L.Between none (L.resume_semaphore k i s) := by
  unfold Limits.resume_semaphore
  cases found : (s.semaphores k).bind fun sem => sem.resume i with
  | none => exact between
  | some resumed =>
      obtain ⟨⟨request, mode⟩, acquired, sem'⟩ := resumed
      obtain ⟨sem, made, resumed⟩ := Option.bind_eq_some_iff.mp found
      obtain ⟨⟨maker, own, total⟩, inQueue⟩ := between.permits k sem made
      obtain ⟨there, rest, free⟩ := Semaphore.resume_spec resumed
      obtain rfl : L.scope_key request = k := inQueue _ (List.mem_of_getElem? there)
      refine Limits.Between.settleLocal (between.put ⟨⟨maker, own, ?_⟩, ?_⟩ ?_ (fun _ => rfl) ?_)
      · cases acquired with
        | true =>
            rw [owing_here rfl, here_self]
            rw [if_pos rfl] at free
            change sem.free + (_ + 0) = _ at total
            omega
        | false =>
            rw [owing_not rfl]
            rw [if_neg Bool.false_ne_true] at free
            change sem.free + (_ + 0) = _ at total
            omega
      · intro waiter member
        rw [rest] at member
        exact inQueue waiter (List.mem_of_mem_eraseIdx member)
      · obtain ⟨inside, _⟩ := List.getElem?_eq_some_iff.mp there
        have queue : s.waiting (L.scope_key request) = sem.waiters.tasks.length := by
          unfold Process.waiting
          rw [made]
          rfl
        rw [rest, List.length_eraseIdx_of_lt inside, owing_here rfl, here_self, queue]
        change _ = sem.waiters.tasks.length + 0
        omega
      · intro k' different
        refine ⟨?_, ?_⟩
        · rw [owing_here rfl, here_ne different]
          rfl
        · cases acquired with
          | true =>
              rw [owing_here rfl, here_ne different]
              rfl
          | false => rw [owing_not rfl, owing_none]

theorem Limits.Between.wake {i : ℕ} (between : L.Between none s) (cancelled : Bool) :
    L.Between none (L.wake i cancelled s) := by
  unfold Limits.wake
  cases here : s.sleeping[i]? with
  | none => exact between
  | some wait =>
      dsimp only
      split
      · exact (between.sleeping here .cancelled).settle
      · exact ((between.sleeping here .cancelled).move wait rfl).1

theorem Limits.Between.cancel_lock (between : L.Between none s) (i : ℕ) : L.Between none (s.cancel_lock i) := by
  have cancelled : L.Between none { s with lock := s.lock.cancel i } := by
    refine ⟨between.toCounts.congr (fun p => ?_) rfl, between.exclusive.cancel i, between.inside, between.read⟩
    unfold Process.wanting Lock.cancel
    dsimp only
    rw [Waiters.tasks_cancel]
  unfold Process.cancel_lock
  split
  · exact between
  · exact between
  · exact cancelled

theorem Limits.Between.resume_lock (between : L.Between none s) (i : ℕ) : L.Between none (L.resume_lock i s) := by
  unfold Limits.resume_lock
  cases resumed : s.lock.resume i with
  | none => exact between
  | some outcome =>
      obtain ⟨w, entered, lock⟩ := outcome
      -- The waiter leaves the queue with what it wants.
      have taken : ∀ {lock : Lock (Want ρ)}, s.lock.waiters.tasks[i]? = some w →
          lock.waiters.tasks = s.lock.waiters.tasks.eraseIdx i → L.Counts (some w) { s with lock } := by
        intro lock there rest
        refine between.toCounts.congr (fun p => ?_) rfl
        rw [owing_some, owing_none]
        unfold Process.wanting
        rw [countP_eraseIdx there]
        dsimp only
        rw [rest]
        omega
      cases entered with
      | true =>
          obtain ⟨free, exclusive, locked, there, rest⟩ := between.exclusive.resume_true resumed
          have empty := between.inside
          rw [free, if_neg Bool.false_ne_true, List.length_eq_zero_iff] at empty
          exact Limits.Inside.enter ⟨taken there rest, exclusive, locked, empty⟩
      | false =>
          obtain ⟨exclusive, same, there, rest⟩ := between.exclusive.resume_false resumed
          refine Limits.Between.giveUp ⟨taken there rest, exclusive, ?_, between.read⟩
          rw [same]
          exact between.inside

/-- A lease comes off the list of those held. -/
theorem slots_held {i : ℕ} {lease : Granted ρ} (here : s.held[i]? = some lease) (k : κ) :
    L.slots s k = L.slots { s with held := s.held.eraseIdx i } k + if L.occupies k lease = true then 1 else 0 := by
  unfold Limits.slots
  rw [countP_eraseIdx here (L.occupies k)]
  change _ = s.wanting _ + (s.held.eraseIdx i).countP _ + s.releasing.countP _ + _
  omega

theorem permitsOut_held {i : ℕ} {lease : Granted ρ} (here : s.held[i]? = some lease) (k : κ) :
    L.permitsOut s k =
      L.permitsOut { s with held := s.held.eraseIdx i } k + if L.usesPermit k lease = true then 1 else 0 := by
  unfold Limits.permitsOut
  rw [countP_eraseIdx here (L.usesPermit k)]
  change _ = s.wanting _ + (s.held.eraseIdx i).countP _ + _
  omega

theorem putSemaphore_semaphores (L : Limits ρ κ) (request : ρ) (sem : Semaphore (ρ × LocalMode)) (s : Process ρ κ)
    (k : κ) :
    (L.putSemaphore request sem s).semaphores k = if k = L.scope_key request then some sem else s.semaphores k :=
  Function.update_apply _ _ _ _

/-- A lease with a permit gives it back, and then its slot. -/
theorem Limits.Between.giveBack {i : ℕ} {request : ρ} (mode : LocalMode) (between : L.Between none s)
    (here : s.held[i]? = some ⟨request, mode.mode⟩) :
    L.Between (some (.leave ⟨request, mode.mode⟩)) (L.putSemaphore request (L.local_semaphore request s).release
      { s with held := s.held.eraseIdx i }) := by
  have takes : ∀ k, L.occupies k ⟨request, mode.mode⟩ = L.inScope k request := fun k => by cases mode <;> rfl
  have uses : ∀ k, L.usesPermit k ⟨request, mode.mode⟩ = L.inScope k request := fun k => by cases mode <;> rfl
  obtain ⟨tasks, free⟩ := Semaphore.release_spec (L.local_semaphore request s)
  obtain ⟨⟨maker, own, total⟩, inQueue⟩ := between.toCounts.local_semaphore request
  obtain ⟨⟨queued, inflight, permits, unmade⟩, exclusive, inside, read⟩ := between
  refine ⟨⟨fun k => ?_, fun k => ?_, fun k sem made => ?_, fun k none => ?_⟩, exclusive, inside, read⟩
  · have counted := queued k
    have same : (L.putSemaphore request (L.local_semaphore request s).release
        { s with held := s.held.eraseIdx i }).waiting k = s.waiting k := by
      unfold Process.waiting
      rw [putSemaphore_semaphores]
      split
      · next own =>
          subst own
          change (L.local_semaphore request s).release.waiters.tasks.length = s.waiting (L.scope_key request)
          rw [tasks, waiting_local_semaphore]
      · rfl
    rw [owing_not rfl]
    change s.queued k = s.wanting _ + s.acquiring.countP _ + s.sleeping.countP _ + _ + 0
    rw [same]
    exact counted
  · have counted := inflight k
    rw [slots_held here, takes, L.here_eq] at counted
    rw [owing_here rfl]
    exact counted
  · rw [putSemaphore_semaphores] at made
    rw [owing_not rfl]
    change L.Conserves sem k (L.permitsOut { s with held := s.held.eraseIdx i } k + 0)
    have out := permitsOut_held (L := L) here k
    rw [uses, L.here_eq] at out
    split at made
    · next scope =>
        subst scope
        cases made
        rw [here_self] at out
        refine ⟨⟨maker, own, ?_⟩, tasks ▸ inQueue⟩
        change _ + (_ + 0) = _ at total
        omega
    · next scope =>
        have counted := permits k sem made
        rw [here_ne scope] at out
        rw [out] at counted
        exact counted
  · rw [putSemaphore_semaphores] at none
    rw [owing_not rfl]
    change L.permitsOut { s with held := s.held.eraseIdx i } k + 0 = 0
    have out := permitsOut_held (L := L) here k
    split at none
    · cases none
    · have counted := unmade k none
      change L.permitsOut s k + 0 = 0 at counted
      omega

theorem Limits.Between.release_lease (between : L.Between none s) (i : ℕ) : L.Between none (L.release_lease i s) := by
  unfold Limits.release_lease
  cases here : s.held[i]? with
  | none => exact between
  | some lease =>
      obtain ⟨request, mode⟩ := lease
      cases mode with
      | local_ => exact (between.giveBack .local_ here).leave
      | degraded => exact (between.giveBack .degraded here).leave
      | fail_open =>
          obtain ⟨counts, exclusive, inside, read⟩ := between
          refine ⟨counts.transfer counts.queued (fun k => ?_) rfl fun k => ?_, exclusive, inside, read⟩
          · have counted := counts.inflight k
            rw [slots_held here] at counted
            exact counted
          · rw [permitsOut_held here]
            rfl
      | redis =>
          obtain ⟨counts, exclusive, inside, read⟩ := between
          refine ⟨counts.transfer counts.queued (fun k => ?_) rfl fun k => ?_, exclusive, inside, read⟩
          · have counted := counts.inflight k
            have takes : L.occupies k ⟨request, .redis⟩ = L.inScope k request := rfl
            rw [slots_held here, takes] at counted
            change s.inflight k = s.wanting _ + (s.held.eraseIdx i).countP _ + s.releasing.countP _ + _ + 0 at counted
            change s.inflight k = s.wanting _ + (s.held.eraseIdx i).countP _ +
              (s.releasing ++ [(⟨request, .redis⟩ : Granted ρ)]).countP _ + 0
            rw [List.countP_append, List.countP_singleton]
            dsimp only
            omega
          · rw [permitsOut_held here]
            rfl

theorem Limits.Between.release_answered (between : L.Between none s) (i : ℕ) (answered : Bool) :
    L.Between none (L.release_answered i answered s) := by
  unfold Limits.release_answered
  cases here : s.releasing[i]? with
  | none => exact between
  | some lease =>
      have taken : L.Between (some (.leave lease)) { s with releasing := s.releasing.eraseIdx i } := by
        obtain ⟨⟨queued, inflight, permits, unmade⟩, exclusive, inside, read⟩ := between
        refine ⟨⟨queued, fun k => ?_, permits, unmade⟩, exclusive, inside, read⟩
        have counted := inflight k
        rw [owing_here rfl]
        change s.inflight k = s.wanting _ + s.held.countP _ + s.releasing.countP _ + 0 at counted
        change s.inflight k = s.wanting _ + s.held.countP _ + (s.releasing.eraseIdx i).countP _ + _
        rw [countP_eraseIdx here, L.here_eq] at counted
        omega
      dsimp only
      split
      · exact taken.leave
      · exact taken.giveUp

theorem Limits.Between.step (between : L.Between none s) (e : TaskEvent ρ κ) : L.Between none (L.step s e) := by
  cases e with
  | acquire_lease request => exact between.acquire_lease request
  | probed i reply =>
      change L.Between none (L.probe_answered i reply s)
      unfold Limits.probe_answered
      cases here : s.probing[i]? with
      | none => exact between
      | some probe => exact between.probed here reply
  | acquired i reply =>
      change L.Between none (L.acquire_answered i reply s)
      unfold Limits.acquire_answered
      cases here : s.acquiring[i]? with
      | none => exact between
      | some wait => exact between.acquired here reply
  | woke i cancelled => exact between.wake cancelled
  | cancel_lock i => exact between.cancel_lock i
  | resume_lock i => exact between.resume_lock i
  | cancel_semaphore k i => exact between.cancel_semaphore k i
  | resume_semaphore k i => exact between.resume_semaphore k i
  | release i => exact between.release_lease i
  | released i answered => exact between.release_answered i answered

theorem between_new (L : Limits ρ κ) : L.Between none (Process.new : Process ρ κ) := by
  refine ⟨⟨fun k => rfl, fun k => rfl, fun k sem made => ?_, fun k _ => rfl⟩, Lock.exclusive_new, rfl, ?_⟩
  · cases made
  · exact fun _ none => nomatch none

/-- In every run, whatever Redis answers and whoever is cancelled, the counters count the tasks in their places. -/
theorem between_run (L : Limits ρ κ) (events : List (TaskEvent ρ κ)) :
    L.Between none (run L.step Process.new events) := by
  induction events using List.reverseRecOn with
  | nil => exact between_new L
  | append_singleton events e ih =>
      rw [run_append]
      exact ih.step e

end Steps

end RuntimePlatform.Admission
