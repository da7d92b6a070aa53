import RuntimePlatform.Lib.FairQueue
import RuntimePlatform.Admission.LocalAdmission
import RuntimePlatform.Admission.Queues

/-!
The queues of the controllers are fair, whatever Redis answers and whoever is cancelled: the semaphores of a process
move by their own operations only. A controller without Redis lets a request wait only while its limit is used up.
-/

namespace RuntimePlatform.Admission
open Asyncio Runs

variable {ρ κ : Type}

/-- The semaphores of all scopes are fair. -/
def Process.Fair (s : Process ρ κ) : Prop := ∀ k sem, s.semaphores k = some sem → sem.Fair

section Steps
variable {s s' : Process ρ κ}

theorem Process.Fair.congr (fair : s.Fair) (same : s'.semaphores = s.semaphores) : s'.Fair :=
  fun k sem made => fair k sem (same ▸ made)

theorem Process.Fair.lockThen (fair : s.Fair) (w : Want ρ) {section_ : Process ρ κ → Process ρ κ}
    (keeps : ∀ {s : Process ρ κ}, s.Fair → (section_ s).Fair) : (s.lockThen w section_).Fair := by
  unfold Process.lockThen
  split
  · exact keeps (fair.congr rfl)
  · exact fair.congr rfl

variable [DecidableEq κ] {L : Limits ρ κ} (request : ρ)

theorem Process.Fair.update (fair : s.Fair) (k : κ) {sem : Semaphore (ρ × LocalMode)} (moved : sem.Fair) :
    Process.Fair { s with semaphores := Function.update s.semaphores k (some sem) } := by
  intro k' sem' made
  change Function.update s.semaphores k (some sem) k' = some sem' at made
  by_cases own : k' = k
  · subst own
    rw [Function.update_self] at made
    exact Option.some.inj made ▸ moved
  · rw [Function.update_of_ne own] at made
    exact fair k' sem' made

omit [DecidableEq κ] in
theorem Process.Fair.local_semaphore (fair : s.Fair) : (L.local_semaphore request s).Fair := by
  unfold Limits.local_semaphore
  cases made : s.semaphores (L.scope_key request) with
  | none => exact Semaphore.fair_new _
  | some sem => exact fair _ sem made

theorem Process.Fair.settleLocalSection (fair : s.Fair) (mode : LocalMode) (acquired : Bool) :
    (L.settleLocalSection request mode acquired s).Fair := by
  cases acquired with
  | true => exact fair.congr rfl
  | false => exact fair.congr rfl

theorem Process.Fair.settleLocal (fair : s.Fair) (mode : LocalMode) (acquired : Bool) :
    (L.settleLocal request mode acquired s).Fair :=
  fair.lockThen _ fun fair => fair.settleLocalSection request mode acquired

theorem Process.Fair.enterLocalSection (fair : s.Fair) (mode : LocalMode) :
    (L.enterLocalSection request mode s).Fair := by
  unfold Limits.enterLocalSection
  split
  · exact fair.congr rfl
  · have entered : (L.addQueued request s).unlock.Fair := fair.congr rfl
    have own := entered.local_semaphore (L := L) request
    dsimp only
    split
    · next sem tried =>
        have put : (L.putSemaphore request sem (L.addQueued request s).unlock).Fair := entered.update _ (own.acquire tried)
        exact put.settleLocal request mode true
    · next sem tried => exact entered.update _ (own.acquire tried)

theorem Process.Fair.acquire_local (fair : s.Fair) (mode : LocalMode) : (L.acquire_local request mode s).Fair := by
  have put : (L.putSemaphore request (L.local_semaphore request s) s).Fair :=
    fair.update _ (fair.local_semaphore request)
  exact put.lockThen _ fun fair => fair.enterLocalSection request mode

theorem Process.Fair.acquire_unavailable (fair : s.Fair) : (L.acquire_unavailable request s).Fair := by
  unfold Limits.acquire_unavailable
  split
  · exact fair.congr rfl
  · exact fair.congr rfl
  · exact fair.acquire_local request .degraded

theorem Process.Fair.settleSection (fair : s.Fair) (ended : Ended) : (L.settleSection request ended s).Fair := by
  cases ended with
  | granted => exact fair.congr rfl
  | rejected => exact fair.congr rfl
  | failed =>
      have lowered : (L.lowerQueued request s).unlock.Fair := fair.congr rfl
      exact lowered.acquire_unavailable request
  | cancelled => exact fair.congr rfl

theorem Process.Fair.settle (fair : s.Fair) (ended : Ended) : (L.settle request ended s).Fair :=
  fair.lockThen _ fun fair => fair.settleSection request ended

theorem Process.Fair.probed (fair : s.Fair) (queued : ℕ) (reply : Reply ℕ) :
    (L.probed request queued reply s).Fair := by
  cases reply with
  | answered inflight =>
      unfold Limits.probed
      dsimp only
      split
      · exact fair.congr rfl
      · exact fair.congr rfl
  | raised =>
      have left : s.unlock.Fair := fair.congr rfl
      exact left.acquire_unavailable request
  | cancelled => exact fair.congr rfl

theorem Process.Fair.acquired (fair : s.Fair) (wait : FleetWait ρ) (reply : Reply Bool) :
    (L.acquired wait reply s).Fair := by
  cases reply with
  | answered got =>
      cases got with
      | true => exact fair.settle _ .granted
      | false =>
          unfold Limits.acquired
          dsimp only
          split
          · exact fair.settle _ .rejected
          · exact fair.congr rfl
  | raised => exact fair.settle _ .failed
  | cancelled => exact fair.settle _ .cancelled

theorem Process.Fair.leave (fair : s.Fair) (lease : Granted ρ) : (L.leave lease s).Fair :=
  fair.lockThen _ fun fair => fair.congr rfl

theorem Process.Fair.release (fair : s.Fair) (lease : Granted ρ) : (L.release lease s).Fair := by
  have put : (L.putSemaphore lease.request (L.local_semaphore lease.request s).release s).Fair :=
    fair.update _ (fair.local_semaphore lease.request).release
  unfold Limits.release
  split
  · exact put.leave lease
  · exact put.leave lease
  · exact fair
  · exact fair.congr rfl

theorem Process.Fair.enter (fair : s.Fair) (w : Want ρ) : (L.enter w s).Fair := by
  cases w with
  | probe request => exact fair.congr rfl
  | settle request ended => exact fair.settleSection request ended
  | enter_local request mode => exact fair.enterLocalSection request mode
  | settle_local request mode acquired => exact fair.settleLocalSection request mode acquired
  | leave lease => exact fair.congr rfl

omit [DecidableEq κ] in
theorem Process.Fair.giveUp (fair : s.Fair) (w : Want ρ) : (s.giveUp w).Fair := by
  cases w with
  | probe request => exact fair.congr rfl
  | settle request ended => exact fair.congr rfl
  | enter_local request mode => exact fair.congr rfl
  | settle_local request mode acquired => exact fair.congr rfl
  | leave lease => exact fair.congr rfl

/-- No step is unfair. -/
theorem Process.Fair.step (fair : s.Fair) (e : TaskEvent ρ κ) : (L.step s e).Fair := by
  cases e with
  | acquire_lease request =>
      change (L.acquire_lease request s).Fair
      unfold Limits.acquire_lease
      split
      · exact fair.lockThen _ fun fair => fair.congr rfl
      · exact fair.acquire_local request .local_
  | probed i reply =>
      change (L.probe_answered i reply s).Fair
      unfold Limits.probe_answered
      split
      · exact fair
      · apply Process.Fair.probed
        exact fair.congr rfl
  | acquired i reply =>
      change (L.acquire_answered i reply s).Fair
      unfold Limits.acquire_answered
      split
      · exact fair
      · apply Process.Fair.acquired
        exact fair.congr rfl
  | woke i cancelled =>
      change (L.wake i cancelled s).Fair
      unfold Limits.wake
      split
      · exact fair
      · dsimp only
        split
        · apply Process.Fair.settle
          exact fair.congr rfl
        · exact fair.congr rfl
  | cancel_lock i =>
      change (s.cancel_lock i).Fair
      unfold Process.cancel_lock
      split
      · exact fair
      · exact fair
      · exact fair.congr rfl
  | resume_lock i =>
      change (L.resume_lock i s).Fair
      unfold Limits.resume_lock
      split
      · exact fair
      · apply Process.Fair.enter
        exact fair.congr rfl
      · apply Process.Fair.giveUp
        exact fair.congr rfl
  | cancel_semaphore k i =>
      intro k' sem' made
      by_cases own : k' = k
      · subst own
        simp only [Limits.step, Process.cancel_semaphore, Function.update_self] at made
        obtain ⟨sem, found, rfl⟩ := Option.map_eq_some_iff.mp made
        exact (fair k' sem found).cancel i
      · simp only [Limits.step, Process.cancel_semaphore, Function.update_of_ne own] at made
        exact fair k' sem' made
  | resume_semaphore k i =>
      change (L.resume_semaphore k i s).Fair
      unfold Limits.resume_semaphore
      split
      · exact fair
      · next request mode acquired sem resumed =>
          obtain ⟨before, found, left⟩ := Option.bind_eq_some_iff.mp resumed
          exact (fair.update k ((fair k before found).resume left)).settleLocal request mode acquired
  | release i =>
      change (L.release_lease i s).Fair
      unfold Limits.release_lease
      split
      · exact fair
      · apply Process.Fair.release
        exact fair.congr rfl
  | released i answered =>
      change (L.release_answered i answered s).Fair
      unfold Limits.release_answered
      split
      · exact fair
      · dsimp only
        split
        · apply Process.Fair.leave
          exact fair.congr rfl
        · exact fair.congr rfl

end Steps

section Runs
variable [DecidableEq κ] (L : Limits ρ κ) {s : Process ρ κ}

theorem fair_run (events : List (TaskEvent ρ κ)) : (run L.step Process.new events).Fair := by
  induction events using List.reverseRecOn with
  | nil => exact fun _ _ none => nomatch none
  | append_singleton events e ih =>
      rw [run_append]
      exact ih.step e

variable {L}

omit [DecidableEq κ] in
/-- The requests of a scope have one semaphore. -/
theorem local_semaphore_scope (uniform : L.Uniform) {request request' : ρ}
    (own : L.scope_key request' = L.scope_key request) : L.local_semaphore request' s = L.local_semaphore request s := by
  unfold Limits.local_semaphore
  rw [own, uniform request' request own]

/-- A request which comes to a queue goes to its end, or is rejected. -/
theorem acquire_behind (quiet : Quiet s) (process : L.redis = false) {request : ρ}
    (ahead : ∃ w ∈ (L.local_semaphore request s).waiters, w.2 ≠ .cancelled) :
    (L.step s (.acquire_lease request)).held = s.held := by
  change (L.acquire_lease request s).held = s.held
  unfold Limits.acquire_lease
  rw [if_neg (by rw [process]; exact Bool.false_ne_true), acquire_local_new quiet.lock]
  dsimp only
  rw [local_semaphore_putSemaphore]
  have locked : (L.local_semaphore request s).locked = true := by
    obtain ⟨w, member, running⟩ := ahead
    unfold Semaphore.locked
    rw [Bool.or_eq_true, Bool.not_eq_true', Waiters.allCancelled, List.all_eq_false]
    exact .inr ⟨w, member, fun cancelled => running (of_decide_eq_true cancelled)⟩
  unfold Semaphore.acquire
  rw [if_pos locked]
  split
  · rfl
  · rfl

/-- The permit of a lease which is given back goes to the first which waits. -/
theorem release_wakes (quiet : Quiet s) (uniform : L.Uniform) {request : ρ} {i : ℕ} {lease : Granted ρ}
    (here : s.held[i]? = some lease) (own : L.scope_key lease.request = L.scope_key request)
    (waits : ∃ w ∈ (L.local_semaphore request s).waiters, w.2 = .pending) :
    (L.local_semaphore request s).waiters.wake =
      some (L.local_semaphore request (L.step s (.release i))).waiters := by
  have moved : L.local_semaphore request (L.step s (.release i)) = (L.local_semaphore request s).release := by
    rw [← local_semaphore_scope uniform own, ← local_semaphore_scope (s := s) uniform own]
    change L.local_semaphore lease.request (L.release_lease i s) = _
    unfold Limits.release_lease
    rw [here]
    have left : L.local_semaphore lease.request (L.leave lease (L.putSemaphore lease.request
        (L.local_semaphore lease.request s).release { s with held := s.held.eraseIdx i })) =
          (L.local_semaphore lease.request s).release := by
      have free : (L.putSemaphore lease.request (L.local_semaphore lease.request s).release
          { s with held := s.held.eraseIdx i }).lock = Lock.new := quiet.lock
      rw [leave_new free]
      exact local_semaphore_putSemaphore lease.request _ { s with held := s.held.eraseIdx i }
    unfold Limits.release
    rcases quiet.modes lease (List.mem_of_getElem? here) with mode | mode
    · dsimp only
      rw [mode]
      exact left
    · dsimp only
      rw [mode]
      exact left
  rw [moved]
  unfold Semaphore.release Semaphore.wake_up_next
  cases woken : (L.local_semaphore request s).waiters.wake with
  | none =>
      obtain ⟨w, member, pending⟩ := waits
      exact absurd pending (Waiters.wake_eq_none woken w member)
  | some waiters => rfl

/-- Requests wait in turn, for any interleaving and with cancellations wherever a task waits. In every queue the permits
are handed over in the order of arrival. Where there is no Redis nobody gets past a queue, a lease which is given back
goes to the first which waits, and a request waits only while the limit of its scope is used up, unless a permit is on
its way to somebody. -/
theorem waits_in_turn (L : Limits ρ κ) (events : List (TaskEvent ρ κ)) (request : ρ) :
    let s := run L.step Process.new events
    let waiters := (L.local_semaphore request s).waiters
    waiters.Ordered ∧ (L.redis = false → L.Uniform →
      ((∃ w ∈ waiters, w.2 ≠ .cancelled) → ∀ request', L.scope_key request' = L.scope_key request →
        (L.step s (.acquire_lease request')).held = s.held) ∧
      ((∃ w ∈ waiters, w.2 = .pending) → ∀ i lease, s.held[i]? = some lease →
        L.scope_key lease.request = L.scope_key request →
          waiters.wake = some (L.local_semaphore request (L.step s (.release i))).waiters) ∧
      ((∃ w ∈ waiters, w.2 = .pending) → (∀ w ∈ waiters, w.2.given = false) →
        s.held.countP (fun lease => L.inScope (L.scope_key request) lease.request) = L.permits request)) := by
  intro s waiters
  have fair := (fair_run L events).local_semaphore (L := L) request
  refine ⟨fair.ordered, fun process uniform => ?_⟩
  have quiet := quiet_run L process events
  refine ⟨fun ahead request' own => ?_, fun waits i lease here own => ?_, fun waits still => ?_⟩
  · apply acquire_behind quiet process
    rw [local_semaphore_scope uniform own]
    exact ahead
  · exact release_wakes quiet uniform here own waits
  · have total := quiet.conserved (between_run L events) uniform request
    rw [fair.none_free still waits, zero_add] at total
    exact total

/-- The second request waits while the first has the slot. -/
theorem waits_in_turn_second :
    (run (GlobalAdmissionController ⟨1, 1⟩).step Process.new [.acquire_lease (), .acquire_lease ()]).held.countP
      (fun lease => (GlobalAdmissionController ⟨1, 1⟩).inScope () lease.request) = 1 :=
  ((waits_in_turn (GlobalAdmissionController ⟨1, 1⟩) [.acquire_lease (), .acquire_lease ()] ()).2 rfl
    (global_uniform _)).2.2 (by decide) (by decide)

end Runs

end RuntimePlatform.Admission
