import RuntimePlatform.Admission.LocalAdmission

/-!
What the counters of a controller with Redis lose. A section which lowers a counter and is given up leaves it too high
for good; no other step does. Between calls the counters are zero just when no section was ever given up.
-/

namespace RuntimePlatform.Admission
open Asyncio Runs

variable {ρ κ : Type}

/-- The section lowers a counter. -/
def Want.counted : Want ρ → Bool
  | .probe _ | .enter_local _ _ => false
  | .settle _ _ | .settle_local _ _ _ | .leave _ => true

/-- The section a step gives up: that of a release whose script has failed, and that of a task which is cancelled while
it waits for the lock. -/
def Process.loses (s : Process ρ κ) : TaskEvent ρ κ → Option (Want ρ)
  | .released i false => s.releasing[i]?.map Want.leave
  | .resume_lock i =>
    match s.lock.resume i with
    | some (w, false, _) => if w.counted = true then some w else none
    | _ => none
  | _ => none

/-- The step gives up no section which lowers a counter. -/
def Process.Keeps (s : Process ρ κ) (e : TaskEvent ρ κ) : Prop := s.loses e = none

instance (s : Process ρ κ) (e : TaskEvent ρ κ) : Decidable (s.Keeps e) :=
  match lost : s.loses e with
  | none => isTrue lost
  | some _ => isFalse fun keeps => Option.some_ne_none _ (lost.symm.trans keeps)

theorem giveUp_lost (w : Want ρ) (s : Process ρ κ) :
    (s.giveUp w).lost = s.lost ++ (if w.counted = true then some w else none).toList := by
  cases w with
  | probe request => exact (List.append_nil _).symm
  | enter_local request mode => exact (List.append_nil _).symm
  | settle request ended => rfl
  | settle_local request mode acquired => rfl
  | leave lease => rfl

theorem counted_of_loses {s : Process ρ κ} {e : TaskEvent ρ κ} {w : Want ρ} (loses : s.loses e = some w) :
    w.counted = true := by
  unfold Process.loses at loses
  split at loses
  · obtain ⟨lease, -, rfl⟩ := Option.map_eq_some_iff.mp loses
    rfl
  · split at loses
    · split at loses
      · next counted =>
          obtain rfl := Option.some.inj loses
          exact counted
      · cases loses
    · cases loses
  · cases loses

variable [DecidableEq κ] {L : Limits ρ κ} {s : Process ρ κ}

omit [DecidableEq κ] in
theorem lost_of_aside {s' : Process ρ κ} (same : s'.aside = s.aside) : s'.lost = s.lost :=
  congrArg (fun aside => aside.2.2.2) same

theorem lost_probed (request : ρ) (queued : ℕ) (reply : Reply ℕ) : (L.probed request queued reply s).lost = s.lost := by
  unfold Limits.probed
  cases reply with
  | answered inflight =>
      dsimp only
      split <;> rfl
  | raised => exact lost_of_aside (L.aside_acquire_unavailable request)
  | cancelled => rfl

theorem lost_acquired (wait : FleetWait ρ) (reply : Reply Bool) : (L.acquired wait reply s).lost = s.lost := by
  have settled : ∀ ended, (L.settle wait.request ended s).lost = s.lost := fun ended =>
    lost_of_aside (L.aside_settle wait.request ended)
  unfold Limits.acquired
  cases reply with
  | answered got =>
      cases got with
      | true => exact settled .granted
      | false =>
          dsimp only
          split
          · exact settled .rejected
          · rfl
  | raised => exact settled .failed
  | cancelled => exact settled .cancelled

theorem lost_release (lease : Granted ρ) : (L.release lease s).lost = s.lost := by
  unfold Limits.release
  cases lease.mode with
  | local_ => exact lost_of_aside (L.aside_leave lease)
  | degraded => exact lost_of_aside (L.aside_leave lease)
  | fail_open => rfl
  | redis => rfl

omit [DecidableEq κ] in
theorem none_lost {s s' : Process ρ κ} (same : s'.lost = s.lost) :
    s'.lost = s.lost ++ (none : Option (Want ρ)).toList := same.trans (List.append_nil _).symm

/-- A step adds to what is lost just what it gives up. -/
theorem lost_step (s : Process ρ κ) (e : TaskEvent ρ κ) : (L.step s e).lost = s.lost ++ (s.loses e).toList := by
  cases e with
  | acquire_lease request => exact none_lost (lost_of_aside (L.aside_acquire_lease request))
  | probed i reply =>
      refine none_lost ?_
      change (L.probe_answered i reply s).lost = s.lost
      unfold Limits.probe_answered
      split
      · rfl
      · exact lost_probed _ _ reply
  | acquired i reply =>
      refine none_lost ?_
      change (L.acquire_answered i reply s).lost = s.lost
      unfold Limits.acquire_answered
      split
      · rfl
      · exact lost_acquired _ reply
  | woke i cancelled =>
      refine none_lost ?_
      change (L.wake i cancelled s).lost = s.lost
      unfold Limits.wake
      split
      · rfl
      · dsimp only
        split
        · exact (lost_of_aside (L.aside_settle _ .cancelled)).trans rfl
        · rfl
  | cancel_lock i =>
      refine none_lost ?_
      change (s.cancel_lock i).lost = s.lost
      unfold Process.cancel_lock
      split <;> rfl
  | resume_lock i =>
      change (L.resume_lock i s).lost = _
      unfold Limits.resume_lock Process.loses
      dsimp only
      cases s.lock.resume i with
      | none => exact none_lost rfl
      | some resumed =>
          obtain ⟨w, entered, lock⟩ := resumed
          cases entered with
          | true => exact none_lost (lost_of_aside (L.aside_enter w))
          | false => exact giveUp_lost w _
  | cancel_semaphore k i => exact none_lost rfl
  | resume_semaphore k i =>
      refine none_lost ?_
      change (L.resume_semaphore k i s).lost = s.lost
      unfold Limits.resume_semaphore
      split
      · rfl
      · exact lost_of_aside (L.aside_settleLocal _ _ _)
  | release i =>
      refine none_lost ?_
      change (L.release_lease i s).lost = s.lost
      unfold Limits.release_lease
      split
      · rfl
      · exact lost_release _
  | released i answered =>
      change (L.release_answered i answered s).lost = _
      unfold Limits.release_answered Process.loses
      cases answered with
      | true =>
          refine none_lost ?_
          cases s.releasing[i]? with
          | none => rfl
          | some lease =>
              dsimp only
              rw [if_pos rfl]
              exact (lost_of_aside (L.aside_leave lease)).trans rfl
      | false =>
          dsimp only
          cases s.releasing[i]? with
          | none => exact none_lost rfl
          | some lease => rfl

/-- Nothing is lost in a run just when no step gave up a section. -/
theorem lost_nil_iff (L : Limits ρ κ) (events : List (TaskEvent ρ κ)) :
    (run L.step Process.new events).lost = [] ↔ EveryStep L.step Process.Keeps Process.new events := by
  have exact_ : ∀ s e, True → ((L.step s e).lost = [] ↔ s.lost = [] ∧ s.Keeps e) := by
    intro s e _
    rw [lost_step, List.append_eq_nil_iff, Option.toList_eq_nil_iff]
    rfl
  have lost : (run L.step Process.new events).lost = [] ↔
      (Process.new : Process ρ κ).lost = [] ∧ EveryStep L.step Process.Keeps Process.new events :=
    run_iff_everyStep (I := fun _ => True) (Q := fun s : Process ρ κ => s.lost = []) (fun _ _ _ => trivial) exact_
      trivial
  exact lost.trans (and_iff_right rfl)

/-- Whatever is lost would have lowered a counter. -/
theorem counted_of_lost (L : Limits ρ κ) (events : List (TaskEvent ρ κ)) :
    ∀ w ∈ (run L.step Process.new events).lost, w.counted = true := by
  induction events using List.reverseRecOn with
  | nil => exact fun _ none => nomatch none
  | append_singleton events e ih =>
      rw [run_append]
      intro w member
      change w ∈ (L.step _ e).lost at member
      rw [lost_step] at member
      rcases List.mem_append.mp member with older | new
      · exact ih w older
      · exact counted_of_loses (Option.mem_toList.mp new)

/-- Between calls the counters count what is lost. -/
theorem Limits.Idle.counters (idle : L.Idle s) (between : L.Between none s) (k : κ) :
    s.queued k = s.lost.countP (L.ticketOf k) ∧ s.inflight k = s.lost.countP (L.slotOf k) := by
  have queued := between.queued k
  have inflight := between.inflight k
  rw [owing_none] at queued inflight
  unfold Limits.tickets Process.wanting at queued
  unfold Limits.slots Process.wanting at inflight
  rw [idle.lock, idle.acquiring, idle.sleeping, idle.waiting between k] at queued
  rw [idle.lock, idle.held, idle.releasing] at inflight
  exact ⟨queued.trans (Nat.zero_add _), inflight.trans (Nat.zero_add _)⟩

/-- And are all zero just when that is nothing. -/
theorem Limits.Idle.zero_iff (idle : L.Idle s) (between : L.Between none s) (counted : ∀ w ∈ s.lost, w.counted = true) :
    (∀ k, s.queued k = 0 ∧ s.inflight k = 0) ↔ s.lost = [] := by
  constructor
  · intro zero
    refine List.eq_nil_iff_forall_not_mem.mpr fun w member => ?_
    have own : ∀ request, L.inScope (L.scope_key request) request = true := fun _ => decide_eq_true rfl
    have tickets : ∀ k, L.ticketOf k w ≠ true := fun k =>
      List.countP_eq_zero.mp ((idle.counters between k).1.symm.trans (zero k).1) w member
    have slots : ∀ k, L.slotOf k w ≠ true := fun k =>
      List.countP_eq_zero.mp ((idle.counters between k).2.symm.trans (zero k).2) w member
    have lowers := counted w member
    cases w with
    | probe request => cases lowers
    | enter_local request mode => cases lowers
    | settle request ended => exact tickets _ (own request)
    | settle_local request mode acquired => exact tickets _ (own request)
    | leave lease => exact slots _ (own lease.request)
  · intro none k
    obtain ⟨queued, inflight⟩ := idle.counters between k
    rw [none] at queued inflight
    exact ⟨queued, inflight⟩

/-! Between calls, with zero counters, a request whose probe fails gets a permit of its process. -/

/-- Nobody is inside the lock. -/
theorem Limits.Idle.lock_new (idle : L.Idle s) (between : L.Between none s) : s.lock = Lock.new := by
  have inside := between.inside
  rw [idle.probing] at inside
  have free : s.lock.locked = false := by
    cases locked : s.lock.locked with
    | false => rfl
    | true =>
        rw [locked] at inside
        cases inside
  obtain ⟨lock, rest⟩ := s
  obtain ⟨locked, waiters⟩ := lock
  exact congrArg₂ Lock.mk free idle.lock

/-- A permit of a scope is free. -/
theorem Limits.Idle.permit (idle : L.Idle s) (between : L.Between none s) (none : s.lost = [])
    (positive : ∀ request, 1 ≤ L.permits request) (request : ρ) (mode : LocalMode) :
    (L.local_semaphore request s).acquire (request, mode) =
      (true, ⟨(L.local_semaphore request s).value - 1, []⟩) := by
  obtain ⟨⟨maker, own, total⟩, _⟩ := between.toCounts.local_semaphore request
  have queue := idle.semaphores request
  have out : L.permitsOut s (L.scope_key request) = 0 := by
    unfold Limits.permitsOut Process.wanting
    rw [idle.lock, none, idle.held]
    rfl
  rw [out] at total
  have some_ := positive maker
  unfold Semaphore.free at total
  rw [queue] at total
  change (L.local_semaphore request s).value + 0 + (0 + 0) = L.permits maker at total
  cases sem : L.local_semaphore request s with
  | mk value waiters =>
      rw [sem] at queue total
      dsimp only at queue total
      subst queue
      have left : value ≠ 0 := by omega
      unfold Semaphore.acquire Semaphore.locked
      dsimp only
      rw [decide_eq_false left]
      rfl

/-- A request whose probe fails is where it was. -/
theorem failed_probe (new : s.lock = Lock.new) (probing : s.probing = []) (redis : L.redis = true) (request : ρ) :
    run L.step s [.acquire_lease request, .probed 0 .raised] = L.acquire_unavailable request s := by
  change L.probe_answered 0 .raised (L.acquire_lease request s) = _
  unfold Limits.acquire_lease
  rw [if_pos redis, lockThen_new new]
  obtain ⟨lock, probing', rest⟩ := s
  subst new probing
  rfl

/-- The fallback of an idle controller admits. -/
theorem Limits.Idle.fallback (idle : L.Idle s) (between : L.Between none s) (none : s.lost = [])
    (redis : L.redis = true) (positive : ∀ request, 1 ≤ L.permits request) {request : ρ}
    (room : 1 ≤ (L.policy request).max_concurrent_requests)
    (degraded : (L.policy request).redis_unavailable_policy = .degraded) :
    (run L.step s [.acquire_lease request, .probed 0 .raised]).held = [⟨request, .degraded⟩] := by
  have new := idle.lock_new between
  have inflight : s.inflight (L.scope_key request) = 0 := by
    rw [(idle.counters between _).2, none]
    rfl
  have let_in : ¬ L.Full request (s.inflight (L.scope_key request)) (s.queued (L.scope_key request)) := by
    rw [inflight]
    exact fun full => absurd full.1 (Nat.not_le.mpr room)
  have again : ∀ sem, L.local_semaphore request (L.putSemaphore request sem s) = sem := by
    intro sem
    unfold Limits.local_semaphore Limits.putSemaphore
    dsimp only
    rw [Function.update_self]
    rfl
  rw [failed_probe new idle.probing redis]
  unfold Limits.acquire_unavailable
  rw [degraded]
  change (L.acquire_local request .degraded s).held = _
  rw [acquire_local_new new]
  dsimp only
  rw [if_neg let_in, again, idle.permit between none positive request .degraded]
  dsimp only
  rw [settleLocal_new (by exact new), if_pos rfl]
  change s.held ++ [_] = _
  rw [idle.held]
  rfl

/-- For any answers of Redis and any cancellations: between calls the counters are zero just when no step gave up the
section which lowers one, and then the fallback admits a request whose probe fails. -/
theorem counters_conserved_iff (bundle : TenantPolicyBundle) {ρ : Type} (call : ρ → TenantModel)
    (events : List (TaskEvent ρ String))
    (idle : (TenantAdmissionController bundle true call).Idle
      (run (TenantAdmissionController bundle true call).step Process.new events)) :
    let L := TenantAdmissionController bundle true call
    let s := run L.step Process.new events
    ((∀ k, s.queued k = 0 ∧ s.inflight k = 0) ↔ EveryStep L.step Process.Keeps Process.new events) ∧
      (EveryStep L.step Process.Keeps Process.new events → ∀ request,
        (bundle.for_tenant (call request).tenant_id).redis_unavailable_policy = .degraded →
          (run L.step s [.acquire_lease request, .probed 0 .raised]).held = [⟨request, .degraded⟩]) := by
  intro L s
  have between : L.Between none s := between_run L events
  refine ⟨(idle.zero_iff between (counted_of_lost L events)).trans (lost_nil_iff L events), ?_⟩
  intro keep request degraded
  exact idle.fallback between ((lost_nil_iff L events).mpr keep) rfl (fun request => bundle.positive _)
    (bundle.positive _) degraded

/-- One request at a time and no queue, on this process when there is no Redis. -/
def fallbackBundle : TenantPolicyBundle where
  for_tenant _ := ⟨1, 0, .degraded⟩
  positive _ := le_rfl

/-- Redis fails while a request waits; its lease of the process is given back, and the next request gets one. -/
theorem counters_conserved_failed :
    let L := TenantAdmissionController fallbackBundle true oneCall
    let s := run L.step Process.new [.acquire_lease (), .probed 0 (.answered 0), .acquired 0 .raised, .release 0]
    (∀ k, s.queued k = 0 ∧ s.inflight k = 0) ∧
      (run L.step s [.acquire_lease (), .probed 0 .raised]).held = [⟨(), .degraded⟩] := by
  intro L s
  have idle : L.Idle s := by constructor <;> decide +kernel
  have keep : EveryStep L.step Process.Keeps Process.new
      [.acquire_lease (), .probed 0 (.answered 0), .acquired 0 .raised, .release 0] := by decide +kernel
  have conserved := counters_conserved_iff fallbackBundle oneCall
    [.acquire_lease (), .probed 0 (.answered 0), .acquired 0 .raised, .release 0] idle
  exact ⟨conserved.1.mpr keep, conserved.2 keep () rfl⟩

/-- A lease whose release script fails is counted for good, and the fallback rejects the next request. A request which
is cancelled on its way out of the queue stays in it. -/
theorem counters_leaked :
    let L := TenantAdmissionController fallbackBundle true oneCall
    let s := run L.step Process.new [.acquire_lease (), .probed 0 (.answered 0), .acquired 0 (.answered true),
      .release 0, .released 0 false]
    let s' := run L.step Process.new [.acquire_lease (), .probed 0 (.answered 0), .acquire_lease (),
      .acquired 0 (.answered true), .cancel_lock 0, .resume_lock 0, .probed 0 (.answered 1)]
    (L.Idle s ∧ s.inflight "a:m" = 1 ∧
      (run L.step s [.acquire_lease (), .probed 0 .raised]).outcomes.getLast? = some ((), .concurrency_exceeded)) ∧
    L.Idle s' ∧ s'.queued "a:m" = 1 := by
  intro L s s'
  have idle : L.Idle s := by constructor <;> decide +kernel
  have idle' : L.Idle s' := by constructor <;> decide +kernel
  exact ⟨⟨idle, by decide +kernel, by decide +kernel⟩, idle', by decide +kernel⟩

end RuntimePlatform.Admission
