import RuntimePlatform.Admission.Counters

/-!
Admission without Redis. No task is suspended inside the lock, so no other waits for it; what is
left are the queues of the semaphores and the leases, which the two counters count exactly.
-/

namespace RuntimePlatform.Admission
open Asyncio Runs
open Chat (AdmissionMode)

variable {ρ κ : Type}

/-- Nothing waits for the lock or for Redis, and every lease has a permit. -/
structure Quiet (s : Process ρ κ) : Prop where
  lock : s.lock = Lock.new
  probing : s.probing = []
  acquiring : s.acquiring = []
  sleeping : s.sleeping = []
  releasing : s.releasing = []
  lost : s.lost = []
  modes : ∀ lease ∈ s.held, lease.mode = .local_ ∨ lease.mode = .degraded

theorem lockThen_new {s : Process ρ κ} (new : s.lock = Lock.new) (w : Want ρ)
    (section_ : Process ρ κ → Process ρ κ) : s.lockThen w section_ = section_ { s with lock := ⟨true, []⟩ } := by
  unfold Process.lockThen
  rw [new]
  rfl

/-- No call of `acquire_lease` is under way, and every lease is released. -/
structure Limits.Idle (L : Limits ρ κ) (s : Process ρ κ) : Prop where
  lock : s.lock.waiters = []
  probing : s.probing = []
  acquiring : s.acquiring = []
  sleeping : s.sleeping = []
  semaphores : ∀ request, (L.local_semaphore request s).waiters = []
  held : s.held = []
  releasing : s.releasing = []

variable [DecidableEq κ] {L : Limits ρ κ} {s : Process ρ κ}

/-- A semaphore which is made for no request has no queue. -/
theorem Limits.Idle.waiting (idle : L.Idle s) (between : L.Between none s) (k : κ) : s.waiting k = 0 := by
  cases made : s.semaphores k with
  | none =>
      unfold Process.waiting
      rw [made]
      rfl
  | some sem =>
      have queue : s.waiting k = sem.waiters.tasks.length := by
        unfold Process.waiting
        rw [made]
        rfl
      rw [queue, List.length_eq_zero_iff]
      cases waiting : sem.waiters.tasks with
      | nil => rfl
      | cons waiter rest =>
          have own := (between.permits k sem made).2 waiter (by rw [waiting]; exact List.mem_cons_self)
          have same : L.local_semaphore waiter.1 s = sem := by
            unfold Limits.local_semaphore
            rw [own, made]
            rfl
          have empty := idle.semaphores waiter.1
          rw [same] at empty
          rw [empty] at waiting
          cases waiting

/-- At a free lock the end of `_acquire_local` runs at once. -/
theorem settleLocal_new (new : s.lock = Lock.new) (request : ρ) (mode : LocalMode) (acquired : Bool) :
    L.settleLocal request mode acquired s =
      if acquired = true then (L.addInflight request (L.lowerQueued request s)).grant request mode.mode
      else (L.lowerQueued request s).finish request .cancelled := by
  unfold Limits.settleLocal
  rw [lockThen_new new]
  obtain ⟨lock, rest⟩ := s
  subst new
  cases acquired <;> rfl

/-- And so does its test. -/
theorem acquire_local_new (new : s.lock = Lock.new) (request : ρ) (mode : LocalMode) :
    L.acquire_local request mode s =
      let made := L.putSemaphore request (L.local_semaphore request s) s
      if L.Full request (s.inflight (L.scope_key request)) (s.queued (L.scope_key request)) then
        made.finish request .concurrency_exceeded
      else match (L.local_semaphore request made).acquire (request, mode) with
        | (true, sem) => L.settleLocal request mode true (L.putSemaphore request sem (L.addQueued request made))
        | (false, sem) => L.putSemaphore request sem (L.addQueued request made) := by
  have new' : (L.putSemaphore request (L.local_semaphore request s) s).lock = Lock.new := new
  unfold Limits.acquire_local
  rw [lockThen_new new']
  obtain ⟨lock, rest⟩ := s
  subst new
  rfl

theorem leave_new (new : s.lock = Lock.new) (lease : Granted ρ) :
    L.leave lease s = L.lowerInflight lease.request s := by
  unfold Limits.leave
  rw [lockThen_new new]
  obtain ⟨lock, rest⟩ := s
  subst new
  rfl

theorem Quiet.grant (quiet : Quiet s) (request : ρ) (mode : LocalMode) :
    Quiet ((L.addInflight request (L.lowerQueued request s)).grant request mode.mode) := by
  obtain ⟨lock, probing, acquiring, sleeping, releasing, lost, modes⟩ := quiet
  refine ⟨lock, probing, acquiring, sleeping, releasing, lost, fun lease member => ?_⟩
  rcases List.mem_append.mp member with older | new
  · exact modes lease older
  · rw [List.mem_singleton.mp new]
    cases mode with
    | local_ => exact Or.inl rfl
    | degraded => exact Or.inr rfl

theorem Quiet.settleLocal (quiet : Quiet s) (request : ρ) (mode : LocalMode) (acquired : Bool) :
    Quiet (L.settleLocal request mode acquired s) := by
  rw [settleLocal_new quiet.lock]
  split
  · exact quiet.grant request mode
  · obtain ⟨lock, probing, acquiring, sleeping, releasing, lost, modes⟩ := quiet
    exact ⟨lock, probing, acquiring, sleeping, releasing, lost, modes⟩

theorem Quiet.putSemaphore (quiet : Quiet s) (request : ρ) (sem : Semaphore (ρ × LocalMode)) :
    Quiet (L.putSemaphore request sem s) := by
  obtain ⟨lock, probing, acquiring, sleeping, releasing, lost, modes⟩ := quiet
  exact ⟨lock, probing, acquiring, sleeping, releasing, lost, modes⟩

theorem Quiet.addQueued (quiet : Quiet s) (request : ρ) : Quiet (L.addQueued request s) := by
  obtain ⟨lock, probing, acquiring, sleeping, releasing, lost, modes⟩ := quiet
  exact ⟨lock, probing, acquiring, sleeping, releasing, lost, modes⟩

theorem Quiet.acquire_local (quiet : Quiet s) (request : ρ) (mode : LocalMode) :
    Quiet (L.acquire_local request mode s) := by
  rw [acquire_local_new quiet.lock]
  dsimp only
  split
  · obtain ⟨lock, probing, acquiring, sleeping, releasing, lost, modes⟩ := quiet
    exact ⟨lock, probing, acquiring, sleeping, releasing, lost, modes⟩
  · have ticketed := (quiet.putSemaphore (L := L) request (L.local_semaphore request s)).addQueued (L := L) request
    split
    · exact (ticketed.putSemaphore request _).settleLocal request mode true
    · exact ticketed.putSemaphore request _

theorem Quiet.release_lease (quiet : Quiet s) (i : ℕ) : Quiet (L.release_lease i s) := by
  unfold Limits.release_lease
  cases here : s.held[i]? with
  | none => exact quiet
  | some lease =>
      obtain ⟨lock, probing, acquiring, sleeping, releasing, lost, modes⟩ := quiet
      have rest : ∀ other ∈ s.held.eraseIdx i, other.mode = .local_ ∨ other.mode = .degraded :=
        fun other member => modes other (List.mem_of_mem_eraseIdx member)
      have left : Quiet (L.leave lease (L.putSemaphore lease.request (L.local_semaphore lease.request s).release
          { s with held := s.held.eraseIdx i })) := by
        have free : (L.putSemaphore lease.request (L.local_semaphore lease.request s).release
          { s with held := s.held.eraseIdx i }).lock = Lock.new := lock
        rw [leave_new free]
        exact ⟨lock, probing, acquiring, sleeping, releasing, lost, rest⟩
      dsimp only
      rcases modes lease (List.mem_of_getElem? here) with mode | mode
      · unfold Limits.release
        rw [mode]
        exact left
      · unfold Limits.release
        rw [mode]
        exact left

/-- Without Redis the lock is free between any two steps. -/
theorem Quiet.step (quiet : Quiet s) (process : L.redis = false) (e : TaskEvent ρ κ) : Quiet (L.step s e) := by
  have no_lock : s.lock.waiters = [] := by rw [quiet.lock]; rfl
  cases e with
  | acquire_lease request =>
      change Quiet (L.acquire_lease request s)
      unfold Limits.acquire_lease
      rw [process, if_neg Bool.false_ne_true]
      exact quiet.acquire_local request .local_
  | probed i reply =>
      change Quiet (L.probe_answered i reply s)
      unfold Limits.probe_answered
      rw [quiet.probing]
      exact quiet
  | acquired i reply =>
      change Quiet (L.acquire_answered i reply s)
      unfold Limits.acquire_answered
      rw [quiet.acquiring]
      exact quiet
  | woke i cancelled =>
      change Quiet (L.wake i cancelled s)
      unfold Limits.wake
      rw [quiet.sleeping]
      exact quiet
  | cancel_lock i =>
      change Quiet (s.cancel_lock i)
      unfold Process.cancel_lock
      rw [no_lock]
      exact quiet
  | resume_lock i =>
      change Quiet (L.resume_lock i s)
      unfold Limits.resume_lock Lock.resume
      rw [no_lock]
      exact quiet
  | cancel_semaphore k i =>
      obtain ⟨lock, probing, acquiring, sleeping, releasing, lost, modes⟩ := quiet
      exact ⟨lock, probing, acquiring, sleeping, releasing, lost, modes⟩
  | resume_semaphore k i =>
      change Quiet (L.resume_semaphore k i s)
      unfold Limits.resume_semaphore
      split
      · exact quiet
      · refine Quiet.settleLocal ?_ _ _ _
        obtain ⟨lock, probing, acquiring, sleeping, releasing, lost, modes⟩ := quiet
        exact ⟨lock, probing, acquiring, sleeping, releasing, lost, modes⟩
  | release i => exact quiet.release_lease i
  | released i answered =>
      change Quiet (L.release_answered i answered s)
      unfold Limits.release_answered
      rw [quiet.releasing]
      exact quiet

theorem quiet_run (L : Limits ρ κ) (process : L.redis = false) (events : List (TaskEvent ρ κ)) :
    Quiet (run L.step Process.new events) := by
  induction events using List.reverseRecOn with
  | nil => exact ⟨rfl, rfl, rfl, rfl, rfl, rfl, fun _ none => nomatch none⟩
  | append_singleton events e ih =>
      rw [run_append]
      exact ih.step process e

/-! What the counters count then. -/

theorem Quiet.tickets (quiet : Quiet s) (k : κ) : L.tickets s k = s.waiting k := by
  unfold Limits.tickets Process.wanting
  rw [quiet.lock, quiet.acquiring, quiet.sleeping, quiet.lost]
  change 0 + 0 + 0 + 0 + s.waiting k = _
  omega

theorem Quiet.slots (quiet : Quiet s) (k : κ) :
    L.slots s k = s.held.countP fun lease => L.inScope k lease.request := by
  have all : s.held.countP (L.occupies k) = s.held.countP fun lease => L.inScope k lease.request := by
    refine List.countP_congr fun lease member => ?_
    unfold Limits.occupies
    rcases quiet.modes lease member with mode | mode <;> rw [mode] <;> rfl
  unfold Limits.slots Process.wanting
  rw [quiet.lock, quiet.releasing, quiet.lost, all]
  change 0 + 0 + _ + 0 = _
  omega

theorem Quiet.permitsOut (quiet : Quiet s) (k : κ) :
    L.permitsOut s k = s.held.countP fun lease => L.inScope k lease.request := by
  have all : s.held.countP (L.usesPermit k) = s.held.countP fun lease => L.inScope k lease.request := by
    refine List.countP_congr fun lease member => ?_
    unfold Limits.usesPermit
    rcases quiet.modes lease member with mode | mode <;> rw [mode] <;> rfl
  unfold Limits.permitsOut Process.wanting
  rw [quiet.lock, quiet.lost, all]
  change 0 + 0 + _ = _
  omega

/-- The permits of the requests of one scope are the same. -/
def Limits.Uniform (L : Limits ρ κ) : Prop :=
  ∀ request request', L.scope_key request = L.scope_key request' → L.permits request = L.permits request'

/-- The permits of a scope are free, or out with the leases held. -/
theorem Quiet.conserved (quiet : Quiet s) (between : L.Between none s) (uniform : L.Uniform) (request : ρ) :
    (L.local_semaphore request s).free +
        s.held.countP (fun lease => L.inScope (L.scope_key request) lease.request) = L.permits request := by
  obtain ⟨⟨maker, own, total⟩, _⟩ := between.toCounts.local_semaphore request
  rw [quiet.permitsOut] at total
  rw [uniform request maker own.symm]
  exact total

/-- In every state of a controller without Redis, no more than the permits of a scope are out. -/
theorem held_le_permits (process : L.redis = false) (uniform : L.Uniform) (events : List (TaskEvent ρ κ))
    (request : ρ) :
    (run L.step Process.new events).held.countP (fun lease => L.inScope (L.scope_key request) lease.request) ≤
      L.permits request := by
  have total := (quiet_run L process events).conserved (between_run L events) uniform request
  omega

/-- And when it is idle, its counters are zero and all permits are free. -/
theorem idle_restored (process : L.redis = false) (uniform : L.Uniform) (events : List (TaskEvent ρ κ))
    (idle : L.Idle (run L.step Process.new events)) :
    (∀ k, (run L.step Process.new events).queued k = 0 ∧ (run L.step Process.new events).inflight k = 0) ∧
      ∀ request, (L.local_semaphore request (run L.step Process.new events)).value = L.permits request := by
  have quiet := quiet_run L process events
  have between := between_run L events
  constructor
  · intro k
    have queued := between.queued k
    have inflight := between.inflight k
    rw [owing_none, quiet.tickets] at queued
    rw [owing_none, quiet.slots, idle.held] at inflight
    exact ⟨queued.trans (idle.waiting between k), inflight⟩
  · intro request
    have total := quiet.conserved between uniform request
    rw [idle.held] at total
    unfold Semaphore.free at total
    rw [idle.semaphores request] at total
    exact total

/-! ## The two controllers -/

theorem global_uniform (limits : Chat.AdmissionLimits) : (GlobalAdmissionController limits).Uniform := fun _ _ _ => rfl

theorem global_inScope (limits : Chat.AdmissionLimits) (held : List (Granted Unit)) :
    held.countP (fun lease => (GlobalAdmissionController limits).inScope () lease.request) = held.length :=
  List.countP_eq_length.mpr fun _ _ => rfl

/-- The calls of a run whose scope keys are the same have the same limit. -/
def KeysAgree (bundle : TenantPolicyBundle) (call : ρ → TenantModel) : Prop :=
  ∀ request request',
    tenant_scope_key (call request).tenant_id (call request).model_key =
      tenant_scope_key (call request').tenant_id (call request').model_key →
    (bundle.for_tenant (call request).tenant_id).max_concurrent_requests =
      (bundle.for_tenant (call request').tenant_id).max_concurrent_requests

/-- The leases held for the tenant and model of a call. -/
def heldFor (call : ρ → TenantModel) (request : ρ) (held : List (Granted ρ)) : ℕ :=
  held.countP fun lease => decide ((call lease.request).tenant_id = (call request).tenant_id ∧
    (call lease.request).model_key = (call request).model_key)

theorem heldFor_le (bundle : TenantPolicyBundle) (redis : Bool) (call : ρ → TenantModel) (request : ρ)
    (held : List (Granted ρ)) : heldFor call request held ≤ held.countP fun lease =>
      (TenantAdmissionController bundle redis call).inScope
        ((TenantAdmissionController bundle redis call).scope_key request) lease.request := by
  refine List.countP_mono_left fun lease _ own => ?_
  obtain ⟨tenant, model⟩ := of_decide_eq_true own
  refine decide_eq_true ?_
  change tenant_scope_key _ _ = tenant_scope_key _ _
  rw [tenant, model]

/-- For any interleaving, with cancellations wherever a task waits: the global controller never has more leases out
than permits, and is as it was when idle; so is the tenants' controller without Redis, where calls with the same
scope key have the same limit. -/
theorem local_admission_safe (limits : Chat.AdmissionLimits) (global_events : List (TaskEvent Unit Unit))
    (bundle : TenantPolicyBundle) {ρ : Type} (call : ρ → TenantModel) (events : List (TaskEvent ρ String)) :
    (let s := run (GlobalAdmissionController limits).step Process.new global_events
     s.held.length ≤ max 1 limits.max_inflight ∧
        ((GlobalAdmissionController limits).Idle s → s.queued () = 0 ∧ s.inflight () = 0 ∧
          ((GlobalAdmissionController limits).local_semaphore () s).value = max 1 limits.max_inflight)) ∧
    (KeysAgree bundle call →
        let s := run (TenantAdmissionController bundle false call).step Process.new events
        (∀ request, heldFor call request s.held ≤
            (bundle.for_tenant (call request).tenant_id).max_concurrent_requests) ∧
          ((TenantAdmissionController bundle false call).Idle s →
            (∀ k, s.queued k = 0 ∧ s.inflight k = 0) ∧ ∀ request,
              ((TenantAdmissionController bundle false call).local_semaphore request s).value =
                (bundle.for_tenant (call request).tenant_id).max_concurrent_requests)) := by
  constructor
  · intro s
    refine ⟨?_, fun idle => ?_⟩
    · rw [← global_inScope limits]
      exact held_le_permits rfl (global_uniform limits) global_events ()
    · obtain ⟨counters, permits⟩ := idle_restored rfl (global_uniform limits) global_events idle
      exact ⟨(counters ()).1, (counters ()).2, permits ()⟩
  · intro agree s
    have uniform : (TenantAdmissionController bundle false call).Uniform := agree
    refine ⟨fun request => ?_, fun idle => idle_restored rfl uniform events idle⟩
    exact (heldFor_le bundle false call request s.held).trans (held_le_permits rfl uniform events request)

/-- One request at a time, with one in the queue; the tenant `user` may have five. -/
def narrowBundle : TenantPolicyBundle where
  for_tenant tenant_id := if tenant_id = "user" then ⟨5, 0, .fail_closed⟩ else ⟨1, 1, .fail_closed⟩
  positive tenant_id := by split <;> decide

def oneCall (_ : Unit) : TenantModel := ⟨"a", some "m"⟩

/-- A call holds the slot, one waits and is cancelled when the slot has just been handed to it; all is given back. -/
theorem local_admission_safe_handed :
    let s := run (TenantAdmissionController narrowBundle false oneCall).step Process.new
      [.acquire_lease (), .acquire_lease (), .release 0, .cancel_semaphore "a:m" 0, .resume_semaphore "a:m" 0]
    (∀ k, s.queued k = 0 ∧ s.inflight k = 0) ∧
      ((TenantAdmissionController narrowBundle false oneCall).local_semaphore () s).value = 1 := by
  intro s
  have safe := ((local_admission_safe ⟨1, 1⟩ [] narrowBundle oneCall
    [.acquire_lease (), .acquire_lease (), .release 0, .cancel_semaphore "a:m" 0, .resume_semaphore "a:m" 0]).2
      fun _ _ _ => rfl).2
  have idle : (TenantAdmissionController narrowBundle false oneCall).Idle s := by
    constructor <;> decide +kernel
  exact ⟨(safe idle).1, (safe idle).2 ()⟩

/-- The tenants `user` and `user:alice` share the semaphore of their scopes `user:alice:m`. -/
theorem local_admission_shared :
    heldFor id (⟨"user:alice", some "m"⟩ : TenantModel)
        (run (TenantAdmissionController narrowBundle false id).step Process.new
          [.acquire_lease ⟨"user", some "alice:m"⟩, .acquire_lease ⟨"user:alice", some "m"⟩,
            .acquire_lease ⟨"user:alice", some "m"⟩]).held = 2 ∧
      (narrowBundle.for_tenant "user:alice").max_concurrent_requests = 1 := by
  decide +kernel

end RuntimePlatform.Admission
