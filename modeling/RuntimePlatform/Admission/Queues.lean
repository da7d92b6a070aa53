import RuntimePlatform.Admission.LocalAdmission

/-!
The waiting queues. Without Redis a queue grows past its bound only where a request arrives
between the release of a slot and the waiter which it was handed to; with Redis, where the probe
has seen a free slot of the fleet and the slot is then lost.
-/

namespace RuntimePlatform.Admission
open Asyncio Runs
open Chat (AdmissionMode)

variable {ρ κ : Type} [DecidableEq κ]

/-! ## Without Redis -/

/-- The leases of a scope, and the tasks in the queue of its semaphore. -/
def Limits.crowd (L : Limits ρ κ) (s : Process ρ κ) (k : κ) : ℕ :=
  s.held.countP (fun lease => L.inScope k lease.request) + s.waiting k

/-- A request which arrives while a permit is free, or handed to a waiter which has not run yet, finds room in the
queue behind it. -/
def Limits.Room (L : Limits ρ κ) (s : Process ρ κ) : TaskEvent ρ κ → Prop
  | .acquire_lease request => (L.local_semaphore request s).free = 0 ∨ s.queued (L.scope_key request) <
      (L.policy request).max_queued_requests + (L.local_semaphore request s).free
  | _ => True

instance (L : Limits ρ κ) (s : Process ρ κ) : ∀ e, Decidable (L.Room s e)
  | .acquire_lease _ => inferInstanceAs (Decidable (_ ∨ _))
  | .probed .. | .acquired .. | .woke .. | .cancel_lock _ | .resume_lock _ | .cancel_semaphore ..
  | .resume_semaphore .. | .release _ | .released .. => isTrue trivial

/-- A scope has one policy, and as many permits as it allows. -/
structure Limits.Matched (L : Limits ρ κ) : Prop where
  permits : ∀ request, L.permits request = (L.policy request).max_concurrent_requests
  concurrent : ∀ request request', L.scope_key request = L.scope_key request' →
    (L.policy request).max_concurrent_requests = (L.policy request').max_concurrent_requests
  queued : ∀ request request', L.scope_key request = L.scope_key request' →
    (L.policy request).max_queued_requests = (L.policy request').max_queued_requests

omit [DecidableEq κ] in
theorem Limits.Matched.uniform {L : Limits ρ κ} (matched : L.Matched) : L.Uniform := by
  intro request request' same
  rw [matched.permits, matched.permits]
  exact matched.concurrent request request' same

variable {L : Limits ρ κ} {s : Process ρ κ}

theorem waiting_putSemaphore (request : ρ) (sem : Semaphore (ρ × LocalMode)) (s : Process ρ κ) (k : κ) :
    (L.putSemaphore request sem s).waiting k =
      if k = L.scope_key request then sem.waiters.tasks.length else s.waiting k := by
  unfold Process.waiting
  rw [putSemaphore_semaphores]
  split <;> rfl

theorem crowd_grant (request : ρ) (mode : AdmissionMode) (s : Process ρ κ) (k : κ) :
    L.crowd (s.grant request mode) k = L.crowd s k + L.here k request := by
  change (s.held ++ [(⟨request, mode⟩ : Granted ρ)]).countP _ + s.waiting k = _
  rw [List.countP_append, List.countP_singleton, L.here_eq, Limits.crowd]
  exact Nat.add_right_comm _ _ _

theorem crowd_settleLocal (new : s.lock = Lock.new) (request : ρ) (mode : LocalMode) (acquired : Bool) (k : κ) :
    L.crowd (L.settleLocal request mode acquired s) k =
      L.crowd s k + if acquired = true then L.here k request else 0 := by
  rw [settleLocal_new new]
  cases acquired with
  | true => exact crowd_grant request mode.mode _ k
  | false => rfl

theorem local_semaphore_putSemaphore (request : ρ) (sem : Semaphore (ρ × LocalMode)) (s : Process ρ κ) :
    L.local_semaphore request (L.putSemaphore request sem s) = sem := by
  unfold Limits.local_semaphore
  rw [putSemaphore_semaphores, if_pos rfl]
  rfl

/-- What a semaphore with more tasks in its queue adds. -/
theorem crowd_putSemaphore (request : ρ) (sem : Semaphore (ρ × LocalMode)) (more : ℕ)
    (length : sem.waiters.tasks.length = (L.local_semaphore request s).waiters.tasks.length + more) (k : κ) :
    L.crowd (L.putSemaphore request sem s) k = L.crowd s k + more * L.here k request := by
  have queue := waiting_local_semaphore L request s
  unfold Limits.crowd
  rw [waiting_putSemaphore]
  change s.held.countP _ + _ = _
  split
  · next own =>
      rw [own, here_self, queue, length]
      omega
  · next other =>
      rw [here_ne other]
      omega

/-- Whoever the test lets in is one more, with a slot or in the queue. -/
theorem crowd_acquire_local (quiet : Quiet s) (request : ρ) (mode : LocalMode) (k : κ) :
    L.crowd (L.acquire_local request mode s) k = L.crowd s k +
      if L.Full request (s.inflight (L.scope_key request)) (s.queued (L.scope_key request)) then 0
      else L.here k request := by
  have made := crowd_putSemaphore request (L.local_semaphore request s) 0 rfl k
  rw [Nat.zero_mul] at made
  rw [acquire_local_new quiet.lock]
  dsimp only
  split
  · exact made
  · -- The queue is as long as before, or longer by the task itself.
    have let_in : ∀ (sem : Semaphore (ρ × LocalMode)) (more : ℕ),
        sem.waiters.tasks.length = (L.local_semaphore request s).waiters.tasks.length + more →
          L.crowd (L.putSemaphore request sem (L.addQueued request
            (L.putSemaphore request (L.local_semaphore request s) s))) k = L.crowd s k + more * L.here k request := by
      intro sem more length
      have before := crowd_putSemaphore (s := L.addQueued request
        (L.putSemaphore request (L.local_semaphore request s) s)) request sem more (by
          change _ = (L.local_semaphore request (L.putSemaphore request _ s)).waiters.tasks.length + _
          rw [local_semaphore_putSemaphore]
          exact length) k
      rw [before]
      exact congrArg (· + _) made
    rw [local_semaphore_putSemaphore]
    cases tried : (L.local_semaphore request s).acquire (request, mode) with
    | mk entered sem =>
        cases entered with
        | true =>
            have free : (L.putSemaphore request sem (L.addQueued request
              (L.putSemaphore request (L.local_semaphore request s) s))).lock = Lock.new := quiet.lock
            have taken := let_in sem 0 (congrArg List.length (Semaphore.acquire_true tried).1)
            change L.crowd (L.settleLocal request mode true _) k = _
            rw [crowd_settleLocal free, taken, Nat.zero_mul]
            rfl
        | false =>
            have queued := let_in sem 1 (by rw [(Semaphore.acquire_false tried).1, List.length_append]; rfl)
            rw [Nat.one_mul] at queued
            exact queued

/-- A waiter which gets a permit leaves the queue with it. -/
theorem crowd_resume_semaphore (quiet : Quiet s) (between : L.Between none s) (k' : κ) (i : ℕ) (k : κ) :
    L.crowd (L.resume_semaphore k' i s) k ≤ L.crowd s k := by
  unfold Limits.resume_semaphore
  cases found : (s.semaphores k').bind fun sem => sem.resume i with
  | none => exact le_rfl
  | some resumed =>
      obtain ⟨⟨request, mode⟩, acquired, sem'⟩ := resumed
      obtain ⟨sem, made, resumed⟩ := Option.bind_eq_some_iff.mp found
      obtain ⟨there, rest, _⟩ := Semaphore.resume_spec resumed
      obtain rfl : L.scope_key request = k' := (between.permits k' sem made).2 _ (List.mem_of_getElem? there)
      have queue : s.waiting (L.scope_key request) = sem'.waiters.tasks.length + 1 := by
        obtain ⟨inside, _⟩ := List.getElem?_eq_some_iff.mp there
        rw [rest, List.length_eraseIdx_of_lt inside]
        unfold Process.waiting
        rw [made]
        change sem.waiters.tasks.length = _
        omega
      change L.crowd (L.settleLocal request mode acquired (L.putSemaphore request sem' s)) k ≤ _
      have free : (L.putSemaphore request sem' s).lock = Lock.new := quiet.lock
      have taken : L.crowd (L.putSemaphore request sem' s) k + L.here k request = L.crowd s k := by
        unfold Limits.crowd
        rw [waiting_putSemaphore]
        change s.held.countP _ + _ + _ = _
        split
        · next own =>
            rw [own, here_self, queue]
            rfl
        · next other => rw [here_ne other, Nat.add_zero]
      rw [crowd_settleLocal free]
      split <;> omega

theorem crowd_release_lease (quiet : Quiet s) (i : ℕ) (k : κ) : L.crowd (L.release_lease i s) k ≤ L.crowd s k := by
  unfold Limits.release_lease
  cases here : s.held[i]? with
  | none => exact le_rfl
  | some lease =>
      have given : L.crowd (L.leave lease (L.putSemaphore lease.request
          (L.local_semaphore lease.request { s with held := s.held.eraseIdx i }).release
          { s with held := s.held.eraseIdx i })) k ≤ L.crowd s k := by
        have free : (L.putSemaphore lease.request (L.local_semaphore lease.request
          { s with held := s.held.eraseIdx i }).release { s with held := s.held.eraseIdx i }).lock = Lock.new :=
          quiet.lock
        have same := crowd_putSemaphore (s := { s with held := s.held.eraseIdx i }) lease.request _ 0
          (congrArg List.length (Semaphore.release_spec (L.local_semaphore lease.request s)).1) k
        rw [leave_new free]
        refine (le_of_eq same).trans ?_
        have fewer := List.Sublist.countP_le (p := fun lease => L.inScope k lease.request) (s.held.eraseIdx_sublist i)
        unfold Limits.crowd
        change (s.held.eraseIdx i).countP _ + s.waiting k + _ ≤ _
        omega
      dsimp only
      unfold Limits.release
      rcases quiet.modes lease (List.mem_of_getElem? here) with mode | mode
      · rw [mode]
        exact given
      · rw [mode]
        exact given

/-- Nothing but an arrival makes a scope more crowded. -/
theorem crowd_step (quiet : Quiet s) (between : L.Between none s) (process : L.redis = false) (e : TaskEvent ρ κ)
    (k : κ) : L.crowd (L.step s e) k ≤ L.crowd s k + match e with
      | .acquire_lease request => if L.Full request (s.inflight (L.scope_key request)) (s.queued (L.scope_key request))
          then 0 else L.here k request
      | _ => 0 := by
  have no_lock : s.lock.waiters = [] := by rw [quiet.lock]; rfl
  cases e with
  | acquire_lease request =>
      change L.crowd (L.acquire_lease request s) k ≤ _
      unfold Limits.acquire_lease
      rw [process, if_neg Bool.false_ne_true, crowd_acquire_local quiet]
  | probed i reply =>
      change L.crowd (L.probe_answered i reply s) k ≤ _
      unfold Limits.probe_answered
      rw [quiet.probing]
      exact le_rfl
  | acquired i reply =>
      change L.crowd (L.acquire_answered i reply s) k ≤ _
      unfold Limits.acquire_answered
      rw [quiet.acquiring]
      exact le_rfl
  | woke i cancelled =>
      change L.crowd (L.wake i cancelled s) k ≤ _
      unfold Limits.wake
      rw [quiet.sleeping]
      exact le_rfl
  | cancel_lock i =>
      change L.crowd (s.cancel_lock i) k ≤ _
      unfold Process.cancel_lock
      rw [no_lock]
      exact le_rfl
  | resume_lock i =>
      change L.crowd (L.resume_lock i s) k ≤ _
      unfold Limits.resume_lock Lock.resume
      rw [no_lock]
      exact le_rfl
  | cancel_semaphore k' i => exact le_of_eq (congrArg (_ + ·) (waiting_cancel s k' i k))
  | resume_semaphore k' i => exact crowd_resume_semaphore quiet between k' i k
  | release i => exact crowd_release_lease quiet i k
  | released i answered =>
      change L.crowd (L.release_answered i answered s) k ≤ _
      unfold Limits.release_answered
      rw [quiet.releasing]
      exact le_rfl

/-! The bound. -/

/-- The slots of a request's scope and the places of its queue. -/
def Limits.Fits (L : Limits ρ κ) (s : Process ρ κ) : Prop :=
  ∀ request, L.crowd s (L.scope_key request) ≤
    (L.policy request).max_concurrent_requests + (L.policy request).max_queued_requests

/-- The bound is kept by the arrivals which find room, and by no others. -/
theorem fits_step (matched : L.Matched) (process : L.redis = false) (quiet : Quiet s) (between : L.Between none s)
    (fits : L.Fits s) (e : TaskEvent ρ κ) : L.Fits (L.step s e) ↔ L.Room s e := by
  have step := crowd_step quiet between process e
  have others : (∀ request, e ≠ .acquire_lease request) → L.Fits (L.step s e) := by
    intro no_arrival request
    refine (step _).trans (le_trans (le_of_eq ?_) (fits request))
    cases e with
    | acquire_lease request => exact absurd rfl (no_arrival request)
    | _ => rfl
  cases e with
  | acquire_lease request =>
      have crowd : ∀ k, L.crowd (L.step s (.acquire_lease request)) k = L.crowd s k +
          if L.Full request (s.inflight (L.scope_key request)) (s.queued (L.scope_key request)) then 0
          else L.here k request := by
        intro k
        change L.crowd (L.acquire_lease request s) k = _
        unfold Limits.acquire_lease
        rw [process, if_neg Bool.false_ne_true, crowd_acquire_local quiet]
      have total := quiet.conserved between matched.uniform request
      have queued := between.queued (L.scope_key request)
      have inflight := between.inflight (L.scope_key request)
      have here := fits request
      rw [owing_none, quiet.tickets] at queued
      rw [owing_none, quiet.slots] at inflight
      rw [matched.permits] at total
      unfold Limits.crowd at here
      change _ ↔ _ ∨ _
      by_cases full : L.Full request (s.inflight (L.scope_key request)) (s.queued (L.scope_key request))
      · have same : L.Fits (L.step s (.acquire_lease request)) := by
          intro request'
          rw [crowd, if_pos full]
          exact fits request'
        have none_free : (L.local_semaphore request s).free = 0 := by
          have occupied := full.1
          omega
        exact iff_of_true same (Or.inl none_free)
      · have room : L.Full request (s.inflight (L.scope_key request)) (s.queued (L.scope_key request)) ↔ _ ∧ _ :=
          Iff.rfl
        rw [room] at full
        constructor
        · intro kept
          have mine := kept request
          rw [crowd, if_neg (room.not.mpr full), here_self] at mine
          unfold Limits.crowd at mine
          omega
        · intro room' request'
          rw [crowd, if_neg (room.not.mpr full)]
          by_cases own : L.scope_key request' = L.scope_key request
          · rw [own, here_self, matched.concurrent request' request own, matched.queued request' request own]
            unfold Limits.crowd
            omega
          · rw [here_ne own]
            exact fits request'
  | _ => exact iff_of_true (others nofun) trivial

/-- Without Redis every state of a run keeps the bound just when every arrival finds room. -/
theorem fits_run_iff (matched : L.Matched) (process : L.redis = false) (events : List (TaskEvent ρ κ)) :
    EveryState L.step L.Fits Process.new events ↔ EveryStep L.step L.Room Process.new events := by
  refine everyState_iff_everyStep (I := fun s => Quiet s ∧ L.Between none s) (fun s e invariant => ?_)
    (fun s e invariant fits => fits_step matched process invariant.1 invariant.2 fits e)
    ⟨quiet_run L process [], between_new L⟩ (fun request => Nat.zero_le _)
  exact ⟨invariant.1.step process e, invariant.2.step e⟩

/-! ## With Redis -/

section Fleet
variable {ρ : Type} {bundle : TenantPolicyBundle} {redis : Bool} {call : ρ → TenantModel} {s : Process ρ String}

/-- The calls are for the same tenant and model. -/
def sameCall (call : ρ → TenantModel) (request other : ρ) : Bool :=
  decide ((call other).tenant_id = (call request).tenant_id ∧ (call other).model_key = (call request).model_key)

/-- The tasks which have lost the race for a slot of the fleet, and wait for one. -/
def fleetWaiting (call : ρ → TenantModel) (request : ρ) (s : Process ρ String) : ℕ :=
  s.acquiring.countP (fun wait => wait.lost && sameCall call request wait.request) +
    s.sleeping.countP fun wait => sameCall call request wait.request

/-- The task was let in with a place in the queue, or has taken one since. -/
def FleetWait.placed (wait : FleetWait ρ) : Bool := !wait.beyond || wait.lost

def places (call : ρ → TenantModel) (request : ρ) (s : Process ρ String) : ℕ :=
  s.acquiring.countP (fun wait => wait.placed && sameCall call request wait.request) +
    s.sleeping.countP fun wait => wait.placed && sameCall call request wait.request

/-- A task which the probe let in beyond the queue, and which finds no slot at its first try, finds a place in it. -/
def FindsPlace (bundle : TenantPolicyBundle) (call : ρ → TenantModel) (s : Process ρ String) :
    TaskEvent ρ String → Prop
  | .acquired i (.answered false) => ∀ wait ∈ s.acquiring[i]?, wait.beyond = true → wait.lost = false →
      (bundle.for_tenant (call wait.request).tenant_id).max_queued_requests = 0 ∨
        places call wait.request s < (bundle.for_tenant (call wait.request).tenant_id).max_queued_requests
  | _ => True

instance (s : Process ρ String) : ∀ e, Decidable (FindsPlace bundle call s e)
  | .acquired _ (.answered false) => inferInstanceAs (Decidable (∀ _ ∈ _, _ → _ → _ ∨ _))
  | .acquired _ (.answered true) | .acquired _ .raised | .acquired _ .cancelled | .acquire_lease _ | .probed ..
  | .woke .. | .cancel_lock _ | .resume_lock _ | .cancel_semaphore .. | .resume_semaphore .. | .release _
  | .released .. =>
    isTrue trivial

/-- No queue has given more places than it has. -/
structure Seated (bundle : TenantPolicyBundle) (call : ρ → TenantModel) (s : Process ρ String) : Prop where
  slept : ∀ wait ∈ s.sleeping, wait.lost = true
  seats : ∀ request, places call request s ≤
    (bundle.for_tenant (call request).tenant_id).max_queued_requests

theorem Seated.fleetWaiting_le (seated : Seated bundle call s) (request : ρ) :
    fleetWaiting call request s ≤ (bundle.for_tenant (call request).tenant_id).max_queued_requests := by
  refine le_trans (Nat.add_le_add ?_ ?_) (seated.seats request)
  · refine List.countP_mono_left fun wait _ waits => ?_
    obtain ⟨lost, own⟩ := Bool.and_eq_true_iff.mp waits
    unfold FleetWait.placed
    rw [lost, own, Bool.or_true]
    rfl
  · refine List.countP_mono_left fun wait member own => ?_
    unfold FleetWait.placed
    rw [seated.slept wait member, own, Bool.or_true]
    rfl

theorem Seated.of_waits (seated : Seated bundle call s) {s' : Process ρ String} (acquiring : s'.acquiring = s.acquiring)
    (sleeping : s'.sleeping = s.sleeping) : Seated bundle call s' := by
  refine ⟨fun wait member => seated.slept wait (sleeping ▸ member), fun request => ?_⟩
  unfold places
  rw [acquiring, sleeping]
  exact seated.seats request

theorem Seated.congr (seated : Seated bundle call s) {s' : Process ρ String} (aside : s'.aside = s.aside) :
    Seated bundle call s' :=
  seated.of_waits (congrArg Prod.fst aside) (congrArg (fun places => places.2.1) aside)

/-- A task comes off its place in the loop. -/
theorem Seated.off_acquiring (seated : Seated bundle call s) (i : ℕ) :
    Seated bundle call { s with acquiring := s.acquiring.eraseIdx i } :=
  ⟨seated.slept, fun request =>
    le_trans (Nat.add_le_add_right (List.Sublist.countP_le (s.acquiring.eraseIdx_sublist i)) _) (seated.seats request)⟩

theorem Seated.off_sleeping (seated : Seated bundle call s) (i : ℕ) :
    Seated bundle call { s with sleeping := s.sleeping.eraseIdx i } :=
  ⟨fun wait member => seated.slept wait (List.mem_of_mem_eraseIdx member), fun request =>
    le_trans (Nat.add_le_add_left (List.Sublist.countP_le (s.sleeping.eraseIdx_sublist i)) _) (seated.seats request)⟩

/-- The tasks with a place have counted themselves in `queued`. -/
theorem places_le_queued
    (between : (TenantAdmissionController bundle redis call).Between none s) (request : ρ) :
    places call request s ≤ s.queued ((TenantAdmissionController bundle redis call).scope_key request) := by
  have counted := between.queued ((TenantAdmissionController bundle redis call).scope_key request)
  have own : ∀ wait : FleetWait ρ, (wait.placed && sameCall call request wait.request) = true →
      (TenantAdmissionController bundle redis call).inScope
        ((TenantAdmissionController bundle redis call).scope_key request) wait.request = true := by
    intro wait placed
    obtain ⟨tenant, model⟩ := of_decide_eq_true (Bool.and_eq_true_iff.mp placed).2
    refine decide_eq_true ?_
    change tenant_scope_key _ _ = tenant_scope_key _ _
    rw [tenant, model]
  have acquiring := List.countP_mono_left (l := s.acquiring) fun wait _ => own wait
  have sleeping := List.countP_mono_left (l := s.sleeping) fun wait _ => own wait
  rw [owing_none] at counted
  unfold places
  unfold Limits.tickets at counted
  omega

theorem sameCall_eq {request other : ρ} (same : sameCall call request other = true) :
    sameCall call request = sameCall call other ∧ (call other).tenant_id = (call request).tenant_id := by
  obtain ⟨tenant, model⟩ := of_decide_eq_true same
  refine ⟨funext fun third => ?_, tenant⟩
  unfold sameCall
  rw [tenant, model]

theorem places_eq {request other : ρ} (same : sameCall call request other = true) :
    places call request s = places call other s := by
  unfold places
  rw [(sameCall_eq same).1]

theorem places_acquiring (call : ρ → TenantModel) (request : ρ) (wait : FleetWait ρ) :
    places call request { s with acquiring := s.acquiring ++ [wait] } =
      places call request s + if (wait.placed && sameCall call request wait.request) = true then 1 else 0 := by
  unfold places
  rw [List.countP_append, List.countP_singleton]
  exact Nat.add_right_comm _ _ _

theorem places_sleeping (call : ρ → TenantModel) (request : ρ) (wait : FleetWait ρ) :
    places call request { s with sleeping := s.sleeping ++ [wait] } =
      places call request s + if (wait.placed && sameCall call request wait.request) = true then 1 else 0 := by
  unfold places
  rw [List.countP_append, List.countP_singleton]
  exact (Nat.add_assoc _ _ _).symm

theorem places_off_acquiring {i : ℕ} {wait : FleetWait ρ} (here : s.acquiring[i]? = some wait)
    (call : ρ → TenantModel) (request : ρ) :
    places call request s = places call request { s with acquiring := s.acquiring.eraseIdx i } +
      if (wait.placed && sameCall call request wait.request) = true then 1 else 0 := by
  unfold places
  rw [countP_eraseIdx here]
  exact Nat.add_right_comm _ _ _

theorem places_off_sleeping {i : ℕ} {wait : FleetWait ρ} (here : s.sleeping[i]? = some wait)
    (call : ρ → TenantModel) (request : ρ) :
    places call request s = places call request { s with sleeping := s.sleeping.eraseIdx i } +
      if (wait.placed && sameCall call request wait.request) = true then 1 else 0 := by
  unfold places
  rw [countP_eraseIdx here]
  exact (Nat.add_assoc _ _ _).symm

/-- The probe gives a place only where the queue has one. -/
theorem Seated.probed (seated : Seated bundle call s)
    (between : (TenantAdmissionController bundle redis call).Between none s) {i : ℕ} {request : ρ} {queued : ℕ}
    (here : s.probing[i]? = some (request, queued)) (reply : Reply ℕ) :
    Seated bundle call ((TenantAdmissionController bundle redis call).probed request queued reply
      { s with probing := s.probing.eraseIdx i }) := by
  unfold Limits.probed
  cases reply with
  | raised => exact seated.congr (Limits.aside_acquire_unavailable _ request)
  | cancelled => exact seated.congr rfl
  | answered inflight =>
      dsimp only
      split
      · exact seated.congr rfl
      · obtain ⟨_, rfl⟩ := between.probing here
        have let_in : Seated bundle call { s with acquiring := s.acquiring ++ [⟨request,
            decide (s.queued ((TenantAdmissionController bundle redis call).scope_key request) ≥
              (bundle.for_tenant (call request).tenant_id).max_queued_requests), false⟩] } := by
          refine ⟨seated.slept, fun other => ?_⟩
          rw [places_acquiring]
          split
          · next placed =>
              obtain ⟨placed, same⟩ := Bool.and_eq_true_iff.mp placed
              change sameCall call other request = true at same
              unfold FleetWait.placed at placed
              rw [Bool.or_false, Bool.not_eq_true', decide_eq_false_iff_not] at placed
              have counted := places_le_queued between request
              rw [places_eq same, ← (sameCall_eq same).2]
              omega
          · exact seated.seats other
        exact let_in.congr rfl

theorem Seated.acquired (seated : Seated bundle call s) {i : ℕ} {wait : FleetWait ρ}
    (here : s.acquiring[i]? = some wait) {reply : Reply Bool} (finds : FindsPlace bundle call s (.acquired i reply)) :
    Seated bundle call ((TenantAdmissionController bundle redis call).acquired wait reply
      { s with acquiring := s.acquiring.eraseIdx i }) := by
  have off : ∀ ended, Seated bundle call ((TenantAdmissionController bundle redis call).settle wait.request ended
      { s with acquiring := s.acquiring.eraseIdx i }) := fun ended =>
    (seated.off_acquiring i).congr (Limits.aside_settle _ wait.request ended)
  unfold Limits.acquired
  cases reply with
  | raised => exact off .failed
  | cancelled => exact off .cancelled
  | answered got =>
      cases got with
      | true => exact off .granted
      | false =>
          dsimp only
          split
          · exact off .rejected
          · next queue =>
              have lost : ({ wait with lost := true } : FleetWait ρ).placed = true := Bool.or_true _
              constructor
              · intro other member
                rcases List.mem_append.mp member with older | new
                · exact seated.slept other older
                · rw [List.mem_singleton.mp new]
              · intro request
                have before := places_off_acquiring here call request
                have after := places_sleeping (s := { s with acquiring := s.acquiring.eraseIdx i }) call
                  request { wait with lost := true }
                have room := seated.seats request
                refine le_trans (le_of_eq after) ?_
                rw [lost, Bool.true_and]
                cases same : sameCall call request wait.request with
                | false =>
                    rw [if_neg Bool.false_ne_true]
                    omega
                | true =>
                    rw [same, Bool.and_true] at before
                    rw [if_pos rfl]
                    cases placed : wait.placed with
                    | true =>
                        rw [placed, if_pos rfl] at before
                        omega
                    | false =>
                        obtain ⟨beyond, first⟩ := Bool.or_eq_false_iff.mp placed
                        rw [Bool.not_eq_false'] at beyond
                        rcases finds wait here beyond first with none | place
                        · exact absurd none queue
                        · rw [placed, if_neg Bool.false_ne_true] at before
                          rw [← places_eq same, (sameCall_eq same).2] at place
                          omega

theorem Seated.wake (seated : Seated bundle call s) (i : ℕ) (cancelled : Bool) :
    Seated bundle call ((TenantAdmissionController bundle redis call).wake i cancelled s) := by
  unfold Limits.wake
  cases here : s.sleeping[i]? with
  | none => exact seated
  | some wait =>
      dsimp only
      split
      · exact (seated.off_sleeping i).congr (Limits.aside_settle _ wait.request .cancelled)
      · refine ⟨(seated.off_sleeping i).slept, fun request => ?_⟩
        have before := places_off_sleeping here call request
        have after := places_acquiring (s := { s with sleeping := s.sleeping.eraseIdx i }) call request wait
        have room := seated.seats request
        exact (le_of_eq after).trans (by omega)

theorem Seated.step (seated : Seated bundle call s)
    (between : (TenantAdmissionController bundle redis call).Between none s) (e : TaskEvent ρ String)
    (finds : FindsPlace bundle call s e) :
    Seated bundle call ((TenantAdmissionController bundle redis call).step s e) := by
  cases e with
  | acquire_lease request => exact seated.congr (Limits.aside_acquire_lease _ request)
  | probed i reply =>
      change Seated bundle call (Limits.probe_answered _ i reply s)
      unfold Limits.probe_answered
      cases here : s.probing[i]? with
      | none => exact seated
      | some probe => exact seated.probed between here reply
  | acquired i reply =>
      change Seated bundle call (Limits.acquire_answered _ i reply s)
      unfold Limits.acquire_answered
      cases here : s.acquiring[i]? with
      | none => exact seated
      | some wait => exact seated.acquired here finds
  | woke i cancelled => exact seated.wake i cancelled
  | cancel_lock i =>
      refine seated.congr ?_
      change (s.cancel_lock i).aside = s.aside
      unfold Process.cancel_lock
      split <;> rfl
  | resume_lock i =>
      change Seated bundle call (Limits.resume_lock _ i s)
      unfold Limits.resume_lock
      cases s.lock.resume i with
      | none => exact seated
      | some resumed =>
          obtain ⟨w, entered, lock⟩ := resumed
          cases entered with
          | true => exact seated.congr (Limits.aside_enter _ w)
          | false => exact seated.of_waits (by cases w <;> rfl) (by cases w <;> rfl)
  | cancel_semaphore k i => exact seated.congr rfl
  | resume_semaphore k i =>
      change Seated bundle call (Limits.resume_semaphore _ k i s)
      unfold Limits.resume_semaphore
      split
      · exact seated
      · exact seated.congr (Limits.aside_settleLocal _ _ _ _)
  | release i =>
      change Seated bundle call (Limits.release_lease _ i s)
      unfold Limits.release_lease
      cases s.held[i]? with
      | none => exact seated
      | some lease =>
          dsimp only
          unfold Limits.release
          cases lease.mode with
          | local_ => exact seated.congr (Limits.aside_leave _ lease)
          | degraded => exact seated.congr (Limits.aside_leave _ lease)
          | fail_open => exact seated.congr rfl
          | redis => exact seated.of_waits rfl rfl
  | released i answered =>
      change Seated bundle call (Limits.release_answered _ i answered s)
      unfold Limits.release_answered
      cases s.releasing[i]? with
      | none => exact seated
      | some lease =>
          have off : Seated bundle call { s with releasing := s.releasing.eraseIdx i } := seated.of_waits rfl rfl
          dsimp only
          split
          · exact off.congr (Limits.aside_leave _ lease)
          · exact seated.of_waits rfl rfl

theorem seated_new : Seated bundle call (Process.new : Process ρ String) :=
  ⟨(fun _ none => nomatch none), fun _ => Nat.zero_le _⟩

/-- In a run whose tasks find their places, no more wait than the queue takes. -/
theorem fleet_queue_run {events : List (TaskEvent ρ String)}
    (find : EveryStep (TenantAdmissionController bundle redis call).step (FindsPlace bundle call) Process.new events) :
    EveryState (TenantAdmissionController bundle redis call).step (fun s => ∀ request, fleetWaiting call request s ≤
      (bundle.for_tenant (call request).tenant_id).max_queued_requests) Process.new events := by
  have every := everyState_of_keeps
    (I := fun s => Seated bundle call s ∧ (TenantAdmissionController bundle redis call).Between none s)
    (fun s e invariant finds => ⟨invariant.1.step invariant.2 e finds, invariant.2.step e⟩)
    ⟨seated_new, between_new _⟩ find
  exact every.mono fun s invariant request => invariant.1.fleetWaiting_le request

end Fleet

/-! ## The two controllers -/

section Controllers
variable {ρ : Type}

theorem global_matched (limits : Chat.AdmissionLimits) (positive : 1 ≤ limits.max_inflight) :
    (GlobalAdmissionController limits).Matched :=
  ⟨fun _ => max_eq_right positive, fun _ _ _ => rfl, fun _ _ _ => rfl⟩

theorem global_crowd (limits : Chat.AdmissionLimits) (s : Process Unit Unit) :
    (GlobalAdmissionController limits).crowd s () = s.held.length + s.waiting () := by
  unfold Limits.crowd
  rw [global_inScope]

/-- The calls of a run whose scope keys are the same have the same limits. -/
def LimitsAgree (bundle : TenantPolicyBundle) (call : ρ → TenantModel) : Prop :=
  ∀ request request',
    tenant_scope_key (call request).tenant_id (call request).model_key =
      tenant_scope_key (call request').tenant_id (call request').model_key →
    (bundle.for_tenant (call request).tenant_id).max_concurrent_requests =
        (bundle.for_tenant (call request').tenant_id).max_concurrent_requests ∧
      (bundle.for_tenant (call request).tenant_id).max_queued_requests =
        (bundle.for_tenant (call request').tenant_id).max_queued_requests

/-- The tasks for a tenant and model in the queue of the semaphore. -/
def waitingFor (call : ρ → TenantModel) (request : ρ) (s : Process ρ String) : ℕ :=
  ((s.semaphores (tenant_scope_key (call request).tenant_id (call request).model_key)).map fun sem =>
    sem.waiters.tasks.countP fun w => sameCall call request w.1).getD 0

theorem waitingFor_le (call : ρ → TenantModel) (request : ρ) (s : Process ρ String) : waitingFor call request s ≤
    s.waiting (tenant_scope_key (call request).tenant_id (call request).model_key) := by
  unfold waitingFor Process.waiting
  cases s.semaphores (tenant_scope_key (call request).tenant_id (call request).model_key) with
  | none => exact le_rfl
  | some sem => exact List.countP_le_length

/-- For any interleaving: the leases and waiting tasks of the global controller stay within its limits just when every
request that arrives at a free permit finds room in the queue behind it. So do those of a tenant and model without
Redis, where calls with the same scope key have the same limits; and the tasks which wait for a slot of the fleet, where
those let in beyond the queue find a place in it when they lose their first try. -/
theorem queues_bounded (limits : Chat.AdmissionLimits) (global_events : List (TaskEvent Unit Unit))
    (bundle : TenantPolicyBundle) {ρ : Type} (call : ρ → TenantModel) (events : List (TaskEvent ρ String)) :
    (1 ≤ limits.max_inflight →
      (EveryState (GlobalAdmissionController limits).step
          (fun s => s.held.length + s.waiting () ≤ limits.max_inflight + limits.max_queued) Process.new global_events ↔
        EveryStep (GlobalAdmissionController limits).step (GlobalAdmissionController limits).Room Process.new
          global_events)) ∧
    (LimitsAgree bundle call →
      EveryStep (TenantAdmissionController bundle false call).step (TenantAdmissionController bundle false call).Room
          Process.new events →
        EveryState (TenantAdmissionController bundle false call).step
          (fun s => ∀ request, heldFor call request s.held + waitingFor call request s ≤
            (bundle.for_tenant (call request).tenant_id).max_concurrent_requests +
              (bundle.for_tenant (call request).tenant_id).max_queued_requests) Process.new events) ∧
    (EveryStep (TenantAdmissionController bundle true call).step (FindsPlace bundle call) Process.new events →
      EveryState (TenantAdmissionController bundle true call).step
        (fun s => ∀ request, fleetWaiting call request s ≤
          (bundle.for_tenant (call request).tenant_id).max_queued_requests) Process.new events) := by
  refine ⟨fun positive => ?_, fun agree room => ?_, fun find => ?_⟩
  · rw [← fits_run_iff (global_matched limits positive) rfl global_events]
    have same : ∀ s, s.held.length + s.waiting () ≤ limits.max_inflight + limits.max_queued ↔
        (GlobalAdmissionController limits).Fits s := by
      intro s
      rw [← global_crowd limits]
      exact ⟨fun fits _ => fits, fun fits => fits ()⟩
    exact ⟨fun every => every.mono fun s => (same s).mp, fun every => every.mono fun s => (same s).mpr⟩
  · have matched : (TenantAdmissionController bundle false call).Matched :=
      ⟨fun _ => rfl, fun request request' same => (agree request request' same).1, fun request request' same =>
        (agree request request' same).2⟩
    refine ((fits_run_iff matched rfl events).mpr room).mono fun s fits request => ?_
    exact (Nat.add_le_add (heldFor_le bundle false call request s.held) (waitingFor_le call request s)).trans
      (fits request)
  · exact fleet_queue_run find

/-- One slot, and one place in the queue: a lease is held, a task waits for it, gets it, and gives it back. -/
theorem queues_bounded_handed :
    let limits : Chat.AdmissionLimits := ⟨1, 1⟩
    EveryState (GlobalAdmissionController limits).step (fun s => s.held.length + s.waiting () ≤ 2) Process.new
        [.acquire_lease (), .acquire_lease (), .release 0, .acquire_lease (), .resume_semaphore () 0] ∧
      EveryState (TenantAdmissionController narrowBundle false oneCall).step
        (fun s => heldFor oneCall () s.held + waitingFor oneCall () s ≤ 2) Process.new
        [.acquire_lease (), .acquire_lease (), .acquire_lease ()] ∧
      EveryState (TenantAdmissionController narrowBundle true oneCall).step (fun s => fleetWaiting oneCall () s ≤ 1)
        Process.new [.acquire_lease (), .probed 0 (.answered 1), .acquired 0 (.answered false)] := by
  refine ⟨?_, ?_, ?_⟩
  · exact ((queues_bounded ⟨1, 1⟩
      [.acquire_lease (), .acquire_lease (), .release 0, .acquire_lease (), .resume_semaphore () 0]
      narrowBundle oneCall []).1 le_rfl).mpr (by decide +kernel)
  · have every := (queues_bounded ⟨1, 1⟩ [] narrowBundle oneCall
      [.acquire_lease (), .acquire_lease (), .acquire_lease ()]).2.1 (fun _ _ _ => ⟨rfl, rfl⟩) (by decide +kernel)
    exact every.mono fun s bound => bound ()
  · have every := (queues_bounded ⟨1, 1⟩ [] narrowBundle oneCall
      [.acquire_lease (), .probed 0 (.answered 1), .acquired 0 (.answered false)]).2.2 (by decide +kernel)
    exact every.mono fun s bound => bound ()

/-- Two requests arrive between the release of the slot and the waiter which it was handed to; and one is let through
by a probe that sees a free slot, and loses it, while another waits. -/
theorem queues_exceeded :
    (let s := run (GlobalAdmissionController ⟨1, 1⟩).step Process.new
        [.acquire_lease (), .acquire_lease (), .release 0, .acquire_lease (), .acquire_lease ()]
     s.held.length + s.waiting () = 3) ∧
    fleetWaiting oneCall () (run (TenantAdmissionController narrowBundle true oneCall).step Process.new
      [.acquire_lease (), .probed 0 (.answered 1), .acquired 0 (.answered false),
        .acquire_lease (), .probed 0 (.answered 0), .acquired 0 (.answered false)]) = 2 ∧
    (narrowBundle.for_tenant "a").max_queued_requests = 1 := by
  decide +kernel

end Controllers

end RuntimePlatform.Admission
