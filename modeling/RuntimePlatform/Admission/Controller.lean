import RuntimePlatform.Chat.Operations
import RuntimePlatform.Lib.Asyncio
import RuntimePlatform.Lib.Runs

/-!
`TenantAdmissionController` in one process, from one suspension point of its tasks to the next,
with and without Redis; `GlobalAdmissionController` is the same without scopes. What Redis
answers is left open. A task is where it waits: at the lock, for an answer, asleep, or in the
queue of a semaphore.
-/

namespace RuntimePlatform.Admission
open Asyncio
open Chat (AdmissionMode)

inductive RedisUnavailablePolicy where
  | fail_closed
  | degraded
  | fail_open
  deriving DecidableEq, Repr

/-- What a controller reads of a tenant's policy. -/
structure TenantRuntimePolicy where
  max_concurrent_requests : ℕ
  max_queued_requests : ℕ
  redis_unavailable_policy : RedisUnavailablePolicy
  deriving DecidableEq, Repr

/-- A controller by its requests: their scopes and policies, the permits of a scope's semaphore, and whether
there is a Redis. -/
structure Limits (ρ κ : Type) where
  scope_key : ρ → κ
  policy : ρ → TenantRuntimePolicy
  permits : ρ → ℕ
  redis : Bool

/-- The mode of a lease with a permit of this process. -/
inductive LocalMode where
  | local_
  | degraded
  deriving DecidableEq, Repr

def LocalMode.mode : LocalMode → AdmissionMode
  | local_ => .local_
  | degraded => .degraded

/-- How the wait for a fleet slot in `_acquire_redis` ends. -/
inductive Ended where
  | granted
  | rejected
  | failed
  | cancelled
  deriving DecidableEq, Repr

/-- A lease which was granted; its mode decides how it is given back. -/
structure Granted (ρ : Type) where
  request : ρ
  mode : AdmissionMode
  deriving DecidableEq, Repr

/-- A section under the lock, with what its task runs on to. -/
inductive Want (ρ : Type) where
  /-- The probe of `_acquire_redis`. -/
  | probe (request : ρ)
  /-- The `finally` of `_acquire_redis`. -/
  | settle (request : ρ) (ended : Ended)
  /-- The test of `_acquire_local`. -/
  | enter_local (request : ρ) (mode : LocalMode)
  /-- The `finally` of `_acquire_local`. -/
  | settle_local (request : ρ) (mode : LocalMode) (acquired : Bool)
  /-- The end of `_release`. -/
  | leave (lease : Granted ρ)
  deriving DecidableEq, Repr

/-- A task in the loop of `_acquire_redis`: whether it was let through beyond the queue, and whether it has lost the
race for a slot before. -/
structure FleetWait (ρ : Type) where
  request : ρ
  beyond : Bool
  lost : Bool
  deriving DecidableEq, Repr

/-- How a call of `acquire_lease` ends. -/
inductive Outcome where
  | granted (mode : AdmissionMode)
  /-- `tenant_concurrency_exceeded`, or `gateway_load_shed` of the global controller. -/
  | concurrency_exceeded
  | admission_store_unavailable
  | cancelled
  deriving DecidableEq, Repr

structure Process (ρ κ : Type) where
  lock : Lock (Want ρ)
  /-- Inside the lock, awaiting the purge script, with `queued` as it was read. -/
  probing : List (ρ × ℕ)
  /-- Awaiting the acquire script. -/
  acquiring : List (FleetWait ρ)
  sleeping : List (FleetWait ρ)
  semaphores : κ → Option (Semaphore (ρ × LocalMode))
  held : List (Granted ρ)
  /-- Awaiting the release script. -/
  releasing : List (Granted ρ)
  queued : κ → ℕ
  inflight : κ → ℕ
  /-- How calls of `acquire_lease` have ended. -/
  outcomes : List (ρ × Outcome)
  /-- The sections which their tasks have given up. -/
  lost : List (Want ρ)

namespace Process
variable {ρ κ : Type}

def new : Process ρ κ :=
  ⟨Lock.new, [], [], [], fun _ => none, [], [], fun _ => 0, fun _ => 0, [], []⟩

/-- The task has left its section. -/
def unlock (s : Process ρ κ) : Process ρ κ := { s with lock := s.lock.release }

def finish (request : ρ) (outcome : Outcome) (s : Process ρ κ) : Process ρ κ :=
  { s with outcomes := s.outcomes ++ [(request, outcome)] }

def grant (request : ρ) (mode : AdmissionMode) (s : Process ρ κ) : Process ρ κ :=
  finish request (.granted mode) { s with held := s.held ++ [⟨request, mode⟩] }

/-- `async with self._lock:`, up to the first suspension behind it. -/
def lockThen (w : Want ρ) (section_ : Process ρ κ → Process ρ κ) (s : Process ρ κ) : Process ρ κ :=
  match s.lock.acquire w with
  | (true, lock) => section_ { s with lock }
  | (false, lock) => { s with lock }

/-- The task is cancelled before it gets the lock. -/
def giveUp (w : Want ρ) (s : Process ρ κ) : Process ρ κ :=
  match w with
  | .probe request | .enter_local request _ => s.finish request .cancelled
  | .settle request _ | .settle_local request _ _ => { s.finish request .cancelled with lost := s.lost ++ [w] }
  | .leave _ => { s with lost := s.lost ++ [w] }

/-- Tasks which release are not cancelled. -/
def cancel_lock (i : ℕ) (s : Process ρ κ) : Process ρ κ :=
  match s.lock.waiters[i]? with
  | none | some (.leave _, _) => s
  | some _ => { s with lock := s.lock.cancel i }

def cancel_semaphore [DecidableEq κ] (k : κ) (i : ℕ) (s : Process ρ κ) : Process ρ κ :=
  { s with semaphores := Function.update s.semaphores k ((s.semaphores k).map fun sem => sem.cancel i) }

end Process

/-- What comes of an await on Redis: an answer, an exception, or the cancellation of the task. -/
inductive Reply (α : Type) where
  | answered (a : α)
  | raised
  | cancelled
  deriving DecidableEq, Repr

/-- A task runs from one suspension to the next, or is cancelled while it waits. -/
inductive TaskEvent (ρ κ : Type) where
  | acquire_lease (request : ρ)
  /-- The answer of the purge script: how many leases there are. -/
  | probed (i : ℕ) (reply : Reply ℕ)
  /-- The answer of the acquire script: whether it has given a slot. -/
  | acquired (i : ℕ) (reply : Reply Bool)
  | woke (i : ℕ) (cancelled : Bool)
  | cancel_lock (i : ℕ)
  | resume_lock (i : ℕ)
  | cancel_semaphore (scope : κ) (i : ℕ)
  | resume_semaphore (scope : κ) (i : ℕ)
  | release (i : ℕ)
  /-- The answer of the release script: whether there is one. -/
  | released (i : ℕ) (answered : Bool)
  deriving DecidableEq, Repr

namespace Limits
variable {ρ κ : Type} [DecidableEq κ] (L : Limits ρ κ)

def local_semaphore (request : ρ) (s : Process ρ κ) : Semaphore (ρ × LocalMode) :=
  (s.semaphores (L.scope_key request)).getD (Semaphore.new (L.permits request))

/-- The semaphore of the request's scope is written back. -/
def putSemaphore (request : ρ) (sem : Semaphore (ρ × LocalMode)) (s : Process ρ κ) : Process ρ κ :=
  { s with semaphores := Function.update s.semaphores (L.scope_key request) (some sem) }

def addQueued (request : ρ) (s : Process ρ κ) : Process ρ κ :=
  { s with queued := Function.update s.queued (L.scope_key request) (s.queued (L.scope_key request) + 1) }

def lowerQueued (request : ρ) (s : Process ρ κ) : Process ρ κ :=
  { s with queued := Function.update s.queued (L.scope_key request) (s.queued (L.scope_key request) - 1) }

def addInflight (request : ρ) (s : Process ρ κ) : Process ρ κ :=
  { s with inflight := Function.update s.inflight (L.scope_key request) (s.inflight (L.scope_key request) + 1) }

def lowerInflight (request : ρ) (s : Process ρ κ) : Process ρ κ :=
  { s with inflight := Function.update s.inflight (L.scope_key request) (s.inflight (L.scope_key request) - 1) }

/-! `_acquire_local` -/

def settleLocalSection (request : ρ) (mode : LocalMode) (acquired : Bool) (s : Process ρ κ) : Process ρ κ :=
  let s := L.lowerQueued request s
  if acquired = true then (L.addInflight request s).unlock.grant request mode.mode
  else s.unlock.finish request .cancelled

def settleLocal (request : ρ) (mode : LocalMode) (acquired : Bool) (s : Process ρ κ) : Process ρ κ :=
  s.lockThen (.settle_local request mode acquired) (L.settleLocalSection request mode acquired)

/-- The test under which a request is rejected. -/
def Full (request : ρ) (inflight queued : ℕ) : Prop :=
  inflight ≥ (L.policy request).max_concurrent_requests ∧ queued ≥ (L.policy request).max_queued_requests

instance (request : ρ) (inflight queued : ℕ) : Decidable (L.Full request inflight queued) :=
  inferInstanceAs (Decidable (_ ∧ _))

def enterLocalSection (request : ρ) (mode : LocalMode) (s : Process ρ κ) : Process ρ κ :=
  if L.Full request (s.inflight (L.scope_key request)) (s.queued (L.scope_key request)) then
    s.unlock.finish request .concurrency_exceeded
  else
    let s := (L.addQueued request s).unlock
    match (L.local_semaphore request s).acquire (request, mode) with
    | (true, sem) => L.settleLocal request mode true (L.putSemaphore request sem s)
    | (false, sem) => L.putSemaphore request sem s

def acquire_local (request : ρ) (mode : LocalMode) (s : Process ρ κ) : Process ρ κ :=
  (L.putSemaphore request (L.local_semaphore request s) s).lockThen (.enter_local request mode)
    (L.enterLocalSection request mode)

def acquire_unavailable (request : ρ) (s : Process ρ κ) : Process ρ κ :=
  match (L.policy request).redis_unavailable_policy with
  | .fail_closed => s.finish request .admission_store_unavailable
  | .fail_open => s.grant request .fail_open
  | .degraded => L.acquire_local request .degraded s

/-! `_acquire_redis` -/

def settleSection (request : ρ) (ended : Ended) (s : Process ρ κ) : Process ρ κ :=
  let s := L.lowerQueued request s
  match ended with
  | .granted => (L.addInflight request s).unlock.grant request .redis
  | .rejected => s.unlock.finish request .concurrency_exceeded
  | .failed => L.acquire_unavailable request s.unlock
  | .cancelled => s.unlock.finish request .cancelled

def settle (request : ρ) (ended : Ended) (s : Process ρ κ) : Process ρ κ :=
  s.lockThen (.settle request ended) (L.settleSection request ended)

def probeSection (request : ρ) (s : Process ρ κ) : Process ρ κ :=
  { s with probing := s.probing ++ [(request, s.queued (L.scope_key request))] }

/-- The section goes on behind the probe. -/
def probed (request : ρ) (queued : ℕ) (reply : Reply ℕ) (s : Process ρ κ) : Process ρ κ :=
  match reply with
  | .answered inflight =>
    if L.Full request inflight queued then s.unlock.finish request .concurrency_exceeded
    else Process.unlock { s with
      queued := Function.update s.queued (L.scope_key request) (queued + 1)
      acquiring := s.acquiring ++ [⟨request, decide (queued ≥ (L.policy request).max_queued_requests), false⟩] }
  | .raised => L.acquire_unavailable request s.unlock
  | .cancelled => s.unlock.finish request .cancelled

def acquired (wait : FleetWait ρ) (reply : Reply Bool) (s : Process ρ κ) : Process ρ κ :=
  match reply with
  | .answered true => L.settle wait.request .granted s
  | .answered false =>
    if (L.policy wait.request).max_queued_requests = 0 then L.settle wait.request .rejected s
    else { s with sleeping := s.sleeping ++ [{ wait with lost := true }] }
  | .raised => L.settle wait.request .failed s
  | .cancelled => L.settle wait.request .cancelled s

/-! `_release` -/

def leaveSection (lease : Granted ρ) (s : Process ρ κ) : Process ρ κ := (L.lowerInflight lease.request s).unlock

def leave (lease : Granted ρ) (s : Process ρ κ) : Process ρ κ := s.lockThen (.leave lease) (L.leaveSection lease)

def release (lease : Granted ρ) (s : Process ρ κ) : Process ρ κ :=
  match lease.mode with
  | .local_ | .degraded => L.leave lease (L.putSemaphore lease.request (L.local_semaphore lease.request s).release s)
  | .fail_open => s
  | .redis => { s with releasing := s.releasing ++ [lease] }

/-! Runs -/

def acquire_lease (request : ρ) (s : Process ρ κ) : Process ρ κ :=
  if L.redis = true then s.lockThen (.probe request) (L.probeSection request) else L.acquire_local request .local_ s

/-- The section whose turn it is. -/
def enter (w : Want ρ) (s : Process ρ κ) : Process ρ κ :=
  match w with
  | .probe request => L.probeSection request s
  | .settle request ended => L.settleSection request ended s
  | .enter_local request mode => L.enterLocalSection request mode s
  | .settle_local request mode acquired => L.settleLocalSection request mode acquired s
  | .leave lease => L.leaveSection lease s

def probe_answered (i : ℕ) (reply : Reply ℕ) (s : Process ρ κ) : Process ρ κ :=
  match s.probing[i]? with
  | none => s
  | some (request, queued) => L.probed request queued reply { s with probing := s.probing.eraseIdx i }

def acquire_answered (i : ℕ) (reply : Reply Bool) (s : Process ρ κ) : Process ρ κ :=
  match s.acquiring[i]? with
  | none => s
  | some wait => L.acquired wait reply { s with acquiring := s.acquiring.eraseIdx i }

def wake (i : ℕ) (cancelled : Bool) (s : Process ρ κ) : Process ρ κ :=
  match s.sleeping[i]? with
  | none => s
  | some wait =>
    let s := { s with sleeping := s.sleeping.eraseIdx i }
    if cancelled = true then L.settle wait.request .cancelled s else { s with acquiring := s.acquiring ++ [wait] }

def resume_lock (i : ℕ) (s : Process ρ κ) : Process ρ κ :=
  match s.lock.resume i with
  | none => s
  | some (w, true, lock) => L.enter w { s with lock }
  | some (w, false, lock) => Process.giveUp w { s with lock }

def resume_semaphore (k : κ) (i : ℕ) (s : Process ρ κ) : Process ρ κ :=
  match (s.semaphores k).bind fun sem => sem.resume i with
  | none => s
  | some ((request, mode), acquired, sem) =>
    L.settleLocal request mode acquired { s with semaphores := Function.update s.semaphores k (some sem) }

def release_lease (i : ℕ) (s : Process ρ κ) : Process ρ κ :=
  match s.held[i]? with
  | none => s
  | some lease => L.release lease { s with held := s.held.eraseIdx i }

def release_answered (i : ℕ) (answered : Bool) (s : Process ρ κ) : Process ρ κ :=
  match s.releasing[i]? with
  | none => s
  | some lease =>
    let s := { s with releasing := s.releasing.eraseIdx i }
    if answered = true then L.leave lease s else { s with lost := s.lost ++ [.leave lease] }

def step (s : Process ρ κ) : TaskEvent ρ κ → Process ρ κ
  | .acquire_lease request => L.acquire_lease request s
  | .probed i reply => L.probe_answered i reply s
  | .acquired i reply => L.acquire_answered i reply s
  | .woke i cancelled => L.wake i cancelled s
  | .cancel_lock i => s.cancel_lock i
  | .resume_lock i => L.resume_lock i s
  | .cancel_semaphore k i => s.cancel_semaphore k i
  | .resume_semaphore k i => L.resume_semaphore k i s
  | .release i => L.release_lease i s
  | .released i answered => L.release_answered i answered s

end Limits

/-! What no section touches: the tasks in the fleet's queue, those which release, and what is lost. -/
section Aside
variable {ρ κ : Type} {s : Process ρ κ}

def Process.aside (s : Process ρ κ) : List (FleetWait ρ) × List (FleetWait ρ) × List (Granted ρ) × List (Want ρ) :=
  (s.acquiring, s.sleeping, s.releasing, s.lost)

theorem Process.aside_lockThen {section_ : Process ρ κ → Process ρ κ} (frame : ∀ s, (section_ s).aside = s.aside)
    (w : Want ρ) : (s.lockThen w section_).aside = s.aside := by
  unfold lockThen
  split
  · exact frame _
  · rfl

namespace Limits
variable [DecidableEq κ] (L : Limits ρ κ) (request : ρ)

theorem aside_settleLocal (mode : LocalMode) (acquired : Bool) :
    (L.settleLocal request mode acquired s).aside = s.aside := by
  refine Process.aside_lockThen (fun s => ?_) _
  unfold settleLocalSection
  cases acquired <;> rfl

theorem aside_enterLocalSection (mode : LocalMode) : (L.enterLocalSection request mode s).aside = s.aside := by
  unfold enterLocalSection
  split
  · rfl
  · dsimp only
    split
    · exact L.aside_settleLocal request mode true
    · rfl

theorem aside_acquire_local (mode : LocalMode) : (L.acquire_local request mode s).aside = s.aside :=
  Process.aside_lockThen (fun _ => L.aside_enterLocalSection request mode) _

theorem aside_acquire_unavailable : (L.acquire_unavailable request s).aside = s.aside := by
  unfold acquire_unavailable
  split
  · rfl
  · rfl
  · exact L.aside_acquire_local request .degraded

theorem aside_settleSection (ended : Ended) : (L.settleSection request ended s).aside = s.aside := by
  cases ended with
  | granted => rfl
  | rejected => rfl
  | failed => exact L.aside_acquire_unavailable request
  | cancelled => rfl

theorem aside_settle (ended : Ended) : (L.settle request ended s).aside = s.aside :=
  Process.aside_lockThen (fun _ => L.aside_settleSection request ended) _

theorem aside_leave (lease : Granted ρ) : (L.leave lease s).aside = s.aside := by
  have frame : ∀ s, (L.leaveSection lease s).aside = s.aside := fun _ => rfl
  exact Process.aside_lockThen frame _

theorem aside_enter (w : Want ρ) : (L.enter w s).aside = s.aside := by
  cases w with
  | probe request => rfl
  | settle request ended => exact L.aside_settleSection request ended
  | enter_local request mode => exact L.aside_enterLocalSection request mode
  | settle_local request mode acquired => cases acquired <;> rfl
  | leave lease => rfl

theorem aside_acquire_lease : (L.acquire_lease request s).aside = s.aside := by
  unfold acquire_lease
  split
  · have frame : ∀ s, (L.probeSection request s).aside = s.aside := fun _ => rfl
    exact Process.aside_lockThen frame _
  · exact L.aside_acquire_local request .local_

end Limits

end Aside

/-! The two controllers -/

structure TenantPolicyBundle where
  for_tenant : String → TenantRuntimePolicy
  /-- The model of a policy demands it. -/
  positive : ∀ tenant_id, 1 ≤ (for_tenant tenant_id).max_concurrent_requests

/-- The arguments of a call of `acquire_lease`. -/
structure TenantModel where
  tenant_id : String
  model : Option String
  deriving DecidableEq, Repr

/-- `str(model or "*")` -/
def TenantModel.model_key (request : TenantModel) : String :=
  match request.model with
  | none => "*"
  | some model => if model = "" then "*" else model

/-- `_scope_key` -/
def tenant_scope_key (tenant_id model : String) : String := tenant_id ++ ":" ++ model

/-- `TenantAdmissionController`, for the calls of a run. -/
def TenantAdmissionController {ρ : Type} (bundle : TenantPolicyBundle) (redis : Bool) (call : ρ → TenantModel) :
    Limits ρ String where
  scope_key request := tenant_scope_key (call request).tenant_id (call request).model_key
  policy request := bundle.for_tenant (call request).tenant_id
  permits request := (bundle.for_tenant (call request).tenant_id).max_concurrent_requests
  redis

/-- `GlobalAdmissionController`: one scope, no Redis, and a semaphore with a permit at least. -/
def GlobalAdmissionController (limits : Chat.AdmissionLimits) : Limits Unit Unit where
  scope_key _ := ()
  policy _ := ⟨limits.max_inflight, limits.max_queued, .fail_closed⟩
  permits _ := max 1 limits.max_inflight
  redis := false

end RuntimePlatform.Admission
