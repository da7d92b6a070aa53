import RuntimePlatform.Admission.LocalAdmission
import RuntimePlatform.Admission.Fencing

/-!
Isolation of the scopes. The sections of `TenantAdmissionController`, its semaphores and its scripts, on the dicts of
the process and the keys of Redis which all tenants and models share. Each operation is atomic; in which order they
come is left to the tasks. Two runs are compared which differ only in the operations for one tenant and model.
-/

namespace RuntimePlatform.Admission
open Asyncio Redis

/-! The names of the keys. -/

/-- The names of the three keys, up to their kind. -/
def admission_key (kind tenant_id model : String) : String := "arp:" ++ tenant_id ++ ":admission:" ++ model ++ kind

def leases_key (tenant_id model : String) : String := admission_key ":leases" tenant_id model

def tokens_key (tenant_id model : String) : String := admission_key ":tokens" tenant_id model

def fence_key (tenant_id model : String) : String := admission_key ":fence" tenant_id model

theorem admission_key_eq {kind kind' tenant_id tenant_id' model model' : String} (long : kind.length = kind'.length)
    (same : admission_key kind tenant_id model = admission_key kind' tenant_id' model') :
    kind = kind' ∧ admission_key "" tenant_id model = admission_key "" tenant_id' model' := by
  unfold admission_key at *
  have chars := congrArg String.toList same
  simp only [String.toList_append] at chars
  obtain ⟨stem, last⟩ := List.append_inj' chars long
  refine ⟨String.toList_inj.mp last, String.toList_inj.mp ?_⟩
  simp only [String.toList_append]
  exact congrArg (· ++ "".toList) stem

/-- A key of one kind is never one of another. -/
theorem kinds_apart (tenant_id model tenant_id' model' : String) :
    leases_key tenant_id model ≠ tokens_key tenant_id' model' ∧
      leases_key tenant_id model ≠ fence_key tenant_id' model' ∧
        tokens_key tenant_id model ≠ fence_key tenant_id' model' := by
  have last : ∀ {kind kind' : String}, admission_key kind tenant_id model = admission_key kind' tenant_id' model' →
      kind.toList.getLast?.or (("arp:" ++ tenant_id ++ ":admission:" ++ model).toList.getLast?) =
        kind'.toList.getLast?.or (("arp:" ++ tenant_id' ++ ":admission:" ++ model').toList.getLast?) := by
    intro kind kind' same
    unfold admission_key at same
    have chars := congrArg List.getLast? (congrArg String.toList same)
    rwa [String.toList_append (t := kind), String.toList_append (t := kind'), List.getLast?_append,
      List.getLast?_append] at chars
  refine ⟨fun same => ?_, fun same => ?_, fun same => ?_⟩
  · have long : ":leases".length = ":tokens".length := by decide
    exact absurd (admission_key_eq long same).1 (by decide)
  · simpa using last same
  · simpa using last same

/-- The keys of two scopes are the same in all kinds or in none. -/
theorem keys_same_iff {tenant_id model tenant_id' model' : String} :
    (leases_key tenant_id model = leases_key tenant_id' model' ↔
      admission_key "" tenant_id model = admission_key "" tenant_id' model') ∧
    (tokens_key tenant_id model = tokens_key tenant_id' model' ↔
      admission_key "" tenant_id model = admission_key "" tenant_id' model') ∧
    (fence_key tenant_id model = fence_key tenant_id' model' ↔
      admission_key "" tenant_id model = admission_key "" tenant_id' model') := by
  have each : ∀ kind, admission_key kind tenant_id model = admission_key kind tenant_id' model' ↔
      admission_key "" tenant_id model = admission_key "" tenant_id' model' := by
    intro kind
    refine ⟨fun same => (admission_key_eq rfl same).2, fun same => ?_⟩
    have stem : ∀ tenant_id model, admission_key kind tenant_id model = admission_key "" tenant_id model ++ kind := by
      intro tenant_id model
      unfold admission_key
      rw [String.append_empty]
    rw [stem, stem, same]
  exact ⟨each _, each _, each _⟩

/-! The operations. -/

/-- The lifetime of leases in milliseconds, and Lua's `tostring`. -/
structure LeaseSettings (τ : Type) where
  ttl_ms : ℤ
  tostring : ℕ → τ
  positive : 0 < ttl_ms

variable {ι τ : Type}

/-- The dicts of the process, and the keys of Redis by their kinds. -/
structure Scopes (ι τ : Type) where
  process : Process TenantModel String
  leases : String → Key (ZSet ι)
  tokens : String → Key (Dict ι τ)
  fence : String → Key ℕ

namespace Scopes

def new : Scopes ι τ := ⟨Process.new, fun _ => Key.missing, fun _ => Key.missing, fun _ => Key.missing⟩

/-- The keys of a scope. -/
def keys (s : Scopes ι τ) (request : TenantModel) : Keys ι τ where
  leases := s.leases (leases_key request.tenant_id request.model_key)
  tokens := s.tokens (tokens_key request.tenant_id request.model_key)
  fence := s.fence (fence_key request.tenant_id request.model_key)

def putKeys (s : Scopes ι τ) (request : TenantModel) (keys : Keys ι τ) : Scopes ι τ :=
  { s with
    leases := Function.update s.leases (leases_key request.tenant_id request.model_key) keys.leases
    tokens := Function.update s.tokens (tokens_key request.tenant_id request.model_key) keys.tokens
    fence := Function.update s.fence (fence_key request.tenant_id request.model_key) keys.fence }

end Scopes

/-- What an `acquire_lease` or a `release` does between two suspensions, and the scripts, those of other replicas
included. -/
inductive Section (ι τ : Type) where
  /-- `_local_semaphore` -/
  | local_semaphore
  /-- The test of `_acquire_local`. -/
  | enter_local
  /-- `sem.acquire()`, up to its suspension. -/
  | wait (mode : LocalMode)
  | cancel (i : ℕ)
  | resume (i : ℕ)
  /-- The `finally` of `_acquire_local` and of `_acquire_redis`. -/
  | settle (acquired : Bool)
  /-- `sem.release()` -/
  | give
  /-- The end of `_release`. -/
  | leave
  /-- The first line of `_acquire_redis`. -/
  | read_queued
  /-- The test of `_acquire_redis`, with what the purge script answered and what was read before. -/
  | enter_redis (inflight queued : ℕ)
  | script (call : Call ι τ)

structure Operation (ι τ : Type) where
  request : TenantModel
  run : Section ι τ

/-- What an operation answers. -/
inductive SectionAnswer where
  | none
  | flag (b : Bool)
  | count (n : ℕ)
  | fleet (reply : AcquireReply)
  | purged (expired inflight : ℕ)
  deriving DecidableEq, Repr

section Perform
variable [DecidableEq ι] [DecidableEq τ]

/-- A script with its answer. -/
def Settings.answer (S : Settings τ) (k : Keys ι τ) : Call ι τ → SectionAnswer × Keys ι τ
  | .acquire now leaseId =>
    let r := acquireLua S.tostring now S.ttl S.limit leaseId (k.evict now)
    (.fleet r.1, r.2)
  | .renew now leaseId token =>
    let r := renewLua now S.ttl leaseId token (k.evict now)
    (.flag r.1, r.2)
  | .release now leaseId token =>
    let r := releaseLua leaseId token (k.evict now)
    (.flag r.1, r.2)
  | .purge now =>
    let r := purgeLua now (k.evict now)
    (.purged r.1.1 r.1.2, r.2)

variable (S : LeaseSettings τ) (bundle : TenantPolicyBundle) (redis : Bool)

/-- The controller, with the calls as its requests. -/
abbrev controller : Limits TenantModel String := TenantAdmissionController bundle redis id

/-- What an operation does to the dicts; without Redis there are no scripts. -/
def Section.local_ (request : TenantModel) (s : Process TenantModel String) :
    Section ι τ → SectionAnswer × Process TenantModel String
  | .local_semaphore =>
    (.none, (controller bundle redis).putSemaphore request ((controller bundle redis).local_semaphore request s) s)
  | .enter_local =>
    if (controller bundle redis).Full request (s.inflight ((controller bundle redis).scope_key request))
      (s.queued ((controller bundle redis).scope_key request)) then (.flag false, s)
    else (.flag true, (controller bundle redis).addQueued request s)
  | .wait mode =>
    match ((controller bundle redis).local_semaphore request s).acquire (request, mode) with
    | (acquired, sem) => (.flag acquired, (controller bundle redis).putSemaphore request sem s)
  | .cancel i => (.none, s.cancel_semaphore ((controller bundle redis).scope_key request) i)
  | .resume i =>
    match (s.semaphores ((controller bundle redis).scope_key request)).bind fun sem => sem.resume i with
    | none => (.none, s)
    | some (_, acquired, sem) => (.flag acquired, (controller bundle redis).putSemaphore request sem s)
  | .settle acquired =>
    let s := (controller bundle redis).lowerQueued request s
    (.none, if acquired = true then (controller bundle redis).addInflight request s else s)
  | .give =>
    (.none, (controller bundle redis).putSemaphore request
      ((controller bundle redis).local_semaphore request s).release s)
  | .leave => (.none, (controller bundle redis).lowerInflight request s)
  | .read_queued => (.count (s.queued ((controller bundle redis).scope_key request)), s)
  | .enter_redis inflight queued =>
    if (controller bundle redis).Full request inflight queued then (.flag false, s)
    else (.flag true, { s with
      queued := Function.update s.queued ((controller bundle redis).scope_key request) (queued + 1) })
  | .script _ => (.none, s)

def perform (s : Scopes ι τ) (op : Operation ι τ) : SectionAnswer × Scopes ι τ :=
  match op.run, redis with
  | .script call, true =>
    let r := Settings.answer ⟨S.ttl_ms, (bundle.for_tenant op.request.tenant_id).max_concurrent_requests, S.tostring⟩
      (s.keys op.request) call
    (r.1, s.putKeys op.request r.2)
  | section_, _ =>
    let r := section_.local_ bundle redis op.request s.process
    (r.1, { s with process := r.2 })

/-- The answers to the operations for one tenant and model. -/
def answersTo (own : TenantModel) (s : Scopes ι τ) (ops : List (Operation ι τ)) : List SectionAnswer :=
  Runs.answers (perform S bundle redis) (fun op => decide (op.request = own)) s ops

variable (ι) in
/-- Whatever is inserted or removed for the other tenant and model, the answers stay the same. -/
def Isolated (own other : TenantModel) : Prop :=
  ∀ ops ops' : List (Operation ι τ), (ops.filter fun op => decide (op.request ≠ other)) =
    (ops'.filter fun op => decide (op.request ≠ other)) →
      answersTo S bundle redis own .new ops = answersTo S bundle redis own .new ops'

end Perform

/-- The two scopes have different entries in the dicts, and with Redis different keys of each kind. -/
def Apart (redis : Bool) (own other : TenantModel) : Prop :=
  tenant_scope_key own.tenant_id own.model_key ≠ tenant_scope_key other.tenant_id other.model_key ∧
    (redis = true → leases_key own.tenant_id own.model_key ≠ leases_key other.tenant_id other.model_key)

/-- The keys of a scope. -/
def TenantModel.keys (request : TenantModel) : List String :=
  [leases_key request.tenant_id request.model_key, tokens_key request.tenant_id request.model_key,
    fence_key request.tenant_id request.model_key]

/-- The two scopes share no entry of the dicts, and with Redis no key. -/
def Sharing (redis : Bool) (own other : TenantModel) : Prop :=
  tenant_scope_key own.tenant_id own.model_key = tenant_scope_key other.tenant_id other.model_key ∨
    redis = true ∧ ∃ key, key ∈ own.keys ∧ key ∈ other.keys

/-- Two scopes share a key just when they share the one of the leases. -/
theorem shared_key_iff {own other : TenantModel} : (∃ key, key ∈ own.keys ∧ key ∈ other.keys) ↔
    leases_key own.tenant_id own.model_key = leases_key other.tenant_id other.model_key := by
  obtain ⟨leases, tokens, fence⟩ := @keys_same_iff own.tenant_id own.model_key other.tenant_id other.model_key
  obtain ⟨lt, lf, tf⟩ := kinds_apart own.tenant_id own.model_key other.tenant_id other.model_key
  obtain ⟨tl, fl, ft⟩ := kinds_apart other.tenant_id other.model_key own.tenant_id own.model_key
  constructor
  · rintro ⟨key, mine, theirs⟩
    simp only [TenantModel.keys, List.mem_cons, List.not_mem_nil, or_false] at mine theirs
    rw [leases]
    rcases mine with rfl | rfl | rfl
    · rcases theirs with same | same | same
      · exact leases.mp same
      · exact absurd same lt
      · exact absurd same lf
    · rcases theirs with same | same | same
      · exact absurd same.symm tl
      · exact tokens.mp same
      · exact absurd same tf
    · rcases theirs with same | same | same
      · exact absurd same.symm fl
      · exact absurd same.symm ft
      · exact fence.mp same
  · exact fun same => ⟨_, List.mem_cons_self, same ▸ List.mem_cons_self⟩

theorem sharing_iff {redis : Bool} {own other : TenantModel} : Sharing redis own other ↔ ¬ Apart redis own other := by
  unfold Sharing Apart
  rw [shared_key_iff]
  tauto

/-- What stands before a sign it does not contain, and after it, can be told from the whole. -/
theorem split_at_sign {α : Type*} {sign : α} {before before' after after' : List α} (plain : sign ∉ before)
    (plain' : sign ∉ before') (same : before ++ sign :: after = before' ++ sign :: after') :
    before = before' ∧ after = after' := by
  induction before generalizing before' with
  | nil =>
      cases before' with
      | nil => exact ⟨rfl, (List.cons.inj same).2⟩
      | cons first rest => exact absurd ((List.cons.inj same).1 ▸ List.mem_cons_self) plain'
  | cons first rest ih =>
      cases before' with
      | nil => exact absurd ((List.cons.inj same).1 ▸ List.mem_cons_self) plain
      | cons first' rest' =>
          obtain ⟨rfl, rests⟩ := List.cons.inj same
          obtain ⟨rfl, equal⟩ := ih (List.not_mem_of_not_mem_cons plain) (List.not_mem_of_not_mem_cons plain') rests
          exact ⟨rfl, equal⟩

/-- Tenants without a colon share nothing unless the models are the same, too. -/
theorem apart_of_plain {own other : TenantModel} (redis : Bool) (plain : ':' ∉ own.tenant_id.toList)
    (plain' : ':' ∉ other.tenant_id.toList)
    (differ : own.tenant_id = other.tenant_id → own.model_key ≠ other.model_key) : Apart redis own other := by
  have parts : ∀ rest rest' : List Char, own.tenant_id.toList ++ ':' :: rest = other.tenant_id.toList ++ ':' :: rest' →
      own.tenant_id = other.tenant_id ∧ rest = rest' := fun rest rest' same =>
    (split_at_sign plain plain' same).imp String.toList_inj.mp id
  constructor
  · intro same
    have chars := congrArg String.toList same
    unfold tenant_scope_key at chars
    rw [String.toList_append, String.toList_append, String.toList_append, String.toList_append, List.append_assoc,
      List.append_assoc] at chars
    obtain ⟨tenants, models⟩ := parts _ _ chars
    exact differ tenants (String.toList_inj.mp models)
  · intro _ same
    have chars := congrArg String.toList (keys_same_iff.1.mp same)
    unfold admission_key at chars
    simp only [String.toList_append, List.append_assoc] at chars
    obtain ⟨tenants, rests⟩ := parts _ _ (List.append_cancel_left chars)
    have models : ":admission:".toList ++ (own.model_key.toList ++ "".toList) =
        ":admission:".toList ++ (other.model_key.toList ++ "".toList) := congrArg (List.cons ':') rests
    exact differ tenants (String.toList_inj.mp (List.append_cancel_right (List.append_cancel_left models)))

/-! Operations touch the entries of their own scope. -/

/-- The entries of the dicts under one key. -/
def entries (k : String) (s : Process TenantModel String) : Option (Semaphore (TenantModel × LocalMode)) × ℕ × ℕ :=
  (s.semaphores k, s.queued k, s.inflight k)

section Entries
variable {bundle : TenantPolicyBundle} {redis : Bool} {request : TenantModel} {k : String}
  {s s' : Process TenantModel String}

theorem entries_putSemaphore (sem : Semaphore (TenantModel × LocalMode)) :
    entries k ((controller bundle redis).putSemaphore request sem s) =
      if (controller bundle redis).scope_key request = k then
        (some sem, (entries ((controller bundle redis).scope_key request) s).2) else entries k s := by
  by_cases same : (controller bundle redis).scope_key request = k
  · rw [if_pos same, ← same]
    exact congrArg₂ Prod.mk (Function.update_self _ _ _) rfl
  · rw [if_neg same]
    exact congrArg₂ Prod.mk (Function.update_of_ne (Ne.symm same) _ _) rfl

theorem entries_queued (n : ℕ) :
    entries k { s with queued := Function.update s.queued ((controller bundle redis).scope_key request) n } =
      if (controller bundle redis).scope_key request = k then
        ((entries ((controller bundle redis).scope_key request) s).1, n,
          (entries ((controller bundle redis).scope_key request) s).2.2)
      else entries k s := by
  by_cases same : (controller bundle redis).scope_key request = k
  · rw [if_pos same, ← same]
    exact congrArg (Prod.mk _) (congrArg₂ Prod.mk (Function.update_self _ _ _) rfl)
  · rw [if_neg same]
    exact congrArg (Prod.mk _) (congrArg₂ Prod.mk (Function.update_of_ne (Ne.symm same) _ _) rfl)

theorem entries_inflight (n : ℕ) :
    entries k { s with inflight := Function.update s.inflight ((controller bundle redis).scope_key request) n } =
      if (controller bundle redis).scope_key request = k then
        ((entries ((controller bundle redis).scope_key request) s).1,
          (entries ((controller bundle redis).scope_key request) s).2.1, n)
      else entries k s := by
  by_cases same : (controller bundle redis).scope_key request = k
  · rw [if_pos same, ← same]
    exact congrArg (Prod.mk _) (congrArg (Prod.mk _) (Function.update_self _ _ _))
  · rw [if_neg same]
    exact congrArg (Prod.mk _) (congrArg (Prod.mk _) (Function.update_of_ne (Ne.symm same) _ _))

theorem entries_cancel (i : ℕ) :
    entries k (s.cancel_semaphore ((controller bundle redis).scope_key request) i) =
      if (controller bundle redis).scope_key request = k then
        ((entries ((controller bundle redis).scope_key request) s).1.map fun sem => sem.cancel i,
          (entries ((controller bundle redis).scope_key request) s).2)
      else entries k s := by
  by_cases same : (controller bundle redis).scope_key request = k
  · rw [if_pos same, ← same]
    exact congrArg₂ Prod.mk (Function.update_self _ _ _) rfl
  · rw [if_neg same]
    exact congrArg₂ Prod.mk (Function.update_of_ne (Ne.symm same) _ _) rfl

/-- What an operation does to the entries of its scope. -/
def Section.entries (bundle : TenantPolicyBundle) (redis : Bool) (request : TenantModel)
    (e : Option (Semaphore (TenantModel × LocalMode)) × ℕ × ℕ) :
    Section ι τ → SectionAnswer × Option (Semaphore (TenantModel × LocalMode)) × ℕ × ℕ
  | .local_semaphore => (.none, some (e.1.getD (.new ((controller bundle redis).permits request))), e.2)
  | .enter_local =>
    if (controller bundle redis).Full request e.2.2 e.2.1 then (.flag false, e)
    else (.flag true, e.1, e.2.1 + 1, e.2.2)
  | .wait mode =>
    let r := (e.1.getD (.new ((controller bundle redis).permits request))).acquire (request, mode)
    (.flag r.1, some r.2, e.2)
  | .cancel i => (.none, e.1.map fun sem => sem.cancel i, e.2)
  | .resume i =>
    match e.1.bind fun sem => sem.resume i with
    | none => (.none, e)
    | some (_, acquired, sem) => (.flag acquired, some sem, e.2)
  | .settle acquired => (.none, e.1, e.2.1 - 1, if acquired = true then e.2.2 + 1 else e.2.2)
  | .give => (.none, some (e.1.getD (.new ((controller bundle redis).permits request))).release, e.2)
  | .leave => (.none, e.1, e.2.1, e.2.2 - 1)
  | .read_queued => (.count e.2.1, e)
  | .enter_redis inflight queued =>
    if (controller bundle redis).Full request inflight queued then (.flag false, e)
    else (.flag true, e.1, queued + 1, e.2.2)
  | .script _ => (.none, e)

theorem entries_same (k : String) (s : Process TenantModel String) :
    entries k s = if (controller bundle redis).scope_key request = k then
      entries ((controller bundle redis).scope_key request) s else entries k s := by
  split
  · next same => rw [same]
  · rfl

variable (bundle redis request) in
/-- An operation answers from the entries of its scope, and writes no others. -/
theorem entries_local (section_ : Section ι τ) (s : Process TenantModel String) :
    (section_.local_ bundle redis request s).1 =
        (section_.entries bundle redis request (entries ((controller bundle redis).scope_key request) s)).1 ∧
      ∀ k, entries k (section_.local_ bundle redis request s).2 =
        if (controller bundle redis).scope_key request = k then
          (section_.entries bundle redis request (entries ((controller bundle redis).scope_key request) s)).2
        else entries k s := by
  cases section_ with
  | local_semaphore => exact ⟨rfl, fun k => entries_putSemaphore _⟩
  | enter_local =>
      by_cases full : (controller bundle redis).Full request (s.inflight ((controller bundle redis).scope_key request))
          (s.queued ((controller bundle redis).scope_key request))
      · have here : (Section.enter_local : Section ι τ).local_ bundle redis request s = (.flag false, s) := if_pos full
        have there : (Section.enter_local : Section ι τ).entries bundle redis request
          (entries ((controller bundle redis).scope_key request) s) = (.flag false, _) := if_pos full
        rw [here, there]
        exact ⟨rfl, fun k => entries_same k s⟩
      · have here : (Section.enter_local : Section ι τ).local_ bundle redis request s = (.flag true, _) := if_neg full
        have there : (Section.enter_local : Section ι τ).entries bundle redis request
          (entries ((controller bundle redis).scope_key request) s) = (.flag true, _) := if_neg full
        rw [here, there]
        exact ⟨rfl, fun k => entries_queued _⟩
  | wait mode => exact ⟨rfl, fun k => entries_putSemaphore _⟩
  | cancel i => exact ⟨rfl, fun k => entries_cancel i⟩
  | resume i =>
      unfold Section.local_ Section.entries
      dsimp only [entries]
      cases (s.semaphores ((controller bundle redis).scope_key request)).bind fun sem => sem.resume i with
      | none => exact ⟨rfl, fun k => entries_same k s⟩
      | some resumed => exact ⟨rfl, fun k => entries_putSemaphore _⟩
  | settle acquired =>
      refine ⟨rfl, fun k => ?_⟩
      cases acquired with
      | true =>
          have lowered : ∀ k, entries k ((controller bundle redis).lowerQueued request s) = _ :=
            fun k => entries_queued _
          refine (entries_inflight _).trans ?_
          by_cases same : (controller bundle redis).scope_key request = k
          · rw [if_pos same, if_pos same]
            refine Eq.trans (congrArg (fun e => (e.1, e.2.1, _)) ((lowered _).trans (if_pos rfl))) ?_
            rfl
          · rw [if_neg same, if_neg same]
            exact (lowered k).trans (if_neg same)
      | false => exact entries_queued _
  | give => exact ⟨rfl, fun k => entries_putSemaphore _⟩
  | leave => exact ⟨rfl, fun k => entries_inflight _⟩
  | read_queued => exact ⟨rfl, fun k => entries_same k s⟩
  | enter_redis inflight queued =>
      unfold Section.local_ Section.entries
      dsimp only
      split
      · exact ⟨rfl, fun k => entries_same k s⟩
      · exact ⟨rfl, fun k => entries_queued _⟩
  | script call => exact ⟨rfl, fun k => entries_same k s⟩

end Entries

theorem keys_same {own other : TenantModel}
    (same : leases_key other.tenant_id other.model_key = leases_key own.tenant_id own.model_key) (s : Scopes ι τ) :
    s.keys other = s.keys own := by
  have stem := keys_same_iff.1.mp same
  unfold Scopes.keys
  rw [same, keys_same_iff.2.1.mpr stem, keys_same_iff.2.2.mpr stem]

theorem keys_putKeys (s : Scopes ι τ) (own other : TenantModel) (keys : Keys ι τ) :
    (s.putKeys other keys).keys own =
      if leases_key other.tenant_id other.model_key = leases_key own.tenant_id own.model_key then keys
      else s.keys own := by
  by_cases same : leases_key other.tenant_id other.model_key = leases_key own.tenant_id own.model_key
  · have stem := keys_same_iff.1.mp same
    rw [if_pos same]
    unfold Scopes.keys Scopes.putKeys
    dsimp only
    rw [same, keys_same_iff.2.1.mpr stem, keys_same_iff.2.2.mpr stem, Function.update_self, Function.update_self,
      Function.update_self]
  · have differ : admission_key "" own.tenant_id own.model_key ≠ admission_key "" other.tenant_id other.model_key :=
      fun stem => same (keys_same_iff.1.mpr stem.symm)
    rw [if_neg same]
    unfold Scopes.keys Scopes.putKeys
    dsimp only
    rw [Function.update_of_ne (mt keys_same_iff.1.mp differ), Function.update_of_ne (mt keys_same_iff.2.1.mp differ),
      Function.update_of_ne (mt keys_same_iff.2.2.mp differ)]

section Perform
variable [DecidableEq ι] [DecidableEq τ] (S : LeaseSettings τ) (bundle : TenantPolicyBundle) (redis : Bool)

/-- What an operation does to the keys of its scope. -/
def Operation.onKeys (op : Operation ι τ) (k : Keys ι τ) : SectionAnswer × Keys ι τ :=
  match op.run, redis with
  | .script call, true =>
    Settings.answer ⟨S.ttl_ms, (bundle.for_tenant op.request.tenant_id).max_concurrent_requests, S.tostring⟩ k call
  | _, _ => (.none, k)

def Operation.answer (op : Operation ι τ) (e : Option (Semaphore (TenantModel × LocalMode)) × ℕ × ℕ) (k : Keys ι τ) :
    SectionAnswer :=
  match op.run, redis with
  | .script _, true => (op.onKeys S bundle redis k).1
  | section_, _ => (section_.entries bundle redis op.request e).1

/-- An operation answers from what its own scope has, and writes nothing else. -/
theorem perform_spec (s : Scopes ι τ) (op : Operation ι τ) :
    (perform S bundle redis s op).1 = op.answer S bundle redis
      (entries ((controller bundle redis).scope_key op.request) s.process) (s.keys op.request) ∧
    (∀ k, entries k (perform S bundle redis s op).2.process =
      if (controller bundle redis).scope_key op.request = k then
        (op.run.entries bundle redis op.request
          (entries ((controller bundle redis).scope_key op.request) s.process)).2
      else entries k s.process) ∧
    ∀ own : TenantModel, (perform S bundle redis s op).2.keys own =
      if leases_key op.request.tenant_id op.request.model_key = leases_key own.tenant_id own.model_key then
        (op.onKeys S bundle redis (s.keys own)).2
      else s.keys own := by
  obtain ⟨request, section_⟩ := op
  have onDicts : ∀ section_ : Section ι τ,
      (Operation.onKeys S bundle redis ⟨request, section_⟩ = fun k => (.none, k)) →
      perform S bundle redis s ⟨request, section_⟩ = ((section_.local_ bundle redis request s.process).1,
        { s with process := (section_.local_ bundle redis request s.process).2 }) →
      ∀ own : TenantModel, (perform S bundle redis s ⟨request, section_⟩).2.keys own =
        if leases_key request.tenant_id request.model_key = leases_key own.tenant_id own.model_key then
          (Operation.onKeys S bundle redis ⟨request, section_⟩ (s.keys own)).2
        else s.keys own := by
    intro section_ idle done own
    rw [idle, done]
    exact (ite_self _).symm
  have local_ := entries_local bundle redis request section_ s.process
  cases section_ with
  | script call =>
      cases redis with
      | true =>
          refine ⟨rfl, local_.2, fun own => ?_⟩
          refine (keys_putKeys s own request _).trans ?_
          split
          · next same => rw [← keys_same same]; rfl
          · rfl
      | false => exact ⟨local_.1, local_.2, onDicts _ rfl rfl⟩
  | _ => exact ⟨local_.1, local_.2, onDicts _ rfl rfl⟩

/-- Without Redis no answer depends on its keys. -/
theorem answer_local (e : Option (Semaphore (TenantModel × LocalMode)) × ℕ × ℕ) (k k' : Keys ι τ)
    {op : Operation ι τ} : op.answer S bundle false e k = op.answer S bundle false e k' := by
  obtain ⟨request, section_⟩ := op
  cases section_ with
  | _ => rfl

/-- Two states which are alike for one scope. -/
structure Alike (own : TenantModel) (s s' : Scopes ι τ) : Prop where
  entries : entries ((controller bundle redis).scope_key own) s.process =
    entries ((controller bundle redis).scope_key own) s'.process
  keys : redis = true → s.keys own = s'.keys own

variable {S bundle redis} {own other : TenantModel} {s s' : Scopes ι τ}

/-- An operation for a scope which is apart changes nothing for this one. -/
theorem Alike.aside (alike : Alike bundle redis own s s') {op : Operation ι τ} (apart : Apart redis own op.request) :
    Alike bundle redis own (perform S bundle redis s op).2 s' := by
  obtain ⟨-, dicts, keys⟩ := perform_spec S bundle redis s op
  refine ⟨?_, fun on => ?_⟩
  · rw [dicts, if_neg fun same => apart.1 same.symm]
    exact alike.entries
  · rw [keys, if_neg fun same => apart.2 on same.symm]
    exact alike.keys on

/-- The same operation answers a scope alike, and leaves it alike. -/
theorem Alike.perform (alike : Alike bundle redis own s s') (op : Operation ι τ) :
    (op.request = own → (perform S bundle redis s op).1 = (perform S bundle redis s' op).1) ∧
      Alike bundle redis own (perform S bundle redis s op).2 (perform S bundle redis s' op).2 := by
  obtain ⟨answer, dicts, keys⟩ := perform_spec S bundle redis s op
  obtain ⟨answer', dicts', keys'⟩ := perform_spec S bundle redis s' op
  refine ⟨fun mine => ?_, ?_, fun on => ?_⟩
  · rw [answer, answer', mine, alike.entries]
    by_cases on : redis = true
    · rw [alike.keys on]
    · rw [Bool.eq_false_iff.mpr on]
      exact answer_local S bundle _ _ _
  · rw [dicts, dicts']
    by_cases same : (controller bundle redis).scope_key op.request = (controller bundle redis).scope_key own
    · rw [if_pos same, if_pos same, same, alike.entries]
    · rw [if_neg same, if_neg same]
      exact alike.entries
  · rw [keys, keys', alike.keys on]

/-- Scopes which are apart are isolated. -/
theorem isolated_of_apart (apart : Apart redis own other) : Isolated ι S bundle redis own other := by
  intro ops ops' same
  have different : own ≠ other := fun bad => apart.1 (bad ▸ rfl)
  have without : ∀ ops : List (Operation ι τ), answersTo S bundle redis own .new ops =
      answersTo S bundle redis own .new (ops.filter fun op => decide (op.request ≠ other)) := by
    intro ops
    refine Runs.answers_filter (R := Alike bundle redis own) ?_ ?_ ⟨rfl, fun _ => rfl⟩ ops
    · intro s s' op alike left
      have theirs : op.request = other := not_not.mp (of_decide_eq_false left)
      exact ⟨decide_eq_false fun mine => different (mine.symm.trans theirs), alike.aside (theirs ▸ apart)⟩
    · intro s s' op alike _
      exact ⟨fun mine => (alike.perform op).1 (of_decide_eq_true mine), (alike.perform op).2⟩
  rw [without ops, without ops', same]

end Perform

/-! Scopes which are not apart. -/

/-- The sections of `_acquire_local` of one scope. -/
def sections (request : TenantModel) (run : List (Section ι τ)) : List (Operation ι τ) := run.map (Operation.mk request)

/-- A permit is asked for. -/
def asking : List (Section ι τ) := [.local_semaphore, .enter_local, .wait .local_]

/-- A lease is taken without waiting. -/
def taking : List (Section ι τ) := asking ++ [.settle true]

/-- A scope takes as many leases as it may. -/
def crowding (bundle : TenantPolicyBundle) (request : TenantModel) : List (Operation ι τ) :=
  (List.replicate (bundle.for_tenant request.tenant_id).max_concurrent_requests (sections request taking)).flatten

def Section.onDicts : Section ι τ → Bool
  | .script _ => false
  | _ => true

section Asking
variable {bundle : TenantPolicyBundle} {redis : Bool} {own other : TenantModel}

theorem onDicts_taking : ∀ section_ ∈ (taking : List (Section ι τ)), section_.onDicts = true := by
  intro section_ member
  simp only [taking, asking, List.cons_append, List.nil_append, List.mem_cons, List.not_mem_nil, or_false] at member
  rcases member with rfl | rfl | rfl | rfl <;> rfl

/-- The semaphore of a scope, from its entries. -/
def semaphoreOf (bundle : TenantPolicyBundle) (request : TenantModel)
    (e : Option (Semaphore (TenantModel × LocalMode)) × ℕ × ℕ) : Semaphore (TenantModel × LocalMode) :=
  e.1.getD (.new (bundle.for_tenant request.tenant_id).max_concurrent_requests)

variable (bundle redis own) in
/-- Whether or not the test lets a task in, the semaphore answers it. -/
theorem asking_spec (e : Option (Semaphore (TenantModel × LocalMode)) × ℕ × ℕ) : ∃ let_in,
    Runs.answers (fun e section_ => Section.entries bundle redis own e section_) (fun _ => true) e
        (asking : List (Section ι τ)) =
      [.none, .flag let_in, .flag ((semaphoreOf bundle own e).acquire (own, .local_)).1] ∧
    (Runs.run (fun e section_ => (Section.entries bundle redis own e section_).2) e (asking : List (Section ι τ))).1 =
      some ((semaphoreOf bundle own e).acquire (own, .local_)).2 := by
  obtain ⟨sem, queued, inflight⟩ := e
  have entered : ∃ let_in queued', (Section.enter_local : Section ι τ).entries bundle redis own
      (some (semaphoreOf bundle own (sem, queued, inflight)), queued, inflight) =
        (.flag let_in, some (semaphoreOf bundle own (sem, queued, inflight)), queued', inflight) := by
    by_cases full : (controller bundle redis).Full own inflight queued
    · exact ⟨false, queued, if_pos full⟩
    · exact ⟨true, queued + 1, if_neg full⟩
  obtain ⟨let_in, queued', entered⟩ := entered
  refine ⟨let_in, ?_, ?_⟩
  · simp only [asking, Runs.answers, if_true]
    change [_, ((Section.enter_local : Section ι τ).entries bundle redis own
      (some (semaphoreOf bundle own (sem, queued, inflight)), queued, inflight)).1,
        ((Section.wait .local_ : Section ι τ).entries bundle redis own ((Section.enter_local : Section ι τ).entries
          bundle redis own (some (semaphoreOf bundle own (sem, queued, inflight)), queued, inflight)).2).1] = _
    rw [entered]
    rfl
  · change ((Section.wait .local_ : Section ι τ).entries bundle redis own ((Section.enter_local : Section ι τ).entries
      bundle redis own (some (semaphoreOf bundle own (sem, queued, inflight)), queued, inflight)).2).2.1 = _
    rw [entered]
    rfl

theorem request_of_sections {request : TenantModel} {run : List (Section ι τ)} {op : Operation ι τ}
    (member : op ∈ sections request run) : op.request = request := by
  obtain ⟨section_, -, rfl⟩ := List.mem_map.mp member
  rfl

theorem request_of_crowding {op : Operation ι τ} (member : op ∈ crowding bundle other) : op.request = other := by
  obtain ⟨group, repeated, member⟩ := List.mem_flatten.mp member
  rw [List.eq_of_mem_replicate repeated] at member
  exact request_of_sections member

theorem taking_entries {e : Option (Semaphore (TenantModel × LocalMode)) × ℕ × ℕ} {n : ℕ}
    (free : semaphoreOf bundle own e = ⟨n + 1, []⟩) :
    (Runs.run (fun e section_ => (section_.entries bundle redis own e).2) e (taking : List (Section ι τ))).1 =
      some ⟨n, []⟩ := by
  obtain ⟨_, -, asked⟩ := asking_spec (ι := ι) (τ := τ) bundle redis own e
  unfold taking
  rw [Runs.run_append]
  refine Eq.trans ?_ (asked.trans ?_)
  · rfl
  · rw [free]
    rfl

end Asking

section First
variable [DecidableEq ι]

/-- The first lease gets the first token, and the counter stays. -/
theorem acquire_first (S : LeaseSettings τ) {limit : ℕ} (positive : 1 ≤ limit) (id : ι) :
    (acquireLua S.tostring 0 S.ttl_ms limit id (Keys.empty.evict 0)).1 = .granted 1 1 0 ∧
      ((acquireLua S.tostring 0 S.ttl_ms limit id (Keys.empty.evict 0)).2.evict 0).fence.value = 1 := by
  have room : ¬ 0 ≥ limit := Nat.not_le.mpr positive
  have none : (Keys.empty : Keys ι τ).evict 0 = Keys.empty := by
    simp only [Keys.evict, Keys.empty, Key.evict_missing]
  have granted : acquireLua S.tostring 0 S.ttl_ms limit id (Keys.empty : Keys ι τ) = (.granted 1 1 0, _) := if_neg room
  have later : 0 < S.ttl_ms * 8 := Int.mul_pos S.positive (by decide)
  rw [none, granted]
  refine ⟨rfl, ?_⟩
  change (((Key.missing.put 1).pexpire 0 (S.ttl_ms * 8)).evict 0).value = 1
  rw [(Key.until_pexpire_put later _ _).evict_of_le (by omega), Key.pexpire_value _ later, Key.put_value]

/-- A lease gets the token which follows the counter, or none. -/
theorem acquire_next (S : LeaseSettings τ) (limit : ℕ) (id : ι) {k : Keys ι τ} (counted : k.fence.value = 1) :
    (acquireLua S.tostring 0 S.ttl_ms limit id k).1 ≠ .granted 1 1 0 := by
  unfold acquireLua
  dsimp only
  split
  · exact AcquireReply.noConfusion
  · rw [reclaim_fence, counted]
    intro granted
    injection granted with token
    cases token

end First

section Crowding
variable [DecidableEq ι] [DecidableEq τ] {S : LeaseSettings τ} {bundle : TenantPolicyBundle} {redis : Bool}
  {own other : TenantModel}

variable (S bundle redis own) in
/-- The sections of a scope, on its entries. -/
theorem sections_spec {run : List (Section ι τ)} (onDicts : ∀ section_ ∈ run, section_.onDicts = true)
    (s : Scopes ι τ) :
    answersTo S bundle redis own s (sections own run) =
        Runs.answers (fun e section_ => section_.entries bundle redis own e) (fun _ => true)
          (entries (tenant_scope_key own.tenant_id own.model_key) s.process) run ∧
      entries (tenant_scope_key own.tenant_id own.model_key)
          (Runs.run (fun s op => (perform S bundle redis s op).2) s (sections own run)).process =
        Runs.run (fun e section_ => (section_.entries bundle redis own e).2)
          (entries (tenant_scope_key own.tenant_id own.model_key) s.process) run := by
  induction run generalizing s with
  | nil => exact ⟨rfl, rfl⟩
  | cons first rest ih =>
      obtain ⟨here, later⟩ := List.forall_mem_cons.mp onDicts
      obtain ⟨answer, dicts, -⟩ := perform_spec S bundle redis s ⟨own, first⟩
      have answer : (perform S bundle redis s ⟨own, first⟩).1 = (first.entries bundle redis own
          (entries (tenant_scope_key own.tenant_id own.model_key) s.process)).1 := by
        rw [answer]
        cases first with
        | script call => cases here
        | _ => rfl
      have next := (dicts (tenant_scope_key own.tenant_id own.model_key)).trans (if_pos rfl)
      obtain ⟨answers, state⟩ := ih later (perform S bundle redis s ⟨own, first⟩).2
      constructor
      · unfold answersTo sections at answers ⊢
        simp only [List.map_cons, Runs.answers, decide_true, if_true]
        rw [answers, answer, next]
        rfl
      · refine state.trans ?_
        rw [next]
        rfl

/-- As many leases as there are permits leave none. -/
theorem crowd_entries (n : ℕ) (s : Scopes ι τ)
    (free : semaphoreOf bundle other (entries (tenant_scope_key other.tenant_id other.model_key) s.process) =
      ⟨n + 1, []⟩) :
    (entries (tenant_scope_key other.tenant_id other.model_key)
      (Runs.run (fun s op => (perform S bundle redis s op).2) s
        (List.replicate (n + 1) (sections other taking)).flatten).process).1 = some ⟨0, []⟩ := by
  have once := fun s : Scopes ι τ => congrArg Prod.fst (sections_spec S bundle redis other onDicts_taking s).2
  induction n generalizing s with
  | zero =>
      rw [List.replicate_one, List.flatten_singleton, once s]
      exact taking_entries free
  | succ n ih =>
      rw [List.replicate_succ, List.flatten_cons, Runs.run_append]
      refine ih _ ?_
      unfold semaphoreOf
      rw [once s, taking_entries free]
      rfl

/-- What was done for the other scope before cannot be told from the answers. -/
theorem Isolated.before (isolated : Isolated ι S bundle redis own other) (different : own ≠ other)
    (before : List (Operation ι τ)) (theirs : ∀ op ∈ before, op.request = other) (after : List (Operation ι τ)) :
    answersTo S bundle redis own (Runs.run (fun s op => (perform S bundle redis s op).2) .new before) after =
      answersTo S bundle redis own .new after := by
  have left_out : (before.filter fun op => decide (op.request ≠ other)) = [] := by
    refine List.filter_eq_nil_iff.mpr fun op member => ?_
    rw [decide_eq_true_iff]
    exact not_not.mpr (theirs op member)
  have alike := isolated (before ++ after) after (by rw [List.filter_append, left_out, List.nil_append])
  unfold answersTo at alike ⊢
  rw [Runs.answers_append, Runs.answers_unchosen] at alike
  · exact alike
  · exact fun op member => decide_eq_false fun mine => different (mine.symm.trans (theirs op member))

/-- A scope which has taken all it may leaves none to another one with the same semaphore. -/
theorem not_isolated_of_scope (different : own ≠ other)
    (same : tenant_scope_key own.tenant_id own.model_key = tenant_scope_key other.tenant_id other.model_key) :
    ¬ Isolated ι S bundle redis own other := by
  intro isolated
  have alike := isolated.before different (crowding bundle other) (fun _ => request_of_crowding) (sections own asking)
  obtain ⟨n, permits⟩ := Nat.exists_eq_succ_of_ne_zero (Nat.one_le_iff_ne_zero.mp (bundle.positive other.tenant_id))
  obtain ⟨n', permits'⟩ := Nat.exists_eq_succ_of_ne_zero (Nat.one_le_iff_ne_zero.mp (bundle.positive own.tenant_id))
  have crowded : semaphoreOf bundle own (entries (tenant_scope_key own.tenant_id own.model_key)
      (Runs.run (fun s op => (perform S bundle redis s op).2) (.new : Scopes ι τ) (crowding bundle other)).process) =
        ⟨0, []⟩ := by
    unfold crowding semaphoreOf
    rw [same, permits, crowd_entries n .new (congrArg (Semaphore.new ·) permits)]
    rfl
  have alone : semaphoreOf bundle own (entries (tenant_scope_key own.tenant_id own.model_key)
      (.new : Scopes ι τ).process) = ⟨n' + 1, []⟩ := congrArg (Semaphore.new ·) permits'
  have onDicts : ∀ section_ ∈ (asking : List (Section ι τ)), section_.onDicts = true :=
    fun section_ member => onDicts_taking section_ (List.mem_append_left _ member)
  obtain ⟨_, there, -⟩ := asking_spec (ι := ι) (τ := τ) bundle redis own
    (entries (tenant_scope_key own.tenant_id own.model_key)
      (Runs.run (fun s op => (perform S bundle redis s op).2) (.new : Scopes ι τ) (crowding bundle other)).process)
  obtain ⟨_, here, -⟩ := asking_spec (ι := ι) (τ := τ) bundle redis own
    (entries (tenant_scope_key own.tenant_id own.model_key) (.new : Scopes ι τ).process)
  rw [(sections_spec S bundle redis own onDicts _).1, (sections_spec S bundle redis own onDicts _).1, there, here,
    crowded, alone] at alike
  have answer := congrArg (fun answers => answers[2]?) alike
  cases answer

/-- Its own operations are no others. -/
theorem not_isolated_self : ¬ Isolated ι S bundle redis own own := by
  intro isolated
  have alike := isolated (sections own [.read_queued]) [] (by simp [sections])
  simp only [answersTo, sections, List.map_cons, Runs.answers, decide_true, if_true] at alike
  cases alike

/-- A scope which has taken a lease moves the counter of another one with the same keys. -/
theorem not_isolated_of_keys [Inhabited ι] (different : own ≠ other)
    (same : leases_key own.tenant_id own.model_key = leases_key other.tenant_id other.model_key) :
    ¬ Isolated ι S bundle true own other := by
  intro isolated
  have alike := isolated.before different (sections other [.script (.acquire 0 default)])
    (fun _ => request_of_sections) (sections own [.script (.acquire 0 default)])
  obtain ⟨_, counted⟩ := acquire_first S (bundle.positive other.tenant_id) (default : ι)
  obtain ⟨first, _⟩ := acquire_first S (bundle.positive own.tenant_id) (default : ι)
  have moved := (perform_spec S bundle true .new (⟨other, .script (.acquire 0 (default : ι))⟩ : Operation ι τ)).2.2 own
  rw [if_pos same.symm] at moved
  have answer : ∀ s : Scopes ι τ, answersTo S bundle true own s (sections own [.script (.acquire 0 default)]) =
      [.fleet (acquireLua S.tostring 0 S.ttl_ms (bundle.for_tenant own.tenant_id).max_concurrent_requests default
        ((s.keys own).evict 0)).1] := by
    intro s
    unfold answersTo sections
    simp only [List.map_cons, List.map_nil, Runs.answers, decide_true, if_true]
    rfl
  rw [answer, answer] at alike
  have changed : (acquireLua S.tostring 0 S.ttl_ms (bundle.for_tenant own.tenant_id).max_concurrent_requests default
      (((Runs.run (fun s op => (perform S bundle true s op).2) .new
        (sections other [.script (.acquire 0 (default : ι))])).keys own).evict 0)).1 ≠ .granted 1 1 0 := by
    refine acquire_next S _ default ?_
    exact (congrArg (fun k : Keys ι τ => (k.evict 0).fence.value) moved).trans counted
  injection alike with head
  injection head with reply
  exact changed (reply.trans first)

/-- A scope is isolated from another just when it shares neither the entries of the dicts nor the keys of Redis with
it. -/
theorem scopes_isolated_iff [Inhabited ι] (S : LeaseSettings τ) (bundle : TenantPolicyBundle) (redis : Bool)
    (own other : TenantModel) :
    (Isolated ι S bundle redis own other ↔ Apart redis own other) ∧
      (¬ Sharing redis own other ↔ Apart redis own other) := by
  refine ⟨⟨fun isolated => ?_, isolated_of_apart⟩, (not_congr sharing_iff).trans not_not⟩
  by_cases same : own = other
  · subst same
    exact absurd isolated not_isolated_self
  · refine ⟨fun scopes => not_isolated_of_scope same scopes isolated, fun on keys => ?_⟩
    subst on
    exact not_isolated_of_keys same keys isolated

/-- The scope `user:alice:m` of the tenant `user:alice` is crowded by the tenant `user` with the model `alice:m`. -/
theorem scopes_shared :
    let S : LeaseSettings String := ⟨30000, fun n => n.repr, by decide⟩
    let own : TenantModel := ⟨"user:alice", some "m"⟩
    let other : TenantModel := ⟨"user", some "alice:m"⟩
    own ≠ other ∧ ¬ Isolated String S narrowBundle false own other ∧
      answersTo S narrowBundle false own (.new : Scopes String String)
        (crowding narrowBundle other ++ sections own asking) = [.none, .flag true, .flag false] ∧
      answersTo S narrowBundle false own (.new : Scopes String String) (sections own asking) =
        [.none, .flag true, .flag true] := by
  intro S own other
  have different : own ≠ other := by decide
  have shared : ¬ Isolated String S narrowBundle false own other := not_isolated_of_scope different rfl
  exact ⟨different, shared, by decide +kernel, by decide +kernel⟩

end Crowding

end RuntimePlatform.Admission
