import RuntimePlatform.Lib.Runs
import RuntimePlatform.Admission.Leases
import Mathlib.Data.Rat.Floor

/-!
The leases which a fleet holds, each with the loop that renews it. A loop ends at the first
error, so its lease lapses while the request runs; the slot is kept by the fleet as long as
no acquire comes behind that.
-/

namespace RuntimePlatform.Admission
open Redis Runs

/-- What becomes of a call to Redis: an answer, or an error, whether or not the script has run. -/
inductive Answer where
  | answered
  | failed (ran : Bool)
  deriving DecidableEq, Repr

/-- `int(time.time() * 1000)` -/
def now_ms (time : ℚ) : ℤ := ⌊time * 1000⌋

/-- A granted `AdmissionLease` which is not released: whether its renewal loop goes on, when the loop wakes up, and
the expiry which the scripts recorded last. -/
structure AdmissionLease (ι τ : Type) where
  lease_id : ι
  fencing_token : τ
  renewing : Bool
  due : ℚ
  expiry : ℤ

/-- The settings of the replicas, in seconds. -/
structure FleetSettings (τ : Type) where
  lease_ttl_seconds : ℚ
  renew_interval_seconds : ℚ
  max_concurrent_requests : ℕ
  tostring : ℕ → τ
  /-- `_env_float` allows no less. -/
  configured : 1 / 10 ≤ lease_ttl_seconds

structure Fleet (ι τ : Type) where
  keys : Keys ι τ
  held : List (AdmissionLease ι τ)
  time : ℚ

/-- One call to Redis, by whichever replica. -/
inductive FleetEvent (ι : Type) where
  | acquire (time : ℚ) (lease_id : ι) (answer : Answer)
  | renew (time : ℚ) (lease_id : ι) (answer : Answer)
  | release (time : ℚ) (lease_id : ι) (answer : Answer)
  | purge (time : ℚ) (answer : Answer)

def FleetEvent.time {ι : Type} : FleetEvent ι → ℚ
  | acquire time _ _ | renew time _ _ | release time _ _ | purge time _ => time

/-- The lease id which `uuid4` gives an acquire. -/
def FleetEvent.draws {ι : Type} : FleetEvent ι → List ι
  | acquire _ lease_id _ => [lease_id]
  | _ => []

namespace FleetSettings
variable {ι τ : Type} [DecidableEq ι] [DecidableEq τ] (S : FleetSettings τ)

def ttl_ms : ℤ := ⌊S.lease_ttl_seconds * 1000⌋

/-- What the renewal loop sleeps. -/
def interval : ℚ := min S.renew_interval_seconds (S.lease_ttl_seconds / 2)

def store : Settings τ := ⟨S.ttl_ms, S.max_concurrent_requests, S.tostring⟩

/-- `_eval`: the keys after a script, if it has run. -/
def eval (answer : Answer) (call : Call ι τ) (keys : Keys ι τ) : Keys ι τ :=
  if answer = .failed false then keys else S.store.exec keys call

/-- The lease of an acquire which got a slot, with its renewal started. -/
def start_renewal (time : ℚ) (lease_id : ι) (token : ℕ) : AdmissionLease ι τ where
  lease_id := lease_id
  fencing_token := S.tostring token
  renewing := true
  due := time + S.interval
  expiry := now_ms time + S.ttl_ms

def granted (keys : Keys ι τ) (time : ℚ) (lease_id : ι) : Answer → Option (AdmissionLease ι τ)
  | .answered => (S.store.granted? keys (.acquire (now_ms time) lease_id)).map fun grant =>
      S.start_renewal time lease_id grant.2
  | .failed _ => none

/-- The script finds the lease and moves its expiry. -/
def renews (keys : Keys ι τ) (time : ℚ) (lease : AdmissionLease ι τ) : Bool :=
  (renewLua (now_ms time) S.ttl_ms lease.lease_id lease.fencing_token (keys.evict (now_ms time))).1

/-- The lease after one round of `_renew_loop`: a refusal or an error ends the loop. -/
def renewed (keys : Keys ι τ) (time : ℚ) (answer : Answer) (lease : AdmissionLease ι τ) : AdmissionLease ι τ :=
  { lease with
    renewing := decide (answer = .answered) && S.renews keys time lease
    due := time + S.interval
    expiry := if answer ≠ .failed false ∧ S.renews keys time lease = true then now_ms time + S.ttl_ms
      else lease.expiry }

def find (lease_id : ι) (held : List (AdmissionLease ι τ)) : Option (AdmissionLease ι τ) :=
  held.find? fun lease => decide (lease.lease_id = lease_id)

def step (f : Fleet ι τ) : FleetEvent ι → Fleet ι τ
  | .acquire time lease_id answer =>
    { keys := S.eval answer (.acquire (now_ms time) lease_id) f.keys
      held := (S.granted f.keys time lease_id answer).toList ++ f.held
      time }
  | .renew time lease_id answer =>
    match find lease_id f.held with
    | none => { f with time }
    | some lease =>
      if lease.renewing = false then { f with time }
      else
        { keys := S.eval answer (.renew (now_ms time) lease_id lease.fencing_token) f.keys
          held := f.held.map fun other =>
            if other.lease_id = lease_id then S.renewed f.keys time answer other else other
          time }
  | .release time lease_id answer =>
    match find lease_id f.held with
    | none => { f with time }
    | some lease =>
      { keys := S.eval answer (.release (now_ms time) lease_id lease.fencing_token) f.keys
        held := f.held.filter fun other => decide (other.lease_id ≠ lease_id)
        time }
  | .purge time answer => { f with keys := S.eval answer (.purge (now_ms time)) f.keys, time }

end FleetSettings

def Fleet.start {ι τ : Type} (time : ℚ) : Fleet ι τ := ⟨Keys.empty, [], time⟩

/-- Time goes on, no loop wakes up late, and an acquire draws an id which no lease has. -/
def OnSchedule {ι τ : Type} (f : Fleet ι τ) (e : FleetEvent ι) : Prop :=
  f.time ≤ e.time ∧ (∀ lease ∈ f.held, lease.renewing = true → e.time ≤ lease.due) ∧
    ∀ lease ∈ f.held, lease.lease_id ∉ e.draws

/-- An acquire finds no lease past its expiry whose renewal has ended before its request. -/
def Unlapsed {ι τ : Type} (f : Fleet ι τ) : FleetEvent ι → Prop
  | .acquire time _ _ => ∀ lease ∈ f.held, lease.renewing = false → now_ms time < lease.expiry
  | _ => True

instance {ι τ : Type} [DecidableEq ι] (f : Fleet ι τ) (e : FleetEvent ι) : Decidable (OnSchedule f e) :=
  inferInstanceAs (Decidable (_ ∧ _ ∧ _))

instance {ι τ : Type} (f : Fleet ι τ) (e : FleetEvent ι) : Decidable (Unlapsed f e) :=
  match e with
  | .acquire .. => inferInstanceAs (Decidable (∀ lease ∈ f.held, _))
  | .renew .. | .release .. | .purge .. => isTrue trivial

variable {ι τ : Type} [DecidableEq ι] [DecidableEq τ] {S : FleetSettings τ}

theorem now_ms_mono {time later : ℚ} (le : time ≤ later) : now_ms time ≤ now_ms later :=
  Int.floor_le_floor (mul_le_mul_of_nonneg_right le (by norm_num))

namespace FleetSettings

omit [DecidableEq τ] in
theorem ttl_long (S : FleetSettings τ) : 100 ≤ S.ttl_ms := by
  refine Int.le_floor.mpr ?_
  have configured := S.configured
  push_cast
  linarith

omit [DecidableEq τ] in
/-- A loop which wakes up after its interval comes before the expiry. -/
theorem early_of_due (S : FleetSettings τ) {time later : ℚ} (due : later ≤ time + S.interval) :
    now_ms later < now_ms time + S.ttl_ms := by
  have half : S.interval ≤ S.lease_ttl_seconds / 2 := min_le_right _ _
  have started := Int.lt_floor_add_one (time * 1000)
  have life := Int.lt_floor_add_one (S.lease_ttl_seconds * 1000)
  have long : (100 : ℚ) ≤ S.ttl_ms := by exact_mod_cast S.ttl_long
  refine Int.floor_lt.mpr ?_
  change time * 1000 < now_ms time + 1 at started
  change S.lease_ttl_seconds * 1000 < S.ttl_ms + 1 at life
  push_cast
  linarith

variable (S) in
/-- The store holds the lease until the expiry which it recorded. -/
def Stays (time : ℤ) (keys : Keys ι τ) (lease : AdmissionLease ι τ) : Prop :=
  Holding S.ttl_ms lease.lease_id lease.fencing_token time lease.expiry keys ∨ lease.expiry ≤ time

variable {keys : Keys ι τ} {lease : AdmissionLease ι τ} {time : ℤ}

omit [DecidableEq τ] in
theorem Stays.holding (stays : S.Stays time keys lease) {now : ℤ} (le : time ≤ now) (early : now < lease.expiry) :
    Holding S.ttl_ms lease.lease_id lease.fencing_token now lease.expiry keys := by
  rcases stays with holding | lapsed
  · exact holding.later le
  · omega

/-- A call about other leases. -/
theorem Stays.eval (stays : S.Stays time keys lease) (call : Call ι τ) (le : time ≤ call.now)
    (unmoved : call.expiry S.ttl_ms lease.lease_id lease.fencing_token lease.expiry = lease.expiry)
    (kept : ∀ now, call ≠ .release now lease.lease_id lease.fencing_token) (other : lease.lease_id ∉ call.draws)
    (answer : Answer) : S.Stays call.now (S.eval answer call keys) lease := by
  by_cases early : call.now < lease.expiry
  · have holding := stays.holding le early
    refine Or.inl ?_
    unfold FleetSettings.eval
    split
    · exact holding
    · have after := Holding.exec (S := S.store) holding call le_rfl early kept other
      change Holding S.ttl_ms _ _ _ (call.expiry S.ttl_ms _ _ _) _ at after
      rw [unmoved] at after
      exact after
  · exact Or.inr (not_lt.mp early)

theorem renews_of_holding {now : ℚ}
    (holding : Holding S.ttl_ms lease.lease_id lease.fencing_token (now_ms now) lease.expiry keys)
    (early : now_ms now < lease.expiry) : S.renews keys now lease = true := by
  have there := holding.evict le_rfl early
  unfold renews renewLua
  rw [if_neg (not_not.mpr there.stored), there.lease]

theorem inv_eval (inv : Inv S.max_concurrent_requests keys) (answer : Answer) (call : Call ι τ) :
    Inv S.max_concurrent_requests (S.eval answer call keys) := by
  unfold FleetSettings.eval
  split
  · exact inv
  · exact Inv.exec (S := S.store) inv call

omit [DecidableEq τ] in
/-- Leases with different ids which the store holds are no more than its members. -/
theorem length_le_card {held : List (AdmissionLease ι τ)} {leases : ZSet ι}
    (apart : (held.map AdmissionLease.lease_id).Nodup) (there : ∀ lease ∈ held, lease.lease_id ∈ leases) :
    held.length ≤ card leases := by
  have listed : (held.map AdmissionLease.lease_id).toFinset ⊆ leases.ids := by
    intro id member
    obtain ⟨lease, present, rfl⟩ := List.mem_map.mp (List.mem_toFinset.mp member)
    exact AList.mem_ids.mpr (there lease present)
  calc held.length = (held.map AdmissionLease.lease_id).length := (List.length_map _).symm
    _ = (held.map AdmissionLease.lease_id).toFinset.card := (List.toFinset_card_of_nodup apart).symm
    _ ≤ card leases := Finset.card_le_card listed

variable (S) in
/-- What every admitted step keeps: the leases of the fleet lie in the store until their expiry, and a loop which
goes on wakes up before it. -/
structure Sound (f : Fleet ι τ) : Prop where
  inv : Inv S.max_concurrent_requests f.keys
  apart : (f.held.map AdmissionLease.lease_id).Nodup
  stays : ∀ lease ∈ f.held, S.Stays (now_ms f.time) f.keys lease
  early : ∀ lease ∈ f.held, lease.renewing = true → ∀ time ≤ lease.due, now_ms time < lease.expiry
  few : f.held.length ≤ S.max_concurrent_requests

omit [DecidableEq τ] in
theorem find_eq_some {lease_id : ι} {held : List (AdmissionLease ι τ)} (found : find lease_id held = some lease) :
    lease ∈ held ∧ lease.lease_id = lease_id :=
  ⟨List.mem_of_find?_eq_some found, of_decide_eq_true (@List.find?_some _ (fun lease : AdmissionLease ι τ =>
    decide (lease.lease_id = lease_id)) _ _ found)⟩

variable {f : Fleet ι τ}

omit [DecidableEq τ] in
theorem Sound.later (sound : S.Sound f) {now : ℚ} (le : f.time ≤ now) : S.Sound { f with time := now } := by
  refine ⟨sound.inv, sound.apart, fun lease member => ?_, sound.early, sound.few⟩
  by_cases early : now_ms now < lease.expiry
  · exact Or.inl ((sound.stays lease member).holding (now_ms_mono le) early)
  · exact Or.inr (not_lt.mp early)

theorem Sound.purge (sound : S.Sound f) {now : ℚ} (le : f.time ≤ now) (answer : Answer) :
    S.Sound (S.step f (.purge now answer)) := by
  refine ⟨inv_eval sound.inv answer _, sound.apart, fun lease member => ?_, sound.early, sound.few⟩
  exact (sound.stays lease member).eval (.purge (now_ms now)) (now_ms_mono le) rfl nofun List.not_mem_nil answer

theorem Sound.release (sound : S.Sound f) {now : ℚ} (le : f.time ≤ now) (lease_id : ι) (answer : Answer) :
    S.Sound (S.step f (.release now lease_id answer)) := by
  cases found : find lease_id f.held with
  | none =>
      simp only [step, found]
      exact sound.later le
  | some released =>
      simp only [step, found]
      have kept : (f.held.filter fun other => decide (other.lease_id ≠ lease_id)).Sublist f.held := List.filter_sublist
      refine ⟨inv_eval sound.inv answer _, sound.apart.sublist (kept.map _), fun lease member => ?_,
        fun lease member => sound.early lease (kept.mem member), kept.length_le.trans sound.few⟩
      have different := of_decide_eq_true (List.mem_filter.mp member).2
      refine (sound.stays lease (kept.mem member)).eval (.release (now_ms now) lease_id released.fencing_token)
        (now_ms_mono le) rfl ?_ List.not_mem_nil answer
      intro now' same
      injection same with _ ids _
      exact different ids.symm

/-- A loop which goes on finds its lease in the store, and either moves the expiry or ends. -/
theorem Sound.renew (sound : S.Sound f) {now : ℚ} (le : f.time ≤ now)
    (onTime : ∀ lease ∈ f.held, lease.renewing = true → now ≤ lease.due) (lease_id : ι) (answer : Answer) :
    S.Sound (S.step f (.renew now lease_id answer)) := by
  cases found : find lease_id f.held with
  | none =>
      simp only [step, found]
      exact sound.later le
  | some lease =>
      cases loop : lease.renewing with
      | false =>
          simp only [step, found, loop, if_true]
          exact sound.later le
      | true =>
          simp only [step, found, loop, Bool.true_eq_false, if_false]
          obtain ⟨member, rfl⟩ := find_eq_some found
          have early := sound.early lease member loop now (onTime lease member loop)
          have holding := (sound.stays lease member).holding (now_ms_mono le) early
          have there := renews_of_holding holding early
          have same : ∀ other ∈ f.held, other.lease_id = lease.lease_id → other = lease := fun other present same =>
            List.inj_on_of_nodup_map sound.apart present member same
          have ids : (f.held.map fun other => if other.lease_id = lease.lease_id then S.renewed f.keys now answer other
              else other).map AdmissionLease.lease_id = f.held.map AdmissionLease.lease_id := by
            rw [List.map_map]
            refine List.map_congr_left fun other _ => ?_
            change AdmissionLease.lease_id (if other.lease_id = lease.lease_id then _ else other) = _
            split <;> rfl
          refine ⟨inv_eval sound.inv answer _, ids ▸ sound.apart, ?_, ?_, ?_⟩
          · intro _ listed
            obtain ⟨other, present, rfl⟩ := List.mem_map.mp listed
            by_cases own : other.lease_id = lease.lease_id
            · obtain rfl := same other present own
              rw [if_pos rfl]
              refine Or.inl ?_
              unfold FleetSettings.eval renewed
              by_cases lost : answer = .failed false
              · rw [if_pos lost]
                simp only [lost, ne_eq, not_true_eq_false, false_and, if_false]
                exact holding
              · have after := Holding.exec (S := S.store) holding
                  (.renew (now_ms now) other.lease_id other.fencing_token) le_rfl early (fun _ bad => by cases bad)
                  List.not_mem_nil
                simp only [Call.expiry, and_self, if_true] at after
                simp only [ne_eq, lost, not_false_eq_true, there, and_self, if_true]
                exact after
            · rw [if_neg own]
              refine (sound.stays other present).eval (.renew (now_ms now) lease.lease_id lease.fencing_token)
                (now_ms_mono le) ?_ (fun _ bad => by cases bad) List.not_mem_nil answer
              exact if_neg fun both => own both.1.symm
          · intro _ listed
            obtain ⟨other, present, rfl⟩ := List.mem_map.mp listed
            by_cases own : other.lease_id = lease.lease_id
            · obtain rfl := same other present own
              rw [if_pos rfl]
              intro goes later due
              have answered : answer = .answered := by
                change (decide (answer = .answered) && S.renews f.keys now other) = true at goes
                exact of_decide_eq_true (Bool.and_eq_true_iff.mp goes).1
              subst answered
              have next := S.early_of_due due
              unfold renewed
              simp only [ne_eq, reduceCtorEq, not_false_eq_true, there, and_self, if_true]
              exact next
            · rw [if_neg own]
              exact sound.early other present
          · rw [List.length_map]
            exact sound.few

/-- An acquire which finds every lease of the fleet in the store has a slot for the lease which it grants. -/
theorem Sound.acquire (sound : S.Sound f) {now : ℚ} (le : f.time ≤ now)
    (onTime : ∀ lease ∈ f.held, lease.renewing = true → now ≤ lease.due)
    (unlapsed : ∀ lease ∈ f.held, lease.renewing = false → now_ms now < lease.expiry) {lease_id : ι}
    (fresh : ∀ lease ∈ f.held, lease.lease_id ≠ lease_id) (answer : Answer) :
    S.Sound (S.step f (.acquire now lease_id answer)) := by
  have inv := inv_eval sound.inv answer (.acquire (now_ms now) lease_id)
  have stays : ∀ lease ∈ f.held,
      S.Stays (now_ms now) (S.eval answer (.acquire (now_ms now) lease_id) f.keys) lease := fun lease member =>
    (sound.stays lease member).eval (.acquire (now_ms now) lease_id) (now_ms_mono le) rfl nofun
      (fun drawn => fresh lease member (List.mem_singleton.mp drawn)) answer
  have early : ∀ lease ∈ f.held, now_ms now < lease.expiry := by
    intro lease member
    cases loop : lease.renewing with
    | false => exact unlapsed lease member loop
    | true => exact sound.early lease member loop now (onTime lease member loop)
  cases grant : S.granted f.keys now lease_id answer with
  | none =>
      simp only [step, grant, Option.toList_none, List.nil_append]
      exact ⟨inv, sound.apart, stays, sound.early, sound.few⟩
  | some lease =>
      simp only [step, grant, Option.toList_some, List.singleton_append]
      cases answer with
      | failed ran => cases grant
      | answered =>
          obtain ⟨⟨id, token⟩, granted, rfl⟩ := Option.map_eq_some_iff.mp grant
          have same : id = lease_id := by
            unfold Settings.granted? at granted
            dsimp only at granted
            split at granted
            · exact (Prod.mk.inj (Option.some.inj granted)).1.symm
            · cases granted
          subst same
          have new : Holding S.ttl_ms id (S.tostring token) (now_ms now) (now_ms now + S.ttl_ms)
              (S.eval .answered (.acquire (now_ms now) id) f.keys) :=
            holding_granted S.store f.keys (lt_of_lt_of_le (by norm_num) S.ttl_long) granted
          have apart : ((S.start_renewal now id token :: f.held).map AdmissionLease.lease_id).Nodup := by
            refine List.nodup_cons.mpr ⟨fun listed => ?_, sound.apart⟩
            obtain ⟨lease, member, same⟩ := List.mem_map.mp listed
            exact fresh lease member same
          refine ⟨inv, apart, ?_, ?_, ?_⟩
          · intro lease member
            rcases List.mem_cons.mp member with rfl | older
            · exact Or.inl new
            · exact stays lease older
          · intro lease member
            rcases List.mem_cons.mp member with rfl | older
            · exact fun _ later due => S.early_of_due due
            · exact sound.early lease older
          · refine (length_le_card apart fun lease member => ?_).trans inv.bounded
            rcases List.mem_cons.mp member with rfl | older
            · exact AList.mem_of_lookup new.lease
            · rcases stays lease older with holding | lapsed
              · exact AList.mem_of_lookup holding.lease
              · exact absurd (early lease older) (not_lt.mpr lapsed)

theorem Sound.step (sound : S.Sound f) (e : FleetEvent ι) (scheduled : OnSchedule f e) (unlapsed : Unlapsed f e) :
    S.Sound (S.step f e) := by
  obtain ⟨clock, onTime, fresh⟩ := scheduled
  cases e with
  | acquire now lease_id answer =>
      refine sound.acquire clock onTime unlapsed (fun lease member same => ?_) answer
      exact fresh lease member (List.mem_singleton.mpr same)
  | renew now lease_id answer => exact sound.renew clock onTime lease_id answer
  | release now lease_id answer => exact sound.release clock lease_id answer
  | purge now answer => exact sound.purge clock answer

end FleetSettings

/-- In a run on schedule, with any calls failing, as long as no acquire comes behind the expiry of a lease whose
renewal has ended, the fleet never holds more leases than the tenant may have. -/
theorem fleet_limit_kept (S : FleetSettings τ) (start : ℚ) (events : List (FleetEvent ι))
    (scheduled : EveryStep S.step OnSchedule (.start start) events)
    (unlapsed : EveryStep S.step Unlapsed (.start start) events) :
    EveryState S.step (fun f => f.held.length ≤ S.max_concurrent_requests) (.start start) events := by
  have sound : S.Sound (.start start : Fleet ι τ) :=
    ⟨inv_empty _, List.nodup_nil, (fun _ none => nomatch none), (fun _ none => nomatch none), Nat.zero_le _⟩
  have admitted : EveryStep S.step (fun f e => OnSchedule f e ∧ Unlapsed f e) (.start start) events :=
    everyStep_and.mpr ⟨scheduled, unlapsed⟩
  have keeps : ∀ (f : Fleet ι τ) (e : FleetEvent ι), S.Sound f → OnSchedule f e ∧ Unlapsed f e → S.Sound (S.step f e) :=
    fun f e here both => here.step e both.1 both.2
  have every := everyState_of_keeps keeps sound admitted
  exact every.mono fun f here => here.few

def oneFleetSlot : FleetSettings ℕ := ⟨10, 5, 1, id, by norm_num⟩

/-- A lease is renewed, its next renewal fails, and it is released before it lapses. -/
def renewedInTime : List (FleetEvent ℕ) :=
  [.acquire 0 1 .answered, .renew 5 1 .answered, .renew 10 1 (.failed false), .acquire 11 2 .answered,
    .release 12 1 .answered, .acquire 13 3 .answered]

theorem fleet_limit_kept_renewed :
    EveryState oneFleetSlot.step (fun f => f.held.length ≤ 1) (.start 0) renewedInTime := by
  refine fleet_limit_kept oneFleetSlot 0 renewedInTime ?_ ?_
  · decide +kernel
  · decide +kernel

/-- A lease lapses during its request, for one renewal which failed, and another request gets the slot. -/
theorem fleet_limit_exceeded :
    EveryStep oneFleetSlot.step OnSchedule (.start 0)
        [.acquire 0 1 .answered, .renew 5 1 (.failed false), .acquire 11 2 .answered] ∧
      (run oneFleetSlot.step (.start 0 : Fleet ℕ ℕ)
        [.acquire 0 1 .answered, .renew 5 1 (.failed false), .acquire 11 2 .answered]).held.length = 2 := by
  decide +kernel

end RuntimePlatform.Admission
