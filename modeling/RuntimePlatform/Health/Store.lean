import RuntimePlatform.Lib.ReadThenWrite
import RuntimePlatform.Lib.Decimal

/-!
Health of a model: the signals of one process, and those which the replicas share in a hash. A request is recorded in
the hash with two commands, HGETALL and HSET. Latencies, times and rates are rationals here.
-/

namespace RuntimePlatform.Health
open Python ReadThenWrite

structure BackendHealth where
  available : Option Bool := none
  latency_ms : Option ℚ := none
  request_count : ℤ := 0
  error_count : ℤ := 0
  fallback_count : ℤ := 0
  ewma_error_rate : ℚ := 0
  consecutive_failures : ℤ := 0
  updated_at : ℚ := 0

/-- The arguments of `record_request`, and the time of its signal. -/
structure RecordRequest where
  success : Bool
  fallback_used : Bool
  now : ℚ

/-- The arguments of `_store_probe`, and its time. -/
structure StoreProbe where
  available : Bool
  latency_ms : ℚ
  now : ℚ

namespace BackendHealth

def error_rate (health : BackendHealth) : ℚ := if health.request_count ≠ 0 then health.ewma_error_rate else 0

def fallback_rate (health : BackendHealth) : ℚ :=
  if health.request_count ≠ 0 then health.fallback_count / health.request_count else 0

def score (health : BackendHealth) : ℤ :=
  if health.available = some false then 0
  else
    let latency_penalty := min (health.latency_ms.getD 0 / 20) 30
    let score := halfEven (max 0 (100 - latency_penalty - health.error_rate * 50 - health.fallback_rate * 20))
    if 3 ≤ health.consecutive_failures then min score 20 else score

def apply_request_signal (health : BackendHealth) (call : RecordRequest) : BackendHealth :=
  let alpha : ℚ := 3 / 10
  let sample : ℚ := if call.success then 0 else 1
  { health with
    request_count := health.request_count + 1
    error_count := health.error_count + if call.success then 0 else 1
    fallback_count := health.fallback_count + if call.fallback_used then 1 else 0
    ewma_error_rate := alpha * sample + (1 - alpha) * health.ewma_error_rate
    consecutive_failures := if call.success then 0 else health.consecutive_failures + 1
    updated_at := call.now }

/-- `BackendHealthStore._store_probe` -/
def store_probe (health : BackendHealth) (probe : StoreProbe) : BackendHealth :=
  { health with available := some probe.available, latency_ms := some probe.latency_ms }

def routing_signal (health : BackendHealth) : ℤ × Option ℚ × Option Bool :=
  (health.score, health.latency_ms, health.available)

end BackendHealth

/-- The hash of a model. A field which was never set is missing. -/
structure HealthHash where
  available : Option Bool := none
  latency_ms : Option ℚ := none
  request_count : Option ℤ := none
  error_count : Option ℤ := none
  fallback_count : Option ℤ := none
  ewma_error_rate : Option ℚ := none
  consecutive_failures : Option ℤ := none
  updated_at : Option ℚ := none

namespace HealthHash

/-- `RedisHealthStore._load` -/
def load (data : HealthHash) : BackendHealth where
  available := data.available
  latency_ms := data.latency_ms
  request_count := data.request_count.getD 0
  error_count := data.error_count.getD 0
  fallback_count := data.fallback_count.getD 0
  ewma_error_rate := data.ewma_error_rate.getD 0
  consecutive_failures := data.consecutive_failures.getD 0
  updated_at := data.updated_at.getD 0

/-- `RedisHealthStore._store_probe` -/
def store_probe (probe : StoreProbe) (hash : HealthHash) : HealthHash :=
  { hash with
    available := some probe.available
    latency_ms := some probe.latency_ms
    updated_at := some probe.now }

/-- The HSET of `RedisHealthStore.record_request`, with the data of its HGETALL. -/
def record_request (call : RecordRequest) (data hash : HealthHash) : HealthHash :=
  let health := data.load.apply_request_signal call
  { hash with
    request_count := some health.request_count
    error_count := some health.error_count
    fallback_count := some health.fallback_count
    ewma_error_rate := some health.ewma_error_rate
    consecutive_failures := some health.consecutive_failures
    updated_at := some health.updated_at }

end HealthHash

/-- The hash which all replicas write to. -/
def fleet : Cell HealthHash RecordRequest StoreProbe := ⟨HealthHash.record_request, HealthHash.store_probe⟩

abbrev Command := Event RecordRequest StoreProbe

/-- The hash and the calls under way after some commands on an empty hash. -/
def after (commands : List Command) : State HealthHash RecordRequest StoreProbe :=
  Runs.run fleet.step (start {}) commands

/-- The counters count these calls, each once. -/
def CountersExact (hash : HealthHash) (calls : List RecordRequest) : Prop :=
  hash.load.request_count = calls.length ∧ hash.load.error_count = calls.countP (fun call => !call.success) ∧
    hash.load.fallback_count = calls.countP (fun call => call.fallback_used)

/-- Between the HGETALL and the HSET of every call, no other call sets its counters. -/
def NoneBetween (commands : List Command) : Prop := Runs.EveryStep fleet.step Fresh (start {}) commands

variable {commands : List Command}

theorem fleet_blind : fleet.Blind := fun _ _ _ _ => rfl

/-- The number of requests counts the writes. -/
theorem fleet_counts : Cell.Counts (fun hash => hash.load.request_count) fleet where
  put _ _ _ := rfl
  touch _ _ := rfl

/-- One after another, the calls are counted exactly. -/
theorem counters_serial (done : List (RecordRequest ⊕ StoreProbe)) :
    CountersExact (fleet.serial {} done) (done.filterMap Sum.getLeft?) := by
  induction done using List.reverseRecOn with
  | nil => exact ⟨rfl, rfl, rfl⟩
  | append_singleton done last ih =>
      obtain ⟨requests, errors, fallbacks⟩ := ih
      rw [fleet.serial_append, List.filterMap_append]
      cases last with
      | inr probe =>
          change CountersExact _ (_ ++ [])
          rw [List.append_nil]
          exact ⟨requests, errors, fallbacks⟩
      | inl call =>
          change CountersExact (HealthHash.record_request call _ _) (_ ++ [call])
          refine ⟨?_, ?_, ?_⟩
          · change (fleet.serial {} done).load.request_count + 1 = _
            rw [requests, List.length_append, List.length_singleton, Nat.cast_add, Nat.cast_one]
          · change (fleet.serial {} done).load.error_count + _ = _
            rw [errors, List.countP_append, List.countP_singleton, Nat.cast_add]
            cases call.success <;> rfl
          · change (fleet.serial {} done).load.fallback_count + _ = _
            rw [fallbacks, List.countP_append, List.countP_singleton, Nat.cast_add]
            cases call.fallback_used <;> rfl

theorem CountersExact.perm {hash : HealthHash} {calls calls' : List RecordRequest} (exactly : CountersExact hash calls)
    (same : calls.Perm calls') : CountersExact hash calls' :=
  ⟨exactly.1.trans (congrArg _ same.length_eq), exactly.2.1.trans (congrArg _ (same.countP_eq _)),
    exactly.2.2.trans (congrArg _ (same.countP_eq _))⟩

/-- When no call is under way, those which have written are those which were made. -/
theorem written_perm (complete : (after commands).pending = []) :
    ((after commands).done.filterMap Sum.getLeft?).Perm (calls commands) := by
  have every := fleet.calls_perm (start {}) commands
  change List.Perm (_ ++ (after commands).pending.map _) (calls commands) at every
  rw [complete, List.map_nil, List.append_nil] at every
  exact every

theorem writes_eq_length (done : List (RecordRequest ⊕ StoreProbe)) :
    writes done = (done.filterMap Sum.getLeft?).length := by
  induction done with
  | nil => rfl
  | cons first done ih =>
      cases first with
      | inl call => exact (List.countP_cons_of_pos rfl).trans (congrArg Nat.succ ih)
      | inr probe => exact (List.countP_cons_of_neg Bool.false_ne_true).trans ih

/-- When all calls have returned, their counts are exact if and only if none wrote between the two commands of
another. -/
theorem counters_exact_iff (commands : List Command) (complete : (after commands).pending = []) :
    CountersExact (after commands).value (calls commands) ↔ NoneBetween commands := by
  constructor
  · rintro ⟨requests, -, -⟩
    refine (Cell.rank_eq_writes_iff fleet_blind fleet_counts rfl commands).mp ?_
    rw [writes_eq_length]
    exact requests.trans (congrArg _ (written_perm complete).length_eq.symm)
  · intro fresh
    have serial : (after commands).value = _ := Cell.serial_of_fresh fleet_blind {} fresh
    rw [serial]
    exact (counters_serial _).perm (written_perm complete)

/-- Two failed requests, one after the other, with a probe between the commands of the first. -/
def probed_between : List Command :=
  [.read ⟨false, true, 1⟩, .touch ⟨true, 20, 2⟩, .write 0, .read ⟨false, false, 3⟩, .write 0]

theorem counters_exact_probed : CountersExact (after probed_between).value (calls probed_between) := by
  refine (counters_exact_iff probed_between rfl).mpr ⟨trivial, trivial, ?_, trivial, ?_, trivial⟩
  · rintro p found
    cases found
    rfl
  · rintro p found
    cases found
    rfl

/-- Two replicas record a request each. Both read the empty hash, and the second HSET overwrites the first. -/
def both_read : List Command := [.read ⟨true, false, 1⟩, .read ⟨false, true, 1⟩, .write 1, .write 0]

theorem update_lost : (after both_read).pending = [] ∧ ¬ CountersExact (after both_read).value (calls both_read) := by
  refine ⟨rfl, fun exactly => ?_⟩
  have one : (after both_read).value.load.request_count = 1 := rfl
  have two := exactly.1
  rw [one] at two
  cases two

/-! What a fleet routes by, when no update is lost. -/

/-- The same signals, recorded at other times perhaps. -/
def SameSignals (health health' : BackendHealth) : Prop :=
  { health with updated_at := 0 } = { health' with updated_at := 0 }

/-- The health which one process makes of the requests and probes. -/
def in_process (done : List (RecordRequest ⊕ StoreProbe)) : BackendHealth :=
  done.foldl (fun health => Sum.elim health.apply_request_signal health.store_probe) {}

theorem SameSignals.routing_signal {health health' : BackendHealth} (same : SameSignals health health') :
    health.routing_signal = health'.routing_signal := by
  unfold SameSignals at same
  have signal := congrArg BackendHealth.routing_signal same
  exact signal

theorem serial_in_process (done : List (RecordRequest ⊕ StoreProbe)) :
    SameSignals (fleet.serial {} done).load (in_process done) := by
  induction done using List.reverseRecOn with
  | nil => rfl
  | append_singleton done last ih =>
      have process : in_process (done ++ [last]) =
          Sum.elim (in_process done).apply_request_signal (in_process done).store_probe last := List.foldl_append
      rw [fleet.serial_append, process]
      cases last with
      | inl call =>
          have signalled := congrArg (fun health => health.apply_request_signal { call with now := 0 }) ih
          exact signalled
      | inr probe => exact congrArg (fun health => health.store_probe probe) ih

/-- A fleet in which no update is lost routes by the signals of one process. -/
theorem routing_signal_of_fresh (fresh : NoneBetween commands) :
    (after commands).value.load.routing_signal = (in_process (after commands).done).routing_signal := by
  have serial : (after commands).value = _ := Cell.serial_of_fresh fleet_blind {} fresh
  rw [serial]
  exact (serial_in_process _).routing_signal

end RuntimePlatform.Health
