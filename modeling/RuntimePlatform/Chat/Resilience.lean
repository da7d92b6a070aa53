import Mathlib.Algebra.Order.Ring.Rat

/-!
`resilience.py`: the circuit breaker and the atomic sections of the global admission
controller. A breaker call holds its lock throughout, so it is one function of the state.
-/

namespace RuntimePlatform.Chat

/-- A model name as a request gives it; `none` is any hashable value which is no text. -/
abbrev Model := Option String

inductive CircuitState where
  | CLOSED
  | OPEN
  | HALF_OPEN
  deriving DecidableEq, Repr

structure BreakerConfig where
  failure_threshold : ℕ
  recovery_seconds : ℚ
  half_open_max_probes : ℕ

/-- The four dicts; an absent key is `none`. -/
structure CircuitBreaker where
  failures : Model → Option ℕ
  opened_at : Model → Option ℚ
  state : Model → Option CircuitState
  half_open_probes : Model → Option ℕ

namespace CircuitBreaker

def initial : CircuitBreaker := ⟨fun _ => none, fun _ => none, fun _ => none, fun _ => none⟩

/-- `_state.get(backend, CLOSED)` -/
def stateOf (s : CircuitBreaker) (backend : Model) : CircuitState := (s.state backend).getD .CLOSED

variable (config : BreakerConfig)

/-- The first probe of an open circuit. -/
def enterHalfOpen (s : CircuitBreaker) (backend : Model) : CircuitBreaker :=
  { s with
    state := Function.update s.state backend (some .HALF_OPEN)
    half_open_probes := Function.update s.half_open_probes backend (some 1) }

/-- One more probe. -/
def takeSlot (s : CircuitBreaker) (backend : Model) (used : ℕ) : CircuitBreaker :=
  { s with half_open_probes := Function.update s.half_open_probes backend (some (used + 1)) }

def allow (s : CircuitBreaker) (clock : ℚ) (backend : Model) : Bool × CircuitBreaker :=
  match s.stateOf backend with
  | .CLOSED => (true, s)
  | .OPEN =>
    match s.opened_at backend with
    | none => (true, s)
    | some opened =>
      if clock - opened < config.recovery_seconds then (false, s) else (true, s.enterHalfOpen backend)
  | .HALF_OPEN =>
    let used := (s.half_open_probes backend).getD 0
    if used ≥ config.half_open_max_probes then (false, s) else (true, s.takeSlot backend used)

def record_success (s : CircuitBreaker) (backend : Model) : CircuitBreaker where
  failures := Function.update s.failures backend (some 0)
  opened_at := Function.update s.opened_at backend none
  half_open_probes := Function.update s.half_open_probes backend none
  state := Function.update s.state backend (some .CLOSED)

/-- The writes which open the circuit. -/
def openAt (s : CircuitBreaker) (clock : ℚ) (backend : Model) (failures : ℕ) : CircuitBreaker where
  failures := Function.update s.failures backend (some failures)
  opened_at := Function.update s.opened_at backend (some clock)
  half_open_probes := Function.update s.half_open_probes backend (some 0)
  state := Function.update s.state backend (some .OPEN)

def record_failure (s : CircuitBreaker) (clock : ℚ) (backend : Model) : CircuitBreaker :=
  if s.stateOf backend = .HALF_OPEN then s.openAt clock backend config.failure_threshold
  else
    let failures := (s.failures backend).getD 0 + 1
    if failures ≥ config.failure_threshold then s.openAt clock backend failures
    else { s with failures := Function.update s.failures backend (some failures) }

/-- What `allow` can do. -/
inductive Allowing (s : CircuitBreaker) (clock : ℚ) (backend : Model) : Bool → CircuitBreaker → Prop
  | closed (state : s.stateOf backend = .CLOSED) : Allowing s clock backend true s
  | unopened (state : s.stateOf backend = .OPEN) (opened : s.opened_at backend = none) :
      Allowing s clock backend true s
  | early (state : s.stateOf backend = .OPEN) (opened : ℚ) (at_ : s.opened_at backend = some opened)
      (early : clock - opened < config.recovery_seconds) : Allowing s clock backend false s
  | recovered (state : s.stateOf backend = .OPEN) (opened : ℚ) (at_ : s.opened_at backend = some opened)
      (late : ¬ clock - opened < config.recovery_seconds) : Allowing s clock backend true (s.enterHalfOpen backend)
  | full (state : s.stateOf backend = .HALF_OPEN)
      (used : (s.half_open_probes backend).getD 0 ≥ config.half_open_max_probes) : Allowing s clock backend false s
  | slot (state : s.stateOf backend = .HALF_OPEN)
      (free : (s.half_open_probes backend).getD 0 < config.half_open_max_probes) :
      Allowing s clock backend true (s.takeSlot backend ((s.half_open_probes backend).getD 0))

variable {config} {s : CircuitBreaker} {clock : ℚ} {backend other : Model}

theorem allow_cases (config : BreakerConfig) (s : CircuitBreaker) (clock : ℚ) (backend : Model) :
    Allowing config s clock backend (s.allow config clock backend).1 (s.allow config clock backend).2 := by
  unfold allow
  cases state : s.stateOf backend with
  | CLOSED => exact .closed state
  | OPEN =>
      cases at_ : s.opened_at backend with
      | none => exact .unopened state at_
      | some opened =>
          dsimp only
          by_cases early : clock - opened < config.recovery_seconds
          · rw [if_pos early]
            exact .early state opened at_ early
          · rw [if_neg early]
            exact .recovered state opened at_ early
  | HALF_OPEN =>
      dsimp only
      by_cases used : (s.half_open_probes backend).getD 0 ≥ config.half_open_max_probes
      · rw [if_pos used]
        exact .full state used
      · rw [if_neg used]
        exact .slot state (not_le.mp used)

@[simp] theorem stateOf_enterHalfOpen : (s.enterHalfOpen backend).stateOf backend = .HALF_OPEN := by
  simp only [stateOf, enterHalfOpen, Function.update_self, Option.getD_some]

theorem stateOf_enterHalfOpen_ne (different : other ≠ backend) :
    (s.enterHalfOpen backend).stateOf other = s.stateOf other := by
  simp only [stateOf, enterHalfOpen, Function.update_of_ne different]

@[simp] theorem stateOf_takeSlot (used : ℕ) : (s.takeSlot backend used).stateOf other = s.stateOf other := rfl

@[simp] theorem stateOf_record_success : (s.record_success backend).stateOf backend = .CLOSED := by
  simp only [stateOf, record_success, Function.update_self, Option.getD_some]

theorem stateOf_record_success_ne (different : other ≠ backend) :
    (s.record_success backend).stateOf other = s.stateOf other := by
  simp only [stateOf, record_success, Function.update_of_ne different]

@[simp] theorem stateOf_openAt (failures : ℕ) : (s.openAt clock backend failures).stateOf backend = .OPEN := by
  simp only [stateOf, openAt, Function.update_self, Option.getD_some]

theorem stateOf_openAt_ne (failures : ℕ) (different : other ≠ backend) :
    (s.openAt clock backend failures).stateOf other = s.stateOf other := by
  simp only [stateOf, openAt, Function.update_of_ne different]

/-- What `record_failure` can do: open the circuit, or count in a closed or open one. -/
inductive Failing (config : BreakerConfig) (s : CircuitBreaker) (clock : ℚ) (backend : Model) : CircuitBreaker → Prop
  | probe (state : s.stateOf backend = .HALF_OPEN) :
      Failing config s clock backend (s.openAt clock backend config.failure_threshold)
  | opens (state : s.stateOf backend ≠ .HALF_OPEN)
      (enough : (s.failures backend).getD 0 + 1 ≥ config.failure_threshold) :
      Failing config s clock backend (s.openAt clock backend ((s.failures backend).getD 0 + 1))
  | counts (state : s.stateOf backend ≠ .HALF_OPEN)
      (few : (s.failures backend).getD 0 + 1 < config.failure_threshold) :
      Failing config s clock backend
        { s with failures := Function.update s.failures backend (some ((s.failures backend).getD 0 + 1)) }

theorem record_failure_cases (config : BreakerConfig) (s : CircuitBreaker) (clock : ℚ) (backend : Model) :
    Failing config s clock backend (s.record_failure config clock backend) := by
  unfold record_failure
  by_cases state : s.stateOf backend = .HALF_OPEN
  · rw [if_pos state]
    exact .probe state
  · rw [if_neg state]
    dsimp only
    by_cases enough : (s.failures backend).getD 0 + 1 ≥ config.failure_threshold
    · rw [if_pos enough]
      exact .opens state enough
    · rw [if_neg enough]
      exact .counts state (not_le.mp enough)

end CircuitBreaker

/-! `GlobalAdmissionController`: the semaphore and the two counters. -/

structure AdmissionLimits where
  max_inflight : ℕ
  max_queued : ℕ

structure GlobalAdmission where
  /-- Free permits of the semaphore. -/
  sem : ℕ
  queued : ℕ
  inflight : ℕ
  deriving DecidableEq, Repr

namespace GlobalAdmission
variable (limits : AdmissionLimits) (s : GlobalAdmission)

def initial : GlobalAdmission := ⟨max 1 limits.max_inflight, 0, 0⟩

/-- The test under which `acquire` sheds the request. -/
def Sheds : Prop := s.inflight ≥ limits.max_inflight ∧ s.queued ≥ limits.max_queued

instance : Decidable (s.Sheds limits) := inferInstanceAs (Decidable (_ ∧ _))

def enqueue : GlobalAdmission := { s with queued := s.queued + 1 }

def take : GlobalAdmission := { s with sem := s.sem - 1 }

/-- The `finally` of `acquire`. -/
def dequeue (acquired : Bool) : GlobalAdmission :=
  { s with queued := s.queued - 1, inflight := if acquired then s.inflight + 1 else s.inflight }

def give : GlobalAdmission := { s with sem := s.sem + 1 }

def leave : GlobalAdmission := { s with inflight := s.inflight - 1 }

end GlobalAdmission

end RuntimePlatform.Chat
