import Mathlib.Data.List.Induction
import RuntimePlatform.Chat.Resilience
import RuntimePlatform.Lib.Runs

/-!
The circuit breaker over whole runs. Calls on any backends come in any order; what a backend's
four entries say is compared with the history of the calls made on it.
-/

namespace RuntimePlatform.Chat

inductive BreakerOp where
  | allow
  | record_success
  | record_failure
  deriving DecidableEq, Repr

/-- One call, with the reading of the clock if it takes one. -/
structure BreakerCall where
  op : BreakerOp
  backend : Model
  clock : ℚ
  deriving DecidableEq, Repr

namespace CircuitBreaker
variable (config : BreakerConfig)

/-- Only `allow` answers. -/
def perform (s : CircuitBreaker) (c : BreakerCall) : Option Bool × CircuitBreaker :=
  match c.op with
  | .allow => (some (s.allow config c.clock c.backend).1, (s.allow config c.clock c.backend).2)
  | .record_success => (none, s.record_success c.backend)
  | .record_failure => (none, s.record_failure config c.clock c.backend)

def after (s : CircuitBreaker) (calls : List BreakerCall) : CircuitBreaker :=
  Runs.run (fun s c => (s.perform config c).2) s calls

/-- The calls whose answers a user of `backend` sees. -/
def asks (backend : Model) (c : BreakerCall) : Bool := decide (c.op = .allow ∧ c.backend = backend)

def succeeds (backend : Model) (c : BreakerCall) : Bool := decide (c.op = .record_success ∧ c.backend = backend)

def fails (backend : Model) (c : BreakerCall) : Bool := decide (c.op = .record_failure ∧ c.backend = backend)

def answers (s : CircuitBreaker) (backend : Model) (calls : List BreakerCall) : List (Option Bool) :=
  Runs.answers (perform config) (asks backend) s calls

/-! What the history of the calls says of a backend. -/

def failuresSinceSuccess (backend : Model) (calls : List BreakerCall) : ℕ :=
  (calls.reverse.takeWhile fun c => !succeeds backend c).countP (fails backend)

def latestFailure (backend : Model) (calls : List BreakerCall) : Option ℚ :=
  ((calls.filter (fails backend)).getLast?).map BreakerCall.clock

/-- The probes admitted since the backend became `HALF_OPEN`; none while it is not. -/
def countProbe (backend : Model) (watched : CircuitBreaker × ℕ) (c : BreakerCall) : CircuitBreaker × ℕ :=
  let (answer, s) := watched.1.perform config c
  (s, if s.stateOf backend = .HALF_OPEN then
      watched.2 + if c.backend = backend ∧ answer = some true then 1 else 0
    else 0)

def probesAdmitted (backend : Model) (calls : List BreakerCall) : ℕ :=
  (calls.foldl (countProbe config backend) (initial, 0)).2

variable {config} {backend : Model}

@[simp] theorem failuresSinceSuccess_snoc (calls : List BreakerCall) (c : BreakerCall) :
    failuresSinceSuccess backend (calls ++ [c]) = if succeeds backend c = true then 0 else
      failuresSinceSuccess backend calls + if fails backend c = true then 1 else 0 := by
  unfold failuresSinceSuccess
  rw [List.reverse_append, List.reverse_singleton, List.singleton_append, List.takeWhile_cons]
  cases succeeds backend c with
  | true => rfl
  | false => simp only [Bool.not_false, if_true, List.countP_cons, Bool.false_eq_true, if_false]

@[simp] theorem latestFailure_snoc (calls : List BreakerCall) (c : BreakerCall) :
    latestFailure backend (calls ++ [c]) =
      if fails backend c = true then some c.clock else latestFailure backend calls := by
  unfold latestFailure
  rw [List.filter_append, List.getLast?_append, List.filter_singleton]
  cases fails backend c with
  | true => rfl
  | false => rfl

@[simp] theorem after_snoc (s : CircuitBreaker) (calls : List BreakerCall) (c : BreakerCall) :
    s.after config (calls ++ [c]) = ((s.after config calls).perform config c).2 := Runs.run_append s calls [c]

theorem counted_after (config : BreakerConfig) (backend : Model) (calls : List BreakerCall) :
    (calls.foldl (countProbe config backend) (initial, 0)).1 = initial.after config calls := by
  induction calls using List.reverseRecOn with
  | nil => rfl
  | append_singleton calls c ih =>
      rw [List.foldl_append, after_snoc, ← ih]
      rfl

@[simp] theorem probesAdmitted_snoc (calls : List BreakerCall) (c : BreakerCall) :
    probesAdmitted config backend (calls ++ [c]) =
      if (initial.after config (calls ++ [c])).stateOf backend = .HALF_OPEN then
        probesAdmitted config backend calls +
          if c.backend = backend ∧ ((initial.after config calls).perform config c).1 = some true then 1 else 0
      else 0 := by
  unfold probesAdmitted
  rw [List.foldl_append, after_snoc, ← counted_after config backend calls]
  rfl

/-! Calls on one backend and the entries of another. -/

/-- The two breakers hold the same entries for the backend. -/
structure AgreeAt (backend : Model) (s s' : CircuitBreaker) : Prop where
  failures : s.failures backend = s'.failures backend
  opened_at : s.opened_at backend = s'.opened_at backend
  state : s.state backend = s'.state backend
  half_open_probes : s.half_open_probes backend = s'.half_open_probes backend

namespace AgreeAt

theorem refl (s : CircuitBreaker) : AgreeAt backend s s := ⟨rfl, rfl, rfl, rfl⟩

theorem trans {s t u : CircuitBreaker} (first : AgreeAt backend s t) (second : AgreeAt backend t u) :
    AgreeAt backend s u :=
  ⟨first.failures.trans second.failures, first.opened_at.trans second.opened_at, first.state.trans second.state,
    first.half_open_probes.trans second.half_open_probes⟩

theorem stateOf {s s' : CircuitBreaker} (agree : AgreeAt backend s s') : s.stateOf backend = s'.stateOf backend :=
  congrArg (fun entry => entry.getD CircuitState.CLOSED) agree.state

end AgreeAt

theorem agreeAt_allowing {s s' : CircuitBreaker} {answer : Bool} {clock : ℚ} {other : Model}
    (allowing : Allowing config s clock other answer s') (different : backend ≠ other) : AgreeAt backend s' s := by
  cases allowing with
  | closed _ => exact .refl s
  | unopened _ _ => exact .refl s
  | early _ _ _ _ => exact .refl s
  | full _ _ => exact .refl s
  | recovered _ _ _ _ => exact ⟨rfl, rfl, Function.update_of_ne different _ _, Function.update_of_ne different _ _⟩
  | slot _ _ => exact ⟨rfl, rfl, rfl, Function.update_of_ne different _ _⟩

theorem agreeAt_openAt {s : CircuitBreaker} {clock : ℚ} {other : Model} {failures : ℕ} (different : backend ≠ other) :
    AgreeAt backend (s.openAt clock other failures) s :=
  ⟨Function.update_of_ne different _ _, Function.update_of_ne different _ _, Function.update_of_ne different _ _,
    Function.update_of_ne different _ _⟩

theorem agreeAt_failing {s s' : CircuitBreaker} {clock : ℚ} {other : Model}
    (failing : Failing config s clock other s') (different : backend ≠ other) : AgreeAt backend s' s := by
  cases failing with
  | probe _ => exact agreeAt_openAt different
  | opens _ _ => exact agreeAt_openAt different
  | counts _ _ => exact ⟨Function.update_of_ne different _ _, rfl, rfl, rfl⟩

/-- A call on another backend writes nothing here. -/
theorem agreeAt_perform (config : BreakerConfig) {s : CircuitBreaker} {c : BreakerCall}
    (different : backend ≠ c.backend) : AgreeAt backend (s.perform config c).2 s := by
  obtain ⟨op, other, clock⟩ := c
  cases op with
  | allow => exact agreeAt_allowing (allow_cases config s clock other) different
  | record_success =>
      exact ⟨Function.update_of_ne different _ _, Function.update_of_ne different _ _,
        Function.update_of_ne different _ _, Function.update_of_ne different _ _⟩
  | record_failure => exact agreeAt_failing (record_failure_cases config s clock other) different

theorem allow_congr {s s' : CircuitBreaker} {clock : ℚ} (agree : AgreeAt backend s s') :
    (s.allow config clock backend).1 = (s'.allow config clock backend).1 ∧
      AgreeAt backend (s.allow config clock backend).2 (s'.allow config clock backend).2 := by
  simp only [allow, agree.stateOf, agree.opened_at, agree.half_open_probes]
  cases s'.stateOf backend with
  | CLOSED => exact ⟨rfl, agree⟩
  | OPEN =>
      cases s'.opened_at backend with
      | none => exact ⟨rfl, agree⟩
      | some opened =>
          dsimp only
          split
          · exact ⟨rfl, agree⟩
          · exact ⟨rfl, agree.failures, agree.opened_at, by simp only [enterHalfOpen, Function.update_self],
              by simp only [enterHalfOpen, Function.update_self]⟩
  | HALF_OPEN =>
      dsimp only
      split
      · exact ⟨rfl, agree⟩
      · exact ⟨rfl, agree.failures, agree.opened_at, agree.state, by simp only [takeSlot, Function.update_self]⟩

theorem openAt_congr {s s' : CircuitBreaker} {clock : ℚ} {failures : ℕ} :
    AgreeAt backend (s.openAt clock backend failures) (s'.openAt clock backend failures) := by
  constructor <;> simp only [openAt, Function.update_self]

theorem record_failure_congr {s s' : CircuitBreaker} {clock : ℚ} (agree : AgreeAt backend s s') :
    AgreeAt backend (s.record_failure config clock backend) (s'.record_failure config clock backend) := by
  simp only [record_failure, agree.stateOf, agree.failures]
  split
  · exact openAt_congr
  · split
    · exact openAt_congr
    · exact ⟨by simp only [Function.update_self], agree.opened_at, agree.state, agree.half_open_probes⟩

theorem record_success_congr {s s' : CircuitBreaker} :
    AgreeAt backend (s.record_success backend) (s'.record_success backend) := by
  constructor <;> simp only [record_success, Function.update_self]

/-- A call on a backend depends on its own entries only. -/
theorem perform_congr (config : BreakerConfig) {s s' : CircuitBreaker} {c : BreakerCall} (agree : AgreeAt backend s s')
    (mine : c.backend = backend) :
    (s.perform config c).1 = (s'.perform config c).1 ∧
      AgreeAt backend (s.perform config c).2 (s'.perform config c).2 := by
  obtain ⟨op, _, clock⟩ := c
  cases mine
  cases op with
  | allow => exact ⟨congrArg some (allow_congr agree).1, (allow_congr agree).2⟩
  | record_success => exact ⟨rfl, record_success_congr⟩
  | record_failure => exact ⟨rfl, record_failure_congr agree⟩

theorem answers_alone (s : CircuitBreaker) (calls : List BreakerCall) :
    answers config s backend calls = answers config s backend (calls.filter fun c => decide (c.backend = backend)) := by
  refine Runs.answers_filter (R := AgreeAt backend) ?_ ?_ (.refl s) calls
  · intro t t' c agree other
    have different : c.backend ≠ backend := of_decide_eq_false other
    exact ⟨decide_eq_false fun asked => different asked.2, (agreeAt_perform config different.symm).trans agree⟩
  · intro t t' c agree mine
    have congruent := perform_congr config agree (of_decide_eq_true mine)
    exact ⟨fun _ => congruent.1, congruent.2⟩

/-! One backend against its history. -/

/-- What the entries of a backend say of its history: its failures since the last success, the time of its latest
failure and the probes admitted since it became `HALF_OPEN`. -/
structure Tracks (config : BreakerConfig) (backend : Model) (s : CircuitBreaker) (failures : ℕ) (latest : Option ℚ)
    (probes : ℕ) : Prop where
  counted : (s.failures backend).getD 0 ≤ failures
  tripped : s.stateOf backend ≠ .CLOSED → config.failure_threshold ≤ (s.failures backend).getD 0
  opened : s.stateOf backend = .OPEN → s.opened_at backend = latest ∧ latest.isSome
  probing : s.stateOf backend = .HALF_OPEN → (s.half_open_probes backend).getD 0 = probes
  idle : s.stateOf backend ≠ .HALF_OPEN → probes = 0
  bounded : probes ≤ config.half_open_max_probes

variable {s s' : CircuitBreaker} {failures probes : ℕ} {latest : Option ℚ} {clock : ℚ} {answer : Bool}

namespace Tracks

/-- What the invariant reads are the entries of the backend. -/
theorem of_agree (tracks : Tracks config backend s failures latest probes) (agree : AgreeAt backend s' s) :
    Tracks config backend s' failures latest probes where
  counted := agree.failures ▸ tracks.counted
  tripped := agree.failures ▸ agree.stateOf ▸ tracks.tripped
  opened := agree.opened_at ▸ agree.stateOf ▸ tracks.opened
  probing := agree.half_open_probes ▸ agree.stateOf ▸ tracks.probing
  idle := agree.stateOf ▸ tracks.idle
  bounded := tracks.bounded

theorem initial : Tracks config backend initial 0 none 0 where
  counted := le_rfl
  tripped opened := absurd rfl opened
  opened opened := by cases opened
  probing probing := by cases probing
  idle _ := rfl
  bounded := Nat.zero_le _

theorem allowing (tracks : Tracks config backend s failures latest probes)
    (some_probe : 1 ≤ config.half_open_max_probes) (allowing : Allowing config s clock backend answer s') :
    Tracks config backend s' failures latest
      (if s'.stateOf backend = .HALF_OPEN then probes + if answer = true then 1 else 0 else 0) := by
  cases allowing with
  | closed state =>
      rw [if_neg (by rw [state]; decide), ← tracks.idle (by rw [state]; decide)]
      exact tracks
  | unopened state _ =>
      rw [if_neg (by rw [state]; decide), ← tracks.idle (by rw [state]; decide)]
      exact tracks
  | early state _ _ _ =>
      rw [if_neg (by rw [state]; decide), ← tracks.idle (by rw [state]; decide)]
      exact tracks
  | full state _ =>
      rw [if_pos state]
      exact tracks
  | recovered state opened at_ late =>
      have none_before : probes = 0 := tracks.idle (by rw [state]; decide)
      rw [if_pos stateOf_enterHalfOpen, if_pos rfl, none_before]
      refine ⟨tracks.counted, fun _ => tracks.tripped (by rw [state]; decide), ?_, ?_, ?_, some_probe⟩
      · intro bad
        rw [stateOf_enterHalfOpen] at bad
        cases bad
      · intro _
        simp only [enterHalfOpen, Function.update_self, Option.getD_some]
      · exact fun bad => absurd stateOf_enterHalfOpen bad
  | slot state free =>
      rw [stateOf_takeSlot, if_pos state, if_pos rfl]
      have used := tracks.probing state
      refine ⟨tracks.counted, tracks.tripped, tracks.opened, ?_, fun bad => absurd state bad, ?_⟩
      · intro _
        simp only [takeSlot, Function.update_self, Option.getD_some, used]
      · omega

theorem record_success : Tracks config backend (s.record_success backend) 0 latest 0 where
  counted := by simp only [CircuitBreaker.record_success, Function.update_self, Option.getD_some, le_refl]
  tripped bad := absurd stateOf_record_success bad
  opened bad := by
    rw [stateOf_record_success] at bad
    cases bad
  probing bad := by
    rw [stateOf_record_success] at bad
    cases bad
  idle _ := rfl
  bounded := Nat.zero_le _

theorem openAt {counted : ℕ} (enough : config.failure_threshold ≤ counted) (few : counted ≤ failures) :
    Tracks config backend (s.openAt clock backend counted) failures (some clock) 0 where
  counted := by simpa only [CircuitBreaker.openAt, Function.update_self, Option.getD_some] using few
  tripped _ := by simpa only [CircuitBreaker.openAt, Function.update_self, Option.getD_some] using enough
  opened _ := ⟨by simp only [CircuitBreaker.openAt, Function.update_self], rfl⟩
  probing bad := by
    rw [stateOf_openAt] at bad
    cases bad
  idle _ := rfl
  bounded := Nat.zero_le _

/-- An open circuit has counted to the threshold, so a failure while it is open opens it again. -/
theorem failing (tracks : Tracks config backend s failures latest probes)
    (failing : Failing config s clock backend s') :
    Tracks config backend s' (failures + 1) (some clock) 0 := by
  have counted := tracks.counted
  cases failing with
  | probe state =>
      have tripped := tracks.tripped (by rw [state]; decide)
      exact openAt le_rfl (by omega)
  | opens state enough => exact openAt enough (by omega)
  | counts state few =>
      have closed : s.stateOf backend = .CLOSED := by
        by_contra open_
        have tripped := tracks.tripped open_
        omega
      refine ⟨?_, fun bad => absurd closed bad, ?_, ?_, fun _ => rfl, Nat.zero_le _⟩
      · simp only [Function.update_self, Option.getD_some]
        omega
      · intro bad
        cases closed.symm.trans bad
      · intro bad
        cases closed.symm.trans bad

end Tracks

theorem stateOf_failing (failing : Failing config s clock backend s') : s'.stateOf backend ≠ .HALF_OPEN := by
  cases failing with
  | probe _ => simp only [stateOf_openAt, ne_eq, reduceCtorEq, not_false_iff]
  | opens _ _ => simp only [stateOf_openAt, ne_eq, reduceCtorEq, not_false_iff]
  | counts state _ => exact state

/-- Whatever the calls, the entries of a backend say what its history says. -/
theorem tracks_after (some_probe : 1 ≤ config.half_open_max_probes) (calls : List BreakerCall) :
    Tracks config backend (CircuitBreaker.initial.after config calls) (failuresSinceSuccess backend calls)
      (latestFailure backend calls) (probesAdmitted config backend calls) := by
  induction calls using List.reverseRecOn with
  | nil => exact .initial
  | append_singleton calls c ih =>
      obtain ⟨op, other, clock⟩ := c
      rw [failuresSinceSuccess_snoc, latestFailure_snoc, probesAdmitted_snoc, after_snoc]
      by_cases mine : other = backend
      · subst mine
        cases op with
        | allow =>
            simpa [perform, succeeds, fails] using ih.allowing some_probe (allow_cases config _ clock other)
        | record_success =>
            have recorded : Tracks config other ((CircuitBreaker.initial.after config calls).record_success other) 0
                (latestFailure other calls) 0 := Tracks.record_success
            simpa [perform, succeeds, fails] using recorded
        | record_failure =>
            have failing := record_failure_cases config (CircuitBreaker.initial.after config calls) clock other
            simpa [perform, succeeds, fails, stateOf_failing failing] using ih.failing failing
      · have agree := agreeAt_perform config (s := CircuitBreaker.initial.after config calls)
          (c := ⟨op, other, clock⟩) fun same => mine same.symm
        have unseen : (if ((CircuitBreaker.initial.after config calls).perform config ⟨op, other, clock⟩).2.stateOf
            backend = .HALF_OPEN then probesAdmitted config backend calls else 0) =
            probesAdmitted config backend calls := by
          rw [agree.stateOf]
          split
          · rfl
          · exact (ih.idle ‹_›).symm
        simpa [succeeds, fails, mine, unseen] using ih.of_agree agree

/-- From the call which makes the backend `HALF_OPEN` to its next record, the free slots are handed out one by one. -/
theorem answers_half_open {later : List BreakerCall} (state : s.stateOf backend = .HALF_OPEN)
    (used : (s.half_open_probes backend).getD 0 ≤ config.half_open_max_probes)
    (unrecorded : ∀ c ∈ later, c.backend = backend → c.op = .allow) :
    (answers config s backend later).count (some true) =
      min (config.half_open_max_probes - (s.half_open_probes backend).getD 0) (later.countP (asks backend)) := by
  induction later generalizing s with
  | nil => exact (Nat.min_zero _).symm
  | cons c later ih =>
      obtain ⟨here, rest⟩ := List.forall_mem_cons.mp unrecorded
      obtain ⟨op, other, clock⟩ := c
      by_cases mine : other = backend
      · subst mine
        obtain rfl : op = .allow := here rfl
        have asked : asks other ⟨.allow, other, clock⟩ = true := decide_eq_true ⟨rfl, rfl⟩
        have first : answers config s other (⟨.allow, other, clock⟩ :: later) =
            some (s.allow config clock other).1 :: answers config (s.allow config clock other).2 other later :=
          if_pos asked
        rw [first, List.countP_cons_of_pos asked]
        have allowing := allow_cases config s clock other
        generalize (s.allow config clock other).1 = answer, (s.allow config clock other).2 = next at allowing ⊢
        cases allowing with
        | closed bad => cases state.symm.trans bad
        | unopened bad _ => cases state.symm.trans bad
        | early bad _ _ _ => cases state.symm.trans bad
        | recovered bad _ _ _ => cases state.symm.trans bad
        | full _ full =>
            rw [List.count_cons_of_ne (by decide), ih state used rest]
            omega
        | slot _ free =>
            have taken : ((s.takeSlot other ((s.half_open_probes other).getD 0)).half_open_probes other).getD 0 =
                (s.half_open_probes other).getD 0 + 1 := by
              simp only [takeSlot, Function.update_self, Option.getD_some]
            rw [List.count_cons_self, ih ((stateOf_takeSlot _).trans state) (by omega) rest, taken]
            omega
      · have unasked : ¬ asks backend ⟨op, other, clock⟩ = true := fun asked => mine (of_decide_eq_true asked).2
        have agree := agreeAt_perform config (s := s) (c := ⟨op, other, clock⟩) fun same => mine same.symm
        have skipped : answers config s backend (⟨op, other, clock⟩ :: later) =
            answers config (s.perform config ⟨op, other, clock⟩).2 backend later := if_neg unasked
        rw [skipped, List.countP_cons_of_neg unasked, ← agree.half_open_probes]
        exact ih (agree.stateOf.trans state) (agree.half_open_probes ▸ used) rest

/-- The automaton. After any calls a backend is open or half open only if it failed often enough since its last success;
an open one was opened by its latest failure; and what `allow` answers follows from its history. -/
theorem automaton (config : BreakerConfig) (some_probe : 1 ≤ config.half_open_max_probes) (calls : List BreakerCall)
    (backend : Model) :
    let s := CircuitBreaker.initial.after config calls
    (s.stateOf backend ≠ .CLOSED → config.failure_threshold ≤ failuresSinceSuccess backend calls) ∧
      (s.stateOf backend = .OPEN →
        ∃ opened, s.opened_at backend = some opened ∧ latestFailure backend calls = some opened) ∧
      (∀ clock, (s.allow config clock backend).1 = false ↔
        (s.stateOf backend = .OPEN ∧ ∃ opened, s.opened_at backend = some opened ∧
          clock - opened < config.recovery_seconds) ∨
        (s.stateOf backend = .HALF_OPEN ∧
          probesAdmitted config backend calls = config.half_open_max_probes)) ∧
      (∀ clock later, s.stateOf backend = .OPEN → (s.allow config clock backend).2.stateOf backend = .HALF_OPEN →
        (∀ c ∈ later, c.backend = backend → c.op = .allow) →
        (answers config s backend (⟨.allow, backend, clock⟩ :: later)).count (some true) =
          min config.half_open_max_probes ((⟨.allow, backend, clock⟩ :: later).countP (asks backend))) ∧
      answers config .initial backend calls =
        answers config .initial backend (calls.filter fun c => decide (c.backend = backend)) := by
  intro s
  have tracks : Tracks config backend s _ _ _ := tracks_after some_probe calls
  refine ⟨fun open_ => (tracks.tripped open_).trans tracks.counted, ?_, ?_, ?_, answers_alone _ calls⟩
  · intro open_
    obtain ⟨opened, known⟩ := tracks.opened open_
    obtain ⟨time, latest⟩ := Option.isSome_iff_exists.mp known
    exact ⟨time, opened.trans latest, latest⟩
  · intro clock
    have allowing := allow_cases config s clock backend
    generalize (s.allow config clock backend).1 = answer, (s.allow config clock backend).2 = next at allowing ⊢
    cases allowing with
    | closed state => simp [state]
    | unopened state opened =>
        have recorded := (tracks.opened state).2
        rw [← (tracks.opened state).1, opened] at recorded
        cases recorded
    | early state opened at_ early => exact iff_of_true rfl (Or.inl ⟨state, opened, at_, early⟩)
    | recovered state opened at_ late => simp [state, at_, not_lt.mp late]
    | full state used =>
        refine iff_of_true rfl (Or.inr ⟨state, le_antisymm tracks.bounded ?_⟩)
        exact (tracks.probing state) ▸ used
    | slot state free =>
        have unfilled := tracks.probing state ▸ free
        simp [state, unfilled.ne]
  · intro clock later open_ entered unrecorded
    have asked : asks backend ⟨.allow, backend, clock⟩ = true := decide_eq_true ⟨rfl, rfl⟩
    have first : answers config s backend (⟨.allow, backend, clock⟩ :: later) =
        some (s.allow config clock backend).1 :: answers config (s.allow config clock backend).2 backend later :=
      if_pos asked
    rw [first, List.countP_cons_of_pos asked]
    have allowing := allow_cases config s clock backend
    generalize (s.allow config clock backend).1 = answer, (s.allow config clock backend).2 = next at allowing entered ⊢
    cases allowing with
    | closed bad => cases open_.symm.trans bad
    | unopened _ _ => cases open_.symm.trans entered
    | early _ _ _ _ => cases open_.symm.trans entered
    | full bad _ => cases open_.symm.trans bad
    | slot bad _ => cases open_.symm.trans bad
    | recovered _ _ _ _ =>
        have first_probe : ((s.enterHalfOpen backend).half_open_probes backend).getD 0 = 1 := by
          simp only [enterHalfOpen, Function.update_self, Option.getD_some]
        rw [List.count_cons_self, answers_half_open entered (first_probe.trans_le some_probe) unrecorded, first_probe]
        omega

/-- A backend which failed at 0, with the default five failures cut to one: at 30 it admits its only probe. -/
theorem automaton_recovers :
    let config : BreakerConfig := ⟨1, 30, 1⟩
    let calls : List BreakerCall := [⟨.record_failure, some "qwen", 0⟩]
    1 ≤ config.half_open_max_probes ∧
      (answers config (CircuitBreaker.initial.after config calls) (some "qwen")
        [⟨.allow, some "qwen", 30⟩, ⟨.allow, some "qwen", 31⟩]).count (some true) = min 1 2 := by
  intro config calls
  refine ⟨le_rfl, ?_⟩
  refine (automaton config le_rfl calls (some "qwen")).2.2.2.1 30 [⟨.allow, some "qwen", 31⟩] ?_ ?_ ?_
  · decide +kernel
  · decide +kernel
  · intro c member _
    rw [List.mem_singleton.mp member]

end CircuitBreaker

end RuntimePlatform.Chat
