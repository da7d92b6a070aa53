import RuntimePlatform.Lib.Runs
import Mathlib.Algebra.Order.Field.Rat
import Mathlib.Data.Multiset.OrderedMonoid
import Mathlib.Logic.Function.Basic
import Mathlib.Tactic.Abel

/-!
Usage events on their way to the webhook: the bounded buffer, the worker which delivers from it, and the drain at
shutdown. Between two awaits nothing else runs, and the lock is never held across one, so each of these is one event.
-/

namespace RuntimePlatform.Usage

structure UsageEvent where
  event_id : String
  outcome : String
  deriving DecidableEq

/-- An event in the buffer, with the attempts made at it. -/
structure Pending where
  event : UsageEvent
  attempts : ℕ
  next_attempt_at : ℚ

/-- The labels of the drop metric. -/
inductive Reason where
  | buffer_overflow | max_attempts | shutdown_timeout | not_accepting
  deriving DecidableEq

/-- What does not change while the emitter runs. -/
structure Settings where
  webhook : Option String
  client : Bool
  max : ℕ
  max_attempts : ℕ
  max_pos : 0 < max
  attempts_pos : 0 < max_attempts

/-- What the worker awaits: the next wake-up, or the answer to a delivery. -/
inductive Worker where
  | waiting
  | delivering (item : Pending)
  | stopped

inductive Aclose where
  | before | draining | returned

/-- The metric lists the events which it counts; `appended` and `delivered` are history. -/
structure Emitter where
  pending : List Pending
  accepting : Bool
  worker : Worker
  aclose : Aclose
  appended : List UsageEvent
  delivered : List UsageEvent
  dropped : Reason → List UsageEvent

def started : Emitter := ⟨[], true, .waiting, .before, [], [], fun _ => []⟩

namespace Emitter

def drop (reason : Reason) (events : List UsageEvent) (s : Emitter) : Emitter :=
  { s with dropped := Function.update s.dropped reason (s.dropped reason ++ events) }

/-- `popleft`, counted as an overflow. The buffer is not empty where this is called. -/
def overflow (s : Emitter) : Emitter :=
  match s.pending with
  | [] => s
  | first :: rest => { s.drop .buffer_overflow [first.event] with pending := rest }

def append (C : Settings) (item : Pending) (s : Emitter) : Emitter :=
  let s := if C.max ≤ s.pending.length then s.overflow else s
  { s with pending := s.pending ++ [item] }

def emit (C : Settings) (event : UsageEvent) (now : ℚ) (s : Emitter) : Emitter :=
  if C.webhook = none then s
  else if s.accepting = false then s.drop .not_accepting [event]
  else { s.append C ⟨event, 0, now⟩ with appended := s.appended ++ [event] }

end Emitter

def Pending.ready (now : ℚ) (item : Pending) : Bool := decide (item.next_attempt_at ≤ now)

/-- The first item whose time has come, and the buffer without it. -/
def next_ready (now : ℚ) : List Pending → Option (Pending × List Pending)
  | [] => none
  | item :: rest =>
      if item.ready now then some (item, rest)
      else (next_ready now rest).map fun (found, left) => (found, item :: left)

def retry_delay (attempts : ℕ) : ℚ := min 30 (1 / 4 * 2 ^ min attempts 6)

namespace Emitter

/-- The loop of the worker up to its next await. Without a client `_deliver` returns at once, and the loop takes the
next item. -/
def run_worker (C : Settings) (now : ℚ) (s : Emitter) : Emitter :=
  if C.webhook = none then { s with worker := .waiting }
  else if C.client = false then
    { s with pending := s.pending.filter fun item => !item.ready now, worker := .waiting }
  else
    match next_ready now s.pending with
    | none => { s with worker := .waiting }
    | some (item, rest) => { s with pending := rest, worker := .delivering item }

/-- The `except` of `_deliver`. -/
def delivery_failed (C : Settings) (item : Pending) (now : ℚ) (s : Emitter) : Emitter :=
  let attempts := item.attempts + 1
  if C.max_attempts ≤ attempts then s.drop .max_attempts [item.event]
  else s.append C ⟨item.event, attempts, now + retry_delay attempts⟩

/-- `aclose` cancels the worker, awaits its end and returns. -/
def cancel_worker (s : Emitter) : Emitter := { s with worker := .stopped, aclose := .returned }

/-- One round of `_drain_until_empty`. -/
def drain_round (s : Emitter) : Emitter :=
  match s.pending with
  | [] => s.cancel_worker
  | _ => { s with aclose := .draining }

def drain_timeout (s : Emitter) : Emitter :=
  { s.drop .shutdown_timeout (s.pending.map Pending.event) with pending := [] }.cancel_worker

end Emitter

inductive Event where
  | emit (event : UsageEvent) (now : ℚ)
  | woken (now : ℚ)
  | delivery_succeeded (now : ℚ)
  | delivery_failed (now : ℚ)
  | aclose
  | drain_round
  | drain_timeout

/-- What happens at an event. One which cannot come leaves the emitter as it is. -/
def step (C : Settings) (s : Emitter) : Event → Emitter
  | .emit event now => s.emit C event now
  | .woken now =>
      match s.worker with
      | .waiting => s.run_worker C now
      | _ => s
  | .delivery_succeeded now =>
      match s.worker with
      | .delivering item => { s with delivered := s.delivered ++ [item.event] }.run_worker C now
      | _ => s
  | .delivery_failed now =>
      match s.worker with
      | .delivering item => (s.delivery_failed C item now).run_worker C now
      | _ => s
  | .aclose =>
      match s.aclose with
      | .before => { s with accepting := false }.drain_round
      | _ => s
  | .drain_round =>
      match s.aclose with
      | .draining => s.drain_round
      | _ => s
  | .drain_timeout =>
      match s.aclose with
      | .draining => s.drain_timeout
      | _ => s

/-- The event in the worker's hands. -/
def Worker.in_hand : Worker → List UsageEvent
  | .delivering item => [item.event]
  | _ => []

/-- The events which have been delivered, or counted in the metric for the three reasons why one is given up. -/
def Emitter.settled (s : Emitter) : Multiset UsageEvent :=
  s.delivered + s.dropped .buffer_overflow + s.dropped .max_attempts + s.dropped .shutdown_timeout

/-- Every event which was appended has been settled, exactly once. -/
def Emitter.Conserved (s : Emitter) : Prop := s.settled = s.appended

/-- The event cancels the worker: at the first round of the drain which finds the buffer empty, or at its timeout. -/
def Cancels (s : Emitter) : Event → Prop
  | .aclose => s.aclose = .before ∧ s.pending = []
  | .drain_round => s.aclose = .draining ∧ s.pending = []
  | .drain_timeout => s.aclose = .draining
  | _ => False

/-- A worker without a client comes upon an item whose time has come. -/
def Discards (C : Settings) (s : Emitter) : Event → Prop
  | .woken now =>
      C.webhook ≠ none ∧ C.client = false ∧ s.worker = .waiting ∧ ∃ item ∈ s.pending, item.ready now = true
  | _ => False

/-- The worker is not cancelled with an event in its hands, and it has a client when it takes one. -/
def Kept (C : Settings) (s : Emitter) (e : Event) : Prop :=
  (Cancels s e → s.worker.in_hand = []) ∧ ¬ Discards C s e

/-! The balance of the events. -/

/-- Wherever an event can be found, with the buffer and the worker's hands. -/
def Emitter.found (s : Emitter) : Multiset UsageEvent := s.settled + (s.pending.map Pending.event : List _)

theorem found_drop (s : Emitter) {reason : Reason} (given_up : reason ≠ .not_accepting) (events : List UsageEvent) :
    (s.drop reason events).found = s.found + events := by
  cases reason with
  | not_accepting => exact absurd rfl given_up
  | buffer_overflow | max_attempts | shutdown_timeout =>
      simp only [Emitter.found, Emitter.settled, Emitter.drop, Function.update_self, ne_eq, reduceCtorEq,
        not_false_eq_true, Function.update_of_ne, ← Multiset.coe_add]
      abel

theorem found_refuse (s : Emitter) (events : List UsageEvent) : (s.drop .not_accepting events).found = s.found := by
  simp only [Emitter.found, Emitter.settled, Emitter.drop, ne_eq, reduceCtorEq, not_false_eq_true,
    Function.update_of_ne]

/-- What is taken out of the buffer, and what is left in it. -/
theorem found_take (s : Emitter) (taken left : List Pending) (parts : s.pending.Perm (taken ++ left)) :
    { s with pending := left }.found + (taken.map Pending.event : List _) = s.found := by
  have events := Multiset.coe_eq_coe.mpr (parts.map Pending.event)
  unfold Emitter.found Emitter.settled
  rw [events, List.map_append, ← Multiset.coe_add]
  abel

theorem found_overflow (s : Emitter) : s.overflow.found = s.found := by
  unfold Emitter.overflow
  split
  · rfl
  · rename_i first rest full
    have taken := found_take s [first] rest (full ▸ List.Perm.refl _)
    have counted := found_drop { s with pending := rest } (by decide : Reason.buffer_overflow ≠ .not_accepting)
      [first.event]
    exact counted.trans taken

theorem found_append (C : Settings) (s : Emitter) (item : Pending) :
    (s.append C item).found = s.found + {item.event} := by
  have appended : ∀ s : Emitter, { s with pending := s.pending ++ [item] }.found = s.found + {item.event} := by
    intro s
    unfold Emitter.found Emitter.settled
    rw [List.map_append, ← Multiset.coe_add, List.map_singleton, Multiset.coe_singleton]
    exact (add_assoc _ _ _).symm
  unfold Emitter.append
  rw [appended]
  split
  · rw [found_overflow]
  · rfl

/-- The loop takes the item out of the buffer and leaves the others. -/
theorem next_ready_perm {now : ℚ} {pending rest : List Pending} {item : Pending}
    (found : next_ready now pending = some (item, rest)) : pending.Perm (item :: rest) := by
  induction pending generalizing rest with
  | nil => cases found
  | cons first pending ih =>
      unfold next_ready at found
      split at found
      · cases found
        exact List.Perm.refl _
      · obtain ⟨⟨other, left⟩, later, same⟩ := Option.map_eq_some_iff.mp found
        cases same
        exact ((ih later).cons first).trans (List.Perm.swap item first left)

/-- Running to its next await, the worker holds on to every event, but for those which it takes without a client. -/
theorem found_run_worker (C : Settings) (now : ℚ) (s : Emitter) :
    ∃ lost : Multiset UsageEvent, (s.run_worker C now).found + (s.run_worker C now).worker.in_hand + lost = s.found ∧
      (lost = 0 ↔ ¬ (C.webhook ≠ none ∧ C.client = false ∧ ∃ item ∈ s.pending, item.ready now = true)) := by
  unfold Emitter.run_worker
  by_cases unset : C.webhook = none
  · rw [if_pos unset]
    exact ⟨0, (add_zero _).trans (add_zero _), iff_of_true rfl fun bad => bad.1 unset⟩
  rw [if_neg unset]
  by_cases absent : C.client = false
  · rw [if_pos absent]
    have taken := found_take s _ _ (List.filter_append_perm (fun item => item.ready now) s.pending).symm
    refine ⟨_, (congrArg (· + _) (add_zero _)).trans taken, ?_⟩
    rw [Multiset.coe_eq_zero, List.map_eq_nil_iff, List.filter_eq_nil_iff]
    constructor
    · rintro none_ready ⟨-, -, item, member, ready⟩
      exact none_ready item member ready
    · intro kept item member ready
      exact kept ⟨unset, absent, item, member, ready⟩
  · rw [if_neg absent]
    refine ⟨0, ?_, iff_of_true rfl fun bad => absent bad.2.1⟩
    split
    · exact (add_zero _).trans (add_zero _)
    · rename_i item rest found
      exact (add_zero _).trans (found_take s [item] rest (next_ready_perm found))

/-! What the parts leave as it is. -/

theorem overflow_frame (s : Emitter) :
    ∃ pending dropped, s.overflow = { s with pending := pending, dropped := dropped } ∧
      pending.length = s.pending.length - 1 := by
  unfold Emitter.overflow
  split
  · rename_i empty
    exact ⟨s.pending, s.dropped, rfl, by rw [empty]; rfl⟩
  · rename_i first rest full
    exact ⟨rest, _, rfl, by rw [full]; rfl⟩

/-- A full buffer makes room for what is appended. -/
theorem append_frame (C : Settings) (s : Emitter) (item : Pending) (bounded : s.pending.length ≤ C.max) :
    ∃ pending dropped, s.append C item = { s with pending := pending, dropped := dropped } ∧
      pending.length ≤ C.max := by
  unfold Emitter.append
  by_cases full : C.max ≤ s.pending.length
  · obtain ⟨pending, dropped, same, shorter⟩ := overflow_frame s
    rw [if_pos full, same]
    refine ⟨_, _, rfl, ?_⟩
    have room := C.max_pos
    rw [List.length_append, List.length_singleton]
    change pending.length + 1 ≤ C.max
    omega
  · rw [if_neg full]
    refine ⟨_, _, rfl, ?_⟩
    rw [List.length_append, List.length_singleton]
    omega

theorem delivery_failed_frame (C : Settings) (s : Emitter) (item : Pending) (now : ℚ)
    (bounded : s.pending.length ≤ C.max) :
    ∃ pending dropped, s.delivery_failed C item now = { s with pending := pending, dropped := dropped } ∧
      pending.length ≤ C.max := by
  unfold Emitter.delivery_failed
  by_cases last : C.max_attempts ≤ item.attempts + 1
  · simp only [if_pos last]
    exact ⟨_, _, rfl, bounded⟩
  · simp only [if_neg last]
    exact append_frame C s _ bounded

theorem found_delivery_failed (C : Settings) (s : Emitter) (item : Pending) (now : ℚ) :
    (s.delivery_failed C item now).found = s.found + {item.event} := by
  unfold Emitter.delivery_failed
  by_cases last : C.max_attempts ≤ item.attempts + 1
  · simp only [if_pos last]
    exact found_drop s (by decide) _
  · simp only [if_neg last]
    exact found_append C s _

/-- The worker delivers only what it has a webhook and a client for. -/
theorem run_worker_frame (C : Settings) (now : ℚ) (s : Emitter) :
    ∃ pending worker, s.run_worker C now = { s with pending := pending, worker := worker } ∧
      pending.length ≤ s.pending.length ∧
      ∀ item, worker = .delivering item → C.webhook ≠ none ∧ C.client = true := by
  unfold Emitter.run_worker
  by_cases unset : C.webhook = none
  · rw [if_pos unset]
    exact ⟨_, _, rfl, le_rfl, fun item bad => nomatch bad⟩
  rw [if_neg unset]
  by_cases absent : C.client = false
  · rw [if_pos absent]
    exact ⟨_, _, rfl, List.length_filter_le _ _, fun item bad => nomatch bad⟩
  · rw [if_neg absent]
    split
    · exact ⟨_, _, rfl, le_rfl, fun item bad => nomatch bad⟩
    · rename_i item rest found
      have shorter := (next_ready_perm found).length_eq
      rw [List.length_cons] at shorter
      exact ⟨_, _, rfl, by omega, fun _ _ => ⟨unset, Bool.not_eq_false _ ▸ absent⟩⟩

/-! The steps. -/

/-- What holds of every state of a run. -/
structure Sound (C : Settings) (s : Emitter) : Prop where
  bounded : s.pending.length ≤ C.max
  connected : ∀ item, s.worker = .delivering item → C.webhook ≠ none ∧ C.client = true
  refusing : s.aclose ≠ .before → s.accepting = false
  closed : s.aclose = .returned → s.worker = .stopped ∧ s.pending = []

variable {C : Settings} {s : Emitter}

theorem sound_started (C : Settings) : Sound C started where
  bounded := Nat.zero_le _
  connected _ bad := nomatch bad
  refusing bad := absurd rfl bad
  closed bad := nomatch bad

theorem sound_run_worker (s : Emitter) (bounded : s.pending.length ≤ C.max)
    (refusing : s.aclose ≠ .before → s.accepting = false) (serving : s.aclose ≠ .returned) (now : ℚ) :
    Sound C (s.run_worker C now) := by
  obtain ⟨pending, worker, same, shorter, connected⟩ := run_worker_frame C now s
  rw [same]
  exact ⟨shorter.trans bounded, connected, refusing, fun bad => absurd bad serving⟩

theorem Sound.drain_round (sound : Sound C s) (refusing : s.accepting = false) : Sound C s.drain_round := by
  unfold Emitter.drain_round
  split
  · rename_i empty
    exact ⟨sound.bounded, fun _ bad => (nomatch bad), fun _ => refusing, fun _ => ⟨rfl, empty⟩⟩
  · exact ⟨sound.bounded, sound.connected, fun _ => refusing, fun bad => nomatch bad⟩

theorem Sound.step (sound : Sound C s) (e : Event) : Sound C (step C s e) := by
  have serving : ∀ {worker : Worker}, s.worker = worker → worker ≠ .stopped → s.aclose ≠ .returned :=
    fun here other closed => other (here.symm.trans (sound.closed closed).1)
  cases e with
  | emit event now =>
      change Sound C (s.emit C event now)
      unfold Emitter.emit
      by_cases unset : C.webhook = none
      · rw [if_pos unset]
        exact sound
      rw [if_neg unset]
      by_cases refused : s.accepting = false
      · rw [if_pos refused]
        exact ⟨sound.bounded, sound.connected, sound.refusing, sound.closed⟩
      · rw [if_neg refused]
        obtain ⟨pending, dropped, same, bounded⟩ := append_frame C s ⟨event, 0, now⟩ sound.bounded
        rw [same]
        refine ⟨bounded, sound.connected, sound.refusing, fun closed => ?_⟩
        exact absurd (sound.refusing fun before => nomatch before.symm.trans closed) refused
  | woken now =>
      simp only [Usage.step]
      split
      · rename_i waiting
        exact sound_run_worker s sound.bounded sound.refusing (serving waiting fun bad => nomatch bad) now
      · exact sound
  | delivery_succeeded now =>
      simp only [Usage.step]
      split
      · rename_i item delivering
        exact sound_run_worker { s with delivered := s.delivered ++ [item.event] } sound.bounded sound.refusing
          (serving delivering fun bad => nomatch bad) now
      · exact sound
  | delivery_failed now =>
      simp only [Usage.step]
      split
      · rename_i item delivering
        obtain ⟨pending, dropped, same, bounded⟩ := delivery_failed_frame C s item now sound.bounded
        rw [same]
        exact sound_run_worker { s with pending := pending, dropped := dropped } bounded sound.refusing
          (serving delivering fun bad => nomatch bad) now
      · exact sound
  | aclose =>
      simp only [Usage.step]
      split
      · refine Sound.drain_round ⟨sound.bounded, sound.connected, fun _ => rfl, sound.closed⟩ rfl
      · exact sound
  | drain_round =>
      simp only [Usage.step]
      split
      · rename_i draining
        exact sound.drain_round (sound.refusing fun bad => nomatch bad.symm.trans draining)
      · exact sound
  | drain_timeout =>
      simp only [Usage.step]
      split
      · rename_i draining
        have refusing := sound.refusing fun bad => nomatch bad.symm.trans draining
        exact ⟨Nat.zero_le _, fun _ bad => (nomatch bad), fun _ => refusing, fun _ => ⟨rfl, rfl⟩⟩
      · exact sound

/-! What one step does to the events. -/

/-- The events which were appended in between are found in the new state with those of the old one; none is lost just
when the step is kept. -/
def Moves (s s' : Emitter) (kept : Prop) : Prop :=
  ∃ new lost : Multiset UsageEvent, (s'.appended : Multiset UsageEvent) = s.appended + new ∧
    s'.found + s'.worker.in_hand + lost = s.found + s.worker.in_hand + new ∧ (lost = 0 ↔ kept)

theorem moves_refl (s : Emitter) {kept : Prop} (holds : kept) : Moves s s kept :=
  ⟨0, 0, (add_zero _).symm, rfl, iff_of_true rfl holds⟩

theorem moves_emit (bounded : s.pending.length ≤ C.max) (event : UsageEvent) (now : ℚ) :
    Moves s (s.emit C event now) True := by
  unfold Emitter.emit
  by_cases unset : C.webhook = none
  · rw [if_pos unset]
    exact moves_refl s trivial
  rw [if_neg unset]
  by_cases refused : s.accepting = false
  · rw [if_pos refused]
    refine ⟨0, 0, (add_zero _).symm, ?_, iff_of_true rfl trivial⟩
    exact congrArg (· + _ + _) (found_refuse s [event])
  · rw [if_neg refused]
    obtain ⟨pending, dropped, frame, -⟩ := append_frame C s ⟨event, 0, now⟩ bounded
    have found := found_append C s ⟨event, 0, now⟩
    rw [frame] at found ⊢
    refine ⟨{event}, 0, (Multiset.coe_add _ _).symm, ?_, iff_of_true rfl trivial⟩
    rw [add_zero, add_right_comm]
    exact congrArg (· + _) found

/-- Whatever the worker had in its hands has been put where it can be found before the worker goes on. -/
theorem moves_run_worker (before s : Emitter) (appended : s.appended = before.appended)
    (put : s.found = before.found + before.worker.in_hand) (now : ℚ) :
    Moves before (s.run_worker C now)
      (¬ (C.webhook ≠ none ∧ C.client = false ∧ ∃ item ∈ s.pending, item.ready now = true)) := by
  obtain ⟨lost, found, free⟩ := found_run_worker C now s
  obtain ⟨pending, worker, frame, -⟩ := run_worker_frame C now s
  refine ⟨0, lost, ?_, ?_, free⟩
  · rw [frame, add_zero, ← appended]
  · rw [found, put, add_zero]

theorem moves_cancel {before : Emitter} (appended : s.appended = before.appended)
    (put : s.found = before.found) : Moves before s.cancel_worker (before.worker.in_hand = []) := by
  refine ⟨0, before.worker.in_hand, ?_, ?_, Multiset.coe_eq_zero _⟩
  · rw [← appended]
    exact (add_zero _).symm
  · rw [← put, add_zero]
    exact congrArg (· + _) (add_zero _)

theorem moves_drain_round (s : Emitter) : Moves s s.drain_round (s.pending = [] → s.worker.in_hand = []) := by
  unfold Emitter.drain_round
  split
  · rename_i empty
    rw [forall_prop_of_true empty]
    exact moves_cancel rfl rfl
  · rename_i full
    exact ⟨0, 0, (add_zero _).symm, rfl, iff_of_true rfl fun empty => absurd empty full⟩

theorem moves_drain_timeout (s : Emitter) : Moves s s.drain_timeout (s.worker.in_hand = []) := by
  refine moves_cancel rfl ?_
  have taken := found_take s s.pending [] (by rw [List.append_nil])
  exact (found_drop { s with pending := [] } (by decide) _).trans taken

theorem Moves.congr {s' : Emitter} {kept kept' : Prop} (moved : Moves s s' kept) (same : kept ↔ kept') :
    Moves s s' kept' := by
  obtain ⟨new, lost, appended, found, free⟩ := moved
  exact ⟨new, lost, appended, found, free.trans same⟩

theorem moves_step (sound : Sound C s) (e : Event) : Moves s (step C s e) (Kept C s e) := by
  have connected : ∀ {item}, s.worker = .delivering item →
      ∀ more : Prop, ¬ (C.webhook ≠ none ∧ C.client = false ∧ more) := by
    rintro item delivering more ⟨-, absent, -⟩
    cases (sound.connected item delivering).2.symm.trans absent
  cases e with
  | emit event now =>
      exact (moves_emit sound.bounded event now).congr
        (iff_of_true trivial ⟨fun bad => (nomatch bad), fun bad => (nomatch bad)⟩)
  | woken now =>
      simp only [step]
      split
      · rename_i waiting
        have put : s.found = s.found + s.worker.in_hand := by
          rw [waiting]
          exact (add_zero _).symm
        refine (moves_run_worker s s rfl put now).congr ?_
        simp [Kept, Cancels, Discards, waiting]
      · rename_i other
        exact moves_refl s ⟨fun bad => (nomatch bad), fun bad => other bad.2.2.1⟩
  | delivery_succeeded now =>
      have kept : Kept C s (.delivery_succeeded now) := ⟨fun bad => (nomatch bad), fun bad => (nomatch bad)⟩
      simp only [step]
      split
      · rename_i item delivering
        have put : { s with delivered := s.delivered ++ [item.event] }.found = s.found + s.worker.in_hand := by
          rw [delivering]
          unfold Emitter.found Emitter.settled
          rw [← Multiset.coe_add]
          change _ = _ + ([item.event] : Multiset UsageEvent)
          abel
        exact (moves_run_worker s { s with delivered := s.delivered ++ [item.event] } rfl put now).congr
          (iff_of_true (connected delivering _) kept)
      · exact moves_refl s kept
  | delivery_failed now =>
      have kept : Kept C s (.delivery_failed now) := ⟨fun bad => (nomatch bad), fun bad => (nomatch bad)⟩
      simp only [step]
      split
      · rename_i item delivering
        obtain ⟨pending, dropped, frame, -⟩ := delivery_failed_frame C s item now sound.bounded
        have put : (s.delivery_failed C item now).found = s.found + s.worker.in_hand := by
          rw [delivering]
          exact found_delivery_failed C s item now
        exact (moves_run_worker s _ (by rw [frame]) put now).congr (iff_of_true (connected delivering _) kept)
      · exact moves_refl s kept
  | aclose =>
      simp only [step]
      split
      · rename_i before
        refine (moves_drain_round { s with accepting := false }).congr ?_
        simp [Kept, Cancels, Discards, before]
      · rename_i other
        exact moves_refl s ⟨fun bad => absurd bad.1 other, fun bad => (nomatch bad)⟩
  | drain_round =>
      simp only [step]
      split
      · rename_i draining
        refine (moves_drain_round s).congr ?_
        simp [Kept, Cancels, Discards, draining]
      · rename_i other
        exact moves_refl s ⟨fun bad => absurd bad.1 other, fun bad => (nomatch bad)⟩
  | drain_timeout =>
      simp only [step]
      split
      · rename_i draining
        refine (moves_drain_timeout s).congr ?_
        simp [Kept, Cancels, Discards, draining]
      · rename_i other
        exact moves_refl s ⟨fun bad => absurd bad other, fun bad => (nomatch bad)⟩

/-- In every run the buffer stays within its bound; and once `aclose` has returned, every event which was appended has
been delivered or counted exactly once if and only if every step kept the event in the worker's hands. -/
theorem usage_events_conserved_iff (C : Settings) (events : List Event)
    (closed : (Runs.run (step C) started events).aclose = .returned) :
    (Runs.EveryState (step C) (fun s => s.pending.length ≤ C.max) started events ∧
        (Runs.run (step C) started events).Conserved) ↔
      Runs.EveryStep (step C) (Kept C) started events := by
  have keeps : ∀ s e, Sound C s → Sound C (step C s e) := fun s e sound => sound.step e
  have every : Runs.EveryState (step C) (Sound C) started events :=
    Runs.everyState_of_invariant keeps (sound_started C)
  have sound := Runs.everyState_iff.mp every events [] (List.append_nil _).symm
  have balanced : (Runs.run (step C) started events).found + (Runs.run (step C) started events).worker.in_hand =
      (Runs.run (step C) started events).appended ↔ Runs.EveryStep (step C) (Kept C) started events :=
    Runs.balanced_iff (fun s : Emitter => (s.appended : Multiset UsageEvent))
      (fun s : Emitter => s.found + s.worker.in_hand) keeps (fun s e sound => moves_step sound e) (sound_started C) rfl
  rw [and_iff_right (every.mono fun s sound => sound.bounded), ← balanced]
  obtain ⟨stopped, empty⟩ := sound.closed closed
  unfold Emitter.Conserved Emitter.found
  rw [stopped, empty]
  exact iff_of_eq (congrArg (· = _) ((add_zero _).trans (add_zero _)).symm)

/-- A webhook, a client, and room for two events. -/
def twoEvents : Settings := ⟨some "https://usage", true, 2, 8, by decide, by decide⟩

def usage : UsageEvent := ⟨"evt_1", "success"⟩

def delivered_run : List Event := [.emit usage 0, .woken 0, .delivery_succeeded 1, .aclose]

theorem usage_events_conserved_delivered :
    Runs.EveryState (step twoEvents) (fun s => s.pending.length ≤ 2) started delivered_run ∧
      (Runs.run (step twoEvents) started delivered_run).Conserved := by
  refine (usage_events_conserved_iff twoEvents delivered_run rfl).mpr ⟨?_, ?_, ?_, ?_, trivial⟩
  · exact ⟨fun bad => (nomatch bad), fun bad => (nomatch bad)⟩
  · exact ⟨fun bad => (nomatch bad), fun bad => (nomatch bad.2.1)⟩
  · exact ⟨fun bad => (nomatch bad), fun bad => (nomatch bad)⟩
  · exact ⟨fun _ => rfl, fun bad => (nomatch bad)⟩

/-- The buffer is empty while the only event is being delivered: the drain ends at once, and the worker is cancelled
with the event in its hands. -/
def cancelled_run : List Event := [.emit usage 0, .woken 0, .aclose]

theorem event_lost_in_hand :
    (Runs.run (step twoEvents) started cancelled_run).aclose = .returned ∧
      ¬ (Runs.run (step twoEvents) started cancelled_run).Conserved := by
  refine ⟨rfl, fun conserved => ?_⟩
  have one : (0 : Multiset UsageEvent) = [usage] := conserved
  cases (Multiset.coe_eq_zero _).mp one.symm

end RuntimePlatform.Usage
