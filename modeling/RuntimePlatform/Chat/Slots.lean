import RuntimePlatform.Chat.Frames

/-!
The slots of a chat request: the permit of the global semaphore and the tenant's lease.
The history of a request counts what it took and what it gave back; the protocol asks
that nothing is given back which is not held. Over all requests the free permits and
those held make up the configured number.
-/

namespace RuntimePlatform.Chat
open Python Coroutine Coroutine.Session

structure Slots where
  acquired : ℕ
  released : ℕ
  leased : ℕ
  returned : ℕ
  /-- The body generator has been started. -/
  streaming : Bool
  /-- A step of the generator has raised. -/
  failing : Bool
  deriving DecidableEq, Repr

namespace Slots

def start : Slots := ⟨0, 0, 0, 0, false, false⟩

/-- Nothing is held. -/
def Free (g : Slots) : Prop := g.released = g.acquired ∧ g.returned = g.leased

instance (g : Slots) : Decidable g.Free := inferInstanceAs (Decidable (_ ∧ _))

/-- The request holds a permit. -/
def Holding (g : Slots) : Prop := g.released < g.acquired

instance (g : Slots) : Decidable g.Holding := inferInstanceAs (Decidable (_ < _))

def held (g : Slots) : ℕ := if g.Holding then 1 else 0

theorem held_of_not {g : Slots} (h : ¬ g.Holding) : g.held = 0 := if_neg h

theorem held_of {g : Slots} (h : g.Holding) : g.held = 1 := if_pos h

/-- A fail-open lease takes no slot. A release script which the store refuses still ends the lease:
its slot is left to the lease's lifetime. -/
def next (g : Slots) : (op : Op) → op.Ans → Slots
  | .semaphore_acquire, .ok _ => { g with acquired := g.acquired + 1 }
  | .semaphore_release, _ => { g with released := g.released + 1 }
  | .acquire_lease _, .ok mode => { g with leased := if mode = .fail_open then g.leased else g.leased + 1 }
  | .lease_semaphore_release, _ => { g with returned := g.returned + 1 }
  | .lease_evict, .error .cancelled => g
  | .lease_evict, _ => { g with returned := g.returned + 1 }
  | .start_body, .ok started => { g with streaming := started }
  | _, .ok _ => g
  | _, .error _ => { g with failing := g.failing || g.streaming }

def must (g : Slots) : Op → Prop
  | .semaphore_acquire => g.acquired = 0 ∧ g.released = 0
  | .acquire_lease _ => g.leased = 0 ∧ g.returned = 0
  | .semaphore_release => g.released < g.acquired
  | .lease_semaphore_release | .lease_evict => g.returned < g.leased
  | _ => True

/-- A step whose exceptions are caught by the finaliser of a stream that has not failed yet. -/
def guarded (g : Slots) (op : Op) : Bool :=
  g.streaming && !g.failing && decide (op.kind ≠ .lease) && decide (op.kind ≠ .global)

/-- No step is cancelled while a slot is held, unless the stream's finaliser still follows; the
body of a stream which holds a slot is started; a reply is rejected only when no permit was taken. -/
def orderly (g : Slots) : (op : Op) → op.Ans → Bool
  | .json_response _, .error _ => decide (g.acquired = 0)
  | .start_body, .ok started => started || decide g.Free
  | op, .error .cancelled => g.guarded op || decide (g.next op (.error .cancelled)).Free
  | _, _ => true

end Slots

abbrev Condition (H : Type) := H → (op : Op) → op.Ans → Bool

/-- The history of the slots, over the answers which meet a condition. -/
def slotProtocol (condition : Condition Slots) : Contract Slots where
  start := .start
  next _ := Slots.next
  known _ := True
  must := Slots.must
  may _ g op answer := op.possible answer = true ∧ condition g op answer = true

instance (condition : Condition Slots) (s : Shared) (g : Slots) (op : Op) (answer : op.Ans) :
    Decidable ((slotProtocol condition).may s g op answer) := inferInstanceAs (Decidable (_ ∧ _))

/-! One step of one request, seen from the shared semaphore. -/

/-- Free permits and held ones add up, and no request has taken two. -/
def PermitsAddUp (limits : AdmissionLimits) (s : Shared) (gs : List Slots) : Prop :=
  s.admission.sem + gs.countP (fun g => decide g.Holding) = max 1 limits.max_inflight ∧
    ∀ g ∈ gs, g.released ≤ g.acquired ∧ g.acquired ≤ 1

theorem permits_start (limits : AdmissionLimits) (breaker : CircuitBreaker) :
    PermitsAddUp limits ⟨.initial limits, breaker⟩ [] := ⟨rfl, fun _ member => absurd member List.not_mem_nil⟩

theorem permits_fresh {limits : AdmissionLimits} (s : Shared) (gs : List Slots) (kept : PermitsAddUp limits s gs) :
    PermitsAddUp limits s (gs ++ [.start]) := by
  refine ⟨?_, fun g member => ?_⟩
  · rw [List.countP_append]
    exact kept.1
  · rcases List.mem_append.mp member with old | new
    · exact kept.2 g old
    · rw [List.mem_singleton.mp new]
      exact ⟨Nat.le_refl 0, Nat.zero_le 1⟩

/-- Only the two semaphore steps move a permit: the others leave the counts of the request alone, -/
theorem Slots.next_permit (g : Slots) {op : Op} (answer : op.Ans) (takes : op ≠ .semaphore_acquire)
    (gives : op ≠ .semaphore_release) :
    (g.next op answer).acquired = g.acquired ∧ (g.next op answer).released = g.released := by
  cases op with
  | semaphore_acquire => exact absurd rfl takes
  | semaphore_release => exact absurd rfl gives
  | lease_evict =>
      cases answer with
      | ok a => exact ⟨rfl, rfl⟩
      | error e => cases e <;> exact ⟨rfl, rfl⟩
  | _ => cases answer <;> exact ⟨rfl, rfl⟩

/-- and so does the shared semaphore. -/
theorem exec_sem {limits : AdmissionLimits} {config : BreakerConfig} {clock : ℚ} {s s' : Shared} {op : Op}
    {answer : op.Ans} (takes : op ≠ .semaphore_acquire) (gives : op ≠ .semaphore_release)
    (done : exec limits config clock s op answer = some s') : s'.admission.sem = s.admission.sem := by
  unfold exec at done
  split at done
  case h_3 => exact absurd rfl takes
  case h_5 => exact absurd rfl gives
  case h_1 =>
      obtain ⟨_, same⟩ := Option.ite_none_left_eq_some.mp done
      cases same
      rfl
  case h_2 =>
      obtain ⟨_, same⟩ := Option.ite_none_right_eq_some.mp done
      cases same
      rfl
  case h_7 =>
      obtain ⟨_, same⟩ := Option.ite_none_right_eq_some.mp done
      cases same
      rfl
  all_goals
      cases done
      rfl

/-- What one step does to the semaphore and to the counts of its request. -/
theorem permits_step {limits : AdmissionLimits} {config : BreakerConfig} {clock : ℚ} {s s' : Shared} {g : Slots}
    {op : Op} {answer : op.Ans} (owed : g.must op) (possible : op.possible answer = true)
    (sound : g.released ≤ g.acquired ∧ g.acquired ≤ 1) (done : exec limits config clock s op answer = some s') :
    ((g.next op answer).released ≤ (g.next op answer).acquired ∧ (g.next op answer).acquired ≤ 1) ∧
      s'.admission.sem + (g.next op answer).held = s.admission.sem + g.held := by
  by_cases takes : op = .semaphore_acquire
  · subst takes
    obtain ⟨acquired, released⟩ : g.acquired = 0 ∧ g.released = 0 := owed
    cases answer with
    | error e =>
        cases done
        exact ⟨sound, rfl⟩
    | ok a =>
        obtain ⟨free, same⟩ := Option.ite_none_right_eq_some.mp done
        cases same
        have before : g.held = 0 := Slots.held_of_not (by unfold Slots.Holding; omega)
        have after : (g.next .semaphore_acquire (.ok a)).held = 1 :=
          Slots.held_of (by change g.released < g.acquired + 1; omega)
        rw [before, after]
        refine ⟨?_, Nat.sub_add_cancel free⟩
        change g.released ≤ g.acquired + 1 ∧ g.acquired + 1 ≤ 1
        omega
  · by_cases gives : op = .semaphore_release
    · subst gives
      have holding : g.released < g.acquired := owed
      cases answer with
      | error e => cases possible
      | ok a =>
          cases done
          have after : (g.next .semaphore_release (.ok a)).held = 0 :=
            Slots.held_of_not (by change ¬ g.released + 1 < g.acquired; omega)
          rw [Slots.held_of holding, after]
          exact ⟨⟨holding, sound.2⟩, rfl⟩
    · obtain ⟨acquired, released⟩ := g.next_permit answer takes gives
      have same : (g.next op answer).held = g.held := by
        have alike : (g.next op answer).Holding ↔ g.Holding := by
          unfold Slots.Holding
          rw [acquired, released]
        exact if_congr alike rfl rfl
      rw [same, exec_sem takes gives done, acquired, released]
      exact ⟨sound, rfl⟩

theorem permits_next {limits : AdmissionLimits} {config : BreakerConfig} {clock : ℚ} {s s' : Shared}
    {before after : List Slots} {g : Slots} {op : Op} {answer : op.Ans} (owed : g.must op)
    (possible : op.possible answer = true) (done : exec limits config clock s op answer = some s')
    (kept : PermitsAddUp limits s (before ++ g :: after)) :
    PermitsAddUp limits s' (before ++ g.next op answer :: after) := by
  obtain ⟨total, sound⟩ := kept
  obtain ⟨sound', moved⟩ := permits_step owed possible
    (sound g (List.mem_append_right _ List.mem_cons_self)) done
  refine ⟨?_, fun h member => ?_⟩
  · simp only [List.countP_append, List.countP_cons, decide_eq_true_eq] at total ⊢
    change _ + (_ + (_ + Slots.held _)) = _ at total
    change _ + (_ + (_ + Slots.held _)) = _
    omega
  · rcases List.mem_append.mp member with left | right
    · exact sound h (List.mem_append_left _ left)
    · rcases List.mem_cons.mp right with rfl | rest
      · exact sound'
      · exact sound h (List.mem_append_right _ (List.mem_cons_of_mem _ rest))

/-! One request keeps to the protocol. Up to the release of its slots the history stands still;
`Still lease g₀` is what all the steps between keep. -/

variable {G : Gateway}

def Still (lease : Option Lease) (g₀ : Slots) (l : Locals) (g : Slots) : Prop := l.lease = lease ∧ g = g₀

/-- A cancellation leaves nothing behind. -/
def CancelledFree (g₀ : Slots) (e : Exc) : Prop := e = .cancelled → g₀.Free

/-- Steps which move no slot. -/
def Aside (kind : Kind) : Prop := kind ≠ .global ∧ kind ≠ .lease ∧ kind ≠ .reply

instance (kind : Kind) : Decidable (Aside kind) := inferInstanceAs (Decidable (_ ∧ _))

/-- The history once a step has raised in the body of a stream. -/
def Slots.failed (g : Slots) : Slots := { g with failing := g.failing || g.streaming }

theorem aside_next {g : Slots} {op : Op} (aside : Aside op.kind) :
    (∀ a, g.next op (.ok a) = g) ∧ ∀ e, g.next op (.error e) = g.failed := by
  obtain ⟨noGlobal, noLease, noReply⟩ := aside
  cases op with
  | global_enqueue | semaphore_acquire | global_dequeue _ | semaphore_release | global_leave =>
      exact absurd rfl noGlobal
  | acquire_lease _ | lease_semaphore_release | lease_evict | lease_leave | lease_count => exact absurd rfl noLease
  | json_response _ | start_body | relay => exact absurd rfl noReply
  | _ => exact ⟨fun _ => rfl, fun _ => rfl⟩

theorem failed_waiting {g : Slots} (waiting : g.streaming = false) : g.failed = g := by
  have unchanged : (g.failing || g.streaming) = g.failing := by rw [waiting, Bool.or_false]
  unfold Slots.failed
  rw [unchanged]

theorem aside_must {g : Slots} {op : Op} (aside : Aside op.kind) : g.must op := by
  obtain ⟨noGlobal, noLease, noReply⟩ := aside
  cases op with
  | semaphore_acquire | semaphore_release => exact absurd rfl noGlobal
  | acquire_lease _ | lease_semaphore_release | lease_evict => exact absurd rfl noLease
  | _ => trivial

theorem orderly_cancelled {g : Slots} {op : Op} (noReply : op.kind ≠ .reply) :
    g.orderly op (.error .cancelled) = (g.guarded op || decide (g.next op (.error .cancelled)).Free) := by
  cases op with
  | json_response _ | start_body | relay => exact absurd rfl noReply
  | _ => rfl

theorem aside_cancelled {g : Slots} {op : Op} (aside : Aside op.kind) (unguarded : g.guarded op = false)
    (orderly : g.orderly op (.error .cancelled) = true) : g.Free := by
  rw [orderly_cancelled aside.2.2, unguarded, Bool.false_or, decide_eq_true_eq] at orderly
  rw [(aside_next aside).2] at orderly
  exact orderly

/-- Before the stream starts, the steps aside leave the history alone. -/
theorem still_frame {lease : Option Lease} {g₀ : Slots} (waiting : g₀.streaming = false) :
    Frame (slotProtocol Slots.orderly) (Still lease g₀) (CancelledFree g₀) Aside where
  step op aside := by
    refine keeps_perform fun l g kept => ?_
    obtain ⟨sameLease, rfl⟩ := kept
    refine ⟨aside_must aside, fun s answer _ may => ⟨⟨sameLease, ?_⟩, fun e raised cancelled => ?_⟩⟩
    · cases answer with
      | ok a => exact (aside_next aside).1 a
      | error e => exact ((aside_next aside).2 e).trans (failed_waiting waiting)
    · subst cancelled raised
      exact aside_cancelled aside (by rw [Slots.guarded, waiting]; rfl) may.2
  expected e other := fun cancelled => absurd cancelled other
  model l g model kept := kept

theorem still_blind {lease : Option Lease} {g₀ : Slots} (l : Locals) (g : Slots) (reservation : Option Reservation)
    (kept : Still lease g₀ l g) : Still lease g₀ { l with reservation := reservation } g := kept

/-! The releases. A step which can only be cancelled either answers or leaves nothing held. -/

theorem possible_error {op : Op} {e : Exc} (possible : op.possible (.error e) = true) : op.raises e = true := by
  cases op with
  | request_cost usage model =>
      cases usage with
      | none => cases possible
      | _ => exact possible
  | _ => exact possible

theorem call_cancellable {op : Op} {l : Locals} {g : Slots} {Q : Except Exc op.Res → Locals → Slots → Prop}
    (noReply : op.kind ≠ .reply) (unguarded : g.guarded op = false) (owed : g.must op)
    (only : ∀ e, op.raises e = true → e = .cancelled) (answered : ∀ a, Q (.ok a) l (g.next op (.ok a)))
    (cancelled : (g.next op (.error .cancelled)).Free → Q (.error .cancelled) l (g.next op (.error .cancelled))) :
    (call op).Meets (slotProtocol Slots.orderly) l g Q := by
  refine meets_perform.mpr ⟨owed, fun s answer _ may => ?_⟩
  cases answer with
  | ok a => exact answered a
  | error e =>
      obtain rfl := only e (possible_error may.1)
      refine cancelled ?_
      have orderly := may.2
      rw [orderly_cancelled noReply, unguarded, Bool.false_or, decide_eq_true_eq] at orderly
      exact orderly

theorem unguarded_lease {g : Slots} {op : Op} (kind : op.kind = .lease ∨ op.kind = .global) : g.guarded op = false := by
  unfold Slots.guarded
  rcases kind with same | same
  · simp only [same, ne_eq, not_true_eq_false, decide_false, Bool.and_false, Bool.false_and]
  · simp only [same, ne_eq, not_true_eq_false, decide_false, Bool.and_false]

theorem global_release_meets {l : Locals} {g : Slots} (held : g.released + 1 = g.acquired)
    (returned : g.returned = g.leased) : global_release.Meets (slotProtocol Slots.orderly) l g
      fun r l' g' => l' = l ∧ g'.Free ∧ g'.acquired = g.acquired ∧ g'.leased = g.leased ∧
        g'.streaming = g.streaming ∧ ∀ e, r = .error e → e = .cancelled := by
  have owed : g.must .semaphore_release := by
    change g.released < g.acquired
    omega
  refine meets_bind.mpr (call_cancellable (by decide) (unguarded_lease (Or.inr rfl)) owed
    (fun e raised => nomatch raised) (fun _ => ?_) fun free => ?_)
  · rw [after_ok]
    refine call_cancellable (by decide) (unguarded_lease (Or.inr rfl)) trivial
      (fun e raised => of_decide_eq_true raised) (fun _ => ?_) fun _ => ?_
    · exact ⟨rfl, ⟨held, returned⟩, rfl, rfl, rfl, fun e bad => nomatch bad⟩
    · exact ⟨rfl, ⟨held, returned⟩, rfl, rfl, rfl, fun e same => (Except.error.inj same).symm⟩
  · exact ⟨rfl, ⟨held, returned⟩, rfl, rfl, rfl, fun e same => (Except.error.inj same).symm⟩

/-- What a lease still has to give back. -/
def owes (mode : AdmissionMode) : ℕ := if mode = .fail_open then 0 else 1

/-- The lease has been given back, or the release was cancelled when nothing is held. -/
structure GaveBack (l : Locals) (g : Slots) (r : Except Exc Unit) (l' : Locals) (g' : Slots) : Prop where
  locals : l' = l
  acquired : g'.acquired = g.acquired
  released : g'.released = g.released
  leased : g'.leased = g.leased
  streaming : g'.streaming = g.streaming
  answered : ∀ u, r = .ok u → g'.returned = g'.leased
  raised : ∀ e, r = .error e → e = .cancelled ∧ g'.Free

theorem gaveBack_ok {l : Locals} {g g' : Slots} {u : Unit} (acquired : g'.acquired = g.acquired)
    (released : g'.released = g.released) (leased : g'.leased = g.leased) (streaming : g'.streaming = g.streaming)
    (returned : g'.returned = g'.leased) : GaveBack l g (.ok u) l g' :=
  ⟨rfl, acquired, released, leased, streaming, fun _ _ => returned, fun _ bad => (nomatch bad)⟩

theorem gaveBack_cancelled {l : Locals} {g g' : Slots} (acquired : g'.acquired = g.acquired)
    (released : g'.released = g.released) (leased : g'.leased = g.leased) (streaming : g'.streaming = g.streaming)
    (free : g'.Free) : GaveBack l g (.error .cancelled) l g' :=
  ⟨rfl, acquired, released, leased, streaming, fun _ bad => (nomatch bad),
    fun _ same => ⟨(Except.error.inj same).symm, free⟩⟩

theorem local_release_meets {l : Locals} {g : Slots} (held : g.returned + 1 = g.leased) :
    (controller_release .local_).Meets (slotProtocol Slots.orderly) l g (GaveBack l g) := by
  have owed : g.must .lease_semaphore_release := by
    change g.returned < g.leased
    omega
  refine meets_bind.mpr (call_cancellable (by decide) (unguarded_lease (Or.inl rfl)) owed
    (fun e raised => nomatch raised) (fun _ => ?_) fun free => ?_)
  · rw [after_ok]
    refine call_cancellable (by decide) (unguarded_lease (Or.inl rfl)) trivial
      (fun e raised => of_decide_eq_true raised) (fun _ => ?_) fun free => ?_
    · exact gaveBack_ok rfl rfl rfl rfl held
    · exact gaveBack_cancelled rfl rfl rfl rfl free
  · exact gaveBack_cancelled rfl rfl rfl rfl free

/-- A step on the slots answers, raises, or is cancelled with nothing held. -/
theorem slotCall {op : Op} {l : Locals} {g : Slots} {Q : Except Exc op.Res → Locals → Slots → Prop}
    (kind : op.kind = .lease ∨ op.kind = .global) (owed : g.must op) (answered : ∀ a, Q (.ok a) l (g.next op (.ok a)))
    (raised : ∀ e, op.raises e = true → e ≠ .cancelled → Q (.error e) l (g.next op (.error e)))
    (cancelled : (g.next op (.error .cancelled)).Free → Q (.error .cancelled) l (g.next op (.error .cancelled))) :
    (call op).Meets (slotProtocol Slots.orderly) l g Q := by
  refine meets_perform.mpr ⟨owed, fun s answer _ may => ?_⟩
  cases answer with
  | ok a => exact answered a
  | error e =>
      by_cases same : e = .cancelled
      · subst same
        have noReply : op.kind ≠ .reply := by
          rcases kind with same | same
          · rw [same]
            decide
          · rw [same]
            decide
        have orderly := may.2
        rw [orderly_cancelled noReply, unguarded_lease kind, Bool.false_or, decide_eq_true_eq] at orderly
        exact cancelled orderly
      · exact raised e (possible_error may.1) same

theorem redis_release_meets {l : Locals} {g : Slots} (held : g.returned + 1 = g.leased) :
    (controller_release .redis).Meets (slotProtocol Slots.orderly) l g (GaveBack l g) := by
  have owed : g.must .lease_evict := by
    change g.returned < g.leased
    omega
  have dropped : ∀ (e : Exc) (g' : Slots), e ≠ .cancelled → GaveBack l g (.ok ()) l g' →
      if e.isException = true then (result () : Handler Unit).Meets (slotProtocol Slots.orderly) l g' (GaveBack l g)
      else GaveBack l g (.error e) l g' := by
    intro e g' other gave
    have exception : e.isException = true := decide_eq_true other
    rw [if_pos exception]
    exact gave
  have passed : ∀ (g' : Slots), GaveBack l g (.error .cancelled) l g' →
      if Exc.cancelled.isException = true then
        (result () : Handler Unit).Meets (slotProtocol Slots.orderly) l g' (GaveBack l g)
      else GaveBack l g (.error .cancelled) l g' := by
    intro g' gave
    rw [if_neg (by decide)]
    exact gave
  refine meets_catching.mpr (meets_bind.mpr
      (slotCall (Or.inl rfl) owed (fun _ => ?_) (fun e _ other => ?_) fun free => ?_))
  · rw [after_ok]
    refine meets_bind.mpr (slotCall (Or.inl rfl) trivial (fun _ => ?_) (fun e _ other => ?_) fun free => ?_)
    · rw [after_ok]
      refine slotCall (Or.inl rfl) trivial (fun _ => ?_) (fun e _ other => ?_) fun free => ?_
      · exact gaveBack_ok rfl rfl rfl rfl held
      · exact dropped e _ other (gaveBack_ok rfl rfl rfl rfl held)
      · exact passed _ (gaveBack_cancelled rfl rfl rfl rfl free)
    · exact dropped e _ other (gaveBack_ok rfl rfl rfl rfl held)
    · exact passed _ (gaveBack_cancelled rfl rfl rfl rfl free)
  · refine dropped e _ other ?_
    cases e with
    | cancelled => exact absurd rfl other
    | _ => exact gaveBack_ok rfl rfl rfl rfl held
  · exact passed _ (gaveBack_cancelled rfl rfl rfl rfl free)

/-- The controller's release, in every mode. -/
theorem controller_release_meets {mode : AdmissionMode} {l : Locals} {g : Slots}
    (held : g.returned + owes mode = g.leased) :
    (controller_release mode).Meets (slotProtocol Slots.orderly) l g (GaveBack l g) := by
  cases mode with
  | local_ => exact local_release_meets held
  | degraded => exact local_release_meets held
  | fail_open => exact gaveBack_ok rfl rfl rfl rfl held
  | redis => exact redis_release_meets held

/-- The lease of the locals and the history agree on what is to be given back. -/
def LeaseCounted (l : Locals) (g : Slots) : Prop :=
  match l.lease with
  | none => g.returned = g.leased
  | some lease => g.returned + (if lease.released then 0 else owes lease.mode) = g.leased

/-- The locals once the lease has been marked. -/
def Locals.marked (l : Locals) : Locals := { l with lease := l.lease.map fun lease => { lease with released := true } }

theorem marked_released (l : Locals) : ∀ lease ∈ l.marked.lease, lease.released = true := by
  intro lease member
  obtain ⟨old, _, rfl⟩ := Option.mem_map.mp member
  rfl

theorem lease_release_meets {l : Locals} {g : Slots} (counted : LeaseCounted l g) :
    lease_release.Meets (slotProtocol Slots.orderly) l g (GaveBack l.marked g) := by
  refine meets_bind.mpr (meets_locals.mpr ?_)
  rw [after_ok]
  unfold LeaseCounted at counted
  cases present : l.lease with
  | none =>
      simp only [present] at counted
      have unmarked : l.marked = l := by
        cases l
        simp only at present
        subst present
        rfl
      rw [unmarked]
      exact gaveBack_ok rfl rfl rfl rfl counted
  | some lease =>
      simp only [present] at counted
      have marked : l.marked = { l with lease := some { lease with released := true } } := by
        unfold Locals.marked
        rw [present]
        rfl
      cases done : lease.released with
      | true =>
          simp only [done, if_true] at counted ⊢
          have unmarked : l.marked = l := by
            rw [marked]
            cases l
            cases lease
            simp only at present done
            subst done present
            rfl
          rw [unmarked]
          exact gaveBack_ok rfl rfl rfl rfl counted
      | false =>
          simp only [done, Bool.false_eq_true, if_false] at counted ⊢
          rw [marked]
          exact meets_bind.mpr (meets_change.mpr (controller_release_meets counted))

/-- A request which can still release its slots: the permit has not been given back. -/
structure Counted (G : Gateway) (l : Locals) (g : Slots) : Prop where
  acquired : g.acquired = if G.has_global_admission then 1 else 0
  released : g.released = 0
  leased : g.leased ≤ 1
  lease : LeaseCounted l g

/-- The end of a request's slots. -/
structure Done (l : Locals) (g : Slots) : Prop where
  free : g.Free
  acquired : g.acquired ≤ 1
  leased : g.leased ≤ 1
  marked : ∀ lease ∈ l.lease, lease.released = true

theorem release_slots_meets {l : Locals} {g : Slots} (counted : Counted G l g) :
    (release_slots G).Meets (slotProtocol Slots.orderly) l g fun r l' g' =>
      Done l' g' ∧ g'.acquired = g.acquired ∧ g'.streaming = g.streaming ∧ ∀ e, r = .error e → e = .cancelled := by
  obtain ⟨acquired, released, leased, lease⟩ := counted
  have atMost : g.acquired ≤ 1 := by
    rw [acquired]
    by_cases h : G.has_global_admission = true
    · rw [if_pos h]
    · rw [if_neg h]
      exact Nat.zero_le 1
  refine meets_bind.mpr ((lease_release_meets lease).mono fun r l' g' gave => ?_)
  obtain ⟨rfl, sameAcquired, sameReleased, sameLeased, streaming, answered, raised⟩ := gave
  cases r with
  | error e =>
      obtain ⟨rfl, free⟩ := raised e rfl
      exact ⟨⟨free, by omega, by omega, marked_released l⟩, sameAcquired, streaming,
        fun e same => (Except.error.inj same).symm⟩
  | ok u =>
      rw [after_ok, meets_when]
      have returned := answered u rfl
      by_cases has : G.has_global_admission = true
      · rw [if_pos has]
        rw [if_pos has] at acquired
        refine (global_release_meets (by omega) returned).mono fun r l' g'' ended => ?_
        obtain ⟨rfl, free, sameAcquired', sameLeased', streaming', cancelled⟩ := ended
        exact ⟨⟨free, by omega, by omega, marked_released l⟩, sameAcquired'.trans sameAcquired,
          streaming'.trans streaming, cancelled⟩
      · rw [if_neg has]
        rw [if_neg has] at acquired
        exact ⟨⟨⟨by omega, returned⟩, by omega, by omega, marked_released l⟩, sameAcquired, streaming,
          fun e bad => (nomatch bad)⟩

/-! From admission to the reply. -/

/-- The slots of an ended request. -/
def Ended (g : Slots) : Prop := g.Free ∧ g.acquired ≤ 1 ∧ g.leased ≤ 1

theorem Done.ended {l : Locals} {g : Slots} (done : Done l g) : Ended g := ⟨done.free, done.acquired, done.leased⟩

theorem Counted.ended {l : Locals} {g : Slots} (counted : Counted G l g) (free : g.Free) : Ended g := by
  refine ⟨free, ?_, counted.leased⟩
  rw [counted.acquired]
  by_cases has : G.has_global_admission = true
  · rw [if_pos has]
  · rw [if_neg has]
    exact Nat.zero_le 1

/-- Only the lease of the locals is counted. -/
theorem Counted.of_lease {l l' : Locals} {g : Slots} (counted : Counted G l g) (same : l'.lease = l.lease) :
    Counted G l' g := by
  refine ⟨counted.acquired, counted.released, counted.leased, ?_⟩
  unfold LeaseCounted
  rw [same]
  exact counted.lease

/-- A reply which was rejected after the release can release again when there is no global slot. -/
theorem Done.counted {l : Locals} {g : Slots} (done : Done l g) (without : g.acquired = 0)
    (has : G.has_global_admission = false) : Counted G l g := by
  refine ⟨by rw [has]; exact without, done.free.1.trans without, done.leased, ?_⟩
  unfold LeaseCounted
  cases present : l.lease with
  | none => exact done.free.2
  | some lease =>
      have released := done.marked lease present
      simp only [released, if_true]
      exact done.free.2

/-- How the admitted part of a request may end. -/
def Admitted (G : Gateway) : Except Exc Reply → Locals → Slots → Prop
  | .ok (.json _), _, g => Ended g
  | .ok (.stream _), l, g => Counted G l g ∧ g.streaming = false ∧ g.failing = false
  | .error e, l, g => if e = .cancelled then Ended g else Counted G l g ∧ g.streaming = false

theorem admitted_error {l l' : Locals} {g g' : Slots} {e : Exc} (counted : Counted G l g)
    (waiting : g.streaming = false) (still : Still l.lease g l' g') (expected : CancelledFree g e) :
    Admitted G (.error e) l' g' := by
  obtain ⟨same, rfl⟩ := still
  change if e = .cancelled then _ else _
  by_cases cancelled : e = .cancelled
  · rw [if_pos cancelled]
    exact counted.ended (expected cancelled)
  · rw [if_neg cancelled]
    exact ⟨counted.of_lease same, waiting⟩

section Admitted
variable {l : Locals} {g : Slots} (counted : Counted G l g) (waiting : g.streaming = false) (calm : g.failing = false)
include counted waiting calm

theorem complete_meets (quota_reservation : Bool) (selection : Selection) (selected : String)
    (completion : Completion) : (complete G quota_reservation selection selected completion).Meets
      (slotProtocol Slots.orderly) l g (Admitted G) := by
  have frame := @still_frame l.lease _ waiting
  have raised : ∀ e l' g', Still l.lease g l' g' → CancelledFree g e → Admitted G (.error e) l' g' :=
    fun e l' g' => admitted_error counted waiting
  have here : Still l.lease g l g := ⟨rfl, rfl⟩
  unfold complete
  refine (frame.lift fun e bad => json_error bad).bindMeets here raised fun content l₁ g₁ still => ?_
  refine (frame.step (.routing_signal _) (by decide : Aside .health)).bindMeets still raised
      fun signal l₁ g₁ still => ?_
  refine (frame.lift fun e bad => asDict_error bad).bindMeets still raised fun entries l₁ g₁ still => ?_
  refine (frame.step (.request_cost _ _) (by decide : Aside .cost)).bindMeets still raised fun cost l₁ g₁ still => ?_
  refine (frame.reconcile_quota (by decide) _ _ _).bindMeets still raised fun _ l₁ g₁ still => ?_
  refine (frame.settle_once still_blind (by decide) _).bindMeets still raised fun _ l₁ g₁ still => ?_
  refine (frame.schedule_shadow G (by decide) _ _).bindMeets still raised fun _ l₁ g₁ still => ?_
  refine (frame.step (.record_decision _ _) (by decide : Aside .record)).bindMeets still raised fun _ l₁ g₁ still => ?_
  refine (Keeps.when fun _ => frame.step .submit_evaluation (by decide)).bindMeets still raised fun _ l₁ g₁ still => ?_
  refine (Keeps.when fun _ => frame.step (.emit _) (by decide : Aside .record)).bindMeets still raised
      fun _ l₁ g₁ still => ?_
  obtain ⟨same, rfl⟩ := still
  refine meets_bind.mpr ((release_slots_meets (counted.of_lease same)).mono fun r l₂ g₂ released => ?_)
  obtain ⟨done, acquired, streaming, cancelled⟩ := released
  cases r with
  | error e =>
      obtain rfl := cancelled e rfl
      exact done.ended
  | ok u =>
      rw [after_ok]
      -- The reply is built after the release; when it is rejected the handler outside releases again.
      refine meets_bind.mpr (meets_perform.mpr ⟨trivial, fun s answer _ may => ?_⟩)
      cases answer with
      | ok _ => exact done.ended
      | error e =>
          have without : g₂.acquired = 0 := of_decide_eq_true may.2
          have has : G.has_global_admission = false := by
            rw [acquired, counted.acquired] at without
            cases has : G.has_global_admission with
            | false => rfl
            | true =>
                rw [has] at without
                cases without
          change if e = .cancelled then _ else _
          by_cases cancelled : e = .cancelled
          · rw [if_pos cancelled]
            exact done.ended
          · rw [if_neg cancelled]
            exact ⟨⟨(done.counted without has).acquired, (done.counted without has).released, done.leased,
              (done.counted without has).lease⟩, streaming.trans waiting⟩

theorem dispatch_meets (quota_reservation stream : Bool) (selection : Selection) :
    (dispatch G quota_reservation stream selection).Meets (slotProtocol Slots.orderly) l g (Admitted G) := by
  have frame := @still_frame l.lease _ waiting
  have raised : ∀ e l' g', Still l.lease g l' g' → CancelledFree g e → Admitted G (.error e) l' g' :=
    fun e l' g' => admitted_error counted waiting
  have here : Still l.lease g l g := ⟨rfl, rfl⟩
  unfold dispatch
  cases selection.model.filter fun model => (G.target model).isSome with
  | none =>
      refine (frame.settle_once still_blind (by decide) _).bindMeets here raised fun _ l₁ g₁ still => ?_
      exact raised (.httpException 404) l₁ g₁ still fun bad => (nomatch bad)
  | some model =>
      refine (frame.setModel model).bindMeets here raised fun _ l₁ g₁ still => ?_
      refine (Frame.handled (Keeps.ite (fun _ => ?_) fun _ => ?_) fun e _ => ?_).bindMeets still raised
        fun upstream l₁ g₁ still => ?_
      · exact frame.open_stream G still_blind (by decide) (by decide) (by decide) (by decide) _ _ _
      · exact frame.forward G still_blind (by decide) (by decide) (by decide) (by decide) (by decide) _ _
      · exact frame.upstream_error still_blind (by decide) (by decide) (by decide) (by decide) e
      · obtain ⟨same, rfl⟩ := still
        cases upstream with
        | streaming stream => exact ⟨counted.of_lease same, waiting, calm⟩
        | answered completion => exact complete_meets (counted.of_lease same) waiting calm _ _ _ _

theorem chat_completions_admitted_meets (request_id : String) (payload : Entries) (requested_model : Model) :
    (chat_completions_admitted G request_id payload requested_model).Meets (slotProtocol Slots.orderly) l g
      (Admitted G) := by
  have frame := @still_frame l.lease _ waiting
  have raised : ∀ e l' g', Still l.lease g l' g' → CancelledFree g e → Admitted G (.error e) l' g' :=
    fun e l' g' => admitted_error counted waiting
  have here : Still l.lease g l g := ⟨rfl, rfl⟩
  have spends : (estimate_spend G (named G (payload.orNone "model") "") (estimated_input_tokens payload)
      (requested_output_tokens G payload (min (estimated_input_tokens payload) 512))).Keeps
      (slotProtocol Slots.orderly) (Still l.lease g) (CancelledFree g) := by
    unfold estimate_spend
    cases G.target (named G (payload.orNone "model") "") with
    | none => exact keeps_result
    | some target => exact frame.step (.estimated_spend _ _ _) (by decide : Aside .quota)
  unfold chat_completions_admitted
  refine spends.bindMeets here raised fun spend l₁ g₁ still => ?_
  refine Keeps.bindMeets ?_ still raised fun _ l₁ g₁ still => ?_
  · refine (frame.step (.reserve_inference_budget _ _ _) (by decide : Aside .reserve)).bind fun reserved => ?_
    exact keeps_change fun l g kept => still_blind l g _ kept
  refine (Keeps.when fun _ => frame.step (.reserve_request _ _ _) (by decide : Aside .quota)).bindMeets still raised
    fun _ l₁ g₁ still => ?_
  refine (Frame.handled ?_ fun e expected => ?_).bindMeets still raised fun selection l₁ g₁ still => ?_
  · exact frame.govern_and_select G (by decide) (by decide) (by decide) (by decide) request_id requested_model
  · exact (frame.settle_once still_blind (by decide) _).bind fun _ => keeps_raise expected
  · obtain ⟨same, rfl⟩ := still
    exact dispatch_meets (counted.of_lease same) waiting calm _ _ selection

end Admitted

/-! Admission. -/

/-- The history of a request which has taken its permit, if there is one to take. -/
def admittedSlots (G : Gateway) : Slots := { Slots.start with acquired := if G.has_global_admission then 1 else 0 }

theorem ended_of_still {lease : Option Lease} {g₀ g : Slots} {l : Locals} (at_rest : Ended g₀)
    (still : Still lease g₀ l g) : Ended g := by
  obtain ⟨_, rfl⟩ := still
  exact at_rest

theorem start_ended : Ended .start := ⟨⟨rfl, rfl⟩, Nat.zero_le 1, Nat.zero_le 1⟩

/-- How taking the permit ends. -/
def Acquired (l : Locals) : Except Exc Unit → Locals → Slots → Prop
  | .ok _, l', g => l' = l ∧ g = { Slots.start with acquired := 1 }
  | .error _, _, g => Ended g

theorem global_acquire_meets {l : Locals} :
    global_acquire.Meets (slotProtocol Slots.orderly) l .start (Acquired l) := by
  have one : ∀ g : Slots, g.Free → g.acquired ≤ 1 → g.leased = 0 → Ended g := by
    intro g free acquired leased
    exact ⟨free, acquired, leased.trans_le (Nat.zero_le 1)⟩
  refine meets_bind.mpr (slotCall (Or.inr rfl) trivial (fun _ => ?_) (fun _ _ _ => start_ended) fun _ => start_ended)
  rw [after_ok, meets_bind, meets_attempt]
  refine slotCall (Or.inr rfl) ⟨rfl, rfl⟩ (fun _ => ?_) (fun e _ other => ?_) fun _ => ?_
  · rw [after_ok]
    refine meets_bind.mpr (slotCall (Or.inr rfl) trivial
        (fun _ => ⟨rfl, rfl⟩) (fun e possible other => ?_) fun free => ?_)
    · exact absurd (of_decide_eq_true possible) other
    · exact one _ free (Nat.le_refl 1) rfl
  · rw [after_ok]
    exact meets_bind.mpr (slotCall (Or.inr rfl) trivial (fun _ => start_ended) (fun _ _ _ => start_ended)
      fun _ => start_ended)
  · rw [after_ok]
    exact meets_bind.mpr (slotCall (Or.inr rfl) trivial (fun _ => start_ended) (fun _ _ _ => start_ended)
      fun _ => start_ended)

theorem admitted_counted {l : Locals} (fresh : l.lease = none) : Counted G l (admittedSlots G) := by
  refine ⟨rfl, rfl, Nat.zero_le 1, ?_⟩
  unfold LeaseCounted
  rw [fresh]
  rfl

/-- How taking the lease ends. -/
def Entered (G : Gateway) : Except Exc Unit → Locals → Slots → Prop
  | .ok _, l, g => Counted G l g ∧ g.streaming = false ∧ g.failing = false
  | .error _, _, g => Ended g

theorem acquire_lease_meets {l : Locals} (fresh : l.lease = none) (requested_model : Value) :
    (acquire_lease G requested_model).Meets (slotProtocol Slots.orderly) l (admittedSlots G) (Entered G) := by
  have counted := admitted_counted (G := G) fresh
  refine meets_bind.mpr (meets_catching.mpr (slotCall (Or.inl rfl) ⟨rfl, rfl⟩ (fun mode => ?_) (fun e _ other => ?_)
    fun free => ?_))
  · refine meets_change.mpr ⟨⟨rfl, rfl, ?_, ?_⟩, rfl, rfl⟩
    · change (if mode = .fail_open then 0 else 1) ≤ 1
      by_cases open_ : mode = .fail_open
      · rw [if_pos open_]
        exact Nat.zero_le 1
      · rw [if_neg open_]
    · change 0 + owes mode = if mode = .fail_open then 0 else 1
      exact Nat.zero_add _
  · have exception : e.isException = true := decide_eq_true other
    dsimp only
    rw [if_pos exception, meets_bind, meets_when]
    by_cases has : G.has_global_admission = true
    · rw [if_pos has]
      have held : (admittedSlots G).failed.released + 1 = (admittedSlots G).failed.acquired := (if_pos has).symm
      refine (global_release_meets held rfl).mono fun r l' g' released => ?_
      obtain ⟨_, free, acquired, leased, _, _⟩ := released
      have ended : Ended g' := by
        refine ⟨free, acquired.trans_le ?_, leased.trans_le (Nat.zero_le 1)⟩
        rw [← held]
        exact Nat.le_refl 1
      cases r with
      | ok u => exact ended
      | error e => exact ended
    · rw [if_neg has]
      exact (counted.ended ⟨(if_neg has).symm, rfl⟩ : Ended (admittedSlots G))
  · dsimp only
    rw [if_neg (by decide)]
    exact (counted.ended free : Ended (admittedSlots G))

theorem permit_meets {l : Locals} (fresh : l.lease = none) :
    (when G.has_global_admission global_acquire).Meets (slotProtocol Slots.orderly) l .start
      fun r l' g => match r with
        | .ok _ => l'.lease = none ∧ g = admittedSlots G
        | .error _ => Ended g := by
  rw [meets_when]
  by_cases has : G.has_global_admission = true
  · rw [if_pos has]
    refine global_acquire_meets.mono fun r l' g acquired => ?_
    cases r with
    | ok u =>
        obtain ⟨rfl, rfl⟩ := acquired
        exact ⟨fresh, by rw [admittedSlots, if_pos has]⟩
    | error e => exact acquired
  · rw [if_neg has]
    exact ⟨fresh, by rw [admittedSlots, if_neg has]; rfl⟩

theorem lease_meets {l : Locals} (fresh : l.lease = none) (requested_model : Value) :
    (when G.has_admission (acquire_lease G requested_model)).Meets (slotProtocol Slots.orderly) l (admittedSlots G)
      (Entered G) := by
  rw [meets_when]
  by_cases has : G.has_admission = true
  · rw [if_pos has]
    exact acquire_lease_meets fresh requested_model
  · rw [if_neg has]
    exact ⟨admitted_counted fresh, rfl, rfl⟩

/-- How `chat_completions` ends: a stream still has to release. -/
def Replied (G : Gateway) : Except Exc Reply → Locals → Slots → Prop
  | .ok (.stream _), l, g => Counted G l g ∧ g.streaming = false ∧ g.failing = false
  | _, _, g => Ended g

/-- Outside the guarded part of a stream a settlement raises only when it is cancelled. -/
theorem settle_step {lease : Option Lease} {g₀ : Slots} (outside : g₀.streaming = false ∨ g₀.failing = true)
    (how : Settlement) (micros : ℤ) : (call (.settle how micros)).Keeps (slotProtocol Slots.orderly)
      (Still lease g₀) fun e => e = .cancelled ∧ g₀.Free := by
  intro l g still
  obtain ⟨same, rfl⟩ := still
  have unguarded : g.guarded (.settle how micros) = false := by
    unfold Slots.guarded
    rcases outside with waiting | failing
    · rw [waiting]
      rfl
    · rw [failing, Bool.not_true, Bool.and_false]
      rfl
  have unchanged : g.failed = g := by
    rcases outside with waiting | failing
    · exact failed_waiting waiting
    · unfold Slots.failed
      have already : (g.failing || g.streaming) = g.failing := by rw [failing, Bool.true_or]
      rw [already]
  refine call_cancellable (fun bad => nomatch bad) unguarded trivial (fun e raised => of_decide_eq_true raised)
    (fun _ => ⟨⟨same, rfl⟩, fun e bad => nomatch bad⟩) fun free => ⟨⟨same, unchanged⟩, fun e raised => ?_⟩
  exact ⟨(Except.error.inj raised).symm, free⟩

/-- The handler of `chat_completions` releases whatever the admitted part left. -/
theorem abandon_meets {l : Locals} {g : Slots} (counted : Counted G l g) (waiting : g.streaming = false) (e : Exc) :
    (do abandon; release_slots G; raise e : Handler Reply).Meets (slotProtocol Slots.orderly) l g (Replied G) := by
  refine (abandon_keeps still_blind (settle_step (Or.inl waiting))).bindMeets ⟨rfl, rfl⟩
    (fun e l' g' still expected => ?_) fun _ l' g' still => ?_
  · obtain ⟨_, rfl⟩ := still
    exact counted.ended expected.2
  · obtain ⟨same, rfl⟩ := still
    refine meets_bind.mpr ((release_slots_meets (counted.of_lease same)).mono fun r l'' g'' released => ?_)
    cases r with
    | ok u => exact released.1.ended
    | error e => exact released.1.ended

theorem chat_completions_meets (request_id : String) :
    (chat_completions G request_id).Meets (slotProtocol Slots.orderly) .initial .start (Replied G) := by
  have frame := @still_frame none .start rfl
  have raised : ∀ e l' g', Still none .start l' g' → CancelledFree .start e → Replied G (.error e) l' g' :=
    fun e l' g' still _ => ended_of_still start_ended still
  unfold chat_completions
  refine (frame.read_body (by decide)).bindMeets ⟨rfl, rfl⟩ raised fun payload l₁ g₁ still => ?_
  refine (frame.check_tenant G (by decide) _).bindMeets still raised fun key l₁ g₁ still => ?_
  refine (frame.step .reject_if_draining (by decide : Aside .tenant)).bindMeets still raised fun _ l₁ g₁ still => ?_
  obtain ⟨fresh, rfl⟩ := still
  refine meets_bind.mpr ((permit_meets (G := G) fresh).mono fun r l₂ g₂ taken => ?_)
  cases r with
  | error e => exact taken
  | ok u =>
      obtain ⟨fresh, rfl⟩ := taken
      rw [after_ok]
      refine meets_bind.mpr ((lease_meets fresh _).mono fun r l₃ g₃ entered => ?_)
      cases r with
      | error e => exact entered
      | ok u =>
          obtain ⟨counted, waiting, calm⟩ := entered
          rw [after_ok]
          refine meets_catching.mpr ((chat_completions_admitted_meets counted waiting calm request_id _ _).mono
            fun r l₄ g₄ ended => ?_)
          cases r with
          | ok reply => cases reply with
            | json content => exact ended
            | stream stream => exact ended
          | error e =>
              change if e = .cancelled then _ else _ at ended
              dsimp only
              by_cases cancelled : e = .cancelled
              · rw [if_pos cancelled] at ended
                subst cancelled
                rw [if_neg (by decide)]
                exact ended
              · rw [if_neg cancelled] at ended
                have exception : e.isException = true := decide_eq_true cancelled
                rw [if_pos exception]
                exact abandon_meets ended.1 ended.2 e

/-! The body of a stream. -/

/-- No settlement is left to make. -/
def Settled (l : Locals) : Prop := ∀ reservation ∈ l.reservation, reservation.settled = true

/-- What the body of a stream keeps until its slots are released. -/
def Streaming (lease : Option Lease) (g₀ : Slots) (l : Locals) (g : Slots) : Prop :=
  l.lease = lease ∧ (g = g₀ ∨ g = g₀.failed)

theorem failed_failed (g : Slots) : g.failed.failed = g.failed := by
  unfold Slots.failed
  simp only [Bool.or_assoc, Bool.or_self]

/-- One step of the finaliser: it answers and nothing changes, or the stream has failed. -/
theorem finalising {op : Op} (aside : Aside op.kind) {l : Locals} {g : Slots}
    {Q : Except Exc op.Res → Locals → Slots → Prop} (answered : ∀ a, Q (.ok a) l g)
    (raised : ∀ e, Q (.error e) l g.failed) : (call op).Meets (slotProtocol Slots.orderly) l g Q := by
  refine meets_perform.mpr ⟨aside_must aside, fun s answer _ _ => ?_⟩
  cases answer with
  | ok a =>
      change Q (.ok a) l (g.next op (.ok a))
      rw [(aside_next aside).1]
      exact answered a
  | error e =>
      change Q (.error e) l (g.next op (.error e))
      rw [(aside_next aside).2]
      exact raised e

/-- A part of the finaliser which leaves the locals alone. -/
def Unmoved {α : Type} (l : Locals) (g : Slots) (r : Except Exc α) (l' : Locals) (g' : Slots) : Prop :=
  l' = l ∧ g' = match r with
    | .ok _ => g
    | .error _ => g.failed

theorem unmoved_call {op : Op} (aside : Aside op.kind) {l : Locals} {g : Slots} :
    (call op).Meets (slotProtocol Slots.orderly) l g (Unmoved l g) :=
        finalising aside (fun _ => ⟨rfl, rfl⟩) fun _ => ⟨rfl, rfl⟩

theorem stream_cost_meets (stream : Stream) (usage : Option Entries) {l : Locals} {g : Slots} :
    (stream_cost G stream usage).Meets (slotProtocol Slots.orderly) l g (Unmoved l g) := by
  unfold stream_cost
  cases usage with
  | none => exact ⟨rfl, rfl⟩
  | some usage =>
      cases G.target stream.selected_model with
      | none => exact ⟨rfl, rfl⟩
      | some target =>
          refine unmoved_call ?_
          exact (by decide : Aside .cost)

theorem reconcile_quota_meets (quota_reservation : Bool) (usage : Value) (spend_usd : Option Double) {l : Locals}
    {g : Slots} : (reconcile_quota quota_reservation usage spend_usd).Meets (slotProtocol Slots.orderly) l g
      (Unmoved l g) := by
  cases usage with
  | dict entries =>
      refine meets_when.mpr ?_
      split
      · refine unmoved_call ?_
        exact (by decide : Aside .quota)
      · exact ⟨rfl, rfl⟩
  | _ => exact ⟨rfl, rfl⟩

/-- The finaliser's settlement leaves nothing to settle, however it ends. -/
theorem settle_once_settles (how : Settlement) {l : Locals} {g : Slots} :
    (settle_once how).Meets (slotProtocol Slots.orderly) l g fun _ l' g' =>
      Streaming l.lease g l' g' ∧ Settled l' := by
  refine meets_bind.mpr (meets_locals.mpr ?_)
  rw [after_ok]
  cases present : l.reservation with
  | none => exact ⟨⟨rfl, Or.inl rfl⟩, fun reservation member => absurd (present ▸ member) (Option.not_mem_none _)⟩
  | some reservation =>
      dsimp only
      by_cases settled : reservation.settled = true
      · rw [if_pos settled]
        refine ⟨⟨rfl, Or.inl rfl⟩, fun other member => ?_⟩
        rw [present] at member
        cases member
        exact settled
      · rw [if_neg settled]
        obtain ⟨micros, known⟩ := how.actual_micros_ok reservation.reserved_micros
        have marked : Settled { l with reservation := some { reservation with settled := true } } := by
          intro other member
          cases member
          rfl
        refine meets_bind.mpr (meets_change.mpr (after_ok.mpr (meets_bind.mpr (meets_lift.mpr ?_))))
        rw [known, after_ok]
        refine finalising ?_ (fun _ => ⟨⟨rfl, Or.inl rfl⟩, marked⟩) fun _ => ⟨⟨rfl, Or.inr rfl⟩, marked⟩
        exact (by decide : Aside .settle)

theorem settle_once_settled (how : Settlement) {l : Locals} {g : Slots} (settled : Settled l)
    {Q : Except Exc Unit → Locals → Slots → Prop} (done : Q (.ok ()) l g) :
    (settle_once how).Meets (slotProtocol Slots.orderly) l g Q := by
  refine meets_bind.mpr (meets_locals.mpr ?_)
  rw [after_ok]
  cases present : l.reservation with
  | none => exact done
  | some reservation =>
      dsimp only
      rw [if_pos (settled reservation present)]
      exact done

/-- The end of a stream's bookkeeping: it has failed, or the reservation is settled. -/
def BookedOut (lease : Option Lease) (g₀ : Slots) (l : Locals) (g : Slots) : Prop :=
  Streaming lease g₀ l g ∧ (g.failing = true ∨ Settled l)

theorem settled_frame {lease : Option Lease} {g₀ : Slots} :
    Frame (slotProtocol Slots.orderly) (fun l g => Streaming lease g₀ l g ∧ Settled l) (fun _ => True) Aside where
  step op aside := by
    intro l g kept
    refine finalising aside (fun _ => ⟨kept, fun _ _ => trivial⟩) fun e =>
        ⟨⟨⟨kept.1.1, ?_⟩, kept.2⟩, fun _ _ => trivial⟩
    rcases kept.1.2 with rfl | rfl
    · exact Or.inr rfl
    · exact Or.inr (failed_failed g₀)
  expected _ _ := trivial
  model _ _ _ kept := kept

/-- A step of the bookkeeping before the settlement: a failure ends it, and the next step follows. -/
theorem booking {α β : Type} {m : Handler α} {f : α → Handler β} {l : Locals} {g : Slots}
    (streaming : g.streaming = true) (first : m.Meets (slotProtocol Slots.orderly) l g (Unmoved l g))
    (rest : ∀ a, (f a).Meets (slotProtocol Slots.orderly) l g fun _ => BookedOut l.lease g) :
    (m >>= f).Meets (slotProtocol Slots.orderly) l g fun _ => BookedOut l.lease g := by
  refine meets_bind.mpr (first.mono fun r l' g' moved => ?_)
  obtain ⟨rfl, rfl⟩ := moved
  cases r with
  | ok a => exact rest a
  | error e =>
      refine ⟨⟨rfl, Or.inr rfl⟩, Or.inl ?_⟩
      change (g.failing || g.streaming) = true
      rw [streaming, Bool.or_true]

theorem book_stream_meets (stream : Stream) (observed : StreamObservation) {l : Locals} {g : Slots}
    (streaming : g.streaming = true) : (book_stream G stream observed).Meets (slotProtocol Slots.orderly) l g
      fun _ => BookedOut l.lease g := by
  have frame := @settled_frame l.lease g
  refine booking streaming (unmoved_call ?_) fun _ => ?_
  · exact (by decide : Aside .traffic)
  refine booking streaming (stream_cost_meets stream observed.usage) fun spend_usd => ?_
  refine booking streaming (reconcile_quota_meets _ _ _) fun _ => ?_
  refine meets_bind.mpr ((settle_once_settles _).mono fun r l₁ g₁ settled => ?_)
  have booked : ∀ l' g', Streaming l.lease g l' g' ∧ Settled l' → BookedOut l.lease g l' g' :=
    fun l' g' h => ⟨h.1, Or.inr h.2⟩
  cases r with
  | error e => exact booked _ _ settled
  | ok u =>
      rw [after_ok]
      refine (frame.step (.routing_signal _) (by decide : Aside .health)).bindMeets settled
        (fun _ l' g' kept _ => booked l' g' kept) fun _ l₂ g₂ settled => ?_
      refine (frame.step (.record_decision _ _) (by decide : Aside .record)).bindMeets settled
        (fun _ l' g' kept _ => booked l' g' kept) fun _ l₃ g₃ settled => ?_
      refine Keeps.meets (Keeps.when fun _ => frame.step (.emit _) (by decide : Aside .record)) settled
        fun _ l' g' kept _ => booked l' g' kept

theorem counted_failed {l : Locals} {g : Slots} (counted : Counted G l g) : Counted G l g.failed :=
  ⟨counted.acquired, counted.released, counted.leased, counted.lease⟩

/-- The last part of the finaliser settles what is left, and releases the slots. -/
theorem close_stream_meets {l l' : Locals} {g g' : Slots} (counted : Counted G l g)
    (booked : BookedOut l.lease g l' g') :
    (close_stream G).Meets (slotProtocol Slots.orderly) l' g' fun _ _ g'' => Ended g'' := by
  obtain ⟨⟨same, history⟩, left⟩ := booked
  have counted' : Counted G l' g' := by
    rcases history with rfl | rfl
    · exact counted.of_lease same
    · exact (counted_failed counted).of_lease same
  rcases left with failing | settled
  · refine (settle_once_keeps still_blind (settle_step (Or.inr failing) _)).bindMeets
        (R := Still l'.lease g') ⟨rfl, rfl⟩
      (fun e l₁ g₁ still expected => ?_) fun _ l₁ g₁ still => ?_
    · obtain ⟨_, rfl⟩ := still
      exact counted'.ended expected.2
    · obtain ⟨same, rfl⟩ := still
      exact (release_slots_meets (counted'.of_lease same)).mono fun _ _ _ released => released.1.ended
  · refine meets_bind.mpr (settle_once_settled _ settled ?_)
    exact (release_slots_meets counted').mono fun _ _ _ released => released.1.ended

theorem finalize_stream_meets (stream : Stream) (observed : StreamObservation) {l : Locals} {g : Slots}
    (counted : Counted G l g) (streaming : g.streaming = true) :
    (finalize_stream G stream observed).Meets (slotProtocol Slots.orderly) l g fun _ _ g' => Ended g' := by
  refine meets_finishing.mpr ((book_stream_meets stream observed streaming).mono fun r l₁ g₁ booked => ?_)
  refine (close_stream_meets counted booked).mono fun r' l₂ g₂ ended => ?_
  cases r' with
  | ok u => exact ended
  | error e => exact ended

theorem observe_upstream_stream_meets (stream : Stream) {l : Locals} {g : Slots} (counted : Counted G l g)
    (streaming : g.streaming = true) : (observe_upstream_stream G stream).Meets (slotProtocol Slots.orderly) l g
      fun _ _ g' => Ended g' := by
  refine meets_bind.mpr (meets_perform.mpr ⟨trivial, fun s answer _ may => ?_⟩)
  cases answer with
  | error e => exact absurd (possible_error may.1) (fun bad => nomatch bad)
  | ok relay =>
      rw [after_ok]
      refine meets_bind.mpr (meets_finishing.mpr ((finalize_stream_meets stream _ counted streaming).mono
        fun r l₁ g₁ ended => ?_))
      refine finalising ?_ (fun _ => ?_) fun _ => ?_
      · exact (by decide : Aside .stream)
      · cases r with
        | error e => exact ended
        | ok u =>
            cases relay.error with
            | none => exact ended
            | some e => exact ended
      · exact ended

theorem serve_meets (request_id : String) : (serve G request_id).Meets (slotProtocol Slots.orderly) .initial .start
    fun _ _ g => Ended g := by
  refine meets_bind.mpr ((chat_completions_meets request_id).mono fun r l g replied => ?_)
  cases r with
  | error e => exact replied
  | ok reply =>
      cases reply with
      | json content => exact replied
      | stream stream =>
          obtain ⟨counted, waiting, calm⟩ := replied
          rw [after_ok]
          refine meets_bind.mpr (meets_perform.mpr ⟨trivial, fun s answer _ may => ?_⟩)
          cases answer with
          | error e => exact absurd (possible_error may.1) (fun bad => nomatch bad)
          | ok started =>
              rw [after_ok]
              cases started with
              | false => exact counted.ended (of_decide_eq_true may.2)
              | true =>
                  exact observe_upstream_stream_meets stream
                    ⟨counted.acquired, counted.released, counted.leased, counted.lease⟩ rfl

/-! All requests together. -/

/-- The requests a gateway serves. -/
def requests (G : Gateway) (program : Prog Op Op.Ans (Except Exc Unit × Locals)) : Prop :=
  ∃ request_id, program = serve G request_id .initial

abbrev ChatPool (H : Type) := Pool Shared Op Op.Ans (Except Exc Unit × Locals) H

def Shared.initial (limits : AdmissionLimits) : Shared := ⟨.initial limits, .initial⟩

/-- Every ended request has given back what it took, and the permits add up. -/
def ReleasedOnce (limits : AdmissionLimits) (p : ChatPool Slots) : Prop :=
  p.shared.admission.sem + p.tasks.countP (fun t => decide t.history.Holding) = max 1 limits.max_inflight ∧
    ∀ t ∈ p.tasks, t.Ended → (t.history.acquired ≤ 1 ∧ t.history.released = t.history.acquired) ∧
      t.history.leased ≤ 1 ∧ t.history.returned = t.history.leased

/-- The slots of orderly runs are released exactly once. -/
theorem slots_released_once (G : Gateway) (limits : AdmissionLimits) (config : BreakerConfig) {p : ChatPool Slots}
    (reached : Reach (exec limits config) (slotProtocol Slots.orderly) (requests G) (.initial limits) p) :
    ReleasedOnce limits p := by
  have begin_ : ∀ program, requests G program →
      Safe (slotProtocol Slots.orderly) program (slotProtocol Slots.orderly).start fun _ g => Ended g := by
    intro program request
    obtain ⟨request_id, rfl⟩ := request
    exact serve_meets request_id
  have stable : Stable (exec limits config) (slotProtocol Slots.orderly) := fun _ _ _ _ _ _ _ _ _ _ => trivial
  obtain ⟨_, safe⟩ := reached.safe trivial stable begin_
  have permits := reached.linked (J := PermitsAddUp limits) trivial stable begin_
    (permits_start limits .initial) permits_fresh
    fun _ _ _ _ _ _ _ _ _ owed may done kept => permits_next owed may.1 done kept
  refine ⟨?_, fun t member ended => ?_⟩
  · have total := permits.1
    rw [List.countP_map] at total
    exact total
  · obtain ⟨a, finished⟩ := ended
    have final := safe t member
    rw [finished] at final
    obtain ⟨⟨released, returned⟩, acquired, leased⟩ := final
    exact ⟨⟨acquired, released⟩, leased, returned⟩

/-! Runs of one request. -/

def freeTarget : ModelTarget := ⟨"http://m", 0, 0, le_refl 0, le_refl 0⟩

/-- A gateway with one model and no routes, which only admits. -/
def plainGateway : Gateway where
  text := asciiText
  sha256 _ := 0
  model_targets := [("m", freeTarget)]
  model_routes := []
  has_global_admission := true
  has_admission := true
  has_circuit_breaker := false
  has_retry_budget := false
  has_tenant_store := false
  has_runtime_config := false
  has_usage_events := false
  governance_active := false
  response_evaluation := false
  embed_routing_metadata := false
  route_targets_exist _ member := absurd member List.not_mem_nil

/-- Every step succeeds; the model answers with the given body. -/
def obliging (stream : Bool) (content : Value) : (op : Op) → op.Ans
  | .request_json => .ok (.dict [(.str "model", .str "m"), (.str "stream", .bool stream)])
  | .route_allowed _ | .model_allowed _ | .meets_score _ _ | .allow _ | .consume | .start_body => .ok true
  | .acquire_lease _ => .ok .local_
  | .estimated_spend _ _ _ => .ok (.finite .zero)
  | .reserve_inference_budget _ _ _ => .ok none
  | .routing_signal _ => .ok ⟨100, none, none⟩
  | .post _ => .ok ⟨200, some content⟩
  | .send _ => .ok 200
  | .request_cost .none _ => .ok none
  | .request_cost _ _ => .ok (some (.finite .zero))
  | .relay => .ok ⟨[], none⟩
  | .resolve_tenant_id | .load_tenant_policy_bundle | .reject_if_draining | .global_enqueue | .semaphore_acquire
  | .global_dequeue _ | .semaphore_release | .global_leave | .lease_semaphore_release | .lease_evict | .lease_leave
  | .lease_count | .mark_executed | .settle _ _ | .reserve_request _ _ _ | .refund_reservation
  | .reconcile_usage _ _ | .enforce_governance | .observe_policy | .record_success _ | .record_failure _
  | .build_request _ | .aclose | .record_request _ _ _ | .schedule_shadow_traffic _ | .record_decision _ _
  | .submit_evaluation | .emit _ | .streaming_response | .json_response _ => .ok ()

/-- What a request alone does to the admission controller and to its own slots. -/
def aloneSlots (condition : Condition Slots) (limits : AdmissionLimits) (config : BreakerConfig)
    (answer : (op : Op) → op.Ans) : Option (GlobalAdmission × Slots) :=
  (drive (exec limits config) (slotProtocol condition) 0 (.initial limits) .start
    ((serve plainGateway "r" .initial).play answer).1).map fun r => (r.1.admission, r.2)

/-- What a request alone leaves behind is a reachable pool. -/
theorem alone_reached {condition : Condition Slots} {limits : AdmissionLimits} {config : BreakerConfig}
    {answer : (op : Op) → op.Ans} {a : GlobalAdmission} {g : Slots}
    (driven : aloneSlots condition limits config answer = some (a, g)) :
    ∃ s : Shared, s.admission = a ∧ Reach (exec limits config) (slotProtocol condition) (requests plainGateway)
      (.initial limits) ⟨s, [⟨.ret ((serve plainGateway "r" .initial).play answer).2, g⟩]⟩ := by
  obtain ⟨⟨s, g'⟩, run, same⟩ := Option.map_eq_some_iff.mp driven
  obtain ⟨rfl, rfl⟩ := Prod.mk.inj same
  exact ⟨s, rfl, Reach.alone ⟨"r", rfl⟩ answer run⟩

theorem slots_released_once_json : ∃ s : Shared,
    ReleasedOnce ⟨1, 1⟩ ⟨s, [⟨.ret ((serve plainGateway "r" .initial).play (obliging false (.dict []))).2,
      ⟨1, 1, 1, 1, false, false⟩⟩]⟩ := by
  have driven : aloneSlots Slots.orderly ⟨1, 1⟩ ⟨5, 30, 1⟩ (obliging false (.dict [])) =
      some (⟨1, 0, 0⟩, ⟨1, 1, 1, 1, false, false⟩) := by decide +kernel
  obtain ⟨s, _, reached⟩ := alone_reached driven
  exact ⟨s, slots_released_once plainGateway ⟨1, 1⟩ ⟨5, 30, 1⟩ reached⟩

/-- The model's reply carries a NaN, which the JSON response rejects. -/
def rejectedReply : (op : Op) → op.Ans
  | .json_response _ => .error .raised
  | op => obliging false (.dict [(.str "logprob", .float .nan)]) op

/-- The request is cancelled while it waits for its lease. -/
def cancelledWait : (op : Op) → op.Ans
  | .acquire_lease _ => .error .cancelled
  | op => obliging false (.dict []) op

/-- The client goes away before the server starts the body of the stream. -/
def unstartedBody : (op : Op) → op.Ans
  | .start_body => .ok false
  | op => obliging true (.dict []) op

/-- A rejected reply releases the permit twice, so that there are two; a cancellation and a stream
which is never started keep it for ever. -/
theorem slots_leak_and_grow :
    (∃ p : ChatPool Slots, Reach (exec ⟨1, 1⟩ ⟨5, 30, 1⟩) (slotProtocol fun _ _ _ => true) (requests plainGateway)
        (.initial ⟨1, 1⟩) p ∧ ¬ ReleasedOnce ⟨1, 1⟩ p ∧ p.shared.admission.sem = 2) ∧
    ∀ answer ∈ [cancelledWait, unstartedBody], ∃ p : ChatPool Slots,
      Reach (exec ⟨1, 1⟩ ⟨5, 30, 1⟩) (slotProtocol fun _ _ _ => true) (requests plainGateway) (.initial ⟨1, 1⟩) p ∧
        ¬ ReleasedOnce ⟨1, 1⟩ p ∧ p.shared.admission.sem = 0 ∧ ∀ t ∈ p.tasks, t.Ended := by
  have refuted : ∀ {s : Shared} {r : Except Exc Unit × Locals} {g : Slots}, g.released ≠ g.acquired →
      ¬ ReleasedOnce ⟨1, 1⟩ ⟨s, [⟨.ret r, g⟩]⟩ := by
    intro s r g differ once
    exact differ (once.2 _ List.mem_cons_self ⟨r, rfl⟩).1.2
  have ended : ∀ {r : Except Exc Unit × Locals} {g : Slots}, ∀ t ∈ [(⟨.ret r, g⟩ : Task Op Op.Ans _ Slots)],
      t.Ended := by
    intro r g t member
    rw [List.mem_singleton.mp member]
    exact ⟨r, rfl⟩
  refine ⟨?_, fun answer listed => ?_⟩
  · have driven : aloneSlots (fun _ _ _ => true) ⟨1, 1⟩ ⟨5, 30, 1⟩ rejectedReply =
        some (⟨2, 0, 0⟩, ⟨1, 2, 1, 1, false, false⟩) := by decide +kernel
    obtain ⟨s, sem, reached⟩ := alone_reached driven
    exact ⟨_, reached, refuted (by decide), by rw [sem]⟩
  · simp only [List.mem_cons, List.not_mem_nil, or_false] at listed
    rcases listed with rfl | rfl
    · have driven : aloneSlots (fun _ _ _ => true) ⟨1, 1⟩ ⟨5, 30, 1⟩ cancelledWait =
          some (⟨0, 0, 1⟩, ⟨1, 0, 0, 0, false, false⟩) := by decide +kernel
      obtain ⟨s, sem, reached⟩ := alone_reached driven
      exact ⟨_, reached, refuted (by decide), by rw [sem], ended⟩
    · have driven : aloneSlots (fun _ _ _ => true) ⟨1, 1⟩ ⟨5, 30, 1⟩ unstartedBody =
          some (⟨0, 0, 1⟩, ⟨1, 0, 1, 0, false, false⟩) := by decide +kernel
      obtain ⟨s, sem, reached⟩ := alone_reached driven
      exact ⟨_, reached, refuted (by decide), by rw [sem], ended⟩

end RuntimePlatform.Chat
