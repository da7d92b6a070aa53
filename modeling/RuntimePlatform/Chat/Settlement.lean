import RuntimePlatform.Chat.Probes

/-!
The settlement of the budget reservation of one request without a stream, against the
documented table. The history of the request lists how its attempts ended, and what was
booked.
-/

namespace RuntimePlatform.Chat
open Python Coroutine Coroutine.Session

/-- How an attempt ended. -/
inductive AttemptOutcome where
  | circuitRejected
  | retryExhausted
  | connectFailed
  | statusError
  | mayHaveRun
  | answered
  deriving DecidableEq, Repr

namespace AttemptOutcome

/-- The model may have been reached and run. -/
def mayRun : AttemptOutcome → Bool
  | mayHaveRun | answered => true
  | _ => false

/-- A backend was called. -/
def called : AttemptOutcome → Bool
  | circuitRejected | retryExhausted => false
  | _ => true

/-- The backend was called and did not run the model. -/
def refused (o : AttemptOutcome) : Bool := o.called && !o.mayRun

def ofPost : Except Exc Response → AttemptOutcome
  | .ok response => if 200 ≤ response.status_code ∧ response.status_code < 300 then answered else statusError
  | .error (.http .connect) => connectFailed
  | .error (.http (.status _)) => statusError
  | .error _ => mayHaveRun

end AttemptOutcome

structure Booking where
  /-- What the guard answered when it was asked for a reservation. -/
  asked : Option (Option ℤ)
  executed : Bool
  outcomes : List AttemptOutcome
  /-- The health record of the outcome was written. -/
  recorded : Bool
  /-- A price of the usage is known. -/
  priced : Bool
  /-- The settlements at the guard: whether it was a refund, and the micro-dollars. -/
  settlements : List (Bool × ℤ)
  deriving DecidableEq, Repr

namespace Booking

def start : Booking := ⟨none, false, [], false, false, []⟩

def attempted (g : Booking) (outcome : AttemptOutcome) : Booking := { g with outcomes := g.outcomes ++ [outcome] }

/-- Selecting a backend asks the breaker too; only what comes after `mark_executed` is an attempt. -/
def next (g : Booking) : (op : Op) → op.Ans → Booking
  | .reserve_inference_budget _ _ _, .ok reserved => { g with asked := g.asked.or (some reserved) }
  | .mark_executed, _ => { g with executed := true }
  | .allow _, .ok false => if g.executed then g.attempted .circuitRejected else g
  | .consume, .ok false => g.attempted .retryExhausted
  | .post _, answer => g.attempted (.ofPost answer)
  | .record_request _ _ _, .ok _ => { g with recorded := true }
  | .request_cost _ _, .ok (some _) => { g with priced := true }
  | .settle how micros, .ok _ => { g with settlements := g.settlements ++ [(how.isRelease, micros)] }
  | _, _ => g

/-- The table: settled once; refunded only if no attempt may have run, and whenever no backend was
called; charged at least the estimate when an attempt may have run and no usage is known. -/
def FollowsTable (g : Booking) (reserved_micros : ℤ) : Prop :=
  ∃ refunded micros, g.settlements = [(refunded, micros)] ∧
    (refunded = true → micros = 0 ∧ ∀ o ∈ g.outcomes, o.mayRun = false) ∧
    ((∀ o ∈ g.outcomes, o.called = false) → refunded = true) ∧
    ((∃ o ∈ g.outcomes, o.mayRun = true) → g.priced = false → reserved_micros ≤ micros)

/-- The last attempt was refused by its backend, and this was recorded. -/
def Refused (g : Booking) : Prop := (∃ o ∈ g.outcomes.getLast?, o.refused = true) ∧ g.recorded = true

/-- Where the request has gone as far as its attempts a backend was called; and none may have run
before a last one which was refused. -/
def Clear (g : Booking) : Prop :=
  (g.executed = true → ∃ o ∈ g.outcomes, o.called = true) ∧ (g.Refused → ∀ o ∈ g.outcomes, o.mayRun = false)

/-- What every request does. -/
def Booked (g : Booking) (reserved_micros : ℤ) : Prop :=
  ∃ refunded micros, g.settlements = [(refunded, micros)] ∧
    (refunded = true ↔ g.executed = false ∨ g.Refused) ∧ (refunded = true → micros = 0) ∧
    (refunded = false → g.priced = false → micros = reserved_micros) ∧ (g.executed = false → g.outcomes = [])

theorem followsTable_iff {g : Booking} {reserved_micros : ℤ} (booked : g.Booked reserved_micros) :
    g.FollowsTable reserved_micros ↔ g.Clear := by
  obtain ⟨refunded, micros, once, refunds, zero, estimate, early⟩ := booked
  constructor
  · intro follows
    obtain ⟨_, _, same, only, whenever, _⟩ := follows
    rw [once] at same
    cases same
    refine ⟨fun executed => ?_, fun refused => (only (refunds.mpr (Or.inr refused))).2⟩
    by_contra none
    have uncalled : ∀ o ∈ g.outcomes, o.called = false := fun o member =>
      Bool.eq_false_iff.mpr fun called => none ⟨o, member, called⟩
    rcases refunds.mp (whenever uncalled) with unexecuted | ⟨⟨o, last, refused⟩, _⟩
    · rw [executed] at unexecuted
      cases unexecuted
    · obtain ⟨called, _⟩ := Bool.and_eq_true_iff.mp refused
      rw [uncalled o (List.mem_of_getLast? last)] at called
      cases called
  · intro clear
    refine ⟨refunded, micros, once, fun refund => ⟨zero refund, ?_⟩, fun uncalled => ?_, fun ran unpriced => ?_⟩
    · rcases refunds.mp refund with unexecuted | refused
      · rw [early unexecuted]
        exact fun o member => absurd member List.not_mem_nil
      · exact clear.2 refused
    · refine refunds.mpr (Or.inl (Bool.eq_false_iff.mpr fun executed => ?_))
      obtain ⟨o, member, called⟩ := clear.1 executed
      rw [uncalled o member] at called
      cases called
    · cases refund : refunded with
      | false => exact (estimate refund unpriced).ge
      | true =>
          obtain ⟨o, member, ran⟩ := ran
          rcases refunds.mp refund with unexecuted | refused
          · rw [early unexecuted] at member
            exact absurd member List.not_mem_nil
          · rw [clear.2 refused o member] at ran
            cases ran

end Booking

/-- A request body which asks for no stream. -/
def unstreamed : (op : Op) → op.Ans → Bool
  | .request_json, .ok (.dict payload) => !(Entries.orNone payload "stream").truthy
  | _, _ => true

/-- One request without a stream which nobody cancels. -/
def bookProtocol : Protocol Unit Op Op.Ans Booking where
  start := .start
  next _ := Booking.next
  known _ := True
  must _ _ := True
  may _ _ op answer := op.possible answer = true ∧ (∀ e, answer = .error e → e ≠ .cancelled) ∧
    unstreamed op answer = true

/-- Every exception but a cancellation. -/
def Uncancelled (e : Exc) : Prop := e ≠ .cancelled

namespace Booking
variable {G : Gateway} {m : ℤ} {l : Locals} {g : Booking} {op : Op} {answer : op.Ans}

theorem uncancelled_isException {e : Exc} (known : Uncancelled e) : e.isException = true := decide_eq_true known

/-- Steps which the history does not list. -/
theorem unlisted_next (unlisted : op.kind ∉ [.reserve, .execute, .settle, .breaker, .retry, .post, .traffic, .cost]) :
    g.next op answer = g := by
  simp only [List.mem_cons, List.not_mem_nil, or_false, not_or] at unlisted
  obtain ⟨reserve, execute, settle, breaker, retry, post, traffic, cost⟩ := unlisted
  cases op with
  | reserve_inference_budget => exact absurd rfl reserve
  | mark_executed => exact absurd rfl execute
  | settle => exact absurd rfl settle
  | allow => exact absurd rfl breaker
  | consume => exact absurd rfl retry
  | post => exact absurd rfl post
  | record_request => exact absurd rfl traffic
  | request_cost => exact absurd rfl cost
  | _ => rfl

/-- An assertion which some kinds of steps keep. -/
theorem book_frame {R : Locals → Booking → Prop} {quiet : Kind → Prop}
    (kept : ∀ l g (op : Op) (answer : op.Ans), quiet op.kind → R l g → R l (g.next op answer))
    (model : ∀ l g model, R l g → R { l with model := model } g) : Frame bookProtocol R Uncancelled quiet where
  step op quietly := by
    refine keeps_perform fun l g holds => ⟨trivial, fun s answer _ may => ?_⟩
    exact ⟨kept l g op answer quietly holds, may.2.1⟩
  expected _ known := known
  model := model

/-! Without a reservation nothing is to be shown. -/

/-- The guard has not reserved anything. -/
def Unreserved (_ : Locals) (g : Booking) : Prop := g.asked = some none

theorem unreserved_frame : Frame bookProtocol Unreserved Uncancelled fun _ => True := by
  refine book_frame (fun l g op answer _ none => ?_) fun _ _ _ none => none
  unfold Unreserved at none ⊢
  unfold Booking.next
  split
  · rw [none]
    rfl
  · exact none
  · split
    · exact none
    · exact none
  all_goals exact none

theorem unreserved_dispatch (quota_reservation stream : Bool) (selection : Selection) :
    (dispatch G quota_reservation stream selection).Keeps bookProtocol Unreserved Uncancelled :=
  unreserved_frame.dispatch G (fun _ _ _ none => none) (fun _ _ _ none => none) (fun _ _ => trivial) trivial
    quota_reservation stream selection

/-! The reservation of a request. -/

/-- The reservation is not settled yet. -/
structure Held (m : ℤ) (executed : Bool) (l : Locals) (g : Booking) : Prop where
  reservation : l.reservation = some ⟨m, executed, false⟩
  asked : g.asked = some (some m)
  marked : g.executed = executed
  unsettled : g.settlements = []

/-- The reservation has been settled as it always is. -/
structure Settled (m : ℤ) (l : Locals) (g : Booking) : Prop where
  reservation : ∃ executed, l.reservation = some ⟨m, executed, true⟩
  asked : g.asked = some (some m)
  booked : g.Booked m

/-- Not settled yet, and such that the error path settles it rightly. -/
def Open (m : ℤ) (l : Locals) (g : Booking) : Prop :=
  ∃ executed, Held m executed l g ∧ ¬ g.Refused ∧ (executed = false → g.outcomes = [])

/-- What holds of a reservation wherever an exception leaves the handler. -/
def Ongoing (m : ℤ) (l : Locals) (g : Booking) : Prop := Open m l g ∨ Settled m l g

theorem settle_once_meets {executed : Bool} (how : Settlement) (held : Held m executed l g) :
    (settle_once how).Meets bookProtocol l g fun r l' g' => r = .ok () ∧
      ∃ micros, how.actual_micros m = .ok micros ∧ l'.reservation = some ⟨m, executed, true⟩ ∧
        g' = { g with settlements := [(how.isRelease, micros)] } := by
  unfold settle_once
  refine meets_bind.mpr (meets_locals.mpr (after_ok.mpr ?_))
  rw [held.reservation]
  refine meets_bind.mpr (meets_change.mpr (after_ok.mpr (meets_bind.mpr (meets_lift.mpr ?_))))
  obtain ⟨micros, converted⟩ := how.actual_micros_ok m
  rw [converted]
  refine after_ok.mpr (meets_perform.mpr ⟨trivial, fun s answer _ may => ?_⟩)
  cases answer with
  | ok u =>
      refine ⟨rfl, micros, rfl, rfl, ?_⟩
      change ({ g with settlements := g.settlements ++ _ } : Booking) = _
      rw [held.unsettled]
      rfl
  | error e => exact absurd (of_decide_eq_true may.1) (may.2.1 e rfl)

/-- A settlement which books what the table of the code says. -/
theorem settled_of {executed refunded : Bool} {micros : ℤ} {l' : Locals} (held : Held m executed l g)
    (reservation : l'.reservation = some ⟨m, executed, true⟩)
    (refunds : refunded = true ↔ g.executed = false ∨ g.Refused) (zero : refunded = true → micros = 0)
    (estimate : refunded = false → g.priced = false → micros = m) (early : executed = false → g.outcomes = []) :
    Settled m l' { g with settlements := [(refunded, micros)] } :=
  ⟨⟨executed, reservation⟩, held.asked,
    refunded, micros, rfl, refunds, zero, estimate, fun unexecuted => early (held.marked.symm.trans unexecuted)⟩

theorem release_budget_meets {executed : Bool} (held : Held m executed l g)
    (refund : executed = false ∨ g.Refused) (early : executed = false → g.outcomes = []) :
    release_budget.Meets bookProtocol l g fun r l' g' => r = .ok () ∧ Settled m l' g' := by
  refine (settle_once_meets .release held).mono fun r l' g' settled => ?_
  obtain ⟨rfl, micros, converted, reservation, rfl⟩ := settled
  refine ⟨rfl, settled_of held reservation ?_ (fun _ => (Except.ok.inj converted).symm) ?_ early⟩
  · rw [held.marked]
    exact iff_of_true rfl refund
  · intro bad
    cases bad

theorem settle_budget_meets (spend_usd : Option Double) (held : Held m true l g) (unrefused : ¬ g.Refused)
    (estimated : g.priced = false → spend_usd = none) :
    (settle_budget spend_usd).Meets bookProtocol l g fun r l' g' => r = .ok () ∧ Settled m l' g' := by
  refine (settle_once_meets (.settle spend_usd) held).mono fun r l' g' settled => ?_
  obtain ⟨rfl, micros, converted, reservation, rfl⟩ := settled
  refine ⟨rfl, settled_of held reservation ?_ ?_ (fun _ unpriced => ?_) (fun bad => nomatch bad)⟩
  · rw [held.marked]
    refine iff_of_false (fun bad => nomatch bad) fun either => ?_
    rcases either with bad | refused
    · cases bad
    · exact unrefused refused
  · intro bad
    cases bad
  · rw [estimated unpriced] at converted
    exact (Except.ok.inj converted).symm

/-- The error path settles what is still open. -/
theorem abandon_meets (ongoing : Ongoing m l g) :
    abandon.Meets bookProtocol l g fun r l' g' => r = .ok () ∧ Settled m l' g' := by
  unfold abandon
  refine meets_bind.mpr (meets_locals.mpr (after_ok.mpr ?_))
  rcases ongoing with ⟨executed, held, unrefused, early⟩ | settled
  · rw [held.reservation]
    cases executed with
    | true => exact settle_budget_meets none held unrefused fun _ => rfl
    | false => exact release_budget_meets held (Or.inl rfl) early
  · obtain ⟨executed, reservation⟩ := settled.reservation
    rw [reservation]
    have nothing : ∀ how, (settle_once how).Meets bookProtocol l g fun r l' g' => r = .ok () ∧ Settled m l' g' := by
      intro how
      unfold settle_once
      refine meets_bind.mpr (meets_locals.mpr (after_ok.mpr ?_))
      rw [reservation]
      exact ⟨rfl, settled⟩
    cases executed with
    | true => exact nothing _
    | false => exact nothing _

/-- Kinds of steps after which a settled reservation is as before. -/
def Later (kind : Kind) : Prop := kind ∈ [.quota, .health, .record, .reply, .lease, .global]

instance (kind : Kind) : Decidable (Later kind) := inferInstanceAs (Decidable (_ ∈ _))

theorem later_next (later : Later op.kind) : g.next op answer = g := by
  refine unlisted_next fun listed => ?_
  unfold Later at later
  generalize op.kind = kind at later listed
  revert later listed
  cases kind <;> decide

theorem settled_frame : Frame bookProtocol (Settled m) Uncancelled Later :=
  book_frame (fun _ _ _ _ later settled => by rw [later_next later]; exact settled)
    fun _ _ _ settled => ⟨settled.reservation, settled.asked, settled.booked⟩

theorem settled_blindLease (l : Locals) (g : Booking) (lease : Option Lease) (settled : Settled m l g) :
    Settled m { l with lease := lease } g := ⟨settled.reservation, settled.asked, settled.booked⟩

/-! The attempts. -/

/-- The last attempt was refused by its backend. -/
def LastRefused (g : Booking) : Prop := ∃ o ∈ g.outcomes.getLast?, o.refused = true

@[simp] theorem lastRefused_attempted (o : AttemptOutcome) : (g.attempted o).LastRefused ↔ o.refused = true := by
  unfold LastRefused attempted
  rw [List.getLast?_concat]
  simp only [Option.mem_def, Option.some.injEq, exists_eq_left']

/-- Attempts are going on. -/
structure Running (m : ℤ) (l : Locals) (g : Booking) : Prop where
  held : Held m true l g
  unrecorded : g.recorded = false

theorem Running.attempted (running : Running m l g) (o : AttemptOutcome) : Running m l (g.attempted o) :=
  ⟨⟨running.held.reservation, running.held.asked, running.held.marked, running.held.unsettled⟩, running.unrecorded⟩

theorem Running.ongoing (running : Running m l g) : Ongoing m l g := by
  refine Or.inl ⟨true, running.held, fun refused => ?_, fun bad => nomatch bad⟩
  exact Bool.false_ne_true (running.unrecorded.symm.trans refused.2)

theorem circuit_allows_meets (model : Model) (running : Running m l g) :
    (circuit_allows G model).Meets bookProtocol l g fun r l' g' => l' = l ∧
      ((r = .ok true ∧ g' = g) ∨ (r = .ok false ∧ g' = g.attempted .circuitRejected)) := by
  unfold circuit_allows
  by_cases has : G.has_circuit_breaker = true
  · rw [if_pos has]
    refine meets_perform.mpr ⟨trivial, fun s answer _ may => ⟨rfl, ?_⟩⟩
    cases answer with
    | error e => cases may.1
    | ok allowed =>
        cases allowed with
        | true => exact Or.inl ⟨rfl, rfl⟩
        | false =>
            refine Or.inr ⟨rfl, ?_⟩
            change (if g.executed then g.attempted .circuitRejected else g) = _
            rw [running.held.marked]
            rfl
  · rw [if_neg has]
    exact ⟨rfl, Or.inl ⟨rfl, rfl⟩⟩

theorem consume_retry_meets (fallback_used : Bool) :
    (consume_retry G fallback_used).Meets bookProtocol l g fun r l' g' => l' = l ∧
      ((r = .ok true ∧ g' = g) ∨ (r = .ok false ∧ g' = g.attempted .retryExhausted)) := by
  unfold consume_retry
  by_cases asked : (fallback_used && G.has_retry_budget) = true
  · rw [if_pos asked]
    refine meets_perform.mpr ⟨trivial, fun s answer _ may => ⟨rfl, ?_⟩⟩
    cases answer with
    | error e => exact absurd (of_decide_eq_true may.1) (may.2.1 e rfl)
    | ok retry =>
        cases retry with
        | true => exact Or.inl ⟨rfl, rfl⟩
        | false => exact Or.inr ⟨rfl, rfl⟩
  · rw [if_neg asked]
    exact ⟨rfl, Or.inl ⟨rfl, rfl⟩⟩

/-- How an outcome shows in what the attempt hands on. -/
def Shows (o : AttemptOutcome) (r : Except Exc α) : Prop :=
  (o.refused = true ↔ ∃ e, r = .error e ∧ refused e = true) ∧ ∀ e, r = .error e → Uncancelled e

theorem post_attempt_meets (model : String) :
    (post_attempt model).Meets bookProtocol l g fun r l' g' => l' = l ∧ ∃ o, g' = g.attempted o ∧ Shows o r := by
  refine meets_bind.mpr (meets_perform.mpr ⟨trivial, fun s answer _ may => ?_⟩)
  cases answer with
  | error e =>
      refine ⟨rfl, _, rfl, ?_, may.2.1⟩
      simp only [Except.error.injEq, exists_eq_left']
      cases e with
      | http error => cases error <;> exact Iff.rfl
      | _ => exact Iff.rfl
  | ok response =>
      refine after_ok.mpr (meets_bind.mpr (meets_lift.mpr ?_))
      change After bookProtocol _ _ _ l (g.attempted (if _ then _ else _))
      unfold raise_for_status
      by_cases accepted : 200 ≤ response.status_code ∧ response.status_code < 300
      · rw [if_pos accepted, if_pos accepted]
        refine ⟨rfl, _, rfl, iff_of_false Bool.false_ne_true fun raised => ?_, fun e raised => ?_⟩
        · obtain ⟨e, raised, _⟩ := raised
          cases raised
        · cases raised
      · rw [if_neg accepted, if_neg accepted]
        refine ⟨rfl, _, rfl, ⟨fun _ => ⟨_, rfl, rfl⟩, fun _ => rfl⟩, fun e same => ?_⟩
        cases same
        exact fun bad => nomatch bad

/-- A step which cannot fail and which the history does not list. -/
def Silent (l : Locals) (g : Booking) (r : Except Exc Unit) (l' : Locals) (g' : Booking) : Prop :=
  r = .ok () ∧ l' = l ∧ g' = g

theorem record_success_meets (model : String) : (call (.record_success model)).Meets bookProtocol l g (Silent l g) := by
  refine meets_perform.mpr ⟨trivial, fun s answer _ may => ?_⟩
  cases answer with
  | ok u => exact ⟨rfl, rfl, rfl⟩
  | error e => cases may.1

theorem record_failure_meets (model : String) : (call (.record_failure model)).Meets bookProtocol l g (Silent l g) := by
  refine meets_perform.mpr ⟨trivial, fun s answer _ may => ?_⟩
  cases answer with
  | ok u => exact ⟨rfl, rfl, rfl⟩
  | error e => cases may.1

theorem silent_then {step : Handler Unit} {rest : Handler α} {Q : Except Exc α → Locals → Booking → Prop}
    (silent : step.Meets bookProtocol l g (Silent l g)) (follows : rest.Meets bookProtocol l g Q) :
    (do when G.has_circuit_breaker step; rest).Meets bookProtocol l g Q := by
  refine meets_bind.mpr (Meets.mono (Q := Silent l g) ?_ fun r l' g' quiet => ?_)
  · refine meets_when.mpr ?_
    by_cases has : G.has_circuit_breaker = true
    · rw [if_pos has]
      exact silent
    · rw [if_neg has]
      exact ⟨rfl, rfl, rfl⟩
  · obtain ⟨rfl, rfl, rfl⟩ := quiet
    exact follows

/-- How the attempts end: a refused request is one whose last attempt was refused. -/
def Tried (m : ℤ) (r : Except Exc α) (l : Locals) (g : Booking) : Prop :=
  Running m l g ∧ (g.LastRefused ↔ ∃ e, r = .error e ∧ refused e = true) ∧ ∀ e, r = .error e → Uncancelled e

theorem tried_of {r : Except Exc α} {o : AttemptOutcome} (running : Running m l g) (shows_ : Shows o r) :
    Tried m r l (g.attempted o) := ⟨running.attempted o, lastRefused_attempted o |>.trans shows_.1, shows_.2⟩

/-- An attempt which reaches no backend ends the loop with a plain `RequestError`. -/
theorem shows_request {o : AttemptOutcome} (unrefused : o.refused = false) :
    Shows o (.error (.http .request) : Except Exc α) := by
  refine ⟨iff_of_false (Bool.eq_false_iff.mp unrefused) fun raised => ?_, fun e raised => ?_⟩
  · obtain ⟨e, raised, refused⟩ := raised
    cases raised
    cases refused
  · cases raised
    exact fun bad => nomatch bad

theorem attempts_meets (failed_models : List String) {listed : List (String × Bool)} (some_ : listed ≠ [])
    (running : Running m l g) :
    (attempts G failed_models listed).Meets bookProtocol l g (Tried m) := by
  induction listed generalizing failed_models l g with
  | nil => exact absurd rfl some_
  | cons first rest ih =>
      obtain ⟨model, fallback_used⟩ := first
      have later : ∀ failed_models l' g', ¬ rest.isEmpty = true → Running m l' g' →
          (attempts G failed_models rest).Meets bookProtocol l' g' (Tried m) :=
        fun failed_models l' g' more running => ih failed_models (fun none => more (List.isEmpty_iff.mpr none)) running
      refine meets_bind.mpr ((circuit_allows_meets (some model) running).mono fun r l₁ g₁ allowed => ?_)
      obtain ⟨rfl, ⟨rfl, rfl⟩ | ⟨rfl, rfl⟩⟩ := allowed
      · refine after_ok.mpr (meets_bind.mpr ((consume_retry_meets fallback_used).mono fun r l₂ g₂ retried => ?_))
        obtain ⟨rfl, ⟨rfl, rfl⟩ | ⟨rfl, rfl⟩⟩ := retried
        · refine after_ok.mpr (meets_bind.mpr (meets_attempt.mpr ((post_attempt_meets model).mono
            fun r l₃ g₃ posted => ?_)))
          obtain ⟨rfl, o, rfl, shows_⟩ := posted
          rw [after_ok]
          cases r with
          | ok response =>
              refine silent_then (record_success_meets model) (tried_of running ⟨shows_.1.trans ?_, fun _ bad => ?_⟩)
              · exact iff_of_false (fun bad => nomatch bad.choose_spec.1) fun bad => nomatch bad.choose_spec.1
              · cases bad
          | error e =>
              cases e with
              | http error =>
                  refine silent_then (record_failure_meets model) ?_
                  by_cases last : (rest.isEmpty || !retryable error) = true
                  · rw [if_pos last]
                    exact tried_of running ⟨shows_.1.trans (by simp only [Except.error.injEq]), by simpa using shows_.2⟩
                  · rw [if_neg last]
                    exact later _ _ _ (fun none => last (by rw [none]; rfl)) (running.attempted o)
              | _ =>
                  exact tried_of running
                    ⟨shows_.1.trans (by simp only [Except.error.injEq]), by simpa using shows_.2⟩
        · exact tried_of running (shows_request rfl)
      · rw [after_ok, if_neg Bool.false_ne_true]
        by_cases last : rest.isEmpty = true
        · rw [if_pos last]
          exact tried_of running (shows_request rfl)
        · rw [if_neg last]
          exact later _ _ _ last (running.attempted _)

/-! After the attempts. -/

/-- A model has answered, and the reservation is still to be settled. -/
structure Answered (m : ℤ) (l : Locals) (g : Booking) : Prop where
  held : Held m true l g
  unrefused : ¬ g.LastRefused

theorem Answered.ongoing (answered : Answered m l g) : Ongoing m l g :=
  Or.inl ⟨true, answered.held, fun refused => answered.unrefused refused.1, fun bad => nomatch bad⟩

/-- Steps which leave the reservation and the outcomes alone. -/
theorem answered_next (quiet : op.kind ∉ [.reserve, .execute, .settle, .breaker, .retry, .post])
    (answered : Answered m l g) : Answered m l (g.next op answer) := by
  have same : (g.next op answer).asked = g.asked ∧ (g.next op answer).executed = g.executed ∧
      (g.next op answer).settlements = g.settlements ∧ (g.next op answer).outcomes = g.outcomes := by
    simp only [List.mem_cons, List.not_mem_nil, or_false, not_or] at quiet
    obtain ⟨reserve, execute, settle, breaker, retry, post⟩ := quiet
    unfold Booking.next
    split
    · exact absurd rfl reserve
    · exact absurd rfl execute
    · exact absurd rfl breaker
    · exact absurd rfl retry
    · exact absurd rfl post
    · exact ⟨rfl, rfl, rfl, rfl⟩
    · exact ⟨rfl, rfl, rfl, rfl⟩
    · exact absurd rfl settle
    · exact ⟨rfl, rfl, rfl, rfl⟩
  obtain ⟨asked, executed, settlements, outcomes⟩ := same
  refine ⟨⟨answered.held.reservation, asked.trans answered.held.asked, executed.trans answered.held.marked,
    settlements.trans answered.held.unsettled⟩, ?_⟩
  unfold LastRefused
  rw [outcomes]
  exact answered.unrefused

theorem answered_frame : Frame bookProtocol (Answered m) Uncancelled
    fun kind => kind ∉ [.reserve, .execute, .settle, .breaker, .retry, .post] :=
  book_frame (fun _ _ _ _ quiet answered => answered_next quiet answered)
    fun _ _ _ answered => ⟨⟨answered.held.reservation, answered.held.asked, answered.held.marked,
      answered.held.unsettled⟩, answered.unrefused⟩

/-- A health record raises no exception of `httpx`. -/
theorem record_request_keeps (model : String) (success fallback_used : Bool) :
    (call (.record_request model success fallback_used)).Keeps bookProtocol (Answered m)
      fun e => Uncancelled e ∧ e.isHttp = false := by
  refine keeps_perform fun l g answered => ⟨trivial, fun s answer _ may => ⟨?_, fun e same => ?_⟩⟩
  · exact answered_next (by decide : Kind.traffic ∉ _) answered
  · subst same
    refine ⟨may.2.1 e rfl, ?_⟩
    cases e with
    | http error => cases may.1
    | _ => rfl

theorem record_failed_keeps (failed_models : List String) : (record_failed failed_models).Keeps bookProtocol
    (Answered m) fun e => Uncancelled e ∧ e.isHttp = false := by
  induction failed_models with
  | nil => exact keeps_result
  | cons model rest ih => exact (record_request_keeps model false false).bind fun _ => ih

/-- Nothing has been attempted. -/
structure Before (m : ℤ) (l : Locals) (g : Booking) : Prop where
  held : Held m false l g
  unattempted : g.outcomes = []
  unrecorded : g.recorded = false

theorem Before.ongoing (before : Before m l g) : Ongoing m l g := by
  refine Or.inl ⟨false, before.held, fun refused => ?_, fun _ => before.unattempted⟩
  exact Bool.false_ne_true (before.unrecorded.symm.trans refused.2)

theorem mark_executed_meets (before : Before m l g) :
    mark_executed.Meets bookProtocol l g fun r l' g' => r = .ok () ∧ Running m l' g' := by
  unfold mark_executed
  refine meets_bind.mpr (meets_locals.mpr (after_ok.mpr ?_))
  rw [before.held.reservation]
  refine meets_bind.mpr (meets_change.mpr (after_ok.mpr (meets_perform.mpr ⟨trivial, fun s answer _ may => ?_⟩)))
  cases answer with
  | ok u => exact ⟨rfl, ⟨rfl, before.held.asked, rfl, before.held.unsettled⟩, before.unrecorded⟩
  | error e => cases may.1

/-- How forwarding ends: with an answer, with an exception of the attempts, or with one of the records. -/
def Forwarded (m : ℤ) : Except Exc Upstream → Locals → Booking → Prop
  | .ok (.answered _), l, g => Answered m l g
  | .ok (.streaming _), _, _ => False
  | .error e, l, g => Uncancelled e ∧
      ((Running m l g ∧ (g.LastRefused ↔ refused e = true)) ∨ (Answered m l g ∧ e.isHttp = false))

theorem forward_meets (selection : Selection) (model : String) (before : Before m l g) :
    (forward G selection model).Meets bookProtocol l g (Forwarded m) := by
  refine meets_bind.mpr ((mark_executed_meets before).mono fun r l₁ g₁ marked => ?_)
  obtain ⟨rfl, running⟩ := marked
  rw [after_ok]
  unfold post_completion_with_fallback
  refine meets_bind.mpr (Meets.mono (attempts_meets [] (List.cons_ne_nil _ _) running) fun r l₂ g₂ tried => ?_)
  obtain ⟨running, refusal, uncancelled⟩ := tried
  cases r with
  | error e =>
      refine ⟨uncancelled e rfl, Or.inl ⟨running, refusal.trans ?_⟩⟩
      simp only [Except.error.injEq, exists_eq_left']
  | ok completion =>
      have answered : Answered m l₂ g₂ := ⟨running.held, fun last => by
        obtain ⟨e, bad, _⟩ := refusal.mp last
        cases bad⟩
      refine meets_bind.mpr ((record_failed_keeps completion.failed_models).meets answered
        fun r l₃ g₃ answered raised => ?_)
      cases r with
      | error e => exact ⟨(raised e rfl).1, Or.inr ⟨answered, (raised e rfl).2⟩⟩
      | ok u =>
          refine meets_bind.mpr ((record_request_keeps _ true _).meets answered fun r l₄ g₄ answered raised => ?_)
          cases r with
          | error e => exact ⟨(raised e rfl).1, Or.inr ⟨answered, (raised e rfl).2⟩⟩
          | ok u => exact answered

/-- How the admitted part of a request with a reservation ends. -/
def Concluded (m : ℤ) : Except Exc Reply → Locals → Booking → Prop
  | .ok (.json _), l, g => Settled m l g
  | .ok (.stream _), _, _ => False
  | .error e, l, g => Uncancelled e ∧ Ongoing m l g

theorem upstream_error_meets {error : Exc} (running : Running m l g) (refusal : g.LastRefused ↔ refused error = true) :
    (upstream_error error).Meets bookProtocol l g fun r l' g' =>
      ∃ e, r = .error e ∧ Uncancelled e ∧ Ongoing m l' g' := by
  have frame := settled_frame (m := m)
  refine meets_bind.mpr (meets_locals.mpr (after_ok.mpr (meets_bind.mpr (meets_perform.mpr
    ⟨trivial, fun s answer _ may => ?_⟩))))
  cases answer with
  | error e => exact ⟨e, rfl, may.2.1 e rfl, running.ongoing⟩
  | ok u =>
      rw [after_ok]
      have held : Held m true l { g with recorded := true } :=
        ⟨running.held.reservation, running.held.asked, running.held.marked, running.held.unsettled⟩
      have settles : Meets bookProtocol (if refused error = true then release_budget else settle_budget none) l
          { g with recorded := true } fun r l' g' => r = .ok () ∧ Settled m l' g' := by
        by_cases refuses : refused error = true
        · rw [if_pos refuses]
          exact release_budget_meets held (Or.inr ⟨refusal.mpr refuses, rfl⟩) fun bad => nomatch bad
        · rw [if_neg refuses]
          exact settle_budget_meets none held (fun refused => refuses (refusal.mp refused.1)) fun _ => rfl
      refine meets_bind.mpr (settles.mono fun r l₁ g₁ settled => ?_)
      obtain ⟨rfl, settled⟩ := settled
      rw [after_ok]
      have rest : (do
          let _ ← call (.routing_signal l.model)
          call (.record_decision l.model .upstream_error)
          raise (.httpException 502) : Handler Upstream).Meets bookProtocol l₁ g₁ fun r l' g' =>
            ∃ e, r = .error e ∧ Uncancelled e ∧ Ongoing m l' g' := by
        refine Keeps.bindMeets (frame.step (.routing_signal l.model) (by decide : Later .health)) settled
          (fun e l' g' settled known => ⟨e, rfl, known, Or.inr settled⟩) fun _ l' g' settled => ?_
        refine Keeps.bindMeets (frame.step (.record_decision l.model .upstream_error)
            (by decide : Later .record)) settled
          (fun e l' g' settled known => ⟨e, rfl, known, Or.inr settled⟩) fun _ l' g' settled => ?_
        exact ⟨_, rfl, (fun bad => nomatch bad), Or.inr settled⟩
      exact rest

theorem complete_meets (quota_reservation : Bool) (selection : Selection) (selected : String) (completion : Completion)
    (answered : Answered m l g) :
    (complete G quota_reservation selection selected completion).Meets bookProtocol l g (Concluded m) := by
  have frame := answered_frame (m := m)
  have afterwards := settled_frame (m := m)
  have failed : ∀ e l g, Answered m l g → Uncancelled e → Concluded m (.error e) l g :=
    fun e l g answered known => ⟨known, answered.ongoing⟩
  refine Keeps.bindMeets (frame.lift fun e raised => json_error raised) answered failed fun content l g answered => ?_
  refine Keeps.bindMeets (frame.step (.routing_signal _) (by decide : Kind.health ∉ _)) answered failed
    fun signal l g answered => ?_
  refine Keeps.bindMeets (frame.lift fun e raised => asDict_error raised) answered failed fun entries l g answered => ?_
  refine meets_bind.mpr (meets_perform.mpr ⟨trivial, fun s answer _ may => ?_⟩)
  have answered' : Answered m l (g.next (.request_cost (entries.orNone "usage") completion.model) answer) :=
    answered_next (by decide : Kind.cost ∉ _) answered
  cases answer with
  | error e => exact failed e l _ answered' (may.2.1 e rfl)
  | ok estimated_cost =>
      rw [after_ok]
      -- without a price the settlement is the estimate
      have settles : ∀ l g, Answered m l g → (g.priced = false → estimated_cost = none) →
          (settle_budget estimated_cost).Meets bookProtocol l g fun r l' g' => r = .ok () ∧ Settled m l' g' :=
        fun l g answered unpriced => settle_budget_meets estimated_cost answered.held
          (fun refused => answered.unrefused refused.1) unpriced
      have unpriced : (g.next (.request_cost (entries.orNone "usage") completion.model)
          (.ok estimated_cost)).priced = false → estimated_cost = none := by
        intro unpriced
        cases estimated_cost with
        | none => rfl
        | some cost => cases unpriced
      have reconciles : (reconcile_quota quota_reservation (entries.orNone "usage") estimated_cost).Keeps bookProtocol
          (fun l' g' => Answered m l' g' ∧ (g'.priced = false → estimated_cost = none)) Uncancelled := by
        have quota : ∀ (op : Op), op.kind = .quota → (call op).Keeps bookProtocol
            (fun l' g' => Answered m l' g' ∧ (g'.priced = false → estimated_cost = none)) Uncancelled := by
          intro op kind
          refine keeps_perform fun l g kept => ⟨trivial, fun s answer _ may => ⟨?_, may.2.1⟩⟩
          change Answered m l (g.next op answer) ∧ ((g.next op answer).priced = false → _)
          rw [unlisted_next (by rw [kind]; decide)]
          exact kept
        unfold Chat.reconcile_quota
        cases entries.orNone "usage" with
        | dict usage => exact Keeps.when fun _ => quota _ rfl
        | _ => exact keeps_result
      refine Keeps.bindMeets reconciles ⟨answered', unpriced⟩ (fun e l g kept known => failed e l g kept.1 known)
        fun _ l g kept => ?_
      refine meets_bind.mpr ((settles l g kept.1 kept.2).mono fun r l g settled => ?_)
      obtain ⟨rfl, settled⟩ := settled
      rw [after_ok]
      have ended : ∀ e l g, Settled m l g → Uncancelled e → Concluded m (.error e) l g :=
        fun e l g settled known => ⟨known, Or.inr settled⟩
      refine Keeps.bindMeets (afterwards.schedule_shadow G (by decide : Later .record) selection selected) settled ended
        fun _ l g settled => ?_
      refine Keeps.bindMeets (afterwards.step (.record_decision _ _) (by decide : Later .record)) settled ended
        fun _ l g settled => ?_
      refine Keeps.bindMeets (Keeps.when
          fun _ => afterwards.step .submit_evaluation (by decide : Later .record)) settled ended
        fun _ l g settled => ?_
      refine Keeps.bindMeets (Keeps.when fun _ => afterwards.step (.emit _) (by decide : Later .record)) settled ended
        fun _ l g settled => ?_
      refine Keeps.bindMeets (afterwards.release_slots G settled_blindLease (by decide : Later .global)
        (by decide : Later .lease)) settled ended fun _ l g settled => ?_
      exact Keeps.bindMeets (afterwards.step (.json_response _) (by decide : Later .reply)) settled ended
        fun _ l g settled => settled

theorem dispatch_meets (quota_reservation : Bool) (selection : Selection) (before : Before m l g) :
    (dispatch G quota_reservation false selection).Meets bookProtocol l g (Concluded m) := by
  unfold dispatch
  cases selection.model.filter fun model => (G.target model).isSome with
  | none =>
      refine meets_bind.mpr ((release_budget_meets before.held (Or.inl rfl) fun _ => before.unattempted).mono
        fun r l g settled => ?_)
      obtain ⟨rfl, settled⟩ := settled
      exact ⟨(fun bad => nomatch bad), Or.inr settled⟩
  | some model =>
      refine meets_bind.mpr (meets_change.mpr (after_ok.mpr ?_))
      have named : Before m { l with model := model } g :=
        ⟨⟨before.held.reservation, before.held.asked, before.held.marked, before.held.unsettled⟩,
          before.unattempted, before.unrecorded⟩
      refine meets_bind.mpr (meets_catching.mpr (Meets.mono (forward_meets selection model named)
        fun r l g forwarded => ?_))
      cases r with
      | ok upstream =>
          cases upstream with
          | streaming stream => exact absurd forwarded id
          | answered completion => exact complete_meets quota_reservation selection model completion forwarded
      | error e =>
          obtain ⟨known, ⟨running, refusal⟩ | ⟨answered, other⟩⟩ := forwarded
          · dsimp only
            by_cases http : e.isHttp = true
            · rw [if_pos http]
              refine (upstream_error_meets running refusal).mono fun r l g failed => ?_
              obtain ⟨e, rfl, known, ongoing⟩ := failed
              exact ⟨known, ongoing⟩
            · rw [if_neg http]
              exact ⟨known, running.ongoing⟩
          · dsimp only
            rw [other, if_neg Bool.false_ne_true]
            exact ⟨known, answered.ongoing⟩

/-! The admitted part. -/

/-- Nothing has been reserved or listed. -/
def Fresh (l : Locals) (g : Booking) : Prop := l.reservation = none ∧ g = .start

def Early (kind : Kind) : Prop := kind ∈ [.body, .tenant, .global, .lease, .quota]

instance (kind : Kind) : Decidable (Early kind) := inferInstanceAs (Decidable (_ ∈ _))

theorem fresh_frame : Frame bookProtocol Fresh Uncancelled Early := by
  refine book_frame (fun l g op answer early fresh => ?_) fun _ _ _ fresh => fresh
  have unlisted : g.next op answer = g := by
    refine unlisted_next fun listed => ?_
    unfold Early at early
    generalize op.kind = kind at early listed
    revert early listed
    cases kind <;> decide
  rw [unlisted]
  exact fresh

/-- Steps of the selection. -/
def Selecting (kind : Kind) : Prop := kind ∈ [.quota, .governance, .breaker, .health]

instance (kind : Kind) : Decidable (Selecting kind) := inferInstanceAs (Decidable (_ ∈ _))

theorem before_frame : Frame bookProtocol (Before m) Uncancelled Selecting := by
  refine book_frame (fun l g op answer selecting before => ?_) fun _ _ _ before =>
    ⟨⟨before.held.reservation, before.held.asked, before.held.marked, before.held.unsettled⟩,
      before.unattempted, before.unrecorded⟩
  have same : g.next op answer = g := by
    by_cases breaker : op.kind = .breaker
    · -- the breaker refuses before anything is attempted
      unfold Booking.next
      split
      · cases breaker
      · cases breaker
      · rw [before.held.marked]
        rfl
      · cases breaker
      · cases breaker
      · cases breaker
      · cases breaker
      · cases breaker
      · rfl
    · refine unlisted_next fun listed => ?_
      unfold Selecting at selecting
      generalize op.kind = kind at breaker selecting listed
      revert breaker selecting listed
      cases kind <;> decide
  rw [same]
  exact before

/-- How the admitted part of a request ends. -/
def AdmittedEnd (r : Except Exc Reply) (l : Locals) (g : Booking) : Prop :=
  (Fresh l g ∧ ∃ e, r = .error e ∧ Uncancelled e) ∨ (Unreserved l g ∧ ∀ e, r = .error e → Uncancelled e) ∨
    ∃ m, Concluded m r l g

/-- The part from the reservation on. -/
theorem reserved_meets (request_id : String) (payload : Entries) (requested_model : Model) (spend_usd : Double)
    (input_tokens output_tokens : ℤ) (plain : (payload.orNone "stream").truthy = false) (before : Before m l g) :
    (do
      when G.has_tenant_store (call (.reserve_request input_tokens output_tokens spend_usd))
      let selection ← catching Exc.isException (govern_and_select G request_id requested_model) fun e => do
        release_budget
        raise e
      dispatch G G.has_tenant_store (payload.orNone "stream").truthy selection : Handler Reply).Meets
        bookProtocol l g (Concluded m) := by
  have frame := before_frame (m := m)
  rw [plain]
  refine Keeps.bindMeets (Keeps.when fun _ => frame.step (.reserve_request _ _ _) (by decide : Selecting .quota)) before
    (fun e l g before known => ⟨known, before.ongoing⟩) fun _ l g before => ?_
  have selected := frame.govern_and_select G (by decide : Selecting .governance) (by decide : Selecting .quota)
    (by decide : Selecting .breaker) (by decide : Selecting .health) request_id requested_model
  refine meets_bind.mpr (meets_catching.mpr (selected.meets before fun r l g before known => ?_))
  cases r with
  | ok selection => exact dispatch_meets G.has_tenant_store selection before
  | error e =>
      have caught := known e rfl
      dsimp only
      rw [if_pos (uncancelled_isException caught)]
      refine meets_bind.mpr ((release_budget_meets before.held (Or.inl rfl) fun _ => before.unattempted).mono
        fun r l g settled => ?_)
      obtain ⟨rfl, settled⟩ := settled
      exact ⟨caught, Or.inr settled⟩

theorem unreserved_keeps (request_id : String) (payload : Entries) (requested_model : Model) (spend_usd : Double)
    (input_tokens output_tokens : ℤ) :
    (do
      when G.has_tenant_store (call (.reserve_request input_tokens output_tokens spend_usd))
      let selection ← catching Exc.isException (govern_and_select G request_id requested_model) fun e => do
        release_budget
        raise e
      dispatch G G.has_tenant_store (payload.orNone "stream").truthy selection : Handler Reply).Keeps
        bookProtocol Unreserved Uncancelled := by
  have frame := unreserved_frame
  refine (Keeps.when fun _ => frame.step (.reserve_request _ _ _) trivial).bind fun _ => ?_
  refine (Frame.handled (frame.govern_and_select G trivial trivial trivial trivial request_id requested_model)
    fun e known => ?_).bind fun selection => unreserved_dispatch _ _ selection
  exact (frame.settle_once (fun _ _ _ none => none) trivial _).bind fun _ => keeps_raise known

theorem chat_completions_admitted_meets (request_id : String) (payload : Entries) (requested_model : Model)
    (plain : (payload.orNone "stream").truthy = false) (fresh : Fresh l g) :
    (chat_completions_admitted G request_id payload requested_model).Meets bookProtocol l g AdmittedEnd := by
  have frame := fresh_frame
  have failed : ∀ e l g, Fresh l g → Uncancelled e → AdmittedEnd (.error e) l g :=
    fun e l g fresh known => Or.inl ⟨fresh, e, rfl, known⟩
  unfold chat_completions_admitted
  refine Keeps.bindMeets (R := Fresh) (X := Uncancelled) ?_ fresh failed fun spend_usd l g fresh => ?_
  · unfold Chat.estimate_spend
    cases G.target (named G (payload.orNone "model") "") with
    | none => exact keeps_result
    | some target => exact frame.step (.estimated_spend _ _ _) (by decide : Early .quota)
  · obtain ⟨unheld, rfl⟩ := fresh
    refine meets_bind.mpr (meets_bind.mpr (meets_perform.mpr ⟨trivial, fun s answer _ may => ?_⟩))
    cases answer with
    | error e => exact failed e l .start ⟨unheld, rfl⟩ (may.2.1 e rfl)
    | ok reserved =>
        cases reserved with
        | none =>
            have unreserved : Unreserved { l with reservation := none } ⟨some none, false, [], false, false, []⟩ := rfl
            exact (unreserved_keeps request_id payload requested_model spend_usd _ _ _ _ unreserved).mono
              fun r l g kept => Or.inr (Or.inl kept)
        | some m =>
            exact (reserved_meets request_id payload requested_model spend_usd _ _ plain
              ⟨⟨rfl, rfl, rfl, rfl⟩, rfl, rfl⟩).mono fun r l g concluded => Or.inr (Or.inr ⟨m, concluded⟩)

/-! The whole request. -/

/-- A reservation has been booked as the code does it. -/
def Final (g : Booking) : Prop := ∀ m, g.asked = some (some m) → g.Booked m

theorem Fresh.final (fresh : Fresh l g) : g.Final := by
  intro m asked
  rw [fresh.2] at asked
  cases asked

theorem Unreserved.final (unreserved : Unreserved l g) : g.Final := by
  intro m asked
  cases unreserved.symm.trans asked

theorem Settled.final (settled : Settled m l g) : g.Final := by
  intro m' asked
  cases settled.asked.symm.trans asked
  exact settled.booked

/-- How a request ends up to its reply: a stream is only opened without a reservation. -/
def Replied : Except Exc Reply → Locals → Booking → Prop
  | .ok (.stream _), l, g => Unreserved l g
  | _, _, g => g.Final

theorem read_body_meets (fresh : Fresh l g) : read_body.Meets bookProtocol l g fun r l' g' => Fresh l' g' ∧
    (∀ e, r = .error e → Uncancelled e) ∧ ∀ payload, r = .ok payload → (payload.orNone "stream").truthy = false := by
  have failed : ∀ e l g, Fresh l g → Uncancelled e → Fresh l g ∧ (∀ e', (.error e : Except Exc Entries) = .error e' →
      Uncancelled e') ∧ ∀ payload, (.error e : Except Exc Entries) = .ok payload →
        (payload.orNone "stream").truthy = false :=
    fun e l g fresh known => ⟨fresh, fun e' same => by cases same; exact known, fun _ bad => nomatch bad⟩
  unfold read_body
  refine meets_bind.mpr (meets_catching.mpr (meets_perform.mpr ⟨trivial, fun s answer _ may => ?_⟩))
  obtain ⟨none, rfl⟩ := fresh
  cases answer with
  | error e =>
      dsimp only
      rw [if_pos (uncancelled_isException (may.2.1 e rfl))]
      exact failed _ l _ ⟨none, rfl⟩ fun bad => nomatch bad
  | ok payload =>
      cases payload with
      | dict entries =>
          refine ⟨⟨none, rfl⟩, fun e bad => (nomatch bad), fun payload same => ?_⟩
          cases same
          exact Bool.not_eq_true' _ |>.mp may.2.2
      | _ => exact failed _ l _ ⟨none, rfl⟩ fun bad => nomatch bad

theorem chat_completions_meets (request_id : String) (fresh : Fresh l g) :
    (chat_completions G request_id).Meets bookProtocol l g Replied := by
  have frame := fresh_frame
  have blindLease : ∀ l g lease, Fresh l g → Fresh { l with lease := lease } g := fun _ _ _ fresh => fresh
  have failed : ∀ e l g, Fresh l g → Uncancelled e → Replied (.error e) l g := fun _ _ _ fresh _ => fresh.final
  have global : Early .global := by decide
  have lease : Early .lease := by decide
  refine meets_bind.mpr ((read_body_meets fresh).mono fun r l g body => ?_)
  obtain ⟨fresh, known, plain⟩ := body
  cases r with
  | error e => exact failed e l g fresh (known e rfl)
  | ok payload =>
      rw [after_ok]
      refine Keeps.bindMeets (frame.check_tenant G (by decide : Early .tenant) _) fresh failed fun key l g fresh => ?_
      refine Keeps.bindMeets (frame.step .reject_if_draining (by decide : Early .tenant)) fresh failed
        fun _ l g fresh => ?_
      refine Keeps.bindMeets (Keeps.when fun _ => frame.global_acquire global) fresh failed fun _ l g fresh => ?_
      refine Keeps.bindMeets (Keeps.when fun _ => frame.acquire_lease G blindLease global lease _) fresh failed
        fun _ l g fresh => ?_
      refine meets_catching.mpr ((chat_completions_admitted_meets request_id payload key (plain payload rfl) fresh).mono
        fun r l g ended => ?_)
      cases r with
      | ok reply =>
          rcases ended with ⟨_, _, bad, _⟩ | ⟨unreserved, _⟩ | ⟨m, concluded⟩
          · cases bad
          · cases reply with
            | json content => exact unreserved.final
            | stream stream => exact unreserved
          · cases reply with
            | json content => exact Settled.final concluded
            | stream stream => exact absurd concluded id
      | error e =>
          -- the error path: a reservation which is still open is settled here
          have caught : Uncancelled e := by
            rcases ended with ⟨_, _, same, known⟩ | ⟨_, known⟩ | ⟨m, known, _⟩
            · cases same
              exact known
            · exact known e rfl
            · exact known
          dsimp only
          rw [if_pos (uncancelled_isException caught)]
          rcases ended with ⟨fresh, _⟩ | ⟨unreserved, _⟩ | ⟨m, _, ongoing⟩
          · refine meets_bind.mpr (meets_bind.mpr (meets_locals.mpr (after_ok.mpr ?_)))
            rw [fresh.1]
            refine Keeps.bindMeets (frame.release_slots G blindLease global lease) fresh failed fun _ l g fresh => ?_
            exact fresh.final
          · have quiet := unreserved_frame
            refine Keeps.bindMeets (quiet.abandon (fun _ _ _ none => none) trivial) unreserved
              (fun _ _ _ none _ => Unreserved.final none) fun _ l g unreserved => ?_
            refine Keeps.bindMeets (quiet.release_slots G (fun _ _ _ none => none) trivial trivial) unreserved
              (fun _ _ _ none _ => Unreserved.final none) fun _ l g unreserved => ?_
            exact Unreserved.final unreserved
          · refine meets_bind.mpr ((abandon_meets ongoing).mono fun r l g settled => ?_)
            obtain ⟨rfl, settled⟩ := settled
            refine Keeps.bindMeets (settled_frame.release_slots G settled_blindLease (by decide : Later .global)
              (by decide : Later .lease)) settled (fun _ _ _ settled _ => settled.final) fun _ l g settled => ?_
            exact settled.final

theorem serve_meets (request_id : String) :
    (serve G request_id).Meets bookProtocol .initial .start fun _ _ g => g.Final := by
  refine meets_bind.mpr ((chat_completions_meets request_id ⟨rfl, rfl⟩).mono fun r l g replied => ?_)
  cases r with
  | error e => exact replied
  | ok reply =>
      cases reply with
      | json content => exact replied
      | stream stream =>
          have frame : Frame bookProtocol Unreserved (fun _ => True) fun _ => True :=
            ⟨fun op _ l g none => (unreserved_frame.step op trivial l g none).mono fun _ _ _ kept =>
              ⟨kept.1, fun _ _ => trivial⟩, fun _ _ => trivial, fun _ _ _ none => none⟩
          have rest : (do
              let started ← call .start_body
              if started then observe_upstream_stream G stream else result () : Handler Unit).Keeps bookProtocol
                Unreserved fun _ => True := by
            refine (frame.step .start_body trivial).bind fun started => ?_
            exact Keeps.ite (fun _ => frame.observe_upstream_stream G (fun _ _ _ none => none) (fun _ _ _ none => none)
              (fun _ _ => trivial) trivial stream) fun _ => keeps_result
          exact rest.meets replied fun _ _ _ unreserved _ => Unreserved.final unreserved


end Booking

/-- A request without a stream follows the table exactly when it is clear. -/
theorem settlement_follows_table_iff (G : Gateway) (request_id : String) {trace : List (Prog.Event Op Op.Ans)}
    {r : Except Exc Unit × Locals} (run : (serve G request_id .initial).Run trace r)
    (considered : bookProtocol.Considers .start trace) {reserved_micros : ℤ}
    (reserved : (bookProtocol.replay .start trace).asked = some (some reserved_micros)) :
    (bookProtocol.replay .start trace).FollowsTable reserved_micros ↔ (bookProtocol.replay .start trace).Clear := by
  have final := Safe.run (Booking.serve_meets request_id) trivial run considered
  exact Booking.followsTable_iff (final reserved_micros reserved)

/-! Runs of one request with a reservation. -/

instance (s : Unit) (g : Booking) (op : Op) (answer : op.Ans) : Decidable (bookProtocol.may s g op answer) :=
  have _ : Decidable (∀ e, answer = .error e → e ≠ .cancelled) :=
    match answer with
    | .ok _ => .isTrue fun _ bad => nomatch bad
    | .error e => decidable_of_iff (e ≠ .cancelled)
        ⟨fun known _ same => Except.error.inj same ▸ known, fun all => all e rfl⟩
  inferInstanceAs (Decidable (_ ∧ _ ∧ _))

/-- The two models in a route which chooses by health. -/
def costRoute : ModelRoute :=
  { failoverRoute with
    min_health_score := none
    routing_policy := some ⟨1, 0, 0, by decide, by decide, by decide, by simp⟩
    health_needs_failover := fun none => absurd rfl none
    policy_needs_failover := fun _ => by decide
    score_le := fun _ bad => nomatch bad }

def costGateway : Gateway :=
  { breakingGateway with
    model_routes := [("r", costRoute)]
    route_targets_exist := by decide }

/-- A reservation of five micro-dollars. -/
def reserving : (op : Op) → op.Ans
  | .reserve_inference_budget _ _ _ => .ok (some 5)
  | op => routed op

/-- Neither backend accepts the connection. -/
def refusedBoth : (op : Op) → op.Ans
  | .post _ => .error (.http .connect)
  | op => reserving op

/-- A read timeout of `m`, then no connection to `n`. -/
def timedOutThenRefused : (op : Op) → op.Ans
  | .post model => .error (.http (if model = "m" then .request else .connect))
  | op => reserving op

/-- Both circuits are open. -/
def openCircuits : (op : Op) → op.Ans
  | .allow _ => .ok false
  | op => reserving op

/-- The steps of a request with fixed answers. -/
def stepsOf (G : Gateway) (answer : (op : Op) → op.Ans) : List (Prog.Event Op Op.Ans) :=
  ((serve G "1" .initial).play answer).1

theorem settlement_follows_table_refused :
    (bookProtocol.replay .start (stepsOf breakingGateway refusedBoth)).FollowsTable 5 := by
  have run := Prog.run_play refusedBoth (serve breakingGateway "1" .initial)
  have booked : bookProtocol.replay .start (stepsOf breakingGateway refusedBoth) =
      ⟨some (some 5), true, [.connectFailed, .connectFailed], true, false, [(true, 0)]⟩ := by decide +kernel
  refine (settlement_follows_table_iff breakingGateway "1" run (by decide +kernel) ?_).mpr ?_
  · exact congrArg Booking.asked booked
  · change (bookProtocol.replay .start (stepsOf breakingGateway refusedBoth)).Clear
    rw [booked]
    exact ⟨fun _ => ⟨.connectFailed, List.mem_cons_self, rfl⟩, fun _ => by decide⟩

/-- The request with these answers is booked against the table, although nothing else is amiss. -/
def DepartsFromTable (G : Gateway) (answer : (op : Op) → op.Ans) : Prop :=
  bookProtocol.Considers .start (stepsOf G answer) ∧
    (bookProtocol.replay .start (stepsOf G answer)).asked = some (some 5) ∧
    ¬ (bookProtocol.replay .start (stepsOf G answer)).FollowsTable 5

/-- A model which may have run is refunded when the fallback refuses the connection; and an estimate is
charged when no backend was called. -/
theorem settlement_departs_from_table :
    DepartsFromTable breakingGateway timedOutThenRefused ∧ DepartsFromTable costGateway openCircuits := by
  constructor
  · have booked : bookProtocol.replay .start (stepsOf breakingGateway timedOutThenRefused) =
        ⟨some (some 5), true, [.mayHaveRun, .connectFailed], true, false, [(true, 0)]⟩ := by decide +kernel
    refine ⟨by decide +kernel, congrArg Booking.asked booked, fun follows => ?_⟩
    rw [booked] at follows
    obtain ⟨refunded, micros, same, only, _⟩ := follows
    cases same
    cases (only rfl).2 .mayHaveRun List.mem_cons_self
  · have booked : bookProtocol.replay .start (stepsOf costGateway openCircuits) =
        ⟨some (some 5), true, [.circuitRejected, .circuitRejected], true, false, [(false, 5)]⟩ := by decide +kernel
    refine ⟨by decide +kernel, congrArg Booking.asked booked, fun follows => ?_⟩
    rw [booked] at follows
    obtain ⟨refunded, micros, same, _, whenever, _⟩ := follows
    cases same
    cases whenever (by decide)

end RuntimePlatform.Chat
