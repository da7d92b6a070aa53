import RuntimePlatform.Lib.FixedWindow
import RuntimePlatform.Chat.Choice
import RuntimePlatform.Chat.Probes

/-!
How often backends are called for a request, its mirrored calls apart: at most twice; and completions are posted no more
often than the retry budget of the process allows, however the requests are interleaved.
-/

namespace RuntimePlatform.Chat
open Python Coroutine Coroutine.Session

/-- `RetryBudget` -/
structure RetryBudget where
  window_start : ℚ
  used : ℕ

namespace RetryBudget

/-- The window for a reading of the clock. -/
def current (b : RetryBudget) (now : ℚ) : RetryBudget := if now - b.window_start ≥ 60 then ⟨now, 0⟩ else b

def consume (max_retries_per_minute : ℕ) (b : RetryBudget) (now : ℚ) : Bool × RetryBudget :=
  let b := b.current now
  if b.used ≥ max_retries_per_minute then (false, b) else (true, { b with used := b.used + 1 })

def window (b : RetryBudget) : FixedWindow.Window ℚ := ⟨b.window_start, b.used⟩

theorem consume_take (max_retries_per_minute : ℕ) (b : RetryBudget) (now : ℚ) :
    (b.window.take 60 max_retries_per_minute now) =
      ((b.consume max_retries_per_minute now).1, (b.consume max_retries_per_minute now).2.window) := by
  have current : b.window.at_ 60 now = (b.current now).window := by
    unfold FixedWindow.Window.at_ current
    by_cases expired : 60 ≤ now - b.window_start
    · rw [if_pos expired, if_pos (show 60 ≤ now - b.window.start from expired)]
      rfl
    · rw [if_neg expired, if_neg (show ¬ 60 ≤ now - b.window.start from expired)]
  unfold FixedWindow.Window.take consume
  rw [current]
  by_cases full : max_retries_per_minute ≤ (b.current now).used
  · simp [window, full]
  · simp [window, full]

end RetryBudget

/-- What one request has called so far, each call with whether another may follow it. -/
structure Calls where
  granted : ℕ
  posts : List (String × Bool)
  sends : List (String × Bool)
  deriving DecidableEq, Repr

/-- Whether an attempt may be followed by another one. -/
def againAfter : Except Exc Response → Bool
  | .ok response => decide (response.status_code ≥ 500)
  | .error (.http error) => retryable error
  | .error _ => false

namespace Calls

def start : Calls := ⟨0, [], []⟩

def next (g : Calls) : (op : Op) → op.Ans → Calls
  | .consume, .ok true => { g with granted := g.granted + 1 }
  | .post model, answer => { g with posts := g.posts ++ [(model, againAfter answer)] }
  | .send model, .ok status_code => { g with sends := g.sends ++ [(model, decide (status_code ≥ 500))] }
  | .send model, .error _ => { g with sends := g.sends ++ [(model, false)] }
  | _, _ => g

/-- The call is the first one, or comes after one which failed in a way which asks for another backend. -/
def Follows (calls : List (String × Bool)) (model : String) : Prop :=
  calls = [] ∨ ∃ first, calls = [(first, true)] ∧ first ≠ model

/-- What is owed for a call. -/
def Owes (G : Gateway) (g : Calls) : Op → Prop
  | .consume => g.granted = 0
  | .post model => g.sends = [] ∧ Follows g.posts model ∧
      (G.has_retry_budget = true → g.posts ≠ [] → g.granted = 1)
  | .send model => g.posts = [] ∧ Follows g.sends model
  | _ => True

/-- The calls after some steps of a request. -/
def after (steps : List (Prog.Event Op Op.Ans)) : Calls := steps.foldl (fun g e => g.next e.1 e.2) start

/-- At most two calls, of which the second is made at another backend, after a failure which asks for it. -/
inductive Tried : List (String × Bool) → Prop
  | none : Tried []
  | one (call : String × Bool) : Tried [call]
  | two (first second : String) (again : Bool) (other : first ≠ second) : Tried [(first, true), (second, again)]

/-- What one request calls. -/
structure Modest (G : Gateway) (g : Calls) : Prop where
  one_way : g.posts = [] ∨ g.sends = []
  posts : Tried g.posts
  sends : Tried g.sends
  granted : g.granted ≤ 1
  budgeted : G.has_retry_budget = true → g.posts.length ≤ g.granted + 1

theorem tried_append {calls : List (String × Bool)} {model : String} (follows : Follows calls model) (again : Bool) :
    Tried (calls ++ [(model, again)]) := by
  rcases follows with rfl | ⟨first, rfl, other⟩
  · exact .one _
  · exact .two first model again other

theorem modest_start (G : Gateway) : Modest G start := ⟨.inl rfl, .none, .none, Nat.zero_le 1, fun _ => Nat.zero_le 1⟩

theorem modest_post {G : Gateway} {g : Calls} {model : String} (modest : Modest G g) (owed : Owes G g (.post model))
    (again : Bool) : Modest G { g with posts := g.posts ++ [(model, again)] } := by
  obtain ⟨unsent, follows, budgeted⟩ := owed
  refine ⟨.inr unsent, tried_append follows again, modest.sends, modest.granted, fun budget => ?_⟩
  rcases follows with first | ⟨first, second, _⟩
  · simp [first]
  · have granted := budgeted budget (by rw [second]; exact List.cons_ne_nil _ _)
    simp [second, granted]

theorem modest_send {G : Gateway} {g : Calls} {model : String} (modest : Modest G g) (owed : Owes G g (.send model))
    (again : Bool) : Modest G { g with sends := g.sends ++ [(model, again)] } :=
  ⟨.inl owed.1, modest.posts, tried_append owed.2 again, modest.granted, modest.budgeted⟩

/-- Whatever a step which keeps to what is owed answers, the request stays within its two calls. -/
theorem modest_next {G : Gateway} {g : Calls} {op : Op} (modest : Modest G g) (owed : Owes G g op) (answer : op.Ans) :
    Modest G (g.next op answer) := by
  cases op with
  | post model => exact modest_post modest owed _
  | send model =>
      cases answer with
      | ok status_code => exact modest_send modest owed _
      | error e => exact modest_send modest owed _
  | consume =>
      cases answer with
      | error e => exact modest
      | ok granted =>
          cases granted with
          | false => exact modest
          | true =>
              have none_yet : g.granted = 0 := owed
              refine ⟨modest.one_way, modest.posts, modest.sends, ?_, fun budget => ?_⟩
              · change g.granted + 1 ≤ 1
                rw [none_yet]
              · exact (modest.budgeted budget).trans (Nat.le_succ _)
  | _ => exact modest

end Calls

/-- Whatever is known of a shared state, a request keeps a record of its calls. -/
def retries {σ : Type} (G : Gateway) (known : σ → Prop) : Protocol σ Op Op.Ans Calls where
  start := .start
  next _ := Calls.next
  known := known
  must := Calls.Owes G
  may _ _ _ _ := True

instance {σ : Type} {G : Gateway} {known : σ → Prop} (s : σ) (g : Calls) (op : Op) (answer : op.Ans) :
    Decidable ((retries G known).may s g op answer) := .isTrue trivial

namespace Retries
open Choice Calls
variable {σ : Type} {G : Gateway} {known : σ → Prop} {l : Locals} {g : Calls}

theorem lenient (g : Calls) (op : Op) (closing : Closing op) : Calls.Owes G g op := by
  cases op with
  | post | send | consume => exact absurd closing id
  | _ => trivial

/-- Kinds of steps which call nothing. -/
def Silent (kind : Kind) : Prop := kind ∉ [.post, .stream, .retry]

instance (kind : Kind) : Decidable (Silent kind) := inferInstanceAs (Decidable (_ ∉ _))

/-- The record of calls is `g`, whatever the locals. -/
def Still (g : Calls) (_ : Locals) (g' : Calls) : Prop := g' = g

theorem still_frame (g : Calls) : Frame (retries G known) (Still g) (fun _ => True) Silent where
  step op silent := by
    apply keeps_perform
    rintro l _ rfl
    cases op with
    | post => exact absurd silent (by decide : ¬ Silent .post)
    | send | build_request | aclose | streaming_response => exact absurd silent (by decide : ¬ Silent .stream)
    | consume => exact absurd silent (by decide : ¬ Silent .retry)
    | _ => exact ⟨trivial, fun _ _ _ _ => ⟨rfl, fun _ _ => trivial⟩⟩
  expected _ _ := trivial
  model _ _ _ := id

/-! The attempts at a completion. -/

/-- An attempt at a backend can be made: the first one, or the one the retry budget is asked for. -/
structure CanTry (G : Gateway) (model : String) (fallback_used : Bool) (g : Calls) : Prop where
  granted : g.granted = 0
  unsent : g.sends = []
  follows : Follows g.posts model
  first : fallback_used = false → g.posts = []

/-- The retry budget has been asked when it has to be. -/
def Retried (G : Gateway) (fallback_used : Bool) (g₀ g : Calls) : Prop :=
  g.posts = g₀.posts ∧ g.sends = g₀.sends ∧ (fallback_used = false → g = g₀) ∧
    (G.has_retry_budget = true → fallback_used = true → g.granted = 1)

theorem consume_retry_gives {model : String} {fallback_used : Bool} (canTry : CanTry G model fallback_used g) :
    (consume_retry G fallback_used).Meets (retries G known) l g
      (Gives fun retry _ g' => retry = true → Retried G fallback_used g g') := by
  unfold consume_retry
  cases fallback_used with
  | false => exact fun _ => ⟨rfl, rfl, fun _ => rfl, fun _ on => (nomatch on)⟩
  | true =>
      cases budget : G.has_retry_budget with
      | false => exact fun _ => ⟨rfl, rfl, fun _ => rfl, fun on => absurd (budget.symm.trans on) (by decide)⟩
      | true =>
          apply call_gives .consume canTry.granted
          rintro _ retry rfl
          refine ⟨rfl, rfl, fun off => (nomatch off), fun _ _ => ?_⟩
          change g.granted + 1 = 1
          rw [canTry.granted]

theorem raise_for_status_again {response : Response} {error : HttpError}
    (raised : raise_for_status response.status_code = .error (.http error)) :
    againAfter (.ok response) = retryable error := by
  unfold raise_for_status at raised
  split at raised
  · cases raised
  · cases raised
    rfl

/-- An attempt which fails records whether another may follow. -/
theorem post_attempt_meets {model : String} {fallback_used : Bool} {g₀ : Calls} (canTry : CanTry G model fallback_used g₀)
    (retried : Retried G fallback_used g₀ g) :
    (post_attempt model).Meets (retries G known) l g fun r _ g' => ∀ error, r = .error (.http error) →
      g' = { g with posts := g.posts ++ [(model, retryable error)] } := by
  apply meets_bind.mpr
  apply meets_perform.mpr
  have owed : Calls.Owes G g (.post model) := by
    obtain ⟨posts, sends, _, granted⟩ := retried
    refine ⟨sends.trans canTry.unsent, by rw [posts]; exact canTry.follows, fun budget some_post => ?_⟩
    cases fallback_used with
    | false => exact absurd (posts.trans (canTry.first rfl)) some_post
    | true => exact granted budget rfl
  refine ⟨owed, fun _ answer _ _ => ?_⟩
  cases answer with
  | error e =>
      intro error same
      cases same
      rfl
  | ok response =>
      rw [after_ok]
      apply meets_bind.mpr
      apply meets_lift.mpr
      cases raised : raise_for_status response.status_code with
      | ok _ => exact fun error same => (nomatch same)
      | error e =>
          intro error same
          cases same
          rw [← raise_for_status_again raised]
          rfl

/-- One attempt, before those which may come after it. -/
theorem attempts_cons {model : String} {fallback_used : Bool} (canTry : CanTry G model fallback_used g)
    (failed_models : List String) {rest : List (String × Bool)} (last : fallback_used = true → rest = [])
    (later : ∀ failed l posts, posts = [] ∨ posts = [(model, true)] →
      (attempts G failed rest).Meets (retries G known) l { g with posts := posts } (Gives fun _ _ _ => True)) :
    (attempts G failed_models ((model, fallback_used) :: rest)).Meets (retries G known) l g
      (Gives fun _ _ _ => True) := by
  have more : ∀ {failed l g'}, rest ≠ [] → (g'.posts = [] ∨ g'.posts = [(model, true)]) →
      g' = { g with posts := g'.posts } →
      (attempts G failed rest).Meets (retries G known) l g' (Gives fun _ _ _ => True) := by
    intro failed l g' _ posts same
    rw [same]
    exact later failed l _ posts
  have unused : rest ≠ [] → fallback_used = false := fun some_rest =>
    Bool.eq_false_iff.mpr fun used => some_rest (last used)
  apply gives_bind (((still_frame g).circuit_allows G (by decide : Silent .breaker) (some model)).gives rfl)
  rintro allowed l g' same
  cases same
  cases allowed with
  | false =>
      cases rest with
      | nil => trivial
      | cons entry rest => exact more (List.cons_ne_nil _ _) (.inl (canTry.first (unused (List.cons_ne_nil _ _)))) rfl
  | true =>
      apply gives_bind (consume_retry_gives canTry)
      intro retry l g₁ retried
      cases retry with
      | false => trivial
      | true =>
          apply meets_bind.mpr
          apply meets_attempt.mpr
          apply (post_attempt_meets canTry (retried rfl)).mono
          intro answer l g₂ failed
          cases answer with
          | ok response =>
              have recorded : (when G.has_circuit_breaker (call (.record_success model))).Keeps (retries G known)
                  (Still g₂) fun _ => True :=
                Keeps.when fun _ => (still_frame g₂).step _ (by decide : Silent .breaker)
              exact gives_bind (recorded.gives rfl) fun _ _ _ _ => trivial
          | error e =>
              cases e with
              | http error =>
                  have recorded : (when G.has_circuit_breaker (call (.record_failure model))).Keeps (retries G known)
                      (Still g₂) fun _ => True :=
                    Keeps.when fun _ => (still_frame g₂).step _ (by decide : Silent .breaker)
                  apply gives_bind (recorded.gives rfl)
                  rintro _ l g₃ same
                  cases same
                  by_cases ends : (rest.isEmpty || !retryable error) = true
                  · rw [if_pos ends]
                    trivial
                  · rw [if_neg ends]
                    rw [Bool.or_eq_true, not_or] at ends
                    have some_rest : rest ≠ [] := fun empty => ends.1 (List.isEmpty_iff.mpr empty)
                    have again : retryable error = true := by simpa using ends.2
                    obtain ⟨_, _, same, _⟩ := retried rfl
                    cases same (unused some_rest)
                    have recorded := failed error rfl
                    rw [again, canTry.first (unused some_rest)] at recorded
                    rw [recorded]
                    exact more some_rest (.inr rfl) rfl
              | _ => trivial

/-- A completion is tried at its backend, and then at the fallback. -/
theorem post_completion_gives {model : String} {fallback_model : Option String} {l : Locals}
    (other : ∀ fallback, fallback_model = some fallback → model ≠ fallback) :
    (post_completion_with_fallback G model fallback_model).Meets (retries G known) l .start
      (Gives fun _ _ _ => True) := by
  unfold post_completion_with_fallback
  have first : CanTry G model false .start := ⟨rfl, rfl, .inl rfl, fun _ => rfl⟩
  apply attempts_cons first [] (fun used => absurd used Bool.false_ne_true)
  intro failed l posts after
  cases listed : fallback_model.filter fun model => (target_of G (some model)).isSome with
  | none => trivial
  | some fallback =>
      have named := other fallback (Option.filter_eq_some_iff.mp listed).1
      have follows : Follows posts fallback := by
        rcases after with first | second
        · exact .inl first
        · exact .inr ⟨model, second, named⟩
      have second : CanTry G fallback true ⟨0, posts, []⟩ :=
        ⟨rfl, rfl, follows, fun unused => absurd unused.symm Bool.false_ne_true⟩
      apply attempts_cons second failed fun _ => rfl
      intro _ _ _ _
      trivial

theorem forward_gives {selection : Selection} {model : String} {l : Locals}
    (other : ∀ fallback, selection.fallback_model = some fallback → model ≠ fallback) :
    (forward G selection model).Meets (retries G known) l .start (Gives fun _ _ _ => True) := by
  have free : Frame (retries G known) (fun _ _ => True) (fun _ => True) Elsewhere := free_frame lenient
  apply gives_bind (((still_frame Calls.start).mark_executed (fun _ _ _ => id) (by decide : Silent .execute)).gives rfl)
  rintro _ l g same
  cases same
  apply gives_bind (post_completion_gives other)
  intro completion l g _
  apply gives_bind ((free.record_failed (by decide : Elsewhere .traffic) completion.failed_models).gives trivial)
  intro _ l g _
  exact gives_bind ((free.step (.record_request _ true _) (by decide : Elsewhere .traffic)).gives trivial)
    fun _ _ _ _ => trivial

/-- A stream is opened at its backend, and then at the fallback. -/
theorem open_stream_gives {selection : Selection} {model : String} {l : Locals} (quota_reservation : Bool)
    (other : ∀ fallback, selection.fallback_model = some fallback → model ≠ fallback) :
    (open_stream G quota_reservation selection model).Meets (retries G known) l .start (Gives fun _ _ _ => True) := by
  have still : ∀ op g, Closing op → op.kind = .stream →
      (call op).Keeps (retries G known) (Still g) fun _ => True := by
    intro op g closing stream
    apply keeps_perform
    rintro l _ rfl
    cases op with
    | send => exact absurd closing id
    | build_request | aclose | streaming_response => exact ⟨trivial, fun _ _ _ _ => ⟨rfl, fun _ _ => trivial⟩⟩
    | _ => cases stream
  have free : ∀ op, Closing op → Free (retries G known) (call op) := fun op closing => free_call op fun g =>
    lenient g op closing
  apply gives_bind ((still (.build_request model) .start trivial rfl).gives rfl)
  rintro _ l _ rfl
  apply gives_bind (((still_frame Calls.start).mark_executed (fun _ _ _ => id) (by decide : Silent .execute)).gives rfl)
  rintro _ l _ rfl
  apply gives_bind (call_gives (.send model) ⟨rfl, .inl rfl⟩ fun _ _ => rfl :
    (call (.send model)).Meets (retries G known) l .start
      (Gives fun status_code _ g => g = ⟨0, [], [(model, decide (status_code ≥ 500))]⟩))
  rintro status_code l _ rfl
  apply gives_bind (Q := fun _ _ _ => True)
  · unfold stream_fallback
    cases listed : selection.fallback_model.filter fun model => (target_of G (some model)).isSome with
    | none => trivial
    | some fallback =>
        have named := other fallback (Option.filter_eq_some_iff.mp listed).1
        by_cases failed : status_code ≥ 500
        · dsimp only
          rw [if_pos failed, decide_eq_true failed]
          apply gives_bind ((still .aclose _ trivial rfl).gives rfl)
          rintro _ l _ rfl
          apply gives_bind (((still_frame _).step (.record_request model false false)
            (by decide : Silent .traffic)).gives rfl)
          rintro _ l _ rfl
          apply gives_bind (((still_frame _).setModel fallback).gives rfl)
          rintro _ l _ rfl
          apply gives_bind ((still (.build_request fallback) _ trivial rfl).gives rfl)
          rintro _ l _ rfl
          apply gives_bind (call_gives (.send fallback) ⟨rfl, .inr ⟨model, rfl, named⟩⟩ fun _ _ => trivial :
            (call (.send fallback)).Meets (retries G known) l _ (Gives fun _ _ _ => True))
          intro _ _ _ _
          trivial
        · dsimp only
          rw [if_neg failed]
          trivial
  · rintro ⟨status_code, selected_model, fallback_used⟩ l g _
    apply gives_bind ((free_lift (raise_for_status status_code)).gives trivial)
    intro _ l g _
    have scheduled : Free (retries G known) (schedule_shadow G selection model) := by
      unfold schedule_shadow
      cases shadow_target G selection model with
      | none => exact keeps_result
      | some shadow => exact free_call (.schedule_shadow_traffic shadow) fun _ => trivial
    apply gives_bind (scheduled.gives trivial)
    intro _ l g _
    exact gives_bind ((free .streaming_response trivial).gives trivial) fun _ _ _ _ => trivial

theorem complete_free (quota_reservation : Bool) (selection : Selection) (selected : String) (completion : Completion) :
    Free (retries G known) (complete G quota_reservation selection selected completion) := by
  have frame : Frame (retries G known) (fun _ _ => True) (fun _ => True) Elsewhere := free_frame lenient
  have free : ∀ op, Closing op → Free (retries G known) (call op) := fun op closing => free_call op fun g =>
    lenient g op closing
  apply (free_lift completion.response.json).bind
  intro content
  apply (free (.routing_signal completion.model) trivial).bind
  intro signal
  apply (free_lift (asDict content)).bind
  intro entries
  apply (free (.request_cost (entries.orNone "usage") completion.model) trivial).bind
  intro estimated_cost
  apply (frame.reconcile_quota (by decide : Elsewhere .quota) _ _ _).bind
  intro _
  apply (free_settle lenient _).bind
  intro _
  have scheduled : Free (retries G known) (schedule_shadow G selection selected) := by
    unfold schedule_shadow
    cases shadow_target G selection selected with
    | none => exact keeps_result
    | some shadow => exact free_call (.schedule_shadow_traffic shadow) fun _ => trivial
  apply scheduled.bind
  intro _
  apply (free (.record_decision completion.model .executed) trivial).bind
  intro _
  apply (Keeps.when fun _ => free .submit_evaluation trivial).bind
  intro _
  apply (Keeps.when fun _ => free (.emit completion.model) trivial).bind
  intro _
  apply (free_slots lenient).bind
  intro _
  exact (free (.json_response _) trivial).bind fun _ => keeps_result

theorem dispatch_gives {key : Model} {selection : Selection} (chosen : Chosen G key selection)
    (quota_reservation stream : Bool) {l : Locals} :
    (dispatch G quota_reservation stream selection).Meets (retries G known) l .start (Gives fun _ _ _ => True) := by
  unfold dispatch
  cases selected : selection.model.filter fun model => (G.target model).isSome with
  | none => exact ((free_settle lenient .release).bind fun _ => keeps_raise trivial).gives trivial
  | some model =>
      have other : ∀ fallback, selection.fallback_model = some fallback → model ≠ fallback := by
        intro fallback listed same
        apply chosen.other fallback listed
        rw [(Option.filter_eq_some_iff.mp selected).1, same]
      apply gives_bind (((still_frame Calls.start).setModel model).gives rfl)
      rintro _ l _ rfl
      apply gives_bind (Q := fun _ _ _ => True)
      · apply gives_catching _ (fun _ _ => trivial : ∀ (_ : Locals) (_ : Calls), True) (upstream_error_raises lenient)
        cases stream with
        | true => exact open_stream_gives quota_reservation other
        | false => exact forward_gives other
      · intro upstream l g _
        cases upstream with
        | streaming opened => trivial
        | answered completion => exact (complete_free quota_reservation selection model completion).gives trivial

theorem govern_and_select_gives (request_id : String) (key : Model) {l : Locals} :
    (govern_and_select G request_id key).Meets (retries G known) l .start
      (Gives fun chosen _ g => g = .start ∧ Chosen G key chosen) := by
  have frame : Frame (retries G known) (Still .start) (fun _ => True) Silent := still_frame .start
  have governed : (when G.governance_active (do
      catching Exc.isException (call .enforce_governance) fun e => do
        refund_quota G.has_tenant_store
        raise e
      when G.has_runtime_config (call .observe_policy) : Handler Unit)).Keeps (retries G known) (Still .start)
        fun _ => True := by
    apply Keeps.when
    intro _
    apply (Frame.handled (frame.step .enforce_governance (by decide : Silent .governance)) ?_).bind
    · intro _
      exact Keeps.when fun _ => frame.step .observe_policy (by decide : Silent .governance)
    · intro e _
      exact (frame.refund_quota (by decide : Silent .quota) _).bind fun _ => keeps_raise trivial
  apply gives_bind (governed.gives rfl)
  intro _ l g still
  exact select_backend_gives frame (by decide : Silent .breaker) (by decide : Silent .health) still request_id key

theorem chat_completions_admitted_gives (request_id : String) (payload : Entries) (key : Model) {l : Locals} :
    (chat_completions_admitted G request_id payload key).Meets (retries G known) l .start
      (Gives fun _ _ _ => True) := by
  have frame : Frame (retries G known) (Still .start) (fun _ => True) Silent := still_frame .start
  have estimated : ∀ model input output,
      (estimate_spend G model input output).Keeps (retries G known) (Still .start) fun _ => True := by
    intro model input output
    unfold estimate_spend
    cases G.target model with
    | none => exact keeps_result
    | some target => exact frame.step (.estimated_spend target _ _) (by decide : Silent .quota)
  apply gives_bind ((estimated _ _ _).gives rfl)
  rintro spend_usd l _ rfl
  apply gives_bind ((frame.reserve_budget (fun _ _ _ => id) (by decide : Silent .reserve) _ _ _).gives rfl)
  rintro _ l _ rfl
  apply gives_bind ((Keeps.when fun _ => frame.step (.reserve_request _ _ _) (by decide : Silent .quota)).gives rfl)
  rintro _ l _ rfl
  apply gives_bind (Q := fun chosen _ g => g = .start ∧ Chosen G key chosen)
  · apply gives_catching _ (fun _ _ => trivial : ∀ (_ : Locals) (_ : Calls), True)
    · intro e
      exact (free_settle lenient .release).bindRaises fun _ => raises_raise
    · exact govern_and_select_gives request_id key
  · rintro selection l _ ⟨rfl, chosen⟩
    exact dispatch_gives chosen _ _

theorem serve_gives (request_id : String) {l : Locals} :
    (serve G request_id).Meets (retries G known) l .start (Gives fun _ _ _ => True) := by
  have frame : Frame (retries G known) (Still .start) (fun _ => True) Silent := still_frame .start
  have free : ∀ op, Closing op → Free (retries G known) (call op) := fun op closing => free_call op fun g =>
    lenient g op closing
  have completions : (chat_completions G request_id).Meets (retries G known) l .start (Gives fun _ _ _ => True) := by
    apply gives_bind ((frame.read_body (by decide : Silent .body)).gives rfl)
    rintro payload l _ rfl
    apply gives_bind ((frame.check_tenant G (by decide : Silent .tenant) _).gives rfl)
    rintro key l _ rfl
    apply gives_bind ((frame.step .reject_if_draining (by decide : Silent .tenant)).gives rfl)
    rintro _ l _ rfl
    apply gives_bind ((Keeps.when fun _ => frame.global_acquire (by decide : Silent .global)).gives rfl)
    rintro _ l _ rfl
    apply gives_bind ((Keeps.when fun _ => frame.acquire_lease G (fun _ _ _ => id) (by decide : Silent .global)
      (by decide : Silent .lease) _).gives rfl)
    rintro _ l _ rfl
    apply gives_catching _ (fun _ _ => trivial : ∀ (_ : Locals) (_ : Calls), True)
    · intro e
      apply (free_abandon lenient).bindRaises
      intro _
      exact (free_slots lenient).bindRaises fun _ => raises_raise
    · exact chat_completions_admitted_gives request_id payload key
  apply gives_bind completions
  intro reply l g _
  cases reply with
  | json content => trivial
  | stream stream =>
      apply gives_bind ((free .start_body trivial).gives trivial)
      intro started l g _
      cases started with
      | true => exact (free_stream lenient stream).gives trivial
      | false => trivial

theorem replay_retries {known : Unit → Prop} (g : Calls) (steps : List (Prog.Event Op Op.Ans)) :
    (retries G known).replay g steps = steps.foldl (fun g e => g.next e.1 e.2) g := by
  induction steps generalizing g with
  | nil => rfl
  | cons e rest ih => exact ih _

theorem considers_retries {known : Unit → Prop} (g : Calls) (steps : List (Prog.Event Op Op.Ans)) :
    (retries G known).Considers g steps := by
  induction steps generalizing g with
  | nil => trivial
  | cons e rest ih => exact ⟨trivial, ih _⟩

end Retries

open Retries in
/-- Whatever its steps answer, a request calls at most two backends, and the second one only after the first has failed
in a way which asks for it, with a grant of the retry budget for a completion; a stream asks for none. -/
theorem calls_modest (G : Gateway) (request_id : String) {trace : List (Prog.Event Op Op.Ans)}
    {r : Except Exc Unit × Locals} (run : (serve G request_id .initial).Run trace r) :
    (Calls.after trace).Modest G := by
  have modest := Safe.history (P := retries G fun _ : Unit => True) (serve_gives request_id) trivial run
    (considers_retries _ _) (Calls.modest_start G) fun g op answer modest owed => Calls.modest_next modest owed answer
  rw [replay_retries] at modest
  exact modest

/-- A connection to `m` is refused; `n` answers. -/
theorem calls_modest_refused :
    (Calls.after ((serve breakingGateway "1" .initial).play refusedPrimary).1).posts = [("m", true), ("n", false)] ∧
      (Calls.after ((serve breakingGateway "1" .initial).play refusedPrimary).1).Modest breakingGateway :=
  ⟨by decide +kernel, calls_modest breakingGateway "1" (Prog.run_play _ _)⟩

/-! All requests together. -/

/-- The retry budget of the process, the last reading of its clock, and when it has granted a retry. -/
structure RetryState where
  budget : RetryBudget
  now : ℚ
  granted_at : List ℚ

def RetryState.initial (begin_ : ℚ) : RetryState := ⟨⟨begin_, 0⟩, begin_, []⟩

/-- A step at a reading of the clock, which is monotonic. -/
def spend (max_retries_per_minute : ℕ) : Exec ℚ RetryState Op Op.Ans := fun clock s op answer =>
  if clock < s.now then none
  else match op, answer with
    | .consume, .ok allowed =>
      let (granted, budget) := s.budget.consume max_retries_per_minute clock
      if granted = allowed then some ⟨budget, clock, if granted then clock :: s.granted_at else s.granted_at⟩ else none
    | _, _ => some { s with now := clock }

namespace RetryState

/-- The grants are those which the window accounts for. -/
def Accounted (max_retries_per_minute : ℕ) (begin_ : ℚ) (s : RetryState) : Prop :=
  FixedWindow.Accounted 60 max_retries_per_minute begin_ s.now s.budget.window s.granted_at

variable {max_retries_per_minute : ℕ} {begin_ clock : ℚ} {s s' : RetryState} {g : Calls} {op : Op} {answer : op.Ans}

/-- What a step does to the budget: it waits, or it grants a retry, or it refuses one. -/
theorem spend_cases (done : spend max_retries_per_minute clock s op answer = some s') :
    s.now ≤ clock ∧ (((g.next op answer).granted = g.granted ∧ s' = { s with now := clock }) ∨
      ∃ granted, (s.budget.consume max_retries_per_minute clock).1 = granted ∧
        (g.next op answer).granted = g.granted + (if granted then 1 else 0) ∧
        s' = ⟨(s.budget.consume max_retries_per_minute clock).2, clock,
          if granted then clock :: s.granted_at else s.granted_at⟩) := by
  unfold spend at done
  by_cases early : clock < s.now
  · rw [if_pos early] at done
    cases done
  · rw [if_neg early] at done
    refine ⟨not_lt.mp early, ?_⟩
    cases op with
    | consume =>
        cases answer with
        | error e =>
            cases done
            exact .inl ⟨rfl, rfl⟩
        | ok allowed =>
            refine .inr ⟨allowed, ?_⟩
            by_cases same : (s.budget.consume max_retries_per_minute clock).1 = allowed
            · simp only [same, if_true, Option.some.injEq] at done
              refine ⟨same, ?_, done.symm⟩
              cases allowed with
              | true => rfl
              | false => rfl
            · simp only [same, if_false] at done
              cases done
    | send model =>
        cases done
        cases answer with
        | ok status_code => exact .inl ⟨rfl, rfl⟩
        | error e => exact .inl ⟨rfl, rfl⟩
    | _ =>
        cases done
        exact .inl ⟨rfl, rfl⟩

theorem accounted_step (accounted : s.Accounted max_retries_per_minute begin_)
    (done : spend max_retries_per_minute clock s op answer = some s') : s'.Accounted max_retries_per_minute begin_ := by
  obtain ⟨le, ⟨_, rfl⟩ | ⟨granted, same, _, rfl⟩⟩ := spend_cases (g := .start) done
  · exact FixedWindow.Accounted.wait accounted le
  · have taken := (FixedWindow.Accounted.wait accounted le).take (by norm_num)
    rw [RetryBudget.consume_take, same] at taken
    exact taken

end RetryState

/-- Every grant of the budget is one of a request, and every request stays within what it may call. -/
def Tallied (G : Gateway) (s : RetryState) (gs : List Calls) : Prop :=
  s.granted_at.length = (gs.map Calls.granted).sum ∧ ∀ g ∈ gs, g.Modest G

theorem tallied_fresh {G : Gateway} (s : RetryState) (gs : List Calls) (tallied : Tallied G s gs) :
    Tallied G s (gs ++ [.start]) := by
  refine ⟨by rw [tallied.1, List.map_append, List.sum_append]; rfl, fun g member => ?_⟩
  rcases List.mem_append.mp member with old | new
  · exact tallied.2 g old
  · rw [List.mem_singleton.mp new]
    exact Calls.modest_start G

theorem tallied_next {G : Gateway} {max_retries_per_minute : ℕ} {clock : ℚ} {s s' : RetryState}
    {before after : List Calls} {g : Calls} {op : Op} {answer : op.Ans} (owed : Calls.Owes G g op)
    (done : spend max_retries_per_minute clock s op answer = some s') (tallied : Tallied G s (before ++ g :: after)) :
    Tallied G s' (before ++ g.next op answer :: after) := by
  refine ⟨?_, fun g' member => ?_⟩
  · have total := tallied.1
    simp only [List.map_append, List.map_cons, List.sum_append, List.sum_cons] at total ⊢
    obtain ⟨_, ⟨same, rfl⟩ | ⟨granted, _, same, rfl⟩⟩ := RetryState.spend_cases (g := g) done
    · rw [same]
      exact total
    · rw [same]
      cases granted with
      | true =>
          simp only [if_true, List.length_cons]
          omega
      | false =>
          simp only [if_false, Bool.false_eq_true]
          omega
  · rcases List.mem_append.mp member with old | here
    · exact tallied.2 g' (List.mem_append_left _ old)
    · rcases List.mem_cons.mp here with rfl | old
      · exact Calls.modest_next (tallied.2 g (List.mem_append_right _ List.mem_cons_self)) owed answer
      · exact tallied.2 g' (List.mem_append_right _ (List.mem_cons_of_mem _ old))

/-- With a retry budget, a request posts at most once more than it has grants. -/
theorem posts_le {G : Gateway} (budgeted : G.has_retry_budget = true) {gs : List Calls} (modest : ∀ g ∈ gs, g.Modest G) :
    (gs.map fun g => g.posts.length).sum ≤ gs.length + (gs.map Calls.granted).sum := by
  induction gs with
  | nil => exact le_refl 0
  | cons g rest ih =>
      have here := (modest g List.mem_cons_self).budgeted budgeted
      have later := ih fun g member => modest g (List.mem_cons_of_mem _ member)
      simp only [List.map_cons, List.sum_cons, List.length_cons] at later ⊢
      omega

abbrev RetryPool := Pool RetryState Op Op.Ans (Except Exc Unit × Locals) Calls

/-- However the requests of a process are interleaved, they post at most once for each of them and once for each grant
of the retry budget; there are no more grants than the windows allow which have begun, and no minute has more of them
than two windows. -/
theorem retries_bounded (G : Gateway) (budgeted : G.has_retry_budget = true) (max_retries_per_minute : ℕ) (begin_ : ℚ)
    {p : RetryPool} (reached : Reach (spend max_retries_per_minute)
      (retries G (RetryState.Accounted max_retries_per_minute begin_)) (requests G) (.initial begin_) p) :
    (p.tasks.map fun t => t.history.posts.length).sum ≤ p.tasks.length + p.shared.granted_at.length ∧
      p.shared.granted_at.length ≤ max_retries_per_minute * (⌊(p.shared.now - begin_) / 60⌋₊ + 1) ∧
      ∀ first, FixedWindow.between p.shared.granted_at first (first + 60) ≤ 2 * max_retries_per_minute := by
  have known : (RetryState.initial begin_).Accounted max_retries_per_minute begin_ :=
    FixedWindow.accounted_start 60 max_retries_per_minute begin_
  have stable : Stable (spend max_retries_per_minute)
      (retries G (RetryState.Accounted max_retries_per_minute begin_)) :=
    fun _ _ _ _ _ _ accounted _ _ done => RetryState.accounted_step accounted done
  have begins : ∀ program, requests G program →
      Safe (retries G (RetryState.Accounted max_retries_per_minute begin_)) program Calls.start fun _ _ => True := by
    rintro _ ⟨request_id, rfl⟩
    exact Safe.mono (Retries.serve_gives request_id) fun _ _ _ => trivial
  have accounted := (reached.safe known stable begins).1
  have tallied := reached.linked (J := Tallied G) known stable begins ⟨rfl, fun _ bad => absurd bad List.not_mem_nil⟩
    tallied_fresh fun _ _ _ _ _ _ _ _ _ owed _ done => tallied_next owed done
  refine ⟨?_, accounted.length_le (by norm_num), accounted.span⟩
  have posts := posts_le budgeted tallied.2
  rw [← tallied.1, List.map_map, List.length_map] at posts
  exact posts

/-- A gateway with a circuit breaker, a failover route and a retry budget. -/
def budgetedGateway : Gateway := { breakingGateway with has_retry_budget := true }

/-- The same, with no retry left in the budget. -/
def refusedRetry : (op : Op) → op.Ans
  | .consume => .ok false
  | op => refusedPrimary op

/-- What two requests, to each of which a connection is refused, do to a budget of one retry. -/
def bothRefused : Option (Calls × Calls) :=
  (drive (spend 1) (retries budgetedGateway (RetryState.Accounted 1 0)) 7 (.initial 0) .start
    ((serve budgetedGateway "1" .initial).play refusedPrimary).1).bind fun r =>
  (drive (spend 1) (retries budgetedGateway (RetryState.Accounted 1 0)) 8 r.1 .start
    ((serve budgetedGateway "2" .initial).play refusedRetry).1).map fun r' => (r.2, r'.2)

theorem retries_bounded_refused : ∃ p : RetryPool,
    (p.tasks.map fun t => t.history.posts) = [[("m", true), ("n", false)], [("m", true)]] ∧
    (p.tasks.map fun t => t.history.posts.length).sum ≤ p.tasks.length + p.shared.granted_at.length ∧
    p.shared.granted_at.length ≤ 1 * (⌊(p.shared.now - 0) / 60⌋₊ + 1) := by
  have driven : bothRefused = some (⟨1, [("m", true), ("n", false)], []⟩, ⟨0, [("m", true)], []⟩) := by decide +kernel
  obtain ⟨⟨s, g⟩, first, driven⟩ := Option.bind_eq_some_iff.mp driven
  obtain ⟨⟨s', g'⟩, second, same⟩ := Option.map_eq_some_iff.mp driven
  obtain ⟨rfl, rfl⟩ := Prod.mk.inj same
  have alone : Reach (spend 1) (retries budgetedGateway (RetryState.Accounted 1 0)) (requests budgetedGateway)
      (.initial 0) _ := Reach.alone ⟨"1", rfl⟩ refusedPrimary first
  have another : requests budgetedGateway (serve budgetedGateway "2" .initial) := ⟨"2", rfl⟩
  have reached := Reach.driven [_] [] (Prog.run_play refusedRetry _) second (alone.step (.start another))
  have bounded := retries_bounded budgetedGateway rfl 1 0 reached
  exact ⟨_, rfl, bounded.1, bounded.2.1⟩

end RuntimePlatform.Chat
