import RuntimePlatform.Chat.Slots

/-!
The probe slots of the circuit breaker. The history of a request lists the backends whose
half-open slot it has taken and whose outcome it has not recorded; a circuit is half-open
only while some request owes an outcome for it.
-/

namespace RuntimePlatform.Chat
open Python Coroutine Coroutine.Session

/-- The shared state, with the clock of the last failure recorded for each backend. -/
structure Watched where
  shared : Shared
  last_failure : Model → Option ℚ

def watch (limits : AdmissionLimits) (config : BreakerConfig) : Coroutine.Exec ℚ Watched Op Op.Ans :=
  fun clock w op answer => (exec limits config clock w.shared op answer).map fun shared =>
    ⟨shared, match op with
      | .record_failure model => Function.update w.last_failure (some model) (some clock)
      | _ => w.last_failure⟩

/-- The slots a request has taken without an outcome. -/
structure Probing where
  owed : List Model
  deriving DecidableEq, Repr

namespace Probing

def start : Probing := ⟨[]⟩

def next (w : Watched) (g : Probing) : (op : Op) → op.Ans → Probing
  | .allow model, .ok true => if w.shared.breaker.stateOf model = .CLOSED then g else ⟨model :: g.owed⟩
  | .record_success model, _ | .record_failure model, _ => ⟨g.owed.filter fun owed => decide (owed ≠ some model)⟩
  | _, _ => g

/-- Outcomes are recorded only for backends with a target. -/
def must (G : Gateway) : Op → Prop
  | .record_success model | .record_failure model => (G.target model).isSome
  | _ => True

/-- A step on the way to an outcome: the backend is healthy enough, admitted again, within the retry
budget, not asked for a stream, and answers or fails as `httpx` fails; no other step raises. -/
def goesOn : (op : Op) → op.Ans → Bool
  | .meets_score _ _, .ok yes | .allow _, .ok yes | .consume, .ok yes => yes
  | .build_request _, _ => false
  | .post _, .error (.http _) => true
  | _, .error _ => false
  | _, .ok _ => true

/-- A request which has taken a slot goes on to learn an outcome. -/
def proceeds (g : Probing) (op : Op) (answer : op.Ans) : Bool := g.owed.isEmpty || goesOn op answer

end Probing

/-- What holds of the breaker throughout: backends without a target stay closed, and an open
circuit was opened by the last failure. -/
structure BreakerSound (G : Gateway) (config : BreakerConfig) (w : Watched) : Prop where
  untargeted : ∀ model, (model.bind G.target).isNone → w.shared.breaker.stateOf model = .CLOSED
  opened : ∀ model, w.shared.breaker.stateOf model = .OPEN → ∃ t, w.shared.breaker.opened_at model = some t ∧
    w.last_failure model = some t ∧ config.failure_threshold ≤ (w.shared.breaker.failures model).getD 0

def probeProtocol (G : Gateway) (config : BreakerConfig) (condition : Probing → (op : Op) → op.Ans → Bool) :
    Protocol Watched Op Op.Ans Probing where
  start := .start
  next := Probing.next
  known := BreakerSound G config
  must _ := Probing.must G
  may _ g op answer := op.possible answer = true ∧ condition g op answer = true

instance (G : Gateway) (config : BreakerConfig) (condition : Probing → (op : Op) → op.Ans → Bool) (w : Watched)
    (g : Probing) (op : Op) (answer : op.Ans) : Decidable ((probeProtocol G config condition).may w g op answer) :=
  inferInstanceAs (Decidable (_ ∧ _))

variable {G : Gateway} {limits : AdmissionLimits} {config : BreakerConfig} {clock : ℚ} {w w' : Watched}
  {g : Probing} {op : Op} {answer : op.Ans}

/-! One step, seen from the breaker. -/

/-- A step which is no breaker call leaves the breaker and its failures alone. -/
theorem watch_aside (aside : op.kind ≠ .breaker) (done : watch limits config clock w op answer = some w') :
    w'.shared.breaker = w.shared.breaker ∧ w'.last_failure = w.last_failure := by
  obtain ⟨shared, performed, rfl⟩ := Option.map_eq_some_iff.mp done
  constructor
  · unfold exec at performed
    split at performed
    case h_1 =>
        obtain ⟨_, same⟩ := Option.ite_none_left_eq_some.mp performed
        cases same
        rfl
    case h_2 =>
        obtain ⟨_, same⟩ := Option.ite_none_right_eq_some.mp performed
        cases same
        rfl
    case h_3 =>
        obtain ⟨_, same⟩ := Option.ite_none_right_eq_some.mp performed
        cases same
        rfl
    case h_7 | h_8 | h_9 => exact absurd rfl aside
    all_goals
        cases performed
        rfl
  · cases op with
    | record_failure model => exact absurd rfl aside
    | _ => rfl

theorem watch_allow {model : Model} {allowed : Bool}
    (done : watch limits config clock w (.allow model) (.ok allowed) = some w') :
    w'.last_failure = w.last_failure ∧
      CircuitBreaker.Allowing config w.shared.breaker clock model allowed w'.shared.breaker := by
  obtain ⟨shared, performed, rfl⟩ := Option.map_eq_some_iff.mp done
  obtain ⟨same, rest⟩ := Option.ite_none_right_eq_some.mp performed
  cases rest
  cases same
  exact ⟨rfl, CircuitBreaker.allow_cases config w.shared.breaker clock model⟩

/-- A breaker call which touches one backend and treats that one soundly. -/
theorem sound_update (model : Model) (sound : BreakerSound G config w)
    (others : ∀ other, other ≠ model → w'.shared.breaker.stateOf other = w.shared.breaker.stateOf other ∧
      w'.shared.breaker.opened_at other = w.shared.breaker.opened_at other ∧
      w'.shared.breaker.failures other = w.shared.breaker.failures other ∧
      w'.last_failure other = w.last_failure other)
    (untargeted : (model.bind G.target).isNone → w'.shared.breaker.stateOf model = .CLOSED)
    (opened : w'.shared.breaker.stateOf model = .OPEN → ∃ t, w'.shared.breaker.opened_at model = some t ∧
      w'.last_failure model = some t ∧ config.failure_threshold ≤ (w'.shared.breaker.failures model).getD 0) :
    BreakerSound G config w' := by
  constructor
  · intro other none
    by_cases same : other = model
    · subst same
      exact untargeted none
    · rw [(others other same).1]
      exact sound.untargeted other none
  · intro other isOpen
    by_cases same : other = model
    · subst same
      exact opened isOpen
    · obtain ⟨state, opened_at, failures, last⟩ := others other same
      rw [state] at isOpen
      rw [opened_at, failures, last]
      exact sound.opened other isOpen

theorem sound_allow {model : Model} {allowed : Bool} (sound : BreakerSound G config w)
    (done : watch limits config clock w (.allow model) (.ok allowed) = some w') : BreakerSound G config w' := by
  obtain ⟨last, allowing⟩ := watch_allow done
  obtain ⟨⟨admission, breaker⟩, last_failure⟩ := w'
  simp only at last allowing
  subst last
  cases allowing with
  | closed | unopened | early | full => exact ⟨sound.untargeted, sound.opened⟩
  | recovered state opened at_ late =>
      refine sound_update model sound (fun other different => ?_) (fun none => ?_) fun isOpen => ?_
      · exact ⟨CircuitBreaker.stateOf_enterHalfOpen_ne different, rfl, rfl, rfl⟩
      · rw [sound.untargeted model none] at state
        cases state
      · rw [CircuitBreaker.stateOf_enterHalfOpen] at isOpen
        cases isOpen
  | slot => exact ⟨sound.untargeted, sound.opened⟩

theorem sound_success {model : String} {answer : Except Exc Unit} (sound : BreakerSound G config w)
    (targeted : (G.target model).isSome) (done : watch limits config clock w (.record_success model) answer = some w')
    (answered : answer = .ok ()) : BreakerSound G config w' := by
  subst answered
  cases done
  refine sound_update (some model) sound (fun other different => ?_) (fun none => ?_) fun isOpen => ?_
  · refine ⟨CircuitBreaker.stateOf_record_success_ne different, ?_, ?_, rfl⟩
    · exact Function.update_of_ne different _ _
    · exact Function.update_of_ne different _ _
  · exact absurd targeted (by simpa using none)
  · change CircuitBreaker.stateOf _ _ = _ at isOpen
    rw [CircuitBreaker.stateOf_record_success] at isOpen
    cases isOpen

theorem sound_failure {model : String} (sound : BreakerSound G config w) (targeted : (G.target model).isSome)
    (done : watch limits config clock w (.record_failure model) (.ok ()) = some w') : BreakerSound G config w' := by
  cases done
  have opens : ∀ failures, config.failure_threshold ≤ failures → BreakerSound G config
      ⟨⟨w.shared.admission, w.shared.breaker.openAt clock (some model) failures⟩,
        Function.update w.last_failure (some model) (some clock)⟩ := by
    intro failures enough
    refine sound_update (some model) sound (fun other different => ?_) (fun none => ?_) fun _ => ?_
    · refine ⟨CircuitBreaker.stateOf_openAt_ne failures different, ?_, ?_, ?_⟩
      · exact Function.update_of_ne different _ _
      · exact Function.update_of_ne different _ _
      · exact Function.update_of_ne different _ _
    · exact absurd targeted (by simpa using none)
    · refine ⟨clock, Function.update_self _ _ _, Function.update_self _ _ _, ?_⟩
      change _ ≤ (Function.update w.shared.breaker.failures (some model) (some failures) (some model)).getD 0
      rw [Function.update_self]
      exact enough
  have cases_ := CircuitBreaker.record_failure_cases config w.shared.breaker clock (some model)
  generalize w.shared.breaker.record_failure config clock (some model) = breaker at cases_
  cases cases_ with
  | probe state => exact opens _ (Nat.le_refl _)
  | opens state enough => exact opens _ enough
  | counts state few =>
      refine sound_update (some model) sound (fun other different => ?_) (fun none => ?_) fun isOpen => ?_
      · exact ⟨rfl, rfl, Function.update_of_ne different _ _, Function.update_of_ne different _ _⟩
      · exact absurd targeted (by simpa using none)
      · -- an open circuit has counted enough failures already
        obtain ⟨_, _, _, enough⟩ := sound.opened (some model) isOpen
        omega

theorem breaker_stable (condition : Probing → (op : Op) → op.Ans → Bool) :
    Stable (watch limits config) (probeProtocol G config condition) := by
  intro clock w w' g op answer sound owed may done
  by_cases aside : op.kind = .breaker
  · cases op with
    | allow model =>
        cases answer with
        | ok allowed => exact sound_allow sound done
        | error e => cases may.1
    | record_success model =>
        cases answer with
        | ok u => exact sound_success sound owed done rfl
        | error e => cases may.1
    | record_failure model =>
        cases answer with
        | ok u => exact sound_failure sound owed done
        | error e => cases may.1
    | _ => cases aside
  · obtain ⟨breaker, last⟩ := watch_aside aside done
    constructor
    · rw [breaker]
      exact sound.untargeted
    · rw [breaker, last]
      exact sound.opened

/-! The half-open circuits and the requests which owe an outcome. -/

def Probed (w : Watched) (gs : List Probing) : Prop :=
  ∀ model, w.shared.breaker.stateOf model = .HALF_OPEN → ∃ g ∈ gs, model ∈ g.owed

theorem probed_of {before after : List Probing} {g' : Probing} (probed : Probed w (before ++ g :: after))
    (kept : ∀ model, w'.shared.breaker.stateOf model = .HALF_OPEN →
      model ∈ g'.owed ∨ (w.shared.breaker.stateOf model = .HALF_OPEN ∧ (model ∈ g.owed → model ∈ g'.owed))) :
    Probed w' (before ++ g' :: after) := by
  intro model half
  rcases kept model half with owed | ⟨before_, still⟩
  · exact ⟨g', List.mem_append_right _ List.mem_cons_self, owed⟩
  · obtain ⟨h, member, owed⟩ := probed model before_
    rcases List.mem_append.mp member with left | right
    · exact ⟨h, List.mem_append_left _ left, owed⟩
    · rcases List.mem_cons.mp right with rfl | rest
      · exact ⟨g', List.mem_append_right _ List.mem_cons_self, still owed⟩
      · exact ⟨h, List.mem_append_right _ (List.mem_cons_of_mem _ rest), owed⟩

/-- A record of an outcome ends the half-open state of its backend, so only other backends matter. -/
theorem probed_record {model : String} {before after : List Probing} (probed : Probed w (before ++ g :: after))
    (ended : w'.shared.breaker.stateOf (some model) ≠ .HALF_OPEN)
    (others : ∀ other, other ≠ some model → w'.shared.breaker.stateOf other = w.shared.breaker.stateOf other) :
    Probed w' (before ++ ⟨g.owed.filter fun owed => decide (owed ≠ some model)⟩ :: after) := by
  refine probed_of probed fun other half => Or.inr ?_
  have different : other ≠ some model := by
    rintro rfl
    exact ended half
  refine ⟨(others other different).symm.trans half, fun owed => ?_⟩
  exact List.mem_filter.mpr ⟨owed, decide_eq_true different⟩

theorem probed_allow {model : Model} {allowed : Bool} {before after : List Probing}
    (probed : Probed w (before ++ g :: after))
        (done : watch limits config clock w (.allow model) (.ok allowed) = some w') :
    Probed w' (before ++ g.next w (.allow model) (.ok allowed) :: after) := by
  obtain ⟨_, allowing⟩ := watch_allow done
  have grows : ∀ other, other ∈ g.owed → other ∈ (g.next w (.allow model) (.ok allowed)).owed := by
    intro other owed
    cases allowed with
    | false => exact owed
    | true =>
        change other ∈ (if w.shared.breaker.stateOf model = .CLOSED then g else ⟨model :: g.owed⟩ : Probing).owed
        by_cases closed : w.shared.breaker.stateOf model = .CLOSED
        · rw [if_pos closed]
          exact owed
        · rw [if_neg closed]
          exact List.mem_cons_of_mem _ owed
  refine probed_of probed fun other half => ?_
  generalize w'.shared.breaker = breaker at allowing half
  cases allowing with
  | closed | unopened | early | full | slot => exact Or.inr ⟨half, grows other⟩
  | recovered state opened at_ late =>
      by_cases same : other = model
      · subst same
        refine Or.inl ?_
        change other ∈ (if w.shared.breaker.stateOf other = .CLOSED then g else ⟨other :: g.owed⟩ : Probing).owed
        rw [if_neg (by rw [state]; decide)]
        exact List.mem_cons_self
      · rw [CircuitBreaker.stateOf_enterHalfOpen_ne same] at half
        exact Or.inr ⟨half, grows other⟩

theorem probed_next {condition : Probing → (op : Op) → op.Ans → Bool} {before after : List Probing}
    (may : (probeProtocol G config condition).may w g op answer)
    (done : watch limits config clock w op answer = some w') (probed : Probed w (before ++ g :: after)) :
    Probed w' (before ++ g.next w op answer :: after) := by
  by_cases aside : op.kind = .breaker
  · cases op with
    | allow model =>
        cases answer with
        | ok allowed => exact probed_allow probed done
        | error e => cases may.1
    | record_success model =>
        cases answer with
        | ok u =>
            cases done
            refine probed_record probed ?_ fun other different => CircuitBreaker.stateOf_record_success_ne different
            rw [CircuitBreaker.stateOf_record_success]
            decide
        | error e => cases may.1
    | record_failure model =>
        cases answer with
        | ok u =>
            cases done
            have failing := CircuitBreaker.record_failure_cases config w.shared.breaker clock (some model)
            refine probed_record probed ?_ fun other different => ?_
            · change CircuitBreaker.stateOf (w.shared.breaker.record_failure config clock (some model)) _ ≠ _
              generalize w.shared.breaker.record_failure config clock (some model) = breaker at failing
              cases failing with
              | probe | opens =>
                  rw [CircuitBreaker.stateOf_openAt]
                  decide
              | counts state few => exact state
            · change CircuitBreaker.stateOf (w.shared.breaker.record_failure config clock (some model)) _ = _
              generalize w.shared.breaker.record_failure config clock (some model) = breaker at failing
              cases failing with
              | probe | opens => exact CircuitBreaker.stateOf_openAt_ne _ different
              | counts state few => rfl
        | error e => cases may.1
    | _ => cases aside
  · obtain ⟨breaker, _⟩ := watch_aside aside done
    have same : g.next w op answer = g := by
      cases op with
      | allow | record_success | record_failure => exact absurd rfl aside
      | _ => rfl
    rw [same]
    intro model half
    rw [breaker] at half
    exact probed model half

/-! One request records what it owes. -/

abbrev probing (G : Gateway) (config : BreakerConfig) := probeProtocol G config Probing.proceeds

/-- Nothing is owed. -/
def Paid (_ : Locals) (g : Probing) : Prop := g.owed = []

def NoBreaker (kind : Kind) : Prop := kind ≠ .breaker

instance (kind : Kind) : Decidable (NoBreaker kind) := inferInstanceAs (Decidable (_ ≠ _))

theorem noBreaker_of_unlisted (kind : Kind) (unlisted : kind ∉ [.breaker, .reserve]) : NoBreaker kind :=
  fun same => unlisted (same ▸ List.mem_cons_self)

theorem next_aside (aside : NoBreaker op.kind) : g.next w op answer = g := by
  cases op with
  | allow | record_success | record_failure => exact absurd rfl aside
  | _ => rfl

theorem must_aside (aside : NoBreaker op.kind) : Probing.must G op := by
  cases op with
  | record_success | record_failure => exact absurd rfl aside
  | _ => trivial

theorem paid_frame : Frame (probing G config) Paid (fun _ => True) NoBreaker where
  step op aside := by
    refine keeps_perform fun l g paid => ⟨must_aside aside, fun w answer _ _ => ⟨?_, fun _ _ => trivial⟩⟩
    change (g.next w op answer).owed = []
    rw [next_aside aside]
    exact paid
  expected _ _ := trivial
  model _ _ _ paid := paid

/-- What a request may owe when it goes on to a backend: an outcome for this one. -/
def OwesOnly (G : Gateway) (model : Model) (g : Probing) : Prop :=
  ∀ owed ∈ g.owed, owed = model ∧ (model.bind G.target).isSome ∧ G.has_circuit_breaker = true

theorem paid_owes {l : Locals} (paid : Paid l g) (model : Model) : OwesOnly G model g := by
  intro owed member
  rw [paid] at member
  exact absurd member List.not_mem_nil

theorem goesOn_of_owing (may : (probing G config).may w g op answer) (owing : g.owed ≠ []) :
    Probing.goesOn op answer = true := by
  have proceeds := may.2
  unfold Probing.proceeds at proceeds
  have some_ : g.owed.isEmpty = false := by
    cases owed : g.owed with
    | nil => exact absurd owed owing
    | cons first rest => rfl
  rw [some_, Bool.false_or] at proceeds
  exact proceeds

/-- How a check of one backend ends: an outcome may be owed when it grants. -/
def Granted (G : Gateway) (model : Model) : Except Exc Bool → Locals → Probing → Prop
  | .ok true, _, g => OwesOnly G model g
  | _, _, g => g.owed = []

theorem granted_of_paid {model : Model} {r : Except Exc Bool} {l : Locals} (paid : g.owed = []) :
    Granted G model r l g := by
  cases r with
  | error e => exact paid
  | ok yes =>
      cases yes with
      | false => exact paid
      | true => exact paid_owes (l := l) paid model

theorem circuit_allows_meets (model : Model) {l : Locals} {g : Probing} (owes : OwesOnly G model g) :
    (circuit_allows G model).Meets (probing G config) l g (Granted G model) := by
  by_cases has : G.has_circuit_breaker = true
  · unfold circuit_allows
    rw [if_pos has]
    refine meets_perform.mpr ⟨trivial, fun w answer sound may => ?_⟩
    cases answer with
    | error e => cases may.1
    | ok allowed =>
        cases allowed with
        | false =>
            change g.owed = []
            by_contra owing
            exact absurd (goesOn_of_owing may owing) Bool.false_ne_true
        | true =>
            change OwesOnly G model (if w.shared.breaker.stateOf model = .CLOSED then g else ⟨model :: g.owed⟩)
            by_cases closed : w.shared.breaker.stateOf model = .CLOSED
            · rw [if_pos closed]
              exact owes
            · rw [if_neg closed]
              intro owed member
              rcases List.mem_cons.mp member with rfl | old
              · refine ⟨rfl, ?_, has⟩
                by_contra none
                exact closed (sound.untargeted owed (by simpa using none))
              · exact owes owed old
  · unfold circuit_allows
    rw [if_neg has]
    exact owes

theorem available_meets (threshold : Option ℕ) (model : Model) {l : Locals} {g : Probing} (paid : Paid l g) :
    (available G threshold model).Meets (probing G config) l g (Granted G model) := by
  refine meets_bind.mpr ((circuit_allows_meets model (paid_owes paid model)).mono fun r l₁ g₁ granted => ?_)
  cases r with
  | error e => exact granted
  | ok allowed =>
      rw [after_ok]
      cases threshold with
      | none => exact granted
      | some threshold =>
          cases allowed with
          | false => exact granted
          | true =>
              refine meets_perform.mpr ⟨trivial, fun w answer _ may => ?_⟩
              by_cases owing : g₁.owed = []
              · exact granted_of_paid owing
              · have on := goesOn_of_owing may owing
                cases answer with
                | error e => cases on
                | ok yes =>
                    obtain rfl : yes = true := on
                    exact granted

/-- How a selection ends: at most the selected backend's outcome is owed, and nothing after an exception. -/
def Selected (G : Gateway) (r : Except Exc (Model × Bool)) (_ : Locals) (g : Probing) : Prop :=
  (∃ model rerouted, r = .ok (model, rerouted) ∧ OwesOnly G model g) ∨ g.owed = []

theorem select_health_aware_meets (route : Option ModelRoute) (primary_model : Model)
    (fallback_model : Option String) {l : Locals} {g : Probing} (paid : Paid l g) :
    (select_health_aware_backend G route primary_model fallback_model).Meets (probing G config) l g (Selected G) := by
  refine meets_bind.mpr ((available_meets _ primary_model paid).mono fun r l₁ g₁ granted => ?_)
  cases r with
  | error e => exact Or.inr granted
  | ok primary =>
      rw [after_ok]
      cases primary with
      | true => exact Or.inl ⟨primary_model, false, rfl, granted⟩
      | false =>
          cases fallback_model with
          | none => exact Or.inr granted
          | some fallback =>
              refine meets_bind.mpr ((available_meets _ (some fallback) granted).mono fun r l₂ g₂ granted => ?_)
              cases r with
              | error e => exact Or.inr granted
              | ok fallback =>
                  rw [after_ok]
                  cases fallback with
                  | true => exact Or.inl ⟨_, true, rfl, granted⟩
                  | false => exact Or.inr granted

/-- The same for the whole selection. -/
def SelectedFor (G : Gateway) (r : Except Exc Selection) (_ : Locals) (g : Probing) : Prop :=
  (∃ selection, r = .ok selection ∧ OwesOnly G selection.model g) ∨ g.owed = []

theorem select_backend_meets (request_id : String) (requested_model : Model) {l : Locals} {g : Probing}
    (paid : Paid l g) :
    (select_backend G request_id requested_model).Meets (probing G config) l g (SelectedFor G) := by
  have frame := @paid_frame G config
  refine meets_bind.mpr (meets_lift.mpr ?_)
  cases resolve_route G.sha256 (requested_model.bind G.route) request_id requested_model with
  | error e => exact Or.inr paid
  | ok resolved =>
      obtain ⟨model, fallback_model⟩ := resolved
      rw [after_ok]
      have selected : ∀ {m : Handler (Model × Bool)}, m.Meets (probing G config) l g (Selected G) →
          (catching (fun e => decide (e = .noHealthyBackend)) m fun _ => raise (.httpException 503)).Meets
            (probing G config) l g (Selected G) := by
        intro m first
        refine meets_catching.mpr (first.mono fun r l₁ g₁ selected => ?_)
        cases r with
        | ok a => exact selected
        | error e =>
            rcases selected with ⟨_, _, bad, _⟩ | none
            · cases bad
            · dsimp only
              split
              · exact Or.inr none
              · exact Or.inr none
      refine meets_bind.mpr ((selected ?_).mono fun r l₁ g₁ selected => ?_)
      · have healthy : ∀ route, (select_health_aware_backend G route model fallback_model).Meets (probing G config)
            l g (Selected G) := fun route => select_health_aware_meets route model fallback_model paid
        have costed : ∀ route weights, (select_cost_aware_backend G route weights model fallback_model).Meets
            (probing G config) l g (Selected G) := fun route weights =>
          (frame.select_cost_aware_backend G (by decide : NoBreaker .health) route weights model fallback_model).meets
            paid fun _ _ _ paid _ => Or.inr paid
        cases requested_model.bind G.route with
        | none => exact healthy none
        | some route =>
            cases policy : route.routing_policy with
            | none =>
                simp only [Option.bind_some, policy]
                exact healthy (some route)
            | some weights =>
                simp only [Option.bind_some, policy]
                exact costed route weights
      · rcases selected with ⟨model, rerouted, rfl, owes⟩ | none
        · exact Or.inl ⟨_, rfl, owes⟩
        · cases r with
          | ok a => exact Or.inr none
          | error e => exact Or.inr none

theorem govern_and_select_meets (request_id : String) (requested_model : Model) {l : Locals} {g : Probing}
    (paid : Paid l g) :
    (govern_and_select G request_id requested_model).Meets (probing G config) l g (SelectedFor G) := by
  have frame := @paid_frame G config
  refine Keeps.bindMeets (R := Paid) (X := fun _ => True) ?_ paid (fun _ _ _ paid _ => Or.inr paid)
    fun _ l₁ g₁ paid => select_backend_meets request_id requested_model paid
  refine Keeps.when fun _ => (Frame.handled (frame.step .enforce_governance (by decide)) fun e listed => ?_).bind
    fun _ => Keeps.when fun _ => frame.step .observe_policy (by decide)
  exact (frame.refund_quota (by decide) _).bind fun _ => keeps_raise listed

/-! The attempts. -/

/-- A request owes only the outcome of its first attempt. -/
def OwesFirst (G : Gateway) (listed : List (String × Bool)) (g : Probing) : Prop :=
  match listed with
  | [] => g.owed = []
  | (model, _) :: _ => OwesOnly G (some model) g

theorem owesFirst_paid {listed : List (String × Bool)} (paid : g.owed = []) : OwesFirst G listed g := by
  cases listed with
  | nil => exact paid
  | cons first rest => exact paid_owes (l := .initial) paid (some first.1)

/-- Recording an outcome for the only backend which is owed one. -/
theorem record_meets {model : String} {l : Locals} {g : Probing} (owes : OwesOnly G (some model) g)
    (targeted : (G.target model).isSome) (op : Op) (records : op = .record_success model ∨ op = .record_failure model) :
    (call op).Meets (probing G config) l g fun _ _ g' => g'.owed = [] := by
  have emptied : g.owed.filter (fun owed => decide (owed ≠ some model)) = [] := by
    refine List.filter_eq_nil_iff.mpr fun owed member => ?_
    rw [(owes owed member).1]
    exact fun kept => of_decide_eq_true kept rfl
  rcases records with rfl | rfl
  · exact meets_perform.mpr ⟨targeted, fun w answer _ _ => emptied⟩
  · exact meets_perform.mpr ⟨targeted, fun w answer _ _ => emptied⟩

theorem consume_meets {model : Model} (fallback_used : Bool) {l : Locals} {g : Probing} (owes : OwesOnly G model g) :
    (consume_retry G fallback_used).Meets (probing G config) l g (Granted G model) := by
  by_cases asked : (fallback_used && G.has_retry_budget) = true
  · unfold consume_retry
    rw [if_pos asked]
    refine meets_perform.mpr ⟨trivial, fun w answer _ may => ?_⟩
    by_cases owing : g.owed = []
    · exact granted_of_paid owing
    · have on := goesOn_of_owing may owing
      cases answer with
      | error e => cases on
      | ok yes =>
          obtain rfl : yes = true := on
          exact owes
  · unfold consume_retry
    rw [if_neg asked]
    exact owes

/-- How a call of the backend ends: an outcome is owed unless it failed in another way than `httpx` does. -/
def Posted (G : Gateway) (model : String) : Except Exc Response → Locals → Probing → Prop
  | .ok _, _, g | .error (.http _), _, g => OwesOnly G (some model) g
  | .error _, _, g => g.owed = []

theorem post_attempt_meets (model : String) {l : Locals} {g : Probing} (owes : OwesOnly G (some model) g) :
    (post_attempt model).Meets (probing G config) l g (Posted G model) := by
  refine meets_bind.mpr (meets_perform.mpr ⟨trivial, fun w answer _ may => ?_⟩)
  cases answer with
  | ok response =>
      refine after_ok.mpr (meets_bind.mpr (meets_lift.mpr ?_))
      unfold raise_for_status
      split
      · exact owes
      · exact owes
  | error e =>
      cases e with
      | http error => exact owes
      | _ =>
          change g.owed = []
          by_contra owing
          exact absurd (goesOn_of_owing may owing) Bool.false_ne_true

/-- Recording the outcome, when there is a breaker to record it in. -/
theorem recorded {α : Type} {model : String} {m : Handler α} {l : Locals} {g : Probing}
    (owes : OwesOnly G (some model) g) {step : Handler Unit}
    (records : step.Meets (probing G config) l g fun _ _ g' => g'.owed = [])
    (rest : ∀ l' g', g'.owed = [] → m.Meets (probing G config) l' g' fun _ _ g' => g'.owed = []) :
    (do when G.has_circuit_breaker step; m).Meets (probing G config) l g fun _ _ g' => g'.owed = [] := by
  refine meets_bind.mpr (Meets.mono (Q := fun _ _ g' => g'.owed = []) ?_ fun r l' g' paid => ?_)
  · refine meets_when.mpr ?_
    by_cases has : G.has_circuit_breaker = true
    · rw [if_pos has]
      exact records
    · rw [if_neg has]
      exact List.eq_nil_iff_forall_not_mem.mpr fun owed member => has (owes owed member).2.2
  · cases r with
    | ok u => exact rest l' g' paid
    | error e => exact paid

theorem attempts_meets (failed_models : List String) (listed : List (String × Bool)) {l : Locals} {g : Probing}
    (targeted : ∀ first ∈ listed, (G.target first.1).isSome) (owes : OwesFirst G listed g) :
    (attempts G failed_models listed).Meets (probing G config) l g fun _ _ g' => g'.owed = [] := by
  induction listed generalizing failed_models l g with
  | nil => exact owes
  | cons first rest ih =>
      obtain ⟨model, fallback_used⟩ := first
      have here := targeted _ List.mem_cons_self
      have later : ∀ failed_models l' g', g'.owed = [] →
          (attempts G failed_models rest).Meets (probing G config) l' g' fun _ _ g' => g'.owed = [] :=
        fun failed_models l' g' paid => ih failed_models
          (fun first member => targeted first (List.mem_cons_of_mem _ member)) (owesFirst_paid paid)
      refine meets_bind.mpr ((circuit_allows_meets (some model) owes).mono fun r l₁ g₁ granted => ?_)
      cases r with
      | error e => exact granted
      | ok allowed =>
          rw [after_ok]
          cases allowed with
          | false =>
              rw [if_neg Bool.false_ne_true]
              split
              · exact granted
              · exact later _ l₁ g₁ granted
          | true =>
              refine meets_bind.mpr ((consume_meets fallback_used granted).mono fun r l₂ g₂ granted => ?_)
              cases r with
              | error e => exact granted
              | ok retry =>
                  rw [after_ok]
                  cases retry with
                  | false => exact granted
                  | true =>
                      refine meets_bind.mpr (meets_attempt.mpr ((post_attempt_meets model granted).mono
                        fun r l₃ g₃ posted => ?_))
                      rw [after_ok]
                      cases r with
                      | ok response =>
                          exact recorded posted (record_meets posted here _ (Or.inl rfl)) fun _ _ paid => paid
                      | error e =>
                          cases e with
                          | http error =>
                              refine recorded posted (record_meets posted here _ (Or.inr rfl)) fun l g paid => ?_
                              split
                              · exact paid
                              · exact later _ l g paid
                          | _ => exact posted

/-! The whole request. -/

theorem mark_executed_meets {l : Locals} {g : Probing} :
    mark_executed.Meets (probing G config) l g fun r _ g' => r = .ok () ∧ g' = g := by
  unfold mark_executed
  refine meets_bind.mpr (meets_locals.mpr (after_ok.mpr ?_))
  cases l.reservation with
  | none => exact ⟨rfl, rfl⟩
  | some reservation =>
      refine meets_bind.mpr (meets_change.mpr (after_ok.mpr (meets_perform.mpr ⟨trivial, fun w answer _ may => ?_⟩)))
      cases answer with
      | ok u => exact ⟨rfl, rfl⟩
      | error e => cases may.1

theorem forward_meets (selection : Selection) {model : String} (targeted : (G.target model).isSome) {l : Locals}
    {g : Probing} (owes : OwesOnly G (some model) g) :
    (forward G selection model).Meets (probing G config) l g fun _ _ g' => g'.owed = [] := by
  have frame := @paid_frame G config
  refine meets_bind.mpr (mark_executed_meets.mono fun r l₁ g₁ marked => ?_)
  obtain ⟨rfl, rfl⟩ := marked
  rw [after_ok]
  unfold post_completion_with_fallback
  refine meets_bind.mpr (Meets.mono (attempts_meets [] _ ?_ ?_) fun r l₂ g₂ paid => ?_)
  · intro first member
    rcases List.mem_cons.mp member with rfl | fallback
    · exact targeted
    · obtain ⟨model, configured, rfl⟩ := List.mem_map.mp fallback
      obtain ⟨_, known⟩ := Option.filter_eq_some_iff.mp (Option.mem_toList.mp configured)
      unfold target_of at known
      cases named : (some model).filter fun model => decide (model ≠ "") with
      | none =>
          rw [named] at known
          cases known
      | some other =>
          obtain ⟨same, _⟩ := Option.filter_eq_some_iff.mp named
          cases same
          rw [named] at known
          exact known
  · exact owes
  · cases r with
    | error e => exact paid
    | ok completion =>
        have rest : (do
            record_failed completion.failed_models
            call (.record_request completion.model true (completion.fallback_used || selection.rerouted))
            result (.answered completion) : Handler Upstream).Keeps (probing G config) Paid (fun _ => True) :=
          (frame.record_failed (by decide : NoBreaker .traffic) _).bind fun _ =>
            (frame.step (.record_request _ _ _) (by decide : NoBreaker .traffic)).bind fun _ => keeps_result
        exact rest.meets paid fun _ _ _ paid _ => paid

theorem paid_blind (l : Locals) (g : Probing) (reservation : Option Reservation) (paid : Paid l g) :
    Paid { l with reservation := reservation } g := paid

theorem paid_blindLease (l : Locals) (g : Probing) (lease : Option Lease) (paid : Paid l g) :
    Paid { l with lease := lease } g := paid

/-- No stream is opened by a request which owes an outcome. -/
theorem open_stream_meets (quota_reservation : Bool) (selection : Selection) {model : String} {l : Locals}
    {g : Probing} : (open_stream G quota_reservation selection model).Meets (probing G config) l g
      fun _ _ g' => g'.owed = [] := by
  have frame := @paid_frame G config
  by_cases paid : g.owed = []
  · refine Keeps.meets (R := Paid) (X := fun _ => True) ?_ paid fun _ _ _ paid _ => paid
    refine frame.open_stream G paid_blind ?_ ?_ ?_ ?_ quota_reservation selection model
    · exact (by decide : NoBreaker .execute)
    · exact (by decide : NoBreaker .stream)
    · exact (by decide : NoBreaker .traffic)
    · exact (by decide : NoBreaker .record)
  · refine meets_bind.mpr (meets_perform.mpr ⟨trivial, fun w answer _ may => ?_⟩)
    exact absurd (goesOn_of_owing may paid) Bool.false_ne_true

theorem dispatch_meets_paid (quota_reservation stream : Bool) (selection : Selection) {l : Locals} {g : Probing}
    (owes : OwesOnly G selection.model g) :
    (dispatch G quota_reservation stream selection).Meets (probing G config) l g fun _ _ g' => g'.owed = [] := by
  have frame := @paid_frame G config
  unfold dispatch
  cases known : selection.model.filter fun model => (G.target model).isSome with
  | none =>
      have paid : g.owed = [] := by
        refine List.eq_nil_iff_forall_not_mem.mpr fun owed member => ?_
        obtain ⟨_, targeted, _⟩ := owes owed member
        cases named : selection.model with
        | none =>
            rw [named] at targeted
            cases targeted
        | some model =>
            rw [named] at known targeted
            exact Option.filter_eq_none_iff.mp known model rfl targeted
      refine Keeps.meets (R := Paid) (X := fun _ => True) ?_ paid fun _ _ _ paid _ => paid
      exact (frame.settle_once paid_blind (by decide : NoBreaker .settle) _).bind fun _ => frame.raise (by decide)
  | some model =>
      obtain ⟨named, targeted⟩ := Option.filter_eq_some_iff.mp known
      rw [named] at owes
      refine meets_bind.mpr (meets_change.mpr (after_ok.mpr ?_))
      have upstream : (if stream then open_stream G quota_reservation selection model
          else forward G selection model).Meets (probing G config) { l with model := model } g
            fun _ _ g' => g'.owed = [] := by
        cases stream with
        | true => exact open_stream_meets quota_reservation selection
        | false => exact forward_meets selection targeted owes
      refine meets_bind.mpr (meets_catching.mpr (upstream.mono fun r l₁ g₁ paid => ?_))
      have completed : ∀ (completion : Completion) (l : Locals) (g : Probing), Paid l g →
          (complete G quota_reservation selection model completion).Meets (probing G config) l g
            fun _ _ g' => g'.owed = [] := by
        intro completion l g paid
        exact (frame.complete G paid_blind paid_blindLease noBreaker_of_unlisted quota_reservation selection model
          completion).meets paid fun _ _ _ paid _ => paid
      cases r with
      | ok upstream =>
          cases upstream with
          | streaming stream => exact paid
          | answered completion => exact completed completion l₁ g₁ paid
      | error e =>
          dsimp only
          split
          · refine (frame.upstream_error paid_blind ?_ ?_ ?_ ?_ e).meets paid fun r l₂ g₂ paid _ => ?_
            · exact (by decide : NoBreaker .traffic)
            · exact (by decide : NoBreaker .settle)
            · exact (by decide : NoBreaker .health)
            · exact (by decide : NoBreaker .record)
            · cases r with
              | ok upstream =>
                  cases upstream with
                  | streaming stream => exact paid
                  | answered completion => exact completed completion l₂ g₂ paid
              | error e => exact paid
          · exact paid

theorem chat_completions_admitted_keeps (request_id : String) (payload : Entries) (requested_model : Model) :
    (chat_completions_admitted G request_id payload requested_model).Keeps (probing G config) Paid fun _ => True := by
  have frame := @paid_frame G config
  refine (frame.estimate_spend G noBreaker_of_unlisted _ _ _).bind fun spend_usd => ?_
  refine (frame.reserve_budget paid_blind (by decide : NoBreaker .reserve) _ _ _).bind fun _ => ?_
  refine (Keeps.when fun _ => frame.step (.reserve_request _ _ _) (by decide : NoBreaker .quota)).bind fun _ => ?_
  intro l g paid
  refine meets_bind.mpr (meets_catching.mpr ((govern_and_select_meets request_id requested_model paid).mono
    fun r l₁ g₁ selected => ?_))
  cases r with
  | ok selection =>
      refine after_ok.mpr (Meets.mono (dispatch_meets_paid _ _ selection ?_)
          fun _ _ _ paid => ⟨paid, fun _ _ => trivial⟩)
      rcases selected with ⟨_, same, owes⟩ | none
      · cases same
        exact owes
      · exact paid_owes (l := l₁) none selection.model
  | error e =>
      have none : Paid l₁ g₁ := by
        rcases selected with ⟨_, bad, _⟩ | none
        · cases bad
        · exact none
      have refused : (do release_budget; Session.raise e : Handler Selection).Keeps (probing G config) Paid
          fun _ => True :=
        (frame.settle_once paid_blind (by decide : NoBreaker .settle) _).bind fun _ => keeps_raise trivial
      dsimp only
      split
      · refine refused.meets none fun r l₂ g₂ paid _ => ?_
        cases r with
        | ok selection =>
            exact after_ok.mpr (Meets.mono (dispatch_meets_paid _ _ selection (paid_owes (l := l₂) paid _))
              fun _ _ _ paid => ⟨paid, fun _ _ => trivial⟩)
        | error e => exact ⟨paid, fun _ _ => trivial⟩
      · exact ⟨none, fun _ _ => trivial⟩

theorem serve_keeps_paid (request_id : String) :
    (serve G request_id).Keeps (probing G config) Paid fun _ => True :=
  paid_frame.serve G paid_blind paid_blindLease noBreaker_of_unlisted trivial request_id
    fun payload requested_model => chat_completions_admitted_keeps request_id payload requested_model

/-! All requests together. -/

abbrev ProbePool := Pool Watched Op Op.Ans (Except Exc Unit × Locals) Probing

def Watched.initial (limits : AdmissionLimits) : Watched := ⟨.initial limits, fun _ => none⟩

/-- An ended request has recorded every outcome it owed; and when no request is in flight, every backend
whose last failure is old enough is admitted. -/
def ProbesReturned (config : BreakerConfig) (p : ProbePool) : Prop :=
  (∀ t ∈ p.tasks, t.Ended → t.history.owed = []) ∧
    ((∀ t ∈ p.tasks, t.Ended) → ∀ (model : Model) (clock : ℚ),
      (∀ failed, p.shared.last_failure model = some failed → failed + config.recovery_seconds ≤ clock) →
        (p.shared.shared.breaker.allow config clock model).1 = true)

/-- Where no circuit is half-open and the open ones have waited, everything is admitted. -/
theorem allow_of_sound {model : Model} (sound : BreakerSound G config w)
    (settled : w.shared.breaker.stateOf model ≠ .HALF_OPEN)
    (late : ∀ failed, w.last_failure model = some failed → failed + config.recovery_seconds ≤ clock) :
    (w.shared.breaker.allow config clock model).1 = true := by
  have allowing := CircuitBreaker.allow_cases config w.shared.breaker clock model
  generalize (w.shared.breaker.allow config clock model).1 = allowed at allowing ⊢
  generalize (w.shared.breaker.allow config clock model).2 = breaker at allowing
  cases allowing with
  | closed | unopened | recovered | slot => rfl
  | early state opened at_ early =>
      obtain ⟨t, opened_at, last, _⟩ := sound.opened model state
      rw [at_] at opened_at
      cases opened_at
      have waited := late opened last
      exact absurd early (not_lt.mpr (le_sub_iff_add_le'.mpr waited))
  | full state used => exact absurd state settled

/-- In runs where every request with a probe slot goes on to an outcome no slot is lost. -/
theorem probe_slots_returned (G : Gateway) (limits : AdmissionLimits) (config : BreakerConfig) {p : ProbePool}
    (reached : Reach (watch limits config) (probing G config) (requests G) (.initial limits) p) :
    ProbesReturned config p := by
  have begin_ : ∀ program, requests G program → Safe (probing G config) program (probing G config).start
      fun _ g => g.owed = [] := by
    intro program request
    obtain ⟨request_id, rfl⟩ := request
    exact (serve_keeps_paid request_id).meets rfl fun _ _ _ paid _ => paid
  have known : (probing G config).known (.initial limits) := by
    refine ⟨fun model _ => rfl, fun model isOpen => ?_⟩
    cases isOpen
  obtain ⟨sound, safe⟩ := reached.safe known (breaker_stable _) begin_
  have probed : Probed p.shared (p.tasks.map Task.history) := by
    refine reached.linked known (breaker_stable _) begin_ (fun model half => ?_) (fun w gs probed model half => ?_)
      fun _ _ _ _ _ _ _ _ _ _ may done probed => probed_next may done probed
    · cases half
    · obtain ⟨g, member, owed⟩ := probed model half
      exact ⟨g, List.mem_append_left _ member, owed⟩
  have paid : ∀ t ∈ p.tasks, t.Ended → t.history.owed = [] := by
    intro t member ended
    obtain ⟨a, finished⟩ := ended
    have final := safe t member
    rw [finished] at final
    exact final
  refine ⟨paid, fun idle model clock late => allow_of_sound sound (fun half => ?_) late⟩
  obtain ⟨g, member, owed⟩ := probed model half
  obtain ⟨t, task, rfl⟩ := List.mem_map.mp member
  rw [paid t task (idle t task)] at owed
  exact absurd owed List.not_mem_nil

/-! Two requests, one after the other. -/

/-- A route to `m` with `n` as its fallback and a least health score. -/
def failoverRoute : ModelRoute where
  targets := []
  primary := some "m"
  fallback := some "n"
  min_health_score := some 50
  routing_policy := none
  shadow := none
  canary_or_failover := by decide
  weights_total none := absurd rfl none
  canary_fallback none := absurd rfl none
  failover_fallback _ := by decide
  fallback_differs _ := by decide
  health_needs_failover _ := by decide
  policy_needs_failover _ := by decide
  score_le := by decide
  shadow_named := by decide

/-- A gateway with a circuit breaker and this route. -/
def breakingGateway : Gateway where
  text := asciiText
  sha256 _ := 0
  model_targets := [("m", freeTarget), ("n", freeTarget)]
  model_routes := [("r", failoverRoute)]
  has_global_admission := false
  has_admission := false
  has_circuit_breaker := true
  has_retry_budget := false
  has_tenant_store := false
  has_runtime_config := false
  has_usage_events := false
  governance_active := false
  response_evaluation := false
  embed_routing_metadata := false
  route_targets_exist := by decide

def routed : (op : Op) → op.Ans
  | .request_json => .ok (.dict [(.str "model", .str "r")])
  | op => obliging false (.dict []) op

/-- No connection to `m`. -/
def refusedPrimary : (op : Op) → op.Ans
  | .post model => if model = "m" then .error (.http .connect) else .ok ⟨200, some (.dict [])⟩
  | op => routed op

/-- The health score of `m` is below the least one. -/
def unhealthyPrimary : (op : Op) → op.Ans
  | .meets_score model _ => .ok (decide (model ≠ some "m"))
  | op => routed op

/-- A request at 0 and one at 30, each with its answers. -/
def sequel (condition : Probing → (op : Op) → op.Ans → Bool) (config : BreakerConfig)
    (first second : (op : Op) → op.Ans) : Option (Watched × Probing × Probing) :=
  (drive (watch ⟨1, 1⟩ config) (probeProtocol breakingGateway config condition) 0 (.initial ⟨1, 1⟩) .start
    ((serve breakingGateway "1" .initial).play first).1).bind fun r =>
      (drive (watch ⟨1, 1⟩ config) (probeProtocol breakingGateway config condition) 30 r.1 .start
        ((serve breakingGateway "2" .initial).play second).1).map fun s => (s.1, r.2, s.2)

/-- The pool which two requests leave behind. -/
def sequelPool (first second : (op : Op) → op.Ans) (w : Watched) (g h : Probing) : ProbePool :=
  ⟨w, [⟨.ret ((serve breakingGateway "1" .initial).play first).2, g⟩,
    ⟨.ret ((serve breakingGateway "2" .initial).play second).2, h⟩]⟩

theorem sequel_reached {condition : Probing → (op : Op) → op.Ans → Bool} {config : BreakerConfig}
    {first second : (op : Op) → op.Ans} {w : Watched} {g h : Probing}
    (run : sequel condition config first second = some (w, g, h)) :
    Reach (watch ⟨1, 1⟩ config) (probeProtocol breakingGateway config condition) (requests breakingGateway)
      (.initial ⟨1, 1⟩) (sequelPool first second w g h) := by
  obtain ⟨⟨w₁, g₁⟩, one, rest⟩ := Option.bind_eq_some_iff.mp run
  obtain ⟨⟨w₂, g₂⟩, two, same⟩ := Option.map_eq_some_iff.mp rest
  cases same
  have alone : Reach (watch ⟨1, 1⟩ config) (probeProtocol breakingGateway config condition) (requests breakingGateway)
      (.initial ⟨1, 1⟩) ⟨w₁, [⟨.ret ((serve breakingGateway "1" .initial).play first).2, g₁⟩]⟩ :=
    Reach.alone ⟨"1", rfl⟩ first one
  exact Reach.driven [_] [] (Prog.run_play second (serve breakingGateway "2" .initial)) two
    (alone.step (.start ⟨"2", rfl⟩))

/-- The state of `m` after two requests, and what each of them owes. -/
def sequelOutcome (condition : Probing → (op : Op) → op.Ans → Bool) (config : BreakerConfig)
    (first second : (op : Op) → op.Ans) : Option (CircuitState × Option ℕ × Probing × Probing) :=
  (sequel condition config first second).map fun r =>
    (r.1.shared.breaker.stateOf (some "m"), r.1.shared.breaker.half_open_probes (some "m"), r.2)

/-- The second request probes the open circuit and closes it. -/
theorem probe_slots_returned_probing : ∃ w : Watched, w.shared.breaker.stateOf (some "m") = .CLOSED ∧
    ProbesReturned ⟨1, 30, 2⟩ (sequelPool refusedPrimary routed w ⟨[]⟩ ⟨[]⟩) := by
  have outcome : sequelOutcome Probing.proceeds ⟨1, 30, 2⟩ refusedPrimary routed =
      some (.CLOSED, none, ⟨[]⟩, ⟨[]⟩) := by decide +kernel
  obtain ⟨⟨w, g, h⟩, run, same⟩ := Option.map_eq_some_iff.mp outcome
  obtain ⟨closed, -, rfl, rfl⟩ : _ ∧ _ ∧ g = _ ∧ h = _ := by simpa only [Prod.mk.injEq] using same
  exact ⟨w, closed, probe_slots_returned breakingGateway ⟨1, 1⟩ ⟨1, 30, 2⟩ (sequel_reached run)⟩

/-- The second request takes the slot of `m`, finds it unhealthy and goes to `n`: when both requests have
ended, `m` is refused for ever. -/
theorem probe_slot_lost : ∃ p : ProbePool,
    Reach (watch ⟨1, 1⟩ ⟨1, 30, 1⟩) (probeProtocol breakingGateway ⟨1, 30, 1⟩ fun _ _ _ => true)
      (requests breakingGateway) (.initial ⟨1, 1⟩) p ∧
    (∀ t ∈ p.tasks, t.Ended) ∧
    (∀ clock, (p.shared.shared.breaker.allow ⟨1, 30, 1⟩ clock (some "m")).1 = false) ∧
    ¬ ProbesReturned ⟨1, 30, 1⟩ p := by
  have outcome : sequelOutcome (fun _ _ _ => true) ⟨1, 30, 1⟩ refusedPrimary unhealthyPrimary =
      some (.HALF_OPEN, some 1, ⟨[]⟩, ⟨[some "m"]⟩) := by decide +kernel
  obtain ⟨⟨w, g, h⟩, run, same⟩ := Option.map_eq_some_iff.mp outcome
  obtain ⟨half, used, -⟩ : _ ∧ _ ∧ _ := by simpa only [Prod.mk.injEq] using same
  have ended : ∀ t ∈ (sequelPool refusedPrimary unhealthyPrimary w g h).tasks, t.Ended := by
    intro t member
    rcases List.mem_cons.mp member with rfl | other
    · exact ⟨_, rfl⟩
    · rw [List.mem_singleton.mp other]
      exact ⟨_, rfl⟩
  have refused : ∀ clock, (w.shared.breaker.allow ⟨1, 30, 1⟩ clock (some "m")).1 = false := by
    intro clock
    unfold CircuitBreaker.allow
    rw [half]
    simp only [used, Option.getD_some, ge_iff_le, le_refl, if_true]
  refine ⟨_, sequel_reached run, ended, refused, fun returned => ?_⟩
  have admitted := returned.2 ended (some "m") ((w.last_failure (some "m")).getD 0 + 30) fun failed last => by
    change w.last_failure (some "m") = some failed at last
    rw [last]
    exact le_refl _
  rw [show (sequelPool refusedPrimary unhealthyPrimary w g h).shared = w from rfl, refused] at admitted
  cases admitted

end RuntimePlatform.Chat
