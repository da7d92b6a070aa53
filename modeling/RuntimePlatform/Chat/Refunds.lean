import RuntimePlatform.Chat.Estimates
import RuntimePlatform.Tenant.Reports

/-!
What a chat request which reaches no model leaves on the tenant store. The quota is reserved before governance is
asked, and refunded where governance raises; every other error on the way to a model keeps it.
-/

namespace RuntimePlatform.Chat
open Python Coroutine Coroutine.Session
open Tenant hiding Event

/-- A step which calls a model. -/
def Op.upstream : Op → Bool
  | post _ | send _ => true
  | _ => false

/-- A step on the tenant store. -/
def Op.onQuota : Op → Bool
  | reserve_request _ _ _ | refund_reservation | reconcile_usage _ _ => true
  | _ => false

/-- Governance has raised, and was not cancelled. -/
def denies : (op : Op) → op.Ans → Bool
  | .enforce_governance, .error e => e.isException
  | _, _ => false

/-- A kind of step which neither asks governance nor goes to the tenant store. -/
def Uncounted (kind : Kind) : Prop := kind ≠ .quota ∧ kind ≠ .governance

instance (kind : Kind) : Decidable (Uncounted kind) := inferInstanceAs (Decidable (_ ∧ _))

/-- The history of the steps on the tenant store, and whether governance has raised, while no model is called. -/
def quotas : Protocol Unit Op Op.Ans (List (Prog.Event Op Op.Ans) × Bool) where
  start := ([], false)
  next _ g op answer := (g.1 ++ if op.onQuota then [⟨op, answer⟩] else [], g.2 || denies op answer)
  known _ := True
  must _ _ := True
  may _ _ op _ := op.upstream = false

/-- What a request has done on the tenant store when it ends and no model was called. -/
inductive Exits : List (Prog.Event Op Op.Ans) × Bool → Prop
  | unreserved (denied : Bool) : Exits ([], denied)
  | reserved (input_tokens output_tokens : ℤ) (spend_usd : Double) (answer : Except Exc Unit)
    (input : 0 < input_tokens) (output : 0 < output_tokens) :
    Exits ([⟨.reserve_request input_tokens output_tokens spend_usd, answer⟩], false)
  | refunded (input_tokens output_tokens : ℤ) (spend_usd : Double) (answer : Except Exc Unit)
    (input : 0 < input_tokens) (output : 0 < output_tokens) :
    Exits ([⟨.reserve_request input_tokens output_tokens spend_usd, .ok ()⟩, ⟨.refund_reservation, answer⟩], true)

variable {G : Gateway} {h : List (Prog.Event Op Op.Ans) × Bool}

theorem quotas_replay (g : List (Prog.Event Op Op.Ans) × Bool) (trace : List (Prog.Event Op Op.Ans)) :
    quotas.replay g trace = (g.1 ++ trace.filter fun event => event.1.onQuota,
      g.2 || trace.any fun event => denies event.1 event.2) := by
  induction trace generalizing g with
  | nil => exact Prod.ext (List.append_nil _).symm (Bool.or_false _).symm
  | cons event trace ih =>
      change quotas.replay (g.1 ++ if event.1.onQuota then [event] else [], g.2 || denies event.1 event.2) trace = _
      rw [ih, List.any_cons, Bool.or_assoc, List.append_assoc, List.filter_cons]
      by_cases here : event.1.onQuota = true
      · rw [if_pos here, if_pos here]
        rfl
      · rw [if_neg here, if_neg here]
        rfl

theorem quotas_considers (g : List (Prog.Event Op Op.Ans) × Bool) {trace : List (Prog.Event Op Op.Ans)}
    (unsent : ∀ event ∈ trace, event.1.upstream = false) : quotas.Considers g trace := by
  induction trace generalizing g with
  | nil => trivial
  | cons event trace ih =>
      exact ⟨unsent event List.mem_cons_self, ih _ fun other listed => unsent other (List.mem_cons_of_mem _ listed)⟩

/-! What the parts of the handler add to the history. -/

/-- A step which adds nothing. -/
theorem quotas_aside (h : List (Prog.Event Op Op.Ans) × Bool) {op : Op} (quota : op.onQuota = false)
    (governance : op.kind ≠ .governance) :
    (call op).Keeps quotas (fun _ g => g = h) fun _ => True := by
  refine keeps_perform fun l g same => ⟨trivial, fun s answer _ _ => ⟨?_, fun _ _ => trivial⟩⟩
  have none : denies op answer = false := by
    cases op with
    | enforce_governance => exact absurd rfl governance
    | _ => rfl
  change (g.1 ++ if op.onQuota then _ else _, g.2 || denies op answer) = h
  rw [quota, none, if_neg Bool.false_ne_true, List.append_nil, Bool.or_false]
  exact same

theorem quotas_frame (h : List (Prog.Event Op Op.Ans) × Bool) :
    Frame quotas (fun _ g => g = h) (fun _ => True) Uncounted where
  step op aside := by
    refine quotas_aside h ?_ aside.2
    cases op with
    | reserve_request | refund_reservation | reconcile_usage => exact absurd rfl aside.1
    | _ => rfl
  expected _ _ := trivial
  model _ _ _ same := same

/-- Without an upstream call every attempt fails. -/
theorem attempts_raises (G : Gateway) (h : List (Prog.Event Op Op.Ans) × Bool) (failed_models : List String)
    (listed : List (String × Bool)) : (attempts G failed_models listed).Raises quotas fun _ g => g = h := by
  have frame := quotas_frame h
  induction listed generalizing failed_models with
  | nil => exact raises_raise
  | cons first rest ih =>
      obtain ⟨model, fallback_used⟩ := first
      refine (frame.circuit_allows G (by decide) (some model)).bindRaises fun allowed => ?_
      refine Raises.ite (fun _ => ?_) fun _ => Raises.ite (fun _ => raises_raise) fun _ => ih _
      refine (frame.consume_retry G (by decide) fallback_used).bindRaises fun retried => ?_
      refine Raises.ite (fun _ => ?_) fun _ => raises_raise
      intro l g kept
      exact meets_bind.mpr (meets_attempt.mpr (meets_bind.mpr
        (meets_perform.mpr ⟨trivial, fun _ _ _ sent => nomatch sent⟩)))

theorem forward_raises (G : Gateway) (h : List (Prog.Event Op Op.Ans) × Bool) (selection : Selection)
    (model : String) : (forward G selection model).Raises quotas fun _ g => g = h := by
  refine ((quotas_frame h).mark_executed (fun _ _ _ same => same) (by decide)).bindRaises fun _ => ?_
  exact (attempts_raises G h [] _).bind

theorem open_stream_raises (G : Gateway) (h : List (Prog.Event Op Op.Ans) × Bool) (quota_reservation : Bool)
    (selection : Selection) (model : String) :
    (open_stream G quota_reservation selection model).Raises quotas fun _ g => g = h := by
  have frame := quotas_frame h
  refine (frame.step (.build_request model) (by decide : Uncounted .stream)).bindRaises fun _ => ?_
  refine (frame.mark_executed (fun _ _ _ same => same) (by decide)).bindRaises fun _ => ?_
  intro l g kept
  exact meets_bind.mpr (meets_perform.mpr ⟨trivial, fun _ _ _ sent => nomatch sent⟩)

theorem upstream_error_raises (h : List (Prog.Event Op Op.Ans) × Bool) (error : Exc) :
    (upstream_error error).Raises quotas fun _ g => g = h := by
  have frame := quotas_frame h
  refine (keeps_locals (X := fun _ => True)).bindRaises fun l => ?_
  refine (frame.step (.record_request l.model false false) (by decide : Uncounted .traffic)).bindRaises fun _ => ?_
  refine (Keeps.ite (fun _ => frame.settle_once (fun _ _ _ same => same) (by decide) _) fun _ =>
    frame.settle_once (fun _ _ _ same => same) (by decide) _).bindRaises fun _ => ?_
  refine (frame.step (.routing_signal l.model) (by decide : Uncounted .health)).bindRaises fun _ => ?_
  exact (frame.step (.record_decision l.model .upstream_error) (by decide : Uncounted .record)).bindRaises fun _ =>
    raises_raise

/-- From the selected backend on, a request without an upstream call ends with an error and keeps its quota. -/
theorem dispatch_raises (G : Gateway) (h : List (Prog.Event Op Op.Ans) × Bool) (quota_reservation stream : Bool)
    (selection : Selection) : (dispatch G quota_reservation stream selection).Raises quotas fun _ g => g = h := by
  have frame := quotas_frame h
  unfold dispatch
  cases selection.model.filter fun model => (G.target model).isSome with
  | none => exact (frame.settle_once (fun _ _ _ same => same) (by decide) _).bindRaises fun _ => raises_raise
  | some model =>
      refine (frame.setModel model).bindRaises fun _ => Raises.bind ?_
      refine Raises.catching (Raises.ite (fun _ => ?_) fun _ => ?_) fun e => upstream_error_raises h e
      · exact open_stream_raises G h quota_reservation selection model
      · exact forward_raises G h selection model

/-- What the refusal of governance leaves: the refund where there is a tenant store. -/
def Denied (G : Gateway) (h : List (Prog.Event Op Op.Ans)) (g : List (Prog.Event Op Op.Ans) × Bool) : Prop :=
  if G.has_tenant_store then ∃ answer, g = (h ++ [⟨.refund_reservation, answer⟩], true) else g = (h, true)

/-- Governance refunds where it raises. -/
theorem governed (G : Gateway) (h : List (Prog.Event Op Op.Ans)) (l : Locals) :
    (catching Exc.isException (call .enforce_governance) fun e => do
      refund_quota G.has_tenant_store
      raise e : Handler Unit).Meets quotas l (h, false)
      fun r _ g => g = (h, false) ∨ (∃ e, r = .error e) ∧ Denied G h g := by
  have unquoted : ∀ denied : Bool, (h ++ ([] : List (Prog.Event Op Op.Ans)), false || denied) = (h, denied) :=
    fun denied => Prod.ext (List.append_nil h) (Bool.false_or denied)
  refine meets_catching.mpr (meets_perform.mpr ⟨trivial, fun s answer _ _ => ?_⟩)
  cases answer with
  | ok u => exact Or.inl (unquoted false)
  | error e =>
      by_cases caught : e.isException = true
      · have same : quotas.next s (h, false) .enforce_governance (.error e) = (h, true) :=
          (unquoted _).trans (congrArg (Prod.mk h) caught)
        rw [same]
        dsimp only
        rw [if_pos caught]
        by_cases counted : G.has_tenant_store = true
        · rw [counted]
          refine meets_bind.mpr (meets_perform.mpr ⟨trivial, fun s answer _ _ => ?_⟩)
          have refunded : Denied G h (quotas.next s (h, true) .refund_reservation answer) := by
            unfold Denied
            rw [if_pos counted]
            exact ⟨answer, rfl⟩
          cases answer with
          | ok u => exact Or.inr ⟨⟨e, rfl⟩, refunded⟩
          | error e' => exact Or.inr ⟨⟨e', rfl⟩, refunded⟩
        · rw [Bool.eq_false_iff.mpr counted]
          exact Or.inr ⟨⟨e, rfl⟩, (if_neg counted).mpr rfl⟩
      · have same : quotas.next s (h, false) .enforce_governance (.error e) = (h, false) :=
          (unquoted _).trans (congrArg (Prod.mk h) (Bool.eq_false_iff.mpr caught))
        rw [same]
        dsimp only
        rw [if_neg caught]
        exact Or.inl rfl

theorem govern_and_select_exits (G : Gateway) (h : List (Prog.Event Op Op.Ans)) (request_id : String)
    (requested_model : Model) (l : Locals) :
    (govern_and_select G request_id requested_model).Meets quotas l (h, false)
      fun r _ g => g = (h, false) ∨ (∃ e, r = .error e) ∧ Denied G h g := by
  have frame := quotas_frame (h, false)
  have rest : ∀ l g, g = (h, false) → (select_backend G request_id requested_model).Meets quotas l g
      fun r _ g => g = (h, false) ∨ (∃ e, r = .error e) ∧ Denied G h g := fun l g same =>
    (frame.select_backend G (by decide) (by decide) request_id requested_model).meets same
      fun _ _ _ kept _ => Or.inl kept
  have observed : (when G.has_runtime_config (call .observe_policy) : Handler Unit).Keeps quotas
      (fun _ g => g = (h, false)) fun _ => True := by
    refine Keeps.when fun _ => keeps_perform fun l g same => ⟨trivial, fun s answer _ _ => ⟨?_, fun _ _ => trivial⟩⟩
    exact (Prod.ext (List.append_nil _) (Bool.or_false _)).trans same
  refine meets_bind.mpr (meets_when.mpr ?_)
  by_cases active : G.governance_active = true
  · rw [if_pos active]
    refine meets_bind.mpr ((governed G h l).mono fun r l' g kept => ?_)
    cases r with
    | error e => exact kept.imp_right fun refusal => ⟨⟨e, rfl⟩, refusal.2⟩
    | ok u =>
        have same := kept.resolve_right fun bad => nomatch bad.1
        refine (observed l' g same).mono fun r l'' g' after => ?_
        cases r with
        | ok u => exact rest l'' g' after.1
        | error e => exact Or.inl after.1
  · rw [if_neg active]
    exact rest l _ rfl

/-- How a request without an upstream call ends. -/
def Ends {α : Type} (r : Except Exc α) (g : List (Prog.Event Op Op.Ans) × Bool) : Prop :=
  (∃ e, r = .error e) ∧ Exits g

theorem requested_output_tokens_pos (G : Gateway) (payload : Entries) :
    0 < requested_output_tokens G payload (min (estimated_input_tokens payload) 512) := by
  unfold requested_output_tokens
  cases limit : (token_cap G payload "max_completion_tokens").or (token_cap G payload "max_tokens") with
  | none => exact lt_min (estimated_input_tokens_pos payload) (by decide)
  | some cap =>
      rcases Option.or_eq_some_iff.mp limit with read | ⟨_, read⟩
      · exact token_cap_pos read
      · exact token_cap_pos read

/-- From governance on, when the quota is reserved or there is none. -/
theorem reserved_ends (G : Gateway) (request_id : String) (payload : Entries) (requested_model : Model) (l : Locals)
    (h : List (Prog.Event Op Op.Ans)) (kept : Exits (h, false))
    (refused : ∀ g, Denied G h g → Exits g) :
    (do let selection ← catching Exc.isException (govern_and_select G request_id requested_model) fun e => do
          release_budget
          Session.raise e
        dispatch G G.has_tenant_store (payload.orNone "stream").truthy selection : Handler Reply).Meets quotas l
      (h, false) fun r _ g => Ends r g := by
  have released : ∀ (e : Exc) l g, Exits g → (do
      release_budget
      Session.raise e : Handler Selection).Meets quotas l g fun r _ g => Ends r g := by
    intro e l g exits
    have ends : (do
        release_budget
        Session.raise e : Handler Selection).Raises quotas fun _ g' => g' = g :=
      ((quotas_frame g).settle_once (fun _ _ _ same => same) (by decide) _).bindRaises fun _ => raises_raise
    exact (ends l g rfl).mono fun r l' g' after => ⟨after.2, after.1 ▸ exits⟩
  refine meets_bind.mpr (meets_catching.mpr ((govern_and_select_exits G h request_id requested_model l).mono ?_))
  intro r l' g outcome
  have exits : Exits g := outcome.elim (fun same => same ▸ kept) fun refusal => refused g refusal.2
  cases r with
  | ok selection =>
      dsimp only
      rw [after_ok]
      refine (dispatch_raises G g _ _ selection l' g rfl).mono fun r l'' g' after => ?_
      exact ⟨after.2, after.1 ▸ exits⟩
  | error e =>
      dsimp only
      by_cases caught : e.isException = true
      · rw [if_pos caught]
        refine (released e l' g exits).mono fun r l'' g' after => ?_
        obtain ⟨⟨e', rfl⟩, final⟩ := after
        exact ⟨⟨e', rfl⟩, final⟩
      · rw [if_neg caught]
        exact ⟨⟨e, rfl⟩, exits⟩

theorem admitted_ends (G : Gateway) (request_id : String) (payload : Entries) (requested_model : Model) (l : Locals) :
    (chat_completions_admitted G request_id payload requested_model).Meets quotas l ([], false)
      fun r _ g => Ends r g := by
  have frame := quotas_frame ([], false)
  have none : Exits ([], false) := .unreserved false
  have estimated : (estimate_spend G (named G (payload.orNone "model") "") (estimated_input_tokens payload)
      (requested_output_tokens G payload (min (estimated_input_tokens payload) 512))).Keeps quotas
        (fun _ g => g = ([], false)) fun _ => True := by
    unfold estimate_spend
    cases G.target (named G (payload.orNone "model") "") with
    | none => exact keeps_result
    | some target => exact quotas_aside _ rfl (by decide : Kind.quota ≠ .governance)
  refine estimated.bindMeets rfl (fun e _ _ same _ => ⟨⟨e, rfl⟩, same ▸ none⟩) fun spend_usd l g same => ?_
  refine (frame.reserve_budget (fun _ _ _ same => same) (by decide) _ _ _).bindMeets same
    (fun e _ _ same _ => ⟨⟨e, rfl⟩, same ▸ none⟩) fun _ l g same => ?_
  obtain rfl : g = ([], false) := same
  refine meets_bind.mpr (meets_when.mpr ?_)
  by_cases counted : G.has_tenant_store = true
  · rw [if_pos counted]
    refine meets_perform.mpr ⟨trivial, fun s answer _ _ => ?_⟩
    have exits := Exits.reserved _ _ spend_usd answer (estimated_input_tokens_pos payload)
      (requested_output_tokens_pos G payload)
    cases answer with
    | error e => exact ⟨⟨e, rfl⟩, exits⟩
    | ok u =>
        refine reserved_ends G request_id payload requested_model l _ exits fun g refusal => ?_
        unfold Denied at refusal
        rw [if_pos counted] at refusal
        obtain ⟨answer, rfl⟩ := refusal
        exact .refunded _ _ spend_usd answer (estimated_input_tokens_pos payload)
          (requested_output_tokens_pos G payload)
  · rw [if_neg counted]
    refine reserved_ends G request_id payload requested_model l [] none fun g refusal => ?_
    unfold Denied at refusal
    rw [if_neg counted] at refusal
    rw [refusal]
    exact .unreserved true

/-- A request which calls no model ends with an error. -/
theorem serve_ends (G : Gateway) (request_id : String) (l : Locals) :
    (serve G request_id).Meets quotas l ([], false) fun r _ g => Ends r g := by
  have frame := quotas_frame ([], false)
  have none : Exits ([], false) := .unreserved false
  have skipped : ∀ {α : Type} (e : Exc) (_ : Locals) (g : List (Prog.Event Op Op.Ans) × Bool), g = ([], false) →
      True → Ends (.error e : Except Exc α) g := fun e _ _ same _ => ⟨⟨e, rfl⟩, same ▸ none⟩
  have completions : (chat_completions G request_id).Meets quotas l ([], false) fun r _ g => Ends r g := by
    refine (frame.read_body (by decide)).bindMeets rfl skipped fun payload l g same => ?_
    refine (frame.check_tenant G (by decide) _).bindMeets same skipped fun key l g same => ?_
    refine (frame.step .reject_if_draining (by decide)).bindMeets same skipped fun _ l g same => ?_
    refine (Keeps.when fun _ => frame.global_acquire (by decide)).bindMeets same skipped fun _ l g same => ?_
    refine (Keeps.when fun _ => frame.acquire_lease G (fun _ _ _ same => same) (by decide) (by decide) _).bindMeets same
      skipped fun _ l g same => ?_
    obtain rfl : g = ([], false) := same
    refine meets_catching.mpr ((admitted_ends G request_id payload key l).mono fun r l' g ends => ?_)
    obtain ⟨⟨e, rfl⟩, exits⟩ := ends
    have frame := quotas_frame g
    have cleaned : (do
        abandon
        release_slots G
        Session.raise e : Handler Reply).Raises quotas fun _ g' => g' = g := by
      refine (frame.abandon (fun _ _ _ same => same) (by decide)).bindRaises fun _ => ?_
      refine (frame.release_slots G (fun _ _ _ same => same) (by decide) (by decide)).bindRaises fun _ => ?_
      exact raises_raise
    dsimp only
    by_cases caught : e.isException = true
    · rw [if_pos caught]
      exact (cleaned l' g rfl).mono fun r l'' g' after => ⟨after.2, after.1 ▸ exits⟩
    · rw [if_neg caught]
      exact ⟨⟨e, rfl⟩, exits⟩
  refine meets_bind.mpr (completions.mono fun r l' g ends => ?_)
  obtain ⟨⟨e, rfl⟩, exits⟩ := ends
  exact ⟨⟨e, rfl⟩, exits⟩

/-! What the tenant store carries out of it. -/

/-- What a step does on the tenant store, on one reservation. -/
def Does (id : String) : Op → Act → Prop
  | .reserve_request input_tokens output_tokens (.finite spend_usd), act => ∃ asked team,
    act = .reserve asked team input_tokens.toNat output_tokens.toNat spend_usd.value id
  | .refund_reservation, act => ∃ asked reservation, act = .refund asked reservation
  | .reconcile_usage _ _, act => ∃ asked reservation actual_input_tokens actual_output_tokens actual_spend_usd,
    act = .reconcile asked reservation actual_input_tokens actual_output_tokens actual_spend_usd
  | _, _ => False

/-- The store carries out what it answers, and may have carried out what fails. -/
inductive Carried (id : String) : List (Prog.Event Op Op.Ans) → List Act → Prop
  | none : Carried id [] []
  | aside {op : Op} {answer : op.Ans} {trace : List (Prog.Event Op Op.Ans)} {acts : List Act}
    (aside : op.onQuota = false) (rest : Carried id trace acts) : Carried id (⟨op, answer⟩ :: trace) acts
  | done {op : Op} {answer : op.Ans} {trace : List (Prog.Event Op Op.Ans)} {act : Act} {acts : List Act}
    (does : Does id op act) (rest : Carried id trace acts) : Carried id (⟨op, answer⟩ :: trace) (act :: acts)
  | failed {op : Op} {e : Exc} {trace : List (Prog.Event Op Op.Ans)} {acts : List Act}
    (rest : Carried id trace acts) : Carried id (⟨op, .error e⟩ :: trace) acts

/-- The minute and the day of the charge are over. -/
def RunOut (recent : ℤ → Bool) (now : ℤ) (charge : Charge) : Prop :=
  recent (now - charge.time) = false ∧ today charge.time ≠ today now

/-- The store has carried out no reservation for the request; or governance has raised, and the refund was carried
out; or the minute and the day of the reservation are over. -/
def Returned (recent : ℤ → Bool) (trace : List (Prog.Event Op Op.Ans)) (now : ℤ) (acts : List Act) (id : String) :
    Prop :=
  own id acts = [] ∨
    (trace.any fun event => denies event.1 event.2) = true ∧
      (∃ asked reservation, Act.refund asked reservation ∈ own id acts) ∨
    ∀ charge ∈ (account now acts).charged id, RunOut recent (account now acts).now charge

variable {id : String} {trace : List (Prog.Event Op Op.Ans)} {acts : List Act}

theorem Does.onQuota {op : Op} {act : Act} (does : Does id op act) : op.onQuota = true := by
  cases op with
  | reserve_request | refund_reservation | reconcile_usage => rfl
  | _ => exact does.elim

theorem Carried.filter (carried : Carried id trace acts) :
    Carried id (trace.filter fun event => event.1.onQuota) acts := by
  induction carried with
  | none => exact .none
  | aside aside rest ih =>
      rw [List.filter_cons_of_neg (by simp [aside])]
      exact ih
  | done does rest ih =>
      rw [List.filter_cons_of_pos (p := fun event : Prog.Event Op Op.Ans => event.1.onQuota) does.onQuota]
      exact .done does ih
  | @failed op e trace acts rest ih =>
      rw [List.filter_cons]
      split
      · exact .failed ih
      · exact ih

/-- What the store can have carried out for a request which calls no model. -/
theorem Exits.own {g : List (Prog.Event Op Op.Ans) × Bool} (exits : Exits g) (carried : Carried id g.1 acts) :
    acts = [] ∨
    (∃ asked team input_tokens output_tokens spend_usd,
      acts = [.reserve asked team input_tokens output_tokens spend_usd id] ∧ 0 < input_tokens + output_tokens) ∨
    g.2 = true ∧ ∃ first asked reservation, acts = [first, .refund asked reservation] := by
  have single : ∀ {input_tokens output_tokens : ℤ} {spend_usd : Double} {act : Act}, 0 < input_tokens →
      Does id (.reserve_request input_tokens output_tokens spend_usd) act →
        ∃ asked team input_tokens output_tokens spend_usd,
          [act] = [.reserve asked team input_tokens output_tokens spend_usd id] ∧ 0 < input_tokens + output_tokens := by
    intro input_tokens output_tokens spend_usd act input does
    cases spend_usd with
    | finite spend_usd =>
        obtain ⟨asked, team, rfl⟩ := does
        exact ⟨asked, team, _, _, _, rfl, Nat.add_pos_left (Int.pos_iff_toNat_pos.mp input) _⟩
    | inf | nan => exact does.elim
  cases exits with
  | unreserved denied =>
      cases carried
      exact Or.inl rfl
  | reserved input_tokens output_tokens spend_usd answer input output =>
      cases carried with
      | aside aside rest => cases aside
      | failed rest =>
          cases rest
          exact Or.inl rfl
      | done does rest =>
          cases rest
          exact Or.inr (Or.inl (single input does))
  | refunded input_tokens output_tokens spend_usd answer input output =>
      cases carried with
      | aside aside rest => cases aside
      | done does rest =>
          cases rest with
          | aside aside rest => cases aside
          | failed rest =>
              cases rest
              exact Or.inr (Or.inl (single input does))
          | done refunds rest =>
              cases rest
              obtain ⟨asked, reservation, rfl⟩ := refunds
              exact Or.inr (Or.inr ⟨rfl, _, asked, reservation, rfl⟩)

/-- A store which reports its account gives the quota of a request back just when nothing of it is left. -/
theorem returned_iff {σ : Type} {B : TenantAttributionBackend σ ℚ} {recent : ℤ → Bool} {Inv : σ → Account → Prop}
    (reports : Reports B recent Inv) {request_id : String} {r : Except Exc Unit × Locals}
    (run : (serve G request_id .initial).Run trace r) (unsent : ∀ event ∈ trace, event.1.upstream = false) {now : ℤ}
    (timely : Runs.EveryStep book Timely (.opened now) acts) (carried : Carried id trace (own id acts)) :
    GivenBack B now acts id ↔ Returned recent trace now acts id := by
  obtain ⟨-, exits⟩ := (serve_ends G request_id .initial).run trivial run (quotas_considers ([], false) unsent)
  rw [quotas_replay, List.nil_append, Bool.false_or] at exits
  obtain ⟨none, single, closed⟩ := own_charges now id acts
  rw [reports.given_back_iff timely]
  unfold Returned
  rcases exits.own carried.filter with nothing | ⟨asked, team, input, output, spend_usd, only, positive⟩ |
    ⟨denied, first, asked, reservation, both⟩
  · refine iff_of_true ?_ (Or.inl nothing)
    rw [none nothing]
    exact fun _ bad => absurd bad List.not_mem_nil
  · obtain ⟨time, charged⟩ := single asked team input output spend_usd only
    have kept : ¬ own id acts = [] := only ▸ List.cons_ne_nil _ _
    have unrefunded : ∀ asked reservation, Act.refund asked reservation ∉ own id acts := by
      intro asked' reservation listed
      rw [only, List.mem_singleton] at listed
      cases listed
    rw [charged]
    constructor
    · intro traceless
      obtain ⟨old, undue⟩ := traceless _ List.mem_cons_self
      refine Or.inr (Or.inr fun charge listed => ?_)
      obtain rfl := List.mem_singleton.mp listed
      refine ⟨old.resolve_left fun bad => (nomatch bad), fun here => ?_⟩
      exact absurd (undue here).1 positive.ne'
    · rintro (nothing | ⟨-, asked', reservation, listed⟩ | gone)
      · exact absurd nothing kept
      · exact absurd listed (unrefunded asked' reservation)
      · intro charge listed
        obtain ⟨old, other⟩ := gone charge listed
        exact ⟨Or.inr old, fun here => absurd here other⟩
  · refine iff_of_true ?_ (Or.inr (Or.inl ⟨denied, asked, reservation, ?_⟩))
    · intro charge listed
      obtain ⟨standing, tokens, spend⟩ := closed first asked reservation both charge listed
      exact ⟨Or.inl standing, fun _ => ⟨tokens, spend⟩⟩
    · rw [both]
      exact List.mem_cons_of_mem _ (List.mem_singleton_self _)

/-- After a request which calls no model, both stores report as if it had not been made exactly when its quota was
refunded, never reserved, or is over; the one in Redis as long as it prints its counts in full. -/
theorem quota_given_back_iff (G : Gateway) (request_id : String) (trace : List (Prog.Event Op Op.Ans))
    (r : Except Exc Unit × Locals) (run : (serve G request_id .initial).Run trace r)
    (unsent : ∀ event ∈ trace, event.1.upstream = false) (now : ℤ) (acts : List Act) (id : String)
    (timely : Runs.EveryStep book Timely (.opened now) acts) (carried : Carried id trace (own id acts)) :
    (GivenBack (TenantAttributionStore.backend exactSpending) now acts id ↔
      Returned TenantAttributionStore.recent trace now acts id) ∧
    (Printed (acts.map Act.tokens) →
      (GivenBack (RedisTenantAttributionStore.backend exactSpending) now acts id ↔
        Returned RedisTenantAttributionStore.recent trace now acts id)) :=
  ⟨returned_iff TenantAttributionStore.reports run unsent timely carried,
    fun _ => returned_iff RedisTenantAttributionStore.reports run unsent timely carried⟩

/-! Two requests. -/

theorem carried_of_filter (carried : Carried id (trace.filter fun event => event.1.onQuota) acts) :
    Carried id trace acts := by
  induction trace generalizing acts with
  | nil => exact carried
  | cons event trace ih =>
      by_cases here : event.1.onQuota = true
      · rw [List.filter_cons_of_pos (p := fun event : Prog.Event Op Op.Ans => event.1.onQuota) here] at carried
        cases carried with
        | aside aside rest => exact .aside aside (ih rest)
        | done does rest => exact .done does (ih rest)
        | failed rest => exact .failed (ih rest)
      · rw [List.filter_cons_of_neg (p := fun event : Prog.Event Op Op.Ans => event.1.onQuota) here] at carried
        exact .aside (Bool.eq_false_iff.mpr here) (ih carried)

/-- A gateway with a tenant store and governance. -/
def governedGateway : Gateway := { plainGateway with has_tenant_store := true, governance_active := true }

/-- Governance denies the request. -/
def denied : (op : Op) → op.Ans
  | .enforce_governance => .error (.httpException 403)
  | op => obliging false (.dict []) op

/-- The body names a model which the gateway does not know. -/
def unknownModel : (op : Op) → op.Ans
  | .request_json => .ok (.dict [(.str "model", .str "x")])
  | op => obliging false (.dict []) op

/-- The reservation of both requests, at the beginning of the first day. -/
def reserveBoth : Act := .reserve 0 "t" 1 1 0 "q"

theorem reserveBoth_timely (rest : List Act)
    (timely : Runs.EveryStep book Timely (book (.opened 0) reserveBoth) rest) :
    Runs.EveryStep book Timely (.opened 0) (reserveBoth :: rest) :=
  ⟨⟨rfl, fun _ bad => absurd bad List.not_mem_nil, le_rfl⟩, timely⟩

theorem quota_given_back_denied :
    GivenBack (TenantAttributionStore.backend exactSpending) 0 [reserveBoth, .refund 0 ⟨"t", "q", 2, 0, 1, 2, 0⟩] "q" ∧
    GivenBack (RedisTenantAttributionStore.backend exactSpending) 0
      [reserveBoth, .refund 0 ⟨"t", "q", 2, 0, 1, 2, 0⟩] "q" := by
  have run := Prog.run_play denied (serve governedGateway "r" .initial)
  have both := quota_given_back_iff governedGateway "r" _ _ run (by decide +kernel) 0
    [reserveBoth, .refund 0 ⟨"t", "q", 2, 0, 1, 2, 0⟩] "q"
    (reserveBoth_timely _ ⟨⟨rfl, _, List.mem_cons_self, rfl, rfl, rfl, rfl, rfl, rfl⟩, trivial⟩)
    (carried_of_filter (.done ⟨0, "t", rfl⟩ (.done ⟨0, _, rfl⟩ .none)))
  have given : ∀ recent, Returned recent ((serve governedGateway "r" .initial).play denied).1 0
      [reserveBoth, .refund 0 ⟨"t", "q", 2, 0, 1, 2, 0⟩] "q" := fun recent =>
    Or.inr (Or.inl ⟨by decide +kernel, 0, _, List.mem_cons_of_mem _ List.mem_cons_self⟩)
  exact ⟨both.1.mpr (given _), (both.2 (by decide)).mpr (given _)⟩

/-- A request for an unknown model ends with 404 and stays counted. -/
theorem quota_kept_unknown : ∃ (trace : List (Prog.Event Op Op.Ans)) (r : Except Exc Unit × Locals),
    (serve governedGateway "r" .initial).Run trace r ∧ (∀ event ∈ trace, event.1.upstream = false) ∧
    r.1 = .error (.httpException 404) ∧ Runs.EveryStep book Timely (.opened 0) [reserveBoth] ∧
    Carried "q" trace (own "q" [reserveBoth]) ∧
    ¬ GivenBack (TenantAttributionStore.backend exactSpending) 0 [reserveBoth] "q" ∧
    ¬ GivenBack (RedisTenantAttributionStore.backend exactSpending) 0 [reserveBoth] "q" := by
  refine ⟨_, _, Prog.run_play unknownModel _, by decide +kernel, rfl, reserveBoth_timely [] trivial,
    carried_of_filter (.done ⟨0, "t", rfl⟩ .none), fun same => ?_, fun same => ?_⟩
  · have requests := congrArg Prod.fst (congrFun same "t")
    exact absurd requests (by decide +kernel)
  · have requests := congrArg Prod.fst (congrFun same "t")
    exact absurd requests (by decide +kernel)

end RuntimePlatform.Chat
