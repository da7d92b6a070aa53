import RuntimePlatform.Chat.Slots
import RuntimePlatform.Governance.Payloads

/-!
The two estimates of a chat request: the tokens which the budget is reserved for, and those which
the Control Plane is told. Both read the same body, each in its own way.
-/

namespace RuntimePlatform.Chat
open Python Coroutine Coroutine.Session

variable (G : Gateway) (D : Governance.Deployment)

/-- The tokens the budget is reserved for. -/
def budget_tokens (payload : Entries) : ℤ × ℤ :=
  (estimated_input_tokens payload, requested_output_tokens G payload (min (estimated_input_tokens payload) 512))

/-! The characters of the messages. -/

def has_text : Value → Bool
  | .dict message =>
    match Entries.get message "content" with
    | some (.str _) => true
    | _ => false
  | _ => false

/-- The characters of a message beyond four for each token which is reserved for it: what is left of a text, and all
of the parts of a list. -/
def uncounted : Value → ℤ
  | .dict message =>
    match Entries.get message "content" with
    | some (.str content) => content.length - 4 * max 1 ((content.length / 4 : ℕ) : ℤ)
    | some (.list parts) => (((parts.filterMap Governance.part_text).map String.length).sum : ℕ)
    | _ => 0
  | _ => 0

/-- The messages have at most three characters uncounted; or seven, where no message has a text and one token is
reserved all the same. -/
def InputCovered (payload : Entries) : Prop :=
  ∀ messages, payload.get "messages" = some (.list messages) →
    (messages.map uncounted).sum ≤ if messages.any has_text then 3 else 7

/-- The input tokens which are declared. -/
def declared_input (payload : Entries) : ℤ :=
  match payload.get "messages" with
  | some (.list messages) => max 1 (Governance.prompt_chars messages / 4 : ℕ)
  | _ => 0

/-- The output tokens which are declared for a body without `max_tokens`. -/
def declared_default (payload : Entries) : ℤ :=
  match payload.get "messages" with
  | some (.list messages) => min (max 1 (Governance.prompt_chars messages / 4 : ℕ)) 512
  | _ => 0

/-- The limit which is reserved for is no lower than the one which is declared. -/
def OutputCovered (payload : Entries) : Prop :=
  ∀ cap, (token_cap G payload "max_completion_tokens").or (token_cap G payload "max_tokens") = some cap →
    if (payload.orNone "max_tokens").truthy then ∀ n, G.text.int (payload.orNone "max_tokens") = .ok n → n ≤ cap
    else declared_default payload ≤ cap

variable {G D} {payload : Entries} {messages : List Value}

/-- The characters of one message: those of its tokens, and the uncounted ones. -/
theorem message_chars (message : Value) :
    ((((Governance.message_texts message).map String.length).sum : ℕ) : ℤ) =
      4 * message_tokens message + uncounted message := by
  cases message with
  | dict entries =>
      unfold Governance.message_texts message_tokens uncounted
      dsimp only
      cases Entries.get entries "content" with
      | none => rfl
      | some content =>
          cases content with
          | str content =>
              simp only [List.map_cons, List.map_nil, List.sum_cons, List.sum_nil, add_zero]
              ring
          | list parts => exact (zero_add _).symm
          | _ => rfl
  | _ => rfl

theorem prompt_chars_eq (messages : List Value) :
    (Governance.prompt_chars messages : ℤ) = 4 * (messages.map message_tokens).sum + (messages.map uncounted).sum := by
  unfold Governance.prompt_chars
  induction messages with
  | nil => rfl
  | cons message messages ih =>
      simp only [List.flatMap_cons, List.map_append, List.sum_append, List.map_cons, List.sum_cons, Nat.cast_add]
      rw [ih, message_chars message]
      ring

theorem message_tokens_nonneg (message : Value) : 0 ≤ message_tokens message := by
  unfold message_tokens
  split
  · split
    · exact le_trans Int.one_nonneg (le_max_left _ _)
    · exact le_rfl
  · exact le_rfl

/-- A message with a text is counted with one token at least, and no other is counted. -/
theorem message_tokens_pos_iff (message : Value) : 0 < message_tokens message ↔ has_text message = true := by
  have uncountedIff : 0 < (0 : ℤ) ↔ false = true := iff_of_false (lt_irrefl 0) Bool.false_ne_true
  cases message with
  | dict entries =>
      unfold message_tokens has_text
      dsimp only
      cases Entries.get entries "content" with
      | none => exact uncountedIff
      | some content =>
          cases content with
          | str content => exact iff_of_true (lt_of_lt_of_le Int.one_pos (le_max_left _ _)) rfl
          | _ => exact uncountedIff
  | _ => exact uncountedIff

theorem total_nonneg (messages : List Value) : 0 ≤ (messages.map message_tokens).sum :=
  List.sum_nonneg fun _ listed => by
    obtain ⟨message, _, rfl⟩ := List.mem_map.mp listed
    exact message_tokens_nonneg message

theorem total_pos_iff (messages : List Value) :
    0 < (messages.map message_tokens).sum ↔ messages.any has_text = true := by
  induction messages with
  | nil => exact iff_of_false (lt_irrefl 0) Bool.false_ne_true
  | cons message messages ih =>
      rw [List.map_cons, List.sum_cons, List.any_cons, Bool.or_eq_true, ← ih, ← message_tokens_pos_iff message]
      have first := message_tokens_nonneg message
      have rest := total_nonneg messages
      omega

theorem estimated_input_tokens_pos (payload : Entries) : 0 < estimated_input_tokens payload := by
  unfold estimated_input_tokens
  split
  · next messages _ =>
      have total := total_nonneg messages
      dsimp only
      split <;> omega
  · exact Int.one_pos

theorem estimated_input_tokens_list (listed : payload.get "messages" = some (.list messages)) :
    estimated_input_tokens payload =
      if (messages.map message_tokens).sum = 0 then 1 else (messages.map message_tokens).sum := by
  unfold estimated_input_tokens
  rw [listed]

/-- A quarter of the characters is reserved for just when few of them are uncounted. -/
theorem declared_tokens_le_iff (listed : payload.get "messages" = some (.list messages)) :
    max 1 ((Governance.prompt_chars messages / 4 : ℕ) : ℤ) ≤ estimated_input_tokens payload ↔
      (messages.map uncounted).sum ≤ if messages.any has_text then 3 else 7 := by
  have positive := estimated_input_tokens_pos payload
  have chars := prompt_chars_eq messages
  have counted := total_pos_iff messages
  have total := total_nonneg messages
  rw [estimated_input_tokens_list listed] at positive ⊢
  by_cases some_ : messages.any has_text = true
  · rw [if_pos some_, if_neg (counted.mpr some_).ne'] at *
    omega
  · have none : (messages.map message_tokens).sum = 0 := le_antisymm (not_lt.mp (mt counted.mp some_)) total
    rw [if_neg some_, if_pos none] at *
    omega

/-! The output limits. -/

theorem token_cap_pos {key : String} {cap : ℤ} (read : token_cap G payload key = some cap) : 0 < cap := by
  unfold token_cap at read
  split at read
  · cases read
  · cases read
  · split at read
    · split at read
      · next positive => exact (Option.some.inj read) ▸ positive
      · cases read
    · cases read

/-- A number which is no limit is a truth value, or not positive. -/
theorem int_le_one {n : ℤ} (unread : token_cap G payload "max_tokens" = none)
    (number : G.text.int (payload.orNone "max_tokens") = .ok n) : n ≤ 1 := by
  unfold token_cap at unread
  split at unread
  · next absent =>
      rw [absent] at number
      cases number
  · next b same =>
      rw [same] at number
      cases number
      cases b <;> decide
  · rw [number] at unread
    dsimp only at unread
    split at unread
    · cases unread
    · next small => exact le_trans (not_lt.mp small) Int.one_nonneg

/-- What `_estimate_tokens` returns. -/
theorem estimate_tokens_eq_ok {declared : ℤ × ℤ} : D.estimate_tokens payload = .ok declared ↔
    declared.1 = declared_input payload ∧ D.max_tokens payload (declared_default payload) = .ok declared.2 := by
  have parts : D.estimate_tokens payload = D.max_tokens payload (declared_default payload) >>= fun output_tokens =>
      .ok (declared_input payload, output_tokens) := by
    unfold Governance.Deployment.estimate_tokens declared_input declared_default
    cases payload.get "messages" with
    | none => rfl
    | some messages => cases messages <;> rfl
  rw [parts, Except.bind_eq_ok]
  constructor
  · rintro ⟨output, read, same⟩
    rw [← Except.ok.inj same]
    exact ⟨rfl, read⟩
  · rintro ⟨input, read⟩
    exact ⟨declared.2, read, congrArg Except.ok (Prod.ext input.symm rfl)⟩

theorem declared_input_le_iff : declared_input payload ≤ estimated_input_tokens payload ↔ InputCovered payload := by
  unfold InputCovered
  by_cases listed : ∃ messages, payload.get "messages" = some (.list messages)
  · obtain ⟨messages, listed⟩ := listed
    unfold declared_input
    rw [listed, declared_tokens_le_iff listed]
    exact ⟨fun few other same => by cases same; exact few, fun few => few messages rfl⟩
  · refine iff_of_true ?_ fun messages same => absurd ⟨messages, same⟩ listed
    have none : declared_input payload = 0 := by
      unfold declared_input
      split
      · next messages same => exact absurd ⟨messages, same⟩ listed
      · rfl
    rw [none]
    exact (estimated_input_tokens_pos payload).le

theorem declared_default_le (payload : Entries) : declared_default payload ≤ min (declared_input payload) 512 := by
  unfold declared_default declared_input
  split
  · exact le_rfl
  · exact le_min le_rfl (by decide)

/-- The limit which is reserved for is the declared one or more, where the input is covered. -/
theorem output_covered_iff {n : ℤ} (one_text : D.text = G.text) (input : InputCovered payload)
    (returned : D.max_tokens payload (declared_default payload) = .ok n) :
    n ≤ (budget_tokens G payload).2 ↔ OutputCovered G payload := by
  unfold OutputCovered
  change n ≤ Option.getD _ _ ↔ _
  unfold Governance.Deployment.max_tokens at returned
  rw [one_text] at returned
  cases limit : (token_cap G payload "max_completion_tokens").or (token_cap G payload "max_tokens") with
  | some cap =>
      have only : ∀ declared : ℤ → Prop, (∀ other, some cap = some other → declared other) ↔ declared cap :=
        fun declared => ⟨fun all => all cap rfl, fun holds other same => Option.some.inj same ▸ holds⟩
      rw [only, Option.getD_some]
      by_cases given : (payload.orNone "max_tokens").truthy = true
      · rw [if_pos given] at returned ⊢
        rw [returned]
        exact ⟨fun covered other same => Except.ok.inj same ▸ covered, fun all => all n rfl⟩
      · rw [if_neg given] at returned ⊢
        rw [Except.ok.inj returned]
  | none =>
      refine iff_of_true ?_ fun cap read => nomatch read
      obtain ⟨_, unread⟩ := Option.or_eq_none_iff.mp limit
      have positive := estimated_input_tokens_pos payload
      rw [Option.getD_none]
      by_cases given : (payload.orNone "max_tokens").truthy = true
      · rw [if_pos given] at returned
        exact le_trans (int_le_one unread returned) (le_min positive (by decide))
      · rw [if_neg given] at returned
        rw [← Except.ok.inj returned]
        refine le_trans (declared_default_le payload) (min_le_min_right 512 ?_)
        exact declared_input_le_iff.mpr input

/-! The reservations of a request. -/

/-- The counts which the budget is asked to reserve for. -/
def reserved_for : Op → Option (ℤ × ℤ)
  | .reserve_inference_budget _ input_tokens output_tokens => some (input_tokens, output_tokens)
  | _ => none

/-- The history of what was reserved for. -/
def reservations : Protocol Unit Op Op.Ans (List (ℤ × ℤ)) where
  start := []
  next _ asked op _ := asked ++ (reserved_for op).toList
  known _ := True
  must _ _ := True
  may _ _ _ _ := True

theorem reservations_considers (asked : List (ℤ × ℤ)) (trace : List (Prog.Event Op Op.Ans)) :
    reservations.Considers asked trace := by
  induction trace generalizing asked with
  | nil => trivial
  | cons event trace ih => exact ⟨trivial, ih _⟩

theorem reservations_replay (asked : List (ℤ × ℤ)) (trace : List (Prog.Event Op Op.Ans)) :
    reservations.replay asked trace = asked ++ trace.filterMap fun event => reserved_for event.1 := by
  induction trace generalizing asked with
  | nil => exact (List.append_nil asked).symm
  | cons event trace ih =>
      change reservations.replay (asked ++ (reserved_for event.1).toList) trace = _
      rw [ih, List.append_assoc, List.filterMap_cons]
      cases reserved_for event.1 <;> rfl

/-- Only one kind of step reserves. -/
theorem reserved_for_aside {op : Op} (aside : op.kind ≠ .reserve) : reserved_for op = none := by
  cases op with
  | reserve_inference_budget => exact absurd rfl aside
  | _ => rfl

theorem reservations_frame (asked : List (ℤ × ℤ)) :
    Frame reservations (fun _ g => g = asked) (fun _ => True) fun kind => kind ≠ .reserve where
  step op aside := by
    refine keeps_perform fun l g same => ⟨trivial, fun s answer _ _ => ⟨?_, fun _ _ => trivial⟩⟩
    change g ++ (reserved_for op).toList = asked
    rw [reserved_for_aside aside, same]
    exact List.append_nil asked
  expected _ _ := trivial
  model _ _ _ same := same

/-- The admitted part asks for one reservation at most, of the estimates of the body. -/
theorem admitted_reserves (G : Gateway) (request_id : String) (payload : Entries) (requested_model : Model)
    (l : Locals) : (chat_completions_admitted G request_id payload requested_model).Meets reservations l []
      fun _ _ asked => asked = [] ∨ asked = [budget_tokens G payload] := by
  have before := reservations_frame []
  have after := reservations_frame [budget_tokens G payload]
  have quietly : ∀ kind, kind ∉ [Kind.breaker, .reserve] → kind ≠ .reserve := by
    intro kind listed same
    exact listed (same ▸ List.mem_cons_of_mem _ List.mem_cons_self)
  refine (before.estimate_spend G quietly _ _ _).bindMeets rfl (fun _ _ _ none _ => Or.inl none) ?_
  intro spend_usd l asked none
  refine Meets.mono (Q := fun _ _ asked => asked = [budget_tokens G payload]) ?_ fun _ _ _ => Or.inr
  obtain rfl : asked = [] := none
  refine meets_bind.mpr (meets_bind.mpr (meets_perform.mpr ⟨trivial, fun s answer _ _ => ?_⟩))
  cases answer with
  | error e => rfl
  | ok reserved =>
      have rest : (do
          when G.has_tenant_store (call (.reserve_request (estimated_input_tokens payload)
            (requested_output_tokens G payload (min (estimated_input_tokens payload) 512)) spend_usd))
          let selection ← catching Exc.isException (govern_and_select G request_id requested_model) fun e => do
            release_budget
            Session.raise e
          dispatch G G.has_tenant_store (payload.orNone "stream").truthy selection : Handler Reply).Keeps reservations
            (fun _ asked => asked = [budget_tokens G payload]) fun _ => True := by
        refine (Keeps.when fun _ => after.step (.reserve_request _ _ _) (by decide : Kind.quota ≠ .reserve)).bind
          fun _ => ?_
        refine (Frame.handled (after.govern_and_select G (by decide) (by decide) (by decide) (by decide) request_id
          requested_model) fun e _ => ?_).bind fun selection => ?_
        · exact (after.settle_once (fun _ _ _ same => same) (by decide) _).bind fun _ => keeps_raise trivial
        · exact after.dispatch G (fun _ _ _ same => same) (fun _ _ _ same => same) quietly (by decide) _ _ selection
      exact (rest _ _ rfl).mono fun _ _ _ kept => kept.1

/-- Every run of the admitted part reserves for the declared tokens at least. -/
def ReservesDeclared (G : Gateway) (request_id : String) (payload : Entries) (requested_model : Model)
    (declared : ℤ × ℤ) : Prop :=
  ∀ (l : Locals) (trace : List (Prog.Event Op Op.Ans)) (r : Except Exc Reply × Locals),
    (chat_completions_admitted G request_id payload requested_model l).Run trace r →
      ∀ asked ∈ trace.filterMap fun event => reserved_for event.1, declared.1 ≤ asked.1 ∧ declared.2 ≤ asked.2

/-- The answers of a process whose budget guard is cancelled. -/
def unreserved : (op : Op) → op.Ans
  | .estimated_spend _ _ _ => .ok (.finite .zero)
  | _ => .error .cancelled

/-- Some run comes to the reservation. -/
theorem reservation_reached (G : Gateway) (request_id : String) (payload : Entries) (requested_model : Model)
    (l : Locals) : budget_tokens G payload ∈
      (((chat_completions_admitted G request_id payload requested_model) l).play unreserved).1.filterMap
        fun event => reserved_for event.1 := by
  unfold chat_completions_admitted estimate_spend
  cases G.target (named G (payload.orNone "model") "") with
  | none => exact List.mem_cons_self
  | some target => exact List.mem_cons_self

theorem reservesDeclared_iff {request_id : String} {requested_model : Model} {declared : ℤ × ℤ} :
    ReservesDeclared G request_id payload requested_model declared ↔
      declared.1 ≤ (budget_tokens G payload).1 ∧ declared.2 ≤ (budget_tokens G payload).2 := by
  constructor
  · intro reserves
    exact reserves .initial _ _ (Prog.run_play unreserved _) _
      (reservation_reached G request_id payload requested_model .initial)
  · intro enough l trace r run asked reserved
    have final := (admitted_reserves G request_id payload requested_model l).run trivial run
      (reservations_considers [] trace)
    rw [reservations_replay, List.nil_append] at final
    rcases final with none | one
    · rw [none] at reserved
      exact absurd reserved List.not_mem_nil
    · rw [one, List.mem_singleton] at reserved
      exact reserved ▸ enough

/-- The budget is reserved for what is declared exactly when the characters and the limit are covered. -/
theorem reserves_declared_iff (G : Gateway) (D : Governance.Deployment) (one_text : D.text = G.text)
    (request_id : String) (payload : Entries) (requested_model : Model) (declared : ℤ × ℤ)
    (returned : D.estimate_tokens payload = .ok declared) :
    ReservesDeclared G request_id payload requested_model declared ↔
      InputCovered payload ∧ OutputCovered G payload := by
  obtain ⟨input, output⟩ := estimate_tokens_eq_ok.mp returned
  rw [reservesDeclared_iff, input]
  change declared_input payload ≤ estimated_input_tokens payload ∧ _ ↔ _
  rw [declared_input_le_iff]
  exact and_congr_right fun covered => output_covered_iff one_text covered output

/-- A body with one message. -/
def bodyOf (content : Value) : Entries := [(.str "messages", .list [.dict [(.str "content", content)]])]

theorem reserves_declared_text :
    ReservesDeclared plainGateway "r" (bodyOf (.str "hello there")) none (2, 2) := by
  have returned : Governance.unsignedDeployment.estimate_tokens (bodyOf (.str "hello there")) = .ok (2, 2) := rfl
  refine (reserves_declared_iff plainGateway Governance.unsignedDeployment rfl "r" _ none (2, 2) returned).mpr
    ⟨fun messages same => ?_, fun cap read => ?_⟩
  · cases same
    decide
  · cases read

/-- The text of a list of parts is declared, and not reserved for. -/
theorem parts_unreserved : ∃ declared,
    Governance.unsignedDeployment.estimate_tokens
      (bodyOf (.list [.dict [(.str "type", .str "text"), (.str "text", .str "hello there")]])) = .ok declared ∧
    ¬ ReservesDeclared plainGateway "r"
      (bodyOf (.list [.dict [(.str "type", .str "text"), (.str "text", .str "hello there")]])) none declared := by
  refine ⟨(2, 2), rfl, fun reserves => ?_⟩
  exact absurd (reservesDeclared_iff.mp reserves).1 (by decide)

end RuntimePlatform.Chat
