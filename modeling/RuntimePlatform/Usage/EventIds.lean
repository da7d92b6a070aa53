import RuntimePlatform.Usage.Emitter

/-!
The ids of usage events, by which a receiver of the webhook tells a redelivery from a new event. Which events share
an id is a matter of where the colons of their components stand.
-/

namespace RuntimePlatform.Usage

/-- The arguments of `build`, with the reading of the clock. -/
structure Reported where
  tenant_id : String
  request_id : String
  decision_id : Option String
  model : String
  backend : String
  input_tokens : ℤ
  output_tokens : ℤ
  estimated_cost_usd : Option ℚ
  duration_ms : ℚ
  outcome : String
  ttft_ms : Option ℚ
  gpu_seconds : Option ℚ
  now : ℚ

/-- A usage event with the fields which the emitter does not read. -/
structure AttributedEvent extends UsageEvent where
  tenant_id : String
  request_id : String
  decision_id : Option String
  model : String
  backend : String
  input_tokens : ℤ
  output_tokens : ℤ
  estimated_cost_usd : Option ℚ
  gpu_seconds : Option ℚ
  ttft_ms : Option ℚ
  duration_ms : ℚ
  enqueued_at : ℚ

/-- `digest` is the SHA-256 of a text in hexadecimal, cut to 24 digits. -/
def deterministic_event_id (digest : String → String) (request_id outcome backend : String) : String :=
  "evt_" ++ digest (request_id ++ ":" ++ outcome ++ ":" ++ backend)

def build (digest : String → String) (u : Reported) : AttributedEvent where
  event_id := deterministic_event_id digest u.request_id u.outcome u.backend
  tenant_id := u.tenant_id
  request_id := u.request_id
  decision_id := u.decision_id
  model := u.model
  backend := u.backend
  input_tokens := max 0 u.input_tokens
  output_tokens := max 0 u.output_tokens
  estimated_cost_usd := u.estimated_cost_usd
  gpu_seconds := u.gpu_seconds
  ttft_ms := u.ttft_ms
  duration_ms := u.duration_ms
  outcome := u.outcome
  enqueued_at := u.now

/-- Whose usage an event reports, and of what. -/
structure Identity where
  tenant_id : String
  request_id : String
  outcome : String
  backend : String
  deriving DecidableEq

def AttributedEvent.identity (e : AttributedEvent) : Identity := ⟨e.tenant_id, e.request_id, e.outcome, e.backend⟩

def Reported.identity (u : Reported) : Identity := ⟨u.tenant_id, u.request_id, u.outcome, u.backend⟩

/-- What a receiver keeps which drops an event whose `Idempotency-Key` it has seen. -/
def accepted (seen : List String) : List AttributedEvent → List AttributedEvent
  | [] => []
  | e :: rest => if e.event_id ∈ seen then accepted seen rest else e :: accepted (e.event_id :: seen) rest

/-- `text.split(":")` -/
def colonParts (text : String) : List (List Char) := text.toList.splitOn ':'

/-- What the id of an event is a digest of. -/
def Reported.hashed (u : Reported) : String := u.request_id ++ ":" ++ u.outcome ++ ":" ++ u.backend

/-- The parts between the colons of request id, outcome and backend, read one after the other. -/
def Reported.parts (u : Reported) : List (List Char) :=
  colonParts u.request_id ++ colonParts u.outcome ++ colonParts u.backend

theorem colonParts_injective : Function.Injective colonParts := by
  intro a b same
  have rejoined : ([':'] : List Char).intercalate (a.toList.splitOn ':') = [':'].intercalate (b.toList.splitOn ':') :=
    congrArg _ same
  rw [List.intercalate_splitOn, List.intercalate_splitOn] at rejoined
  exact String.toList_injective rejoined

theorem colonParts_append (a b : String) : colonParts (a ++ ":" ++ b) = colonParts a ++ colonParts b := by
  have chars : (a ++ ":" ++ b).toList = a.toList ++ ':' :: b.toList := by
    simp only [String.toList_append, List.append_assoc]
    rfl
  rw [colonParts, chars, List.splitOn_append_cons_self]
  rfl

/-- The hashed texts are the same exactly when the parts are. -/
theorem hashed_eq_iff (u v : Reported) : u.hashed = v.hashed ↔ u.parts = v.parts := by
  unfold Reported.hashed Reported.parts
  rw [← colonParts_injective.eq_iff, colonParts_append, colonParts_append, colonParts_append, colonParts_append]

/-! Where the truncated hash has no collision. -/

theorem event_id_eq_iff {digest : String → String} {usages : List Reported}
    (collision_free : Set.InjOn digest {text | ∃ u ∈ usages, u.hashed = text}) {u v : Reported} (member : u ∈ usages)
    (member' : v ∈ usages) : (build digest u).event_id = (build digest v).event_id ↔ u.parts = v.parts := by
  rw [← hashed_eq_iff]
  constructor
  · intro same
    have digests : digest u.hashed = digest v.hashed := by
      have chars := congrArg String.toList same
      simp only [build, deterministic_event_id, String.toList_append, List.append_cancel_left_eq] at chars
      exact String.toList_injective chars
    exact collision_free ⟨u, member, rfl⟩ ⟨v, member', rfl⟩ digests
  · intro same
    exact congrArg (fun text => "evt_" ++ digest text) same

theorem accepted_subset (seen : List String) (events : List AttributedEvent) :
    ∀ e ∈ accepted seen events, e ∈ events ∧ e.event_id ∉ seen := by
  induction events generalizing seen with
  | nil => exact fun _ bad => absurd bad List.not_mem_nil
  | cons first rest ih =>
      intro e member
      unfold accepted at member
      by_cases known : first.event_id ∈ seen
      · rw [if_pos known] at member
        exact ⟨List.mem_cons_of_mem _ (ih seen e member).1, (ih seen e member).2⟩
      · rw [if_neg known] at member
        rcases List.mem_cons.mp member with rfl | later
        · exact ⟨List.mem_cons_self, known⟩
        · obtain ⟨listed, fresh⟩ := ih _ e later
          exact ⟨List.mem_cons_of_mem _ listed, fun bad => fresh (List.mem_cons_of_mem _ bad)⟩

/-- Of each new id the receiver keeps an event. -/
theorem accepted_covers (seen : List String) (events : List AttributedEvent) :
    ∀ e ∈ events, e.event_id ∉ seen → ∃ kept ∈ accepted seen events, kept.event_id = e.event_id := by
  induction events generalizing seen with
  | nil => exact fun _ bad => absurd bad List.not_mem_nil
  | cons first rest ih =>
      intro e member fresh
      unfold accepted
      by_cases known : first.event_id ∈ seen
      · rw [if_pos known]
        rcases List.mem_cons.mp member with rfl | later
        · exact absurd known fresh
        · exact ih seen e later fresh
      · rw [if_neg known]
        by_cases same : first.event_id = e.event_id
        · exact ⟨first, List.mem_cons_self, same⟩
        · rcases List.mem_cons.mp member with rfl | later
          · exact absurd rfl same
          · have fresh' : e.event_id ∉ first.event_id :: seen := by
              intro bad
              rcases List.mem_cons.mp bad with bad | bad
              · exact same bad.symm
              · exact fresh bad
            obtain ⟨kept, listed, id⟩ := ih _ e later fresh'
            exact ⟨kept, List.mem_cons_of_mem _ listed, id⟩

/-- Ids separate events, and a receiver which goes by them loses nobody's usage, exactly when events with the same
parts are about the same usage. -/
theorem event_ids_separate_iff (digest : String → String) (usages : List Reported)
    (collision_free : Set.InjOn digest {text | ∃ u ∈ usages, u.hashed = text}) :
    ((∀ u ∈ usages, ∀ v ∈ usages, u.identity ≠ v.identity → (build digest u).event_id ≠ (build digest v).event_id) ∧
        ∀ u ∈ usages, ∃ kept ∈ accepted [] (usages.map (build digest)), kept.identity = u.identity) ↔
      ∀ u ∈ usages, ∀ v ∈ usages, u.parts = v.parts → u.identity = v.identity := by
  constructor
  · rintro ⟨separate, _⟩ u member v member' same
    by_contra different
    exact separate u member v member' different ((event_id_eq_iff collision_free member member').mpr same)
  · intro condition
    refine ⟨fun u member v member' different same => different ?_, ?_⟩
    · exact condition u member v member' ((event_id_eq_iff collision_free member member').mp same)
    · intro u member
      obtain ⟨kept, listed, id⟩ := accepted_covers [] (usages.map (build digest)) (build digest u)
        (List.mem_map_of_mem member) List.not_mem_nil
      obtain ⟨v, member', rfl⟩ := List.mem_map.mp (accepted_subset [] _ kept listed).1
      refine ⟨build digest v, listed, ?_⟩
      exact condition v member' u member ((event_id_eq_iff collision_free member' member).mp id)

/-- A completion by `qwen`, of which only tenant and request are told apart. -/
def completion (tenant_id request_id : String) : Reported :=
  ⟨tenant_id, request_id, none, "qwen", "qwen", 1200, 350, none, 1830, "success", none, none, 0⟩

/-- The hash on the texts of two requests. -/
def digestOfTwo (text : String) : String :=
  if text = "req-1:success:qwen" then "cbc07e65330875794dd8dff4"
  else if text = "req-2:success:qwen" then "bce164acc9043f0259189046"
  else text

theorem event_ids_separate_requests :
    Set.InjOn digestOfTwo {text | ∃ u ∈ [completion "finance" "req-1", completion "finance" "req-2"], u.hashed = text} ∧
      (build digestOfTwo (completion "finance" "req-1")).event_id ≠
        (build digestOfTwo (completion "finance" "req-2")).event_id := by
  have collision_free : Set.InjOn digestOfTwo
      {text | ∃ u ∈ [completion "finance" "req-1", completion "finance" "req-2"], u.hashed = text} := by
    rintro _ ⟨u, member, rfl⟩ _ ⟨v, member', rfl⟩ same
    rcases List.mem_pair.mp member with rfl | rfl
    · rcases List.mem_pair.mp member' with rfl | rfl
      · rfl
      · exact absurd same (by decide)
    · rcases List.mem_pair.mp member' with rfl | rfl
      · exact absurd same (by decide)
      · rfl
  refine ⟨collision_free, ?_⟩
  refine ((event_ids_separate_iff digestOfTwo _ collision_free).mpr ?_).1 _ (by simp) _ (by simp) (by decide)
  decide

/-- Two tenants who send the same request id share an event id, and only the first one's usage is kept. So do two
requests of one tenant when a colon moves from the one component to the other. -/
theorem event_ids_shared :
    let finance := completion "finance" "req-1"
    let legal := completion "legal" "req-1"
    let shifted : Reported := { finance with request_id := "req-1:success" }
    let shifted' : Reported := { finance with backend := "success:qwen" }
    ∀ digest : String → String,
      finance.identity ≠ legal.identity ∧ (build digest finance).event_id = (build digest legal).event_id ∧
      (¬ ∃ kept ∈ accepted [] [build digest finance, build digest legal], kept.identity = legal.identity) ∧
      shifted.identity ≠ shifted'.identity ∧ (build digest shifted).event_id = (build digest shifted').event_id := by
  intro finance legal shifted shifted' digest
  have shared : (build digest finance).event_id = (build digest legal).event_id := rfl
  have kept : accepted [] [build digest finance, build digest legal] = [build digest finance] := by
    simp [accepted, shared]
  refine ⟨by decide, shared, ?_, by decide, ?_⟩
  · rw [kept]
    rintro ⟨_, listed, same⟩
    rw [List.mem_singleton.mp listed] at same
    have tenants : "finance" = "legal" := congrArg Identity.tenant_id same
    exact absurd tenants (by decide)
  · have texts : shifted.hashed = shifted'.hashed := by decide
    exact congrArg (fun text => "evt_" ++ digest text) texts

end RuntimePlatform.Usage
