import RuntimePlatform.Governance.Payloads
import Mathlib.Data.List.Sort

/-!
The digest which an approval is bound to: a hash of the canonical JSON text of some fields of the
evaluate payload. The text is that of `json.dumps` with sorted keys, no blanks, and ASCII only; the limits of CPython
on the depth of a value and on the digits of an integer are left out.
-/

namespace RuntimePlatform.Governance
open Python Except

def BINDING_FIELDS : List String :=
  ["subject", "groups", "policy_pack", "team", "tenant_id", "owner", "environment", "namespace", "action", "model",
    "provider", "input_tokens", "output_tokens", "cost_per_request_usd", "cost_per_hour_usd",
    "month_to_date_cost_usd", "forecast_monthly_cost_usd", "sensitive_data", "tool_access", "write_permission",
    "model_revision", "model_artifact_digest", "agent", "region"]

/-! `json.dumps` -/

def hexDigit (n : ℕ) : Char := "0123456789abcdef".toList.getD (n % 16) '0'

/-- A UTF-16 unit as `\uXXXX`. -/
def escapeUnit (n : ℕ) : List Char :=
  [Char.ofNat 92, 'u', hexDigit (n / 4096), hexDigit (n / 256), hexDigit (n / 16), hexDigit n]

def escapeChar (c : Char) : List Char :=
  let n := c.toNat
  if n = 34 ∨ n = 92 then [Char.ofNat 92, c]
  else if 32 ≤ n ∧ n ≤ 126 then [c]
  else if n = 8 then [Char.ofNat 92, 'b']
  else if n = 9 then [Char.ofNat 92, 't']
  else if n = 10 then [Char.ofNat 92, 'n']
  else if n = 12 then [Char.ofNat 92, 'f']
  else if n = 13 then [Char.ofNat 92, 'r']
  else if n < 0x10000 then escapeUnit n
  else escapeUnit (0xd800 + (n - 0x10000) / 1024) ++ escapeUnit (0xdc00 + (n - 0x10000) % 1024)

def dumpText (s : String) : List Char := [Char.ofNat 34] ++ s.toList.flatMap escapeChar ++ [Char.ofNat 34]

/-- `separator.join(parts)` -/
def joined : List (List Char) → List Char
  | [] => []
  | [part] => part
  | part :: rest => part ++ ',' :: joined rest

abbrev keyOrder (a b : String × List Char) : Prop := a.1 ≤ b.1

def dumpMembers (members : List (String × List Char)) : List Char :=
  [Char.ofNat 123] ++ joined (members.map fun member => dumpText member.1 ++ ':' :: member.2) ++ [Char.ofNat 125]

variable (T : Text)

mutual
/-- One value; the keys of objects are text. -/
def dumps : Value → Except Python.Error (List Char)
  | .none => .ok "null".toList
  | .bool true => .ok "true".toList
  | .bool false => .ok "false".toList
  | .int n => .ok (toString n).toList
  | .float (.finite x) => .ok (T.str (.float (.finite x))).toList
  | .float (.inf false) => .ok "Infinity".toList
  | .float (.inf true) => .ok "-Infinity".toList
  | .float .nan => .ok "NaN".toList
  | .str s => .ok (dumpText s)
  | .list items => do
    let parts ← dumpsItems items
    .ok (['['] ++ joined parts ++ [']'])
  | .dict entries => do
    let members ← dumpsEntries entries
    .ok (dumpMembers (members.insertionSort keyOrder))
  | .bytes _ | .object _ => .error ⟨.typeError, "Object is not JSON serializable"⟩
def dumpsItems : List Value → Except Python.Error (List (List Char))
  | [] => .ok []
  | v :: rest => do
    let part ← dumps v
    let parts ← dumpsItems rest
    .ok (part :: parts)
def dumpsEntries : List (Value × Value) → Except Python.Error (List (String × List Char))
  | [] => .ok []
  | (.str key, v) :: rest => do
    let part ← dumps v
    let parts ← dumpsEntries rest
    .ok ((key, part) :: parts)
  | _ :: _ => .error ⟨.typeError, "keys must be str"⟩
end

/-! The digest. -/

/-- What `for item in value` runs over. -/
def iterated : Value → Except Python.Error (List Value)
  | .list items => .ok items
  | .str s => .ok (s.toList.map fun c => .str (String.ofList [c]))
  | .dict entries => .ok (entries.map Prod.fst)
  | .bytes b => .ok (b.map fun byte => .int byte.toNat)
  | _ => .error ⟨.typeError, "object is not iterable"⟩

/-- The value of one field of `binding_payload`. -/
def bound_field (request : Entries) (key : String) : Except Python.Error Value :=
  let value := request.orNone key
  if key = "groups" then do
    let items ← if value.truthy then iterated value else .ok []
    .ok (.list (((items.map T.str).insertionSort fun a b => a ≤ b).map Value.str))
  else if key = "tenant_id" then
    .ok (.str (if value.truthy then T.str value else T.given request "team"))
  else match value with
    | .none => .ok (.str "")
    | value => .ok value

/-- The members of the canonical text, in the order of the keys. -/
def bindingMembers (request : Entries) (keys : List String) : Except Python.Error (List (String × List Char)) :=
  keys.mapM fun key => do
    let value ← bound_field T request key
    let part ← dumps T value
    .ok (key, part)

/-- `json.dumps(binding_payload(request), ...)` -/
def canonical (request : Entries) : Except Python.Error (List Char) := do
  let members ← bindingMembers T request (BINDING_FIELDS.insertionSort fun a b => a ≤ b)
  .ok (dumpMembers members)

/-- `compute_request_digest`, for the hash function on the bytes of the text. -/
def compute_request_digest (sha256 : List Char → String) (request : Entries) : Except Python.Error String := do
  let text ← canonical T request
  .ok (sha256 text)

/-- Groups which are a number have no digest. -/
example : compute_request_digest asciiText String.ofList [(.str "groups", .int 5)] =
    .error ⟨.typeError, "object is not iterable"⟩ := rfl

/-! Texts which differ in one member. -/

theorem joined_split (before after : List (List Char)) (part : List Char) : joined (before ++ part :: after) =
    before.flatMap (fun text => text ++ [',']) ++ part ++ after.flatMap (fun text => ',' :: text) := by
  induction before with
  | nil =>
      induction after generalizing part with
      | nil => exact (List.append_nil part).symm
      | cons next rest ih =>
          change part ++ ',' :: joined ([] ++ next :: rest) = _
          rw [ih next]
          simp only [List.flatMap_nil, List.nil_append, List.flatMap_cons, List.cons_append]
  | cons first rest ih =>
      have step : joined (first :: rest ++ part :: after) = first ++ ',' :: joined (rest ++ part :: after) := by
        cases rest <;> rfl
      rw [step, ih]
      simp only [List.flatMap_cons, List.append_assoc, List.cons_append, List.nil_append]

theorem mapM_all_ok {α β ε : Type} {f : α → Except ε β} {g : α → β} {keys : List α}
    (each : ∀ key ∈ keys, f key = .ok (g key)) : keys.mapM f = .ok (keys.map g) := by
  induction keys with
  | nil => rfl
  | cons key rest ih =>
      rw [List.mapM_cons, each key List.mem_cons_self,
        ih fun other member => each other (List.mem_cons_of_mem _ member)]
      rfl

/-- Two texts whose members agree but for one are the same just when that one is. -/
theorem dumpMembers_eq_iff {keys : List String} {part part' : String → List Char} {key : String} (nodup : keys.Nodup)
    (member : key ∈ keys) (agree : ∀ other ∈ keys, other ≠ key → part other = part' other) :
    dumpMembers (keys.map fun name => (name, part name)) = dumpMembers (keys.map fun name => (name, part' name)) ↔
      part key = part' key := by
  obtain ⟨before, after, rfl⟩ := List.append_of_mem member
  have apart : key ∉ before ∧ key ∉ after := by
    rw [List.nodup_append] at nodup
    exact ⟨fun early => nodup.2.2 key early key List.mem_cons_self rfl, (List.nodup_cons.mp nodup.2.1).1⟩
  have early : (before.map fun name => (name, part name)) = before.map fun name => (name, part' name) :=
    List.map_congr_left fun name listed => congrArg (Prod.mk name)
      (agree name (List.mem_append_left _ listed) fun same => apart.1 (same ▸ listed))
  have late : (after.map fun name => (name, part name)) = after.map fun name => (name, part' name) :=
    List.map_congr_left fun name listed => congrArg (Prod.mk name)
      (agree name (List.mem_append_right _ (List.mem_cons_of_mem _ listed)) fun same => apart.2 (same ▸ listed))
  unfold dumpMembers
  rw [List.map_append, List.map_cons, List.map_append, List.map_cons, early, late, List.map_append, List.map_cons,
    List.map_append, List.map_cons, joined_split, joined_split]
  simp only [List.append_assoc, List.append_cancel_left_eq, List.cons_append, List.cons.injEq, true_and,
    List.append_cancel_right_eq]

/-! The counters in the body, and in its canonical text. -/

section Telemetry
variable {D : Deployment} {P : IdentityProvider} {price : Price} {request : ClientRequest}
  {payload body body' : Entries} {config : GovernanceSettings} {model_targets : List (String × ModelTarget)}
  {counters counters' : LiveCounters}

/-- The month's spend that the Control Plane is told. -/
def GovernanceSettings.month_spend (config : GovernanceSettings) (counters : LiveCounters) : Double :=
  counters.month_to_date_cost_usd.getD config.default_month_to_date_cost_usd

/-- What the body for a model has besides the counters. -/
structure EvaluateParts where
  target : Option ModelTarget
  identity : WorkloadIdentity
  input_tokens : ℤ
  output_tokens : ℤ
  cost_per_request_usd : Double
  untrusted_context : Entries

/-- The body with the counters. -/
def Deployment.evaluate_body (D : Deployment) (P : IdentityProvider) (request : ClientRequest) (payload : Entries)
    (config : GovernanceSettings) (parts : EvaluateParts) (counters : LiveCounters) : Entries :=
  D.evaluate_fields P request payload config parts.target counters parts.identity parts.input_tokens
    parts.output_tokens parts.cost_per_request_usd ++ [(.str "untrusted_context", .dict parts.untrusted_context)]

/-- The bodies at two states of the counters are otherwise the same. -/
theorem built_alike (built : D.build_evaluate_payload P price request payload config model_targets counters = .ok body)
    (built' : D.build_evaluate_payload P price request payload config model_targets counters' = .ok body') :
    ∃ parts, body = D.evaluate_body P request payload config parts counters ∧
      body' = D.evaluate_body P request payload config parts counters' := by
  unfold Deployment.build_evaluate_payload at built built'
  obtain ⟨tokens, estimated, built⟩ := bind_eq_ok.mp built
  obtain ⟨cost, priced, built⟩ := bind_eq_ok.mp built
  obtain ⟨identity, resolved, built⟩ := bind_eq_ok.mp built
  rw [estimated, bind_ok] at built'
  dsimp only at built'
  rw [priced, bind_ok, resolved, bind_ok] at built'
  cases built
  cases built'
  exact ⟨⟨_, identity, tokens.1, tokens.2, cost, _⟩, rfl, rfl⟩

/-- The text of one field, where it has one. -/
def fieldText (T : Text) (request : Entries) (key : String) : List Char :=
  (bound_field T request key >>= dumps T).toOption.getD []

theorem member_of_dumped {T : Text} {request : Entries} {key : String} {v : Value} {part : List Char}
    (bound : bound_field T request key = .ok v) (dumped : dumps T v = .ok part) :
    (do
      let value ← bound_field T request key
      let part ← dumps T value
      (.ok (key, part) : Except Python.Error (String × List Char))) = .ok (key, fieldText T request key) := by
  have text : fieldText T request key = part := by
    unfold fieldText
    rw [bound, bind_ok, dumped]
    rfl
  rw [bound, bind_ok, dumped, bind_ok, text]

theorem dumps_float (T : Text) (x : Double) : ∃ part, dumps T (.float x) = .ok part := by
  cases x with
  | finite x => exact ⟨_, rfl⟩
  | inf negative => cases negative <;> exact ⟨_, rfl⟩
  | nan => exact ⟨_, rfl⟩

theorem dumps_bool (T : Text) (b : Bool) : ∃ part, dumps T (.bool b) = .ok part := by
  cases b <;> exact ⟨_, rfl⟩

theorem dumps_texts (T : Text) (texts : List String) : ∃ part, dumps T (.list (texts.map Value.str)) = .ok part := by
  have items : ∀ texts : List String, ∃ parts, dumpsItems T (texts.map Value.str) = .ok parts := by
    intro texts
    induction texts with
    | nil => exact ⟨_, rfl⟩
    | cons text rest ih =>
        obtain ⟨parts, dumped⟩ := ih
        refine ⟨dumpText text :: parts, ?_⟩
        change (do
          let parts ← dumpsItems T (rest.map Value.str)
          (.ok (dumpText text :: parts) : Except Python.Error (List (List Char)))) = _
        rw [dumped]
        rfl
  obtain ⟨parts, dumped⟩ := items texts
  refine ⟨['['] ++ joined parts ++ [']'], ?_⟩
  change (do
    let parts ← dumpsItems T (texts.map Value.str)
    (.ok (['['] ++ joined parts ++ [']']) : Except Python.Error (List Char))) = _
  rw [dumped]
  rfl

theorem groups_bound (T : Text) (request : Entries) (groups : List String)
    (given : request.orNone "groups" = .list (groups.map Value.str)) :
    ∃ texts : List String, bound_field T request "groups" = .ok (.list (texts.map Value.str)) := by
  unfold bound_field
  rw [given]
  cases groups with
  | nil => exact ⟨_, rfl⟩
  | cons group rest => exact ⟨_, rfl⟩

/-- Every bound field of a body has a text. -/
theorem body_dumped (parts : EvaluateParts) (counters : LiveCounters) : ∀ key ∈ BINDING_FIELDS, ∃ v part,
    bound_field D.text (D.evaluate_body P request payload config parts counters) key = .ok v ∧
        dumps D.text v = .ok part := by
  have floats := dumps_float D.text
  have flags := dumps_bool D.text
  intro key listed
  simp only [BINDING_FIELDS, List.mem_cons, List.not_mem_nil, or_false] at listed
  rcases listed with rfl | rfl | rfl | rfl | rfl | rfl | rfl | rfl | rfl | rfl | rfl | rfl | rfl | rfl | rfl | rfl |
    rfl | rfl | rfl | rfl | rfl | rfl | rfl | rfl
  case inr.inl =>
    obtain ⟨texts, bound⟩ := groups_bound D.text (D.evaluate_body P request payload config parts counters)
      parts.identity.groups rfl
    obtain ⟨part, dumped⟩ := dumps_texts D.text texts
    exact ⟨_, part, bound, dumped⟩
  all_goals first
    | exact ⟨_, _, rfl, rfl⟩
    | exact ⟨_, _, rfl, (floats _).choose_spec⟩
    | exact ⟨_, _, rfl, (flags _).choose_spec⟩

/-- The counters are in one bound field only. -/
theorem fieldText_alike (parts : EvaluateParts) (counters counters' : LiveCounters) : ∀ key ∈ BINDING_FIELDS,
    key ≠ "month_to_date_cost_usd" → fieldText D.text (D.evaluate_body P request payload config parts counters) key =
      fieldText D.text (D.evaluate_body P request payload config parts counters') key := by
  intro key listed other
  simp only [BINDING_FIELDS, List.mem_cons, List.not_mem_nil, or_false] at listed
  rcases listed with rfl | rfl | rfl | rfl | rfl | rfl | rfl | rfl | rfl | rfl | rfl | rfl | rfl | rfl | rfl | rfl |
    rfl | rfl | rfl | rfl | rfl | rfl | rfl | rfl
  all_goals first
    | rfl
    | exact absurd rfl other

theorem canonical_body (parts : EvaluateParts) (counters : LiveCounters) :
    canonical D.text (D.evaluate_body P request payload config parts counters) = .ok (dumpMembers
      ((BINDING_FIELDS.insertionSort fun a b => a ≤ b).map fun key =>
        (key, fieldText D.text (D.evaluate_body P request payload config parts counters) key))) := by
  unfold canonical bindingMembers
  rw [mapM_all_ok fun key listed => ?_]
  · rfl
  · obtain ⟨v, part, bound, dumped⟩ : ∃ v part, bound_field D.text
        (D.evaluate_body P request payload config parts counters) key = .ok v ∧ dumps D.text v = .ok part :=
      body_dumped parts counters key ((List.mem_insertionSort _).mp listed)
    exact member_of_dumped bound dumped

theorem BINDING_FIELDS_nodup : BINDING_FIELDS.Nodup := by decide

/-- The canonical texts are the same just when those of the month's spend are. -/
theorem canonical_eq_iff
    (built : D.build_evaluate_payload P price request payload config model_targets counters = .ok body)
    (built' : D.build_evaluate_payload P price request payload config model_targets counters' = .ok body') :
    canonical D.text body = canonical D.text body' ↔
      dumps D.text (.float (config.month_spend counters)) = dumps D.text (.float (config.month_spend counters')) := by
  obtain ⟨parts, rfl, rfl⟩ := built_alike built built'
  obtain ⟨part, dumped⟩ := dumps_float D.text (config.month_spend counters)
  obtain ⟨part', dumped'⟩ := dumps_float D.text (config.month_spend counters')
  have spend : ∀ {counters part}, dumps D.text (.float (config.month_spend counters)) = .ok part →
      fieldText D.text (D.evaluate_body P request payload config parts counters) "month_to_date_cost_usd" = part := by
    intro counters part dumped
    have bound : bound_field D.text (D.evaluate_body P request payload config parts counters)
        "month_to_date_cost_usd" = .ok (.float (config.month_spend counters)) := rfl
    unfold fieldText
    rw [bound, bind_ok, dumped]
    rfl
  have sorted := List.perm_insertionSort (fun a b : String => a ≤ b) BINDING_FIELDS
  rw [canonical_body, canonical_body, dumped, dumped', Except.ok.injEq, Except.ok.injEq, ← spend dumped,
    ← spend dumped']
  exact dumpMembers_eq_iff (sorted.nodup_iff.mpr BINDING_FIELDS_nodup) (sorted.mem_iff.mpr (by decide))
    fun key listed other => fieldText_alike parts counters counters' key (sorted.mem_iff.mp listed) other

/-- Two evaluations of a request at different counters have the same digest just when the month's spend has the same
text in both, for a hash without a collision of their texts. -/
theorem digest_ignores_telemetry_iff (D : Deployment) (P : IdentityProvider) (price : Price)
    (sha256 : List Char → String) (request : ClientRequest) (payload : Entries) (config : GovernanceSettings)
    (model_targets : List (String × ModelTarget)) (counters counters' : LiveCounters) (body body' : Entries)
    (built : D.build_evaluate_payload P price request payload config model_targets counters = .ok body)
    (built' : D.build_evaluate_payload P price request payload config model_targets counters' = .ok body')
    (apart : ∀ text text', canonical D.text body = .ok text → canonical D.text body' = .ok text' →
      sha256 text = sha256 text' → text = text') :
    compute_request_digest D.text sha256 body = compute_request_digest D.text sha256 body' ↔
      dumps D.text (.float (config.month_spend counters)) = dumps D.text (.float (config.month_spend counters')) := by
  rw [← canonical_eq_iff built built']
  obtain ⟨text, canonical_text⟩ : ∃ text, canonical D.text body = .ok text := by
    obtain ⟨parts, rfl, _⟩ := built_alike built built'
    exact ⟨_, canonical_body parts counters⟩
  obtain ⟨text', canonical_text'⟩ : ∃ text, canonical D.text body' = .ok text := by
    obtain ⟨parts, _, rfl⟩ := built_alike built built'
    exact ⟨_, canonical_body parts counters'⟩
  unfold compute_request_digest
  constructor
  · intro digest
    rw [canonical_text, canonical_text', bind_ok, bind_ok] at digest
    rw [canonical_text, canonical_text']
    exact congrArg Except.ok (apart text text' canonical_text canonical_text' (Except.ok.inj digest))
  · intro canonical_same
    rw [canonical_same]

end Telemetry

/-! Two retries of a request: other counters, and another month's spend. -/

def spent : Finite where
  value := 3 / 2
  printed := 3 / 2
  bounded := by
    have large : (1 : ℚ) ≤ 2 ^ 970 := one_le_pow₀ (by norm_num)
    rw [abs_of_nonneg (by norm_num), maxDouble]
    exact le_trans (by norm_num) (mul_le_mul_of_nonneg_left large (by norm_num))

/-- The table for the two amounts. -/
def spendText : Text :=
  { asciiText with
    repr := fun v => match v with
      | .float (.finite x) => if x.value = 0 then "0.0" else "1.5"
      | _ => "" }

def spendDeployment : Deployment := { unsignedDeployment with text := spendText }

abbrev evaluated (counters : LiveCounters) : Except Raised Entries :=
  spendDeployment.build_evaluate_payload verifyingProvider (fun _ _ _ _ => .ok (.finite .zero))
    (requestWith "x-request-id" "r" financeClaims) [] developmentSettings [] counters

theorem digest_ignores_telemetry_retried :
    (evaluated ⟨some 1, some 100, some (.finite .zero)⟩ >>= fun body =>
        (compute_request_digest spendText String.ofList body).mapError Raised.error) =
      (evaluated ⟨some 99, some 9999, some (.finite .zero)⟩ >>= fun body =>
        (compute_request_digest spendText String.ofList body).mapError Raised.error) := by
  have same := (digest_ignores_telemetry_iff spendDeployment verifyingProvider (fun _ _ _ _ => .ok (.finite .zero))
    String.ofList (requestWith "x-request-id" "r" financeClaims) [] developmentSettings []
    ⟨some 1, some 100, some (.finite .zero)⟩ ⟨some 99, some 9999, some (.finite .zero)⟩ _ _ rfl rfl
    (fun _ _ _ _ same => String.ofList_injective same)).mpr rfl
  exact congrArg (Except.mapError Raised.error) same

/-- The spend of the month, which other traffic of the team has raised, is in the text that is hashed. -/
theorem digest_follows_spend :
    (evaluated ⟨some 1, some 100, some (.finite .zero)⟩).toOption.map (canonical spendText) ≠
      (evaluated ⟨some 1, some 100, some (.finite spent)⟩).toOption.map (canonical spendText) := by
  intro same
  have built : evaluated ⟨some 1, some 100, some (.finite .zero)⟩ = .ok _ := rfl
  have built' : evaluated ⟨some 1, some 100, some (.finite spent)⟩ = .ok _ := rfl
  have texts := (canonical_eq_iff built built').mp (Option.some.inj same)
  exact absurd (Except.ok.inj texts) (by decide +kernel)

end RuntimePlatform.Governance
