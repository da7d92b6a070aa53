import RuntimePlatform.Lib.Python
import RuntimePlatform.Lib.OrderedDict

/-!
Decision records and the two stores which keep them, `decisions.py`. A record lies under its
tenant and its request id; a shadow outcome is patched in later, found by the request id alone.
-/

namespace RuntimePlatform.Decisions
open Python Except

/-- Python's floats as far as records use them: how `str` prints one, and what `float` and `int` read. -/
structure Floats (F : Type) where
  zero : F
  str : F → String
  float : String → Option F
  int : F → Except Python.Error ℤ
  float_str : ∀ x, float (str x) = some x
  float_empty : float "" = none
  float_None : float "None" = none
  /-- A health score, which is from 0 to 100, reads back. -/
  int_score : ∀ n : Fin 101, ∃ x, float (toString n.val) = some x ∧ int x = .ok n.val

structure DecisionRecord (F : Type) where
  request_id : String
  requested_model : String
  selected_backend : String
  routing_reason : String
  fallback_used : Bool
  health_score : Option ℤ
  duration_ms : F
  shadow_backend : Option String
  shadow_duration_ms : Option F
  shadow_outcome : Option String
  estimated_cost : Option F
  stream_outcome : Option String
  stream_ttft_ms : Option F
  control_plane_decision_id : Option String
  approval_id : Option String
  policy_bundle_id : Option String
  policy_digest : Option String
  request_digest : Option String
  control_plane_version : Option String
  runtime_version : Option String
  enforcement_outcome : Option String
  tenant_id : Option String
  recorded_at : F
  deriving DecidableEq

/-- What the stores take from the process: floats, text, and the records which are stored as one JSON text. -/
structure Codec (F : Type) where
  floats : Floats F
  text : Text
  json_record : String → Except Python.Error (DecisionRecord F)

variable {F : Type}

/-- `value or None` -/
def orNone (text : Option String) : Option String := text.filter fun s => decide (s ≠ "")

/-- `record.tenant_id or "platform"` -/
def DecisionRecord.tenant (record : DecisionRecord F) : String := (orNone record.tenant_id).getD "platform"

def DecisionRecord.stamp (record : DecisionRecord F) (now : F) : DecisionRecord F := { record with recorded_at := now }

def DecisionRecord.patched (record : DecisionRecord F) (outcome : String) (duration_ms : F) : DecisionRecord F :=
  { record with shadow_outcome := some outcome, shadow_duration_ms := some duration_ms }

/-! ## The in-process store -/

structure InMemoryDecisionStore (F : Type) where
  entries : OrderedDict String (DecisionRecord F)
  order : List String
  max_entries : ℕ

namespace InMemoryDecisionStore

def new (max_entries : ℕ) : InMemoryDecisionStore F := ⟨OrderedDict.empty, [], max_entries⟩

def storage_key (record : DecisionRecord F) : String := record.tenant ++ ":" ++ record.request_id

/-- The loop which drops the oldest keys. -/
def trim (max_entries : ℕ) : List String → OrderedDict String (DecisionRecord F) →
    List String × OrderedDict String (DecisionRecord F)
  | [], entries => ([], entries)
  | oldest :: order, entries =>
    if (oldest :: order).length > max_entries then trim max_entries order (entries.erase oldest)
    else (oldest :: order, entries)

def put (now : F) (record : DecisionRecord F) (s : InMemoryDecisionStore F) : InMemoryDecisionStore F :=
  let stamped := record.stamp now
  let key := storage_key stamped
  let order := if key ∈ s.entries.keys then s.order else s.order ++ [key]
  let (order, entries) := trim s.max_entries order (s.entries.set key stamped)
  { s with order := order, entries := entries }

def get (s : InMemoryDecisionStore F) (request_id : String) (tenant_id : Option String) (any_tenant : Bool) :
    Option (DecisionRecord F) :=
  if any_tenant = true then
    (s.entries.findValue fun record => decide (record.request_id = request_id)).map Prod.snd
  else
    let tenant := (orNone tenant_id).getD "platform"
    match s.entries.get (tenant ++ ":" ++ request_id) with
    | some record => some record
    | none => s.entries.get request_id

/-- The entry which `patch_shadow` finds: the first with this request id. -/
def found (s : InMemoryDecisionStore F) (request_id : String) : Option (String × DecisionRecord F) :=
  s.entries.findValue fun record => decide (record.request_id = request_id)

def patch_shadow (request_id outcome : String) (duration_ms : F) (s : InMemoryDecisionStore F) :
    InMemoryDecisionStore F :=
  match s.found request_id with
  | none => s
  | some (key, current) => { s with entries := s.entries.set key (current.patched outcome duration_ms) }

end InMemoryDecisionStore

/-! ## The store in Redis -/

/-- A value of the keyspace; a hash which exists is not empty. -/
inductive RedisValue where
  | missing
  | string (s : String)
  | hash (fields : OrderedDict String String)

abbrev Keyspace := String → RedisValue

def wrongType : Python.Error := ⟨.other, "WRONGTYPE Operation against a key holding the wrong kind of value"⟩

/-- `HGETALL` -/
def hgetall (s : Keyspace) (key : String) : Except Python.Error (OrderedDict String String) :=
  match s key with
  | .missing => .ok OrderedDict.empty
  | .hash fields => .ok fields
  | .string _ => .error wrongType

/-- `HSET` -/
def hset (key : String) (mapping : List (String × String)) (s : Keyspace) : Except Python.Error Unit × Keyspace :=
  match s key with
  | .missing => (.ok (), Function.update s key (.hash (OrderedDict.empty.update mapping)))
  | .hash fields => (.ok (), Function.update s key (.hash (fields.update mapping)))
  | .string _ => (.error wrongType, s)

/-- `GET` -/
def getString (s : Keyspace) (key : String) : Except Python.Error (Option String) :=
  match s key with
  | .missing => .ok none
  | .string text => .ok (some text)
  | .hash _ => .error wrongType

namespace RedisDecisionStore

def key (tenant_id request_id : String) : String := "arp:" ++ tenant_id ++ ":decision:" ++ request_id

def legacy_key (request_id : String) : String := "arp:decision:" ++ request_id

def index_key (request_id : String) : String := "arp:decision-index:" ++ request_id

/-- `""` for `None`, and the text otherwise. -/
def optional (text : Option String) : String := text.getD ""

variable (C : Codec F)

def serialize (record : DecisionRecord F) : List (String × String) :=
  [("request_id", record.request_id),
    ("requested_model", record.requested_model),
    ("selected_backend", record.selected_backend),
    ("routing_reason", record.routing_reason),
    ("fallback_used", if record.fallback_used = true then "true" else "false"),
    ("health_score", optional (record.health_score.map toString)),
    ("duration_ms", C.floats.str record.duration_ms),
    ("shadow_backend", optional record.shadow_backend),
    ("shadow_duration_ms", optional (record.shadow_duration_ms.map C.floats.str)),
    ("shadow_outcome", optional record.shadow_outcome),
    ("estimated_cost", optional (record.estimated_cost.map C.floats.str)),
    ("stream_outcome", optional record.stream_outcome),
    ("stream_ttft_ms", optional (record.stream_ttft_ms.map C.floats.str)),
    ("control_plane_decision_id", optional record.control_plane_decision_id),
    ("approval_id", optional record.approval_id),
    ("policy_bundle_id", optional record.policy_bundle_id),
    ("policy_digest", optional record.policy_digest),
    ("request_digest", optional record.request_digest),
    ("control_plane_version", optional record.control_plane_version),
    ("runtime_version", optional record.runtime_version),
    ("enforcement_outcome", optional record.enforcement_outcome),
    ("tenant_id", optional record.tenant_id),
    ("recorded_at", C.floats.str record.recorded_at)]

section Decoding
variable (data : OrderedDict String String)

/-- `data[key]` -/
def required (name : String) : Except Python.Error String :=
  match data.get name with
  | some text => .ok text
  | none => .error ⟨.lookupError, name⟩

/-- `None if data.get(key) in (None, "", "None")` -/
def given (name : String) : Option String := (data.get name).filter fun s => decide (s ∉ ["", "None"])

/-- `float(text)` -/
def float (text : String) : Except Python.Error F :=
  match C.floats.float text with
  | some x => .ok x
  | none => .error ⟨.valueError, "could not convert string to float"⟩

/-- A float field which may be absent. -/
def optionalFloat (name : String) : Except Python.Error (Option F) :=
  match given data name with
  | none => .ok none
  | some text => (float C text).map some

/-- `float(data.get(key) or 0)` -/
def floatOrZero (name : String) : Except Python.Error F :=
  match orNone (data.get name) with
  | none => .ok C.floats.zero
  | some text => float C text

/-- `int(float(data["health_score"]))`, where it is given. -/
def healthScore : Except Python.Error (Option ℤ) :=
  match given data "health_score" with
  | none => .ok none
  | some text => do
    let x ← float C text
    (C.floats.int x).map some

def from_mapping : Except Python.Error (DecisionRecord F) := do
  let request_id ← required data "request_id"
  let requested_model ← required data "requested_model"
  let selected_backend ← required data "selected_backend"
  let routing_reason ← required data "routing_reason"
  let health_score ← healthScore C data
  let duration_ms ← floatOrZero C data "duration_ms"
  let shadow_duration_ms ← optionalFloat C data "shadow_duration_ms"
  let estimated_cost ← optionalFloat C data "estimated_cost"
  let stream_ttft_ms ← optionalFloat C data "stream_ttft_ms"
  let recorded_at ← floatOrZero C data "recorded_at"
  .ok {
    request_id, requested_model, selected_backend, routing_reason, health_score, duration_ms, shadow_duration_ms,
    estimated_cost, stream_ttft_ms, recorded_at
    fallback_used := decide (C.text.lower ((data.get "fallback_used").getD "false") ∈ ["1", "true", "yes"])
    shadow_backend := orNone (data.get "shadow_backend")
    shadow_outcome := orNone (data.get "shadow_outcome")
    stream_outcome := orNone (data.get "stream_outcome")
    control_plane_decision_id := given data "control_plane_decision_id"
    approval_id := given data "approval_id"
    policy_bundle_id := given data "policy_bundle_id"
    policy_digest := given data "policy_digest"
    request_digest := given data "request_digest"
    control_plane_version := given data "control_plane_version"
    runtime_version := given data "runtime_version"
    enforcement_outcome := given data "enforcement_outcome"
    tenant_id := given data "tenant_id" }

def decode : Except Python.Error (Option (DecisionRecord F)) :=
  if data.items = [] then .ok none
  else
    match data.items with
    | [("data", text)] => (C.json_record text).map some
    | _ => (from_mapping C data).map some

end Decoding

/-- The pipeline: the hash and the index of the request id are written whatever each of the two commands
answers; an error of one is raised at the end. -/
def put (now : F) (record : DecisionRecord F) (s : Keyspace) : Except Python.Error Unit × Keyspace :=
  let stamped := record.stamp now
  let (written, s) := hset (key stamped.tenant stamped.request_id) (serialize C stamped) s
  (written, Function.update s (index_key stamped.request_id) (.string stamped.tenant))

def fetch (s : Keyspace) (key : String) : Except Python.Error (Option (DecisionRecord F)) := do
  let data ← hgetall s key
  decode C data

/-- The first lookup, and the legacy key when it finds nothing. -/
def orLegacy (s : Keyspace) (request_id : String) (first : Except Python.Error (Option (DecisionRecord F))) :
    Except Python.Error (Option (DecisionRecord F)) := do
  match ← first with
  | some record => .ok (some record)
  | none => fetch C s (legacy_key request_id)

def get (s : Keyspace) (request_id : String) (tenant_id : Option String) (any_tenant : Bool) :
    Except Python.Error (Option (DecisionRecord F)) :=
  if any_tenant = true then do
    let indexed ← getString s (index_key request_id)
    match orNone indexed with
    | some tenant => orLegacy C s request_id (fetch C s (key tenant request_id))
    | none => fetch C s (legacy_key request_id)
  else
    let tenant := (orNone tenant_id).getD "platform"
    orLegacy C s request_id (fetch C s (key tenant request_id))

/-- The key which `patch_shadow` writes: that of the tenant in the index, or the legacy one. -/
def patched_key (s : Keyspace) (request_id : String) : Except Python.Error String := do
  let indexed ← getString s (index_key request_id)
  match orNone indexed with
  | some tenant => .ok (key tenant request_id)
  | none => .ok (legacy_key request_id)

def patch_shadow (request_id outcome : String) (duration_ms : F) (s : Keyspace) : Except Python.Error Unit × Keyspace :=
  match patched_key s request_id with
  | .error e => (.error e, s)
  | .ok key => hset key [("shadow_outcome", outcome), ("shadow_duration_ms", C.floats.str duration_ms)] s

end RedisDecisionStore

/-! ## The endpoint -/

inductive NotServed where
  | not_found
  | raised (e : Python.Error)

/-- `get_decision`, for a caller of this tenant. -/
def get_decision (get : String → Option String → Bool → Except Python.Error (Option (DecisionRecord F)))
    (tenant_id : String) (auditor : Bool) (request_id : String) : Except NotServed (DecisionRecord F) :=
  match get request_id (some tenant_id) auditor with
  | .error e => .error (.raised e)
  | .ok none => .error .not_found
  | .ok (some record) =>
    match orNone record.tenant_id with
    | some owner => if owner ≠ tenant_id ∧ auditor = false then .error .not_found else .ok record
    | none => .ok record

end RuntimePlatform.Decisions
