import Mathlib.Data.Bool.AllAny
import RuntimePlatform.Decisions.Store

/-!
Decision records in Redis and back. A record is flattened to a hash of texts by `_serialize`, and
`from_mapping` reads every field by a rule of its own; what both together make of a record is
said once, and with it which records come back unchanged.
-/

namespace RuntimePlatform.Decisions
open Python Except

variable {F : Type}

/-- What comes back of a text which `_optional_str` reads. -/
def unlessNone (text : Option String) : Option String := text.filter fun s => decide (s ∉ ["", "None"])

namespace DecisionRecord
variable (record : DecisionRecord F)

/-- The fields which `_optional_str` reads: the evidence of the control plane, and the tenant. -/
def evidence : List (Option String) :=
  [record.control_plane_decision_id, record.approval_id, record.policy_bundle_id, record.policy_digest,
    record.request_digest, record.control_plane_version, record.runtime_version, record.enforcement_outcome,
    record.tenant_id]

/-- The optional fields which hold a text. -/
def texts : List (Option String) :=
  record.shadow_backend :: record.shadow_outcome :: record.stream_outcome :: record.evidence

/-- The record which comes back from Redis. -/
def reread : DecisionRecord F :=
  { record with
    shadow_backend := orNone record.shadow_backend
    shadow_outcome := orNone record.shadow_outcome
    stream_outcome := orNone record.stream_outcome
    control_plane_decision_id := unlessNone record.control_plane_decision_id
    approval_id := unlessNone record.approval_id
    policy_bundle_id := unlessNone record.policy_bundle_id
    policy_digest := unlessNone record.policy_digest
    request_digest := unlessNone record.request_digest
    control_plane_version := unlessNone record.control_plane_version
    runtime_version := unlessNone record.runtime_version
    enforcement_outcome := unlessNone record.enforcement_outcome
    tenant_id := unlessNone record.tenant_id }

theorem orNone_eq_iff (text : Option String) : orNone text = text ↔ some "" ≠ text := by
  cases text with
  | none => exact iff_of_true rfl (Option.some_ne_none _)
  | some s =>
      rw [orNone, Option.filter_eq_some_iff, and_iff_right rfl, decide_eq_true_eq]
      exact ⟨fun shown same => shown (Option.some.inj same).symm, fun other same => other (congrArg some same.symm)⟩

theorem unlessNone_eq_iff (text : Option String) : unlessNone text = text ↔ some "" ≠ text ∧ some "None" ≠ text := by
  cases text with
  | none => exact iff_of_true rfl ⟨Option.some_ne_none _, Option.some_ne_none _⟩
  | some s =>
      rw [unlessNone, Option.filter_eq_some_iff, and_iff_right rfl, decide_eq_true_eq]
      simp only [List.mem_cons, List.not_mem_nil, or_false, not_or, ne_eq, Option.some.injEq, eq_comm (b := s)]

/-- A record comes back unchanged where no field holds one of the texts which stand for `None` there. -/
theorem reread_eq_iff : record.reread = record ↔ some "" ∉ record.texts ∧ some "None" ∉ record.evidence := by
  cases record
  simp only [reread, texts, evidence, DecisionRecord.mk.injEq, orNone_eq_iff, unlessNone_eq_iff, List.mem_cons,
    List.not_mem_nil, or_false, not_or, true_and, and_true, ne_eq]
  tauto

end DecisionRecord

namespace RedisDecisionStore
variable (C : Codec F)

/-- The hash holds what this record serializes to. -/
def Holds (fields : OrderedDict String String) (record : DecisionRecord F) : Prop :=
  ∀ name, fields.get name = ((serialize C record).find? fun e => decide (e.1 = name)).map Prod.snd

/-- The health score is one. -/
def Scored (record : DecisionRecord F) : Prop := ∀ n, record.health_score = some n → 0 ≤ n ∧ n ≤ 100

variable {C} {fields : OrderedDict String String} {record : DecisionRecord F}

theorem serialize_nodup : ((serialize C record).map Prod.fst).Nodup := by
  simp only [serialize, List.map_cons, List.map_nil]
  decide

theorem Holds.get (holds : Holds C fields record) {name value : String} (member : (name, value) ∈ serialize C record) :
    fields.get name = some value := by
  rw [holds name]
  exact (OrderedDict.find_eq_some serialize_nodup).mpr member

theorem holds_written : Holds C (OrderedDict.empty.update (serialize C record)) record := by
  intro name
  rw [OrderedDict.get_update serialize_nodup, OrderedDict.get_empty, Option.or_none]

/-! Reading the hash back. -/

theorem orNone_of {text : String} (shown : text ≠ "") : orNone (some text) = some text := by
  simp only [orNone, Option.filter, decide_eq_true_eq, if_pos shown]

theorem given_of {name text : String} (known : fields.get name = some text) (shown : text ∉ ["", "None"]) :
    given fields name = some text := by
  simp only [given, known, Option.filter, decide_eq_true_eq, if_pos shown]

theorem given_empty {name : String} (known : fields.get name = some "") : given fields name = none := by
  rw [given, known]
  rfl

/-- What is read as a float is neither of the two texts for `None`. -/
theorem shown_of_float {text : String} {x : F} (parsed : C.floats.float text = some x) : text ∉ ["", "None"] := by
  intro blank
  simp only [List.mem_cons, List.not_mem_nil, or_false] at blank
  rcases blank with rfl | rfl
  · rw [C.floats.float_empty] at parsed
    cases parsed
  · rw [C.floats.float_None] at parsed
    cases parsed

theorem float_of {text : String} {x : F} (parsed : C.floats.float text = some x) : float C text = .ok x := by
  rw [float, parsed]

theorem optionalFloat_of {name : String} {value : Option F}
    (known : fields.get name = some (optional (value.map C.floats.str))) : optionalFloat C fields name = .ok value := by
  unfold optionalFloat
  cases value with
  | none => rw [given_empty known]
  | some x =>
      have parsed := C.floats.float_str x
      rw [given_of known (shown_of_float parsed)]
      change (float C (C.floats.str x)).map some = _
      rw [float_of parsed]
      rfl

theorem floatOrZero_of {name : String} {x : F} (known : fields.get name = some (C.floats.str x)) :
    floatOrZero C fields name = .ok x := by
  have parsed := C.floats.float_str x
  have shown : C.floats.str x ≠ "" := fun empty => shown_of_float parsed (empty ▸ List.mem_cons_self)
  unfold floatOrZero
  rw [known, orNone_of shown]
  exact float_of parsed

theorem healthScore_of {health_score : Option ℤ} (scored : ∀ n, health_score = some n → 0 ≤ n ∧ n ≤ 100)
    (known : fields.get "health_score" = some (optional (health_score.map toString))) :
    healthScore C fields = .ok health_score := by
  unfold healthScore
  cases health_score with
  | none => rw [given_empty known]
  | some n =>
      obtain ⟨low, high⟩ := scored n rfl
      obtain ⟨m, rfl⟩ := Int.eq_ofNat_of_zero_le low
      obtain ⟨x, parsed, whole⟩ := C.floats.int_score ⟨m, by omega⟩
      change fields.get "health_score" = some (toString m) at known
      change C.floats.int x = .ok (m : ℤ) at whole
      rw [given_of known (shown_of_float parsed)]
      change (float C (toString m) >>= fun x => (C.floats.int x).map some) = _
      rw [float_of parsed, bind_ok, whole]
      rfl

theorem required_of {name value : String} (known : fields.get name = some value) :
    required fields name = .ok value := by
  rw [required, known]

theorem orNone_optional {name : String} {text : Option String} (known : fields.get name = some (optional text)) :
    orNone (fields.get name) = orNone text := by
  rw [known]
  cases text with
  | none => rfl
  | some s => rfl

theorem given_optional {name : String} {text : Option String} (known : fields.get name = some (optional text)) :
    given fields name = unlessNone text := by
  rw [given, known]
  cases text with
  | none => rfl
  | some s => rfl

theorem fallback_used_of {used : Bool}
    (known : fields.get "fallback_used" = some (if used = true then "true" else "false")) :
    decide (C.text.lower ((fields.get "fallback_used").getD "false") ∈ ["1", "true", "yes"]) = used := by
  rw [known, Option.getD_some]
  cases used with
  | false =>
      rw [if_neg Bool.false_ne_true, C.text.lower_ascii "false" (List.all_iff_forall_prop.mp (by decide))]
      decide
  | true =>
      rw [if_pos rfl, C.text.lower_ascii "true" (List.all_iff_forall_prop.mp (by decide))]
      decide

/-- What a hash which holds a record decodes to. -/
theorem Holds.reread (holds : Holds C fields record) (scored : Scored record) :
    from_mapping C fields = .ok record.reread := by
  have text (name : String) (value : Option String) (member : (name, optional value) ∈ serialize C record) :
      given fields name = unlessNone value := given_optional (holds.get member)
  have word (name : String) (value : Option String) (member : (name, optional value) ∈ serialize C record) :
      orNone (fields.get name) = orNone value := orNone_optional (holds.get member)
  have request_id : fields.get "request_id" = some record.request_id := holds.get (by simp [serialize])
  have requested : fields.get "requested_model" = some record.requested_model := holds.get (by simp [serialize])
  have selected : fields.get "selected_backend" = some record.selected_backend := holds.get (by simp [serialize])
  have reason : fields.get "routing_reason" = some record.routing_reason := holds.get (by simp [serialize])
  have health : fields.get "health_score" = some (optional (record.health_score.map toString)) :=
    holds.get (by simp [serialize])
  have duration : fields.get "duration_ms" = some (C.floats.str record.duration_ms) := holds.get (by simp [serialize])
  have shadow : fields.get "shadow_duration_ms" = some (optional (record.shadow_duration_ms.map C.floats.str)) :=
    holds.get (by simp [serialize])
  have cost : fields.get "estimated_cost" = some (optional (record.estimated_cost.map C.floats.str)) :=
    holds.get (by simp [serialize])
  have stream : fields.get "stream_ttft_ms" = some (optional (record.stream_ttft_ms.map C.floats.str)) :=
    holds.get (by simp [serialize])
  have recorded : fields.get "recorded_at" = some (C.floats.str record.recorded_at) := holds.get (by simp [serialize])
  have used : decide (C.text.lower ((fields.get "fallback_used").getD "false") ∈ ["1", "true", "yes"]) =
      record.fallback_used := fallback_used_of (holds.get (by simp [serialize]))
  unfold RedisDecisionStore.from_mapping
  rw [required_of request_id, bind_ok, required_of requested, bind_ok, required_of selected, bind_ok,
    required_of reason, bind_ok, healthScore_of scored health, bind_ok, floatOrZero_of duration, bind_ok,
    optionalFloat_of shadow, bind_ok, optionalFloat_of cost, bind_ok, optionalFloat_of stream, bind_ok,
    floatOrZero_of recorded, bind_ok]
  rw [used, word _ record.shadow_backend (by simp [serialize]), word _ record.shadow_outcome (by simp [serialize]),
    word _ record.stream_outcome (by simp [serialize]), text _ record.control_plane_decision_id (by simp [serialize]),
    text _ record.approval_id (by simp [serialize]), text _ record.policy_bundle_id (by simp [serialize]),
    text _ record.policy_digest (by simp [serialize]), text _ record.request_digest (by simp [serialize]),
    text _ record.control_plane_version (by simp [serialize]), text _ record.runtime_version (by simp [serialize]),
    text _ record.enforcement_outcome (by simp [serialize]), text _ record.tenant_id (by simp [serialize])]
  rfl

/-- A hash which holds a record decodes, with the record's shadow. -/
theorem Holds.from_mapping (holds : Holds C fields record) (scored : Scored record) :
    ∃ decoded, from_mapping C fields = .ok decoded ∧ decoded.shadow_outcome = orNone record.shadow_outcome ∧
      decoded.shadow_duration_ms = record.shadow_duration_ms :=
  ⟨record.reread, holds.reread scored, rfl, rfl⟩

theorem Holds.decode (holds : Holds C fields record) (scored : Scored record) :
    ∃ decoded, decode C fields = .ok (some decoded) ∧ decoded.shadow_outcome = orNone record.shadow_outcome ∧
      decoded.shadow_duration_ms = record.shadow_duration_ms := by
  obtain ⟨decoded, mapped, shadow⟩ := holds.from_mapping scored
  have named : ("request_id", record.request_id) ∈ fields.items :=
    OrderedDict.get_eq_some.mp (holds.get (by simp [serialize]))
  refine ⟨decoded, ?_, shadow⟩
  unfold RedisDecisionStore.decode
  rw [if_neg (List.ne_nil_of_mem named)]
  split
  · next text one =>
      rw [one, List.mem_singleton, Prod.mk.injEq] at named
      exact absurd named.1 (by decide)
  · rw [mapped]
    rfl

end RedisDecisionStore

instance neZero_hundred_one : NeZero 101 := ⟨by decide⟩

/-- The floats from `0.0` to `100.0` without a fraction. -/
def wholeFloats : Floats (Fin 101) where
  zero := 0
  str x := toString x.val ++ ".0"
  float text :=
    let n := (text.toList.takeWhile Char.isDigit).foldl (fun n c => 10 * n + (c.toNat - '0'.toNat)) 0
    if h : n < 101 ∧ (text = toString n ∨ text = toString n ++ ".0") then some ⟨n, h.1⟩ else none
  int x := .ok x.val
  float_str := by decide +kernel
  float_empty := by decide +kernel
  float_None := by decide +kernel
  int_score n := ⟨n, by revert n; decide +kernel, rfl⟩

def wholeCodec : Codec (Fin 101) := ⟨wholeFloats, asciiText, fun _ => .error ⟨.valueError, "invalid JSON"⟩⟩

/-- A record of a primary answer, with this tenant. -/
def decisionOf (tenant_id : Option String) : DecisionRecord (Fin 101) where
  request_id := "r"
  requested_model := "m"
  selected_backend := "m"
  routing_reason := "primary"
  fallback_used := false
  health_score := some 100
  duration_ms := 5
  shadow_backend := some "None"
  shadow_duration_ms := some 7
  shadow_outcome := some "success"
  estimated_cost := none
  stream_outcome := none
  stream_ttft_ms := none
  control_plane_decision_id := some "d"
  approval_id := none
  policy_bundle_id := none
  policy_digest := none
  request_digest := none
  control_plane_version := none
  runtime_version := none
  enforcement_outcome := some "executed"
  tenant_id := tenant_id
  recorded_at := 0

namespace RedisDecisionStore

/-- A record whose optional texts are absent or not empty comes back from its hash if and only if none of those
which `_optional_str` reads is the text `None`. -/
theorem from_mapping_serialize_iff (C : Codec F) (record : DecisionRecord F) (filled : some "" ∉ record.texts)
    (scored : Scored record) :
    from_mapping C (OrderedDict.empty.update (serialize C record)) = .ok record ↔ some "None" ∉ record.evidence := by
  rw [holds_written.reread scored, Except.ok.injEq, record.reread_eq_iff]
  exact and_iff_right filled

theorem scored_decisionOf (tenant_id : Option String) : Scored (decisionOf tenant_id) := by
  intro n known
  cases known
  decide

theorem acme_comes_back :
    from_mapping wholeCodec (OrderedDict.empty.update (serialize wholeCodec (decisionOf (some "acme")))) =
      .ok (decisionOf (some "acme")) :=
  (from_mapping_serialize_iff wholeCodec (decisionOf (some "acme")) (by decide) (scored_decisionOf _)).mpr (by decide)

/-- A tenant of this name is lost, and the record with it becomes one of the shared ones. -/
theorem tenant_None_lost :
    some "" ∉ (decisionOf (some "None")).texts ∧ Scored (decisionOf (some "None")) ∧
      from_mapping wholeCodec (OrderedDict.empty.update (serialize wholeCodec (decisionOf (some "None")))) =
        .ok (decisionOf none) ∧ decisionOf none ≠ decisionOf (some "None") := by
  have reread := (holds_written (C := wholeCodec)).reread (scored_decisionOf (some "None"))
  exact ⟨by decide, scored_decisionOf _, reread, by decide⟩

end RedisDecisionStore

end RuntimePlatform.Decisions
