import RuntimePlatform.Lib.Entries

/-!
The bodies which errors are answered with, `errors.py`. Whatever a router raises as the detail of an exception is made
into one envelope, a dict whose `error` is a dict with the type, the code and the message.
-/

namespace RuntimePlatform.Errors
open Python

/-- One member of `extra`. What stands under `error` is a dict until `extra` puts something else there. -/
def add_extra (payload : Entries) (e : Value × Value) : Entries :=
  match e.2 with
  | .dict value =>
    if e.1.isKey "error" = true then payload.set "error" (.dict (((payload.dictAt "error").getD []).merge value))
    else payload.setItem e.1 e.2
  | _ => payload.setItem e.1 e.2

/-- A text which is given and not empty. -/
def given (text : Option String) : Option String := text.filter fun s => decide (s ≠ "")

def error_body (code message error_type : String) (request_id : Option String) (extra : Option Entries) : Entries :=
  let error : Entries := [(.str "type", .str error_type), (.str "code", .str code), (.str "message", .str message)]
  let payload : Entries :=
    match given request_id with
    | some id => [(.str "error", .dict (error.set "request_id" (.str id))), (.str "request_id", .str id)]
    | none => [(.str "error", .dict error)]
  (extra.getD []).foldl add_extra payload

variable (T : Text)

/-- `str(detail.get("message") or default_message)` -/
def message_of (detail : Entries) (default_message : String) : String :=
  let message := detail.orNone "message"
  T.str (if message.truthy = true then message else .str default_message)

def normalize_error_payload (detail : Value) (default_code default_message : String) : Entries :=
  match detail with
  | .dict detail =>
    if (Entries.dictAt detail "error").isSome = true then detail
    else
      match (Entries.dictAt detail "detail").filter fun nested => (nested.get "error").isSome with
      | some nested => nested
      | none => error_body default_code (message_of T detail default_message) "api_error" none (some detail)
  | .str message => error_body default_code message "api_error" none none
  | _ => error_body default_code default_message "api_error" none none

/-- The request id is put beside the error and into it, where none stands there. -/
def set_request_id (id : String) (payload : Entries) : Entries :=
  let payload := payload.setdefault "request_id" (.str id)
  match payload.dictAt "error" with
  | some error => payload.set "error" (.dict (error.setdefault "request_id" (.str id)))
  | none => payload

/-- The body which `fastapi_http_exception_handler` answers with. -/
def fastapi_http_exception_handler (request_id : Option String) (detail : Value) : Entries :=
  let payload := normalize_error_payload T detail "http_error" "request failed"
  match given request_id with
  | some id => set_request_id id payload
  | none => payload

/-! ## Envelopes -/

/-- The members which an error is described by. -/
def members : List String := ["type", "code", "message"]

def Described (error : Entries) : Prop := ∀ name ∈ members, (error.get name).isSome = true

/-- The detail has an error object of its own, at `error` or at `detail.error`. -/
def OwnError : Value → Prop
  | .dict detail => (Entries.dictAt detail "error").isSome = true ∨
      ((Entries.dictAt detail "detail").bind fun nested => nested.dictAt "error").isSome = true
  | _ => False

/-- The envelope which is owed for this detail. -/
def Enveloped (detail : Value) (payload : Entries) : Prop :=
  ∃ error, payload.dictAt "error" = some error ∧ (¬ OwnError detail → Described error)

/-- Wherever an `error` is looked for and found, it is an object: at `error`, else at `detail.error`, else there is none
at `error`. -/
def Unwraps : Value → Prop
  | .dict detail => (Entries.dictAt detail "error").isSome = true ∨
      match (Entries.dictAt detail "detail").bind fun nested => nested.get "error" with
      | some error => ∃ entries, error = .dict entries
      | none => Entries.get detail "error" = none
  | _ => True

/-! The members of `extra`. -/

/-- A member which is no `error` leaves the error alone. -/
theorem get_add_extra_ne (payload : Entries) {e : Value × Value} (other : e.1.isKey "error" = false) :
    (add_extra payload e).get "error" = payload.get "error" := by
  have apart := payload.get_setItem_ne other e.2
  unfold add_extra
  split
  · rw [if_neg (Bool.eq_false_iff.mp other)]
    exact apart
  · exact apart

/-- An `error` which is no object takes the place of the one which was there. -/
theorem get_add_extra_self (payload : Entries) {e : Value × Value} (here : e.1.isKey "error" = true)
    (plain : ∀ entries, e.2 ≠ .dict entries) : (add_extra payload e).get "error" = some e.2 := by
  unfold add_extra
  split
  · next entries same => exact absurd same (plain entries)
  · exact payload.get_setItem_self here e.2

theorem get_foldl_add_extra_none {extra : Entries} (absent : extra.get "error" = none) (payload : Entries) :
    (extra.foldl add_extra payload).get "error" = payload.get "error" := by
  rw [Entries.get_eq_none] at absent
  induction extra generalizing payload with
  | nil => rfl
  | cons e rest ih =>
      rw [List.forall_mem_cons] at absent
      rw [List.foldl_cons, ih absent.2]
      exact get_add_extra_ne payload absent.1

theorem get_foldl_add_extra_some {extra : Entries} (distinct : (extra.map Prod.fst).Nodup) {error : Value}
    (found : extra.get "error" = some error) (plain : ∀ entries, error ≠ .dict entries) (payload : Entries) :
    (extra.foldl add_extra payload).get "error" = some error := by
  induction extra generalizing payload with
  | nil => cases found
  | cons e rest ih =>
      rw [List.map_cons, List.nodup_cons] at distinct
      rw [Entries.get_cons] at found
      rw [List.foldl_cons]
      by_cases here : e.1.isKey "error" = true
      · rw [if_pos here, Option.some.injEq] at found
        subst found
        have absent : Entries.get rest "error" = none := Entries.get_eq_none.mpr fun other member =>
          Bool.eq_false_iff.mpr fun again => distinct.1 (List.mem_map.mpr
            ⟨other, member, (Value.isKey_iff.mp again).trans (Value.isKey_iff.mp here).symm⟩)
        rw [get_foldl_add_extra_none absent]
        exact get_add_extra_self payload here plain
      · rw [if_neg here] at found
        exact ih distinct.2 found _

/-! What is answered. -/

/-- A body to which nothing is added. -/
theorem error_body_described (code message error_type : String) :
    ∃ error, (error_body code message error_type none none).dictAt "error" = some error ∧ Described error :=
  ⟨_, rfl, by simp [Described, members, Entries.get_cons, Value.isKey]⟩

/-- Members beside `error` leave the body described. -/
theorem error_body_of_absent (code message error_type : String) {extra : Entries} (absent : extra.get "error" = none) :
    ∃ error, (error_body code message error_type none (some extra)).dictAt "error" = some error ∧ Described error := by
  obtain ⟨error, found, described⟩ := error_body_described code message error_type
  refine ⟨error, ?_, described⟩
  rw [Entries.dictAt_eq_some] at found ⊢
  rw [← found]
  exact get_foldl_add_extra_none absent _

/-- An `error` among them which is no object is all that is left of it. -/
theorem error_body_of_plain (code message error_type : String) {extra : Entries}
    (distinct : (extra.map Prod.fst).Nodup) {error : Value} (found : extra.get "error" = some error)
    (plain : ∀ entries, error ≠ .dict entries) :
    (error_body code message error_type none (some extra)).dictAt "error" = none := by
  have replaced : (error_body code message error_type none (some extra)).get "error" = some error :=
    get_foldl_add_extra_some distinct found plain _
  rw [Option.eq_none_iff_forall_ne_some]
  intro entries same
  rw [Entries.dictAt_eq_some, replaced, Option.some.injEq] at same
  exact plain entries same

section Dicts
variable {detail : Entries} (default_code default_message : String)

theorem normalize_dict : normalize_error_payload T (.dict detail) default_code default_message =
    if (detail.dictAt "error").isSome = true then detail
    else
      match (detail.dictAt "detail").filter fun nested => (nested.get "error").isSome with
      | some nested => nested
      | none => error_body default_code (message_of T detail default_message) "api_error" none (some detail) := rfl

theorem normalize_own (own : (detail.dictAt "error").isSome = true) :
    normalize_error_payload T (.dict detail) default_code default_message = detail := by
  rw [normalize_dict, if_pos own]

theorem normalize_nested (unowned : ¬ (detail.dictAt "error").isSome = true) {nested : Entries}
    (inner : detail.dictAt "detail" = some nested) (found : (nested.get "error").isSome = true) :
    normalize_error_payload T (.dict detail) default_code default_message = nested := by
  rw [normalize_dict, if_neg unowned, inner, Option.filter_some, found, if_pos rfl]

theorem normalize_flat (unowned : ¬ (detail.dictAt "error").isSome = true)
    (flat : ((detail.dictAt "detail").bind fun nested => nested.get "error") = none) :
    normalize_error_payload T (.dict detail) default_code default_message =
      error_body default_code (message_of T detail default_message) "api_error" none (some detail) := by
  have without : ((detail.dictAt "detail").filter fun nested => (nested.get "error").isSome) = none := by
    rw [Option.filter_eq_none_iff]
    intro nested inner found
    rw [inner, Option.bind_some] at flat
    rw [flat] at found
    cases found
  rw [normalize_dict, if_neg unowned, without]

/-- A dict is answered with an envelope if and only if it unwraps. -/
theorem normalize_dict_iff (distinct : (detail.map Prod.fst).Nodup) :
    Enveloped (.dict detail) (normalize_error_payload T (.dict detail) default_code default_message) ↔
      Unwraps (.dict detail) := by
  by_cases own : (detail.dictAt "error").isSome = true
  · obtain ⟨error, found⟩ := Option.isSome_iff_exists.mp own
    rw [normalize_own T default_code default_message own]
    exact iff_of_true ⟨error, found, fun foreign => absurd (Or.inl own) foreign⟩ (Or.inl own)
  · cases inner : (detail.dictAt "detail").bind fun nested => nested.get "error" with
    | some error =>
        obtain ⟨nested, here, found⟩ := Option.bind_eq_some_iff.mp inner
        rw [normalize_nested T default_code default_message own here (Option.isSome_of_eq_some found)]
        have unwraps : Unwraps (.dict detail) ↔ ∃ entries, error = .dict entries := by
          rw [Unwraps, inner]
          exact or_iff_right own
        rw [unwraps]
        constructor
        · rintro ⟨entries, same, _⟩
          rw [Entries.dictAt_eq_some, found, Option.some.injEq] at same
          exact ⟨entries, same⟩
        · rintro ⟨entries, rfl⟩
          have object : nested.dictAt "error" = some entries := Entries.dictAt_eq_some.mpr found
          refine ⟨entries, object, fun foreign => absurd (Or.inr ?_) foreign⟩
          rw [here, Option.bind_some, object]
          rfl
    | none =>
        rw [normalize_flat T default_code default_message own inner]
        have unwraps : Unwraps (.dict detail) ↔ detail.get "error" = none := by
          rw [Unwraps, inner]
          exact or_iff_right own
        rw [unwraps]
        cases outer : detail.get "error" with
        | none =>
            obtain ⟨error, found, described⟩ := error_body_of_absent default_code
              (message_of T detail default_message) "api_error" outer
            exact iff_of_true ⟨error, found, fun _ => described⟩ rfl
        | some error =>
            have plain : ∀ entries, error ≠ .dict entries := by
              rintro entries rfl
              exact own (Option.isSome_of_eq_some (Entries.dictAt_eq_some.mpr outer))
            have lost := error_body_of_plain default_code (message_of T detail default_message) "api_error"
              distinct outer plain
            refine iff_of_false ?_ (Option.some_ne_none _)
            rintro ⟨entries, found, _⟩
            rw [lost] at found
            cases found

end Dicts

/-- A detail is answered with an envelope if and only if wherever it has an `error` to unwrap, that is an object. -/
theorem enveloped_iff (detail : Value) (json : IsJson detail) (default_code default_message : String) :
    Enveloped detail (normalize_error_payload T detail default_code default_message) ↔ Unwraps detail := by
  have plain (message : String) : Enveloped detail (error_body default_code message "api_error" none none) := by
    obtain ⟨error, found, described⟩ := error_body_described default_code message "api_error"
    exact ⟨error, found, fun _ => described⟩
  cases detail with
  | dict entries =>
      rw [IsJson] at json
      exact normalize_dict_iff T default_code default_message json.1
  | str message => exact iff_of_true (plain message) trivial
  | _ => exact iff_of_true (plain default_message) trivial

/-- An envelope under `detail`, as FastAPI wraps it. -/
def wrappedDetail : Value := .dict [(.str "detail", .dict (error_body "wrapped" "inner" "api_error" none none))]

theorem wrapped_enveloped :
    Enveloped wrappedDetail (normalize_error_payload asciiText wrappedDetail "http_error" "failed") := by
  have json : IsJson wrappedDetail := by
    simp [wrappedDetail, error_body, given, IsJson, EntriesJson]
  exact (enveloped_iff asciiText wrappedDetail json "http_error" "failed").mpr (Or.inr ⟨_, rfl⟩)

/-- The detail which `mcp_tools` raises: its text takes the place of the error object, with the type and the code. -/
theorem text_detail_not_enveloped :
    IsJson (.dict [(.str "error", .str "CONTROL_PLANE_URL is required for MCP tool catalog")]) ∧
      ¬ Enveloped (.dict [(.str "error", .str "CONTROL_PLANE_URL is required for MCP tool catalog")])
        (normalize_error_payload asciiText
          (.dict [(.str "error", .str "CONTROL_PLANE_URL is required for MCP tool catalog")]) "http_error"
          "request failed") := by
  refine ⟨by simp [IsJson, EntriesJson], ?_⟩
  rintro ⟨error, found, _⟩
  have text : Entries.dictAt (normalize_error_payload asciiText
      (.dict [(.str "error", .str "CONTROL_PLANE_URL is required for MCP tool catalog")]) "http_error"
      "request failed") "error" = none := rfl
  rw [text] at found
  cases found

/-! ## The handler -/

theorem described_setdefault (error : Entries) (id : Value) :
    Described (error.setdefault "request_id" id) ↔ Described error := by
  refine forall₂_congr fun name member => ?_
  have other : "request_id" ≠ name := by
    rintro rfl
    exact absurd member (by decide)
  rw [error.get_setdefault_ne id other]

theorem enveloped_set_request_id (detail : Value) (id : String) (payload : Entries) :
    Enveloped detail (set_request_id id payload) ↔ Enveloped detail payload := by
  have kept : (payload.setdefault "request_id" (.str id)).dictAt "error" = payload.dictAt "error" := by
    rw [Entries.dictAt, payload.get_setdefault_ne _ (by decide), Entries.dictAt]
  unfold Enveloped set_request_id
  dsimp only
  rw [kept]
  cases found : payload.dictAt "error" with
  | none =>
      dsimp only
      rw [kept, found]
  | some error =>
      have written : ((payload.setdefault "request_id" (.str id)).set "error"
          (.dict (error.setdefault "request_id" (.str id)))).dictAt "error" =
            some (error.setdefault "request_id" (.str id)) :=
        Entries.dictAt_eq_some.mpr (Entries.get_set_self _ _ _)
      dsimp only
      rw [written]
      simp only [Option.some.injEq, exists_eq_left', described_setdefault]

/-- The body which is answered has the envelope where the payload has it. -/
theorem handler_enveloped (request_id : Option String) (detail : Value) :
    Enveloped detail (fastapi_http_exception_handler T request_id detail) ↔
      Enveloped detail (normalize_error_payload T detail "http_error" "request failed") := by
  unfold fastapi_http_exception_handler
  dsimp only
  cases given request_id with
  | none => rfl
  | some id => exact enveloped_set_request_id detail id _

end RuntimePlatform.Errors
