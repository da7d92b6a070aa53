import RuntimePlatform.Governance.RequestDigest
import RuntimePlatform.Lib.JsonValues
import Mathlib.Data.Multiset.Sort
import Mathlib.Data.String.Basic

/-!
What the canonical text of a request says: the bound fields as `binding_payload` normalises them, with their JSON
types, and nothing else.
-/

namespace RuntimePlatform.Governance
open Python Except

/-! The texts of `json.dumps` are those of the JSON writer. -/

theorem escapeChar_eq (c : Char) : escapeChar c = Json.escapePoint c.toNat := by
  have code : Char.ofNat c.toNat = c := Char.ofNat_toNat c
  simp only [escapeChar, Json.escapePoint, code]
  rfl

theorem dumpText_eq (s : String) : dumpText s = (Json.ofString s).text := by
  change [Char.ofNat 34] ++ s.toList.flatMap escapeChar ++ [Char.ofNat 34] =
    [Char.ofNat 34] ++ (s.toList.map Char.toNat).flatMap Json.escapePoint ++ [Char.ofNat 34]
  rw [List.flatMap_map, funext escapeChar_eq]

theorem joined_eq (parts : List (List Char)) : joined parts = Json.separated parts := by
  induction parts with
  | nil => rfl
  | cons part rest ih =>
      cases rest with
      | nil => rfl
      | cons next rest =>
          change part ++ ',' :: joined (next :: rest) = part ++ ',' :: Json.separated (next :: rest)
          rw [ih]

theorem dumpMembers_text (members : List (String × Json)) :
    dumpMembers (members.map fun member => (member.1, member.2.text)) = (Json.record members).text := by
  have keys : ∀ key : String, dumpText key = Json.quoted (key.toList.map Char.toNat) := dumpText_eq
  simp only [dumpMembers, Json.record, Json.text, joined_eq, Json.memberTexts_eq, List.map_map, Function.comp_def, keys]
  rfl

/-! The bound fields. -/

/-- A field which may be bound other than `groups`: `None`, a flag, a number or a text. -/
inductive Bindable : Value → Prop
  | none : Bindable .none
  | bool (b : Bool) : Bindable (.bool b)
  | int (n : ℤ) : Bindable (.int n)
  | float (x : Finite) : Bindable (.float (.finite x))
  | str (s : String) : Bindable (.str s)

/-- A request whose bound fields are such, and whose groups are `None` or a list of texts. -/
structure BindableRequest (request : Entries) : Prop where
  fields : ∀ key ∈ BINDING_FIELDS, key ≠ "groups" → Bindable (request.orNone key)
  groups : request.orNone "groups" = .none ∨
    ∃ groups : List String, request.orNone "groups" = .list (groups.map Value.str)

/-- A normalised field with its JSON type: floats by their `repr`, groups in no order. -/
inductive BoundField where
  | bool (b : Bool)
  | int (n : ℤ)
  | float (repr : String)
  | text (s : String)
  | groups (members : Multiset String)

/-- What `binding_payload` makes of a field. -/
def normalised (T : Text) (request : Entries) (key : String) : BoundField :=
  let value := request.orNone key
  if key = "groups" then
    match value with
    | .list items => .groups (items.map T.str : List String)
    | _ => .groups 0
  else if key = "tenant_id" then .text (if value.truthy then T.str value else T.given request "team")
  else match value with
    | .bool b => .bool b
    | .int n => .int n
    | .float x => .float (T.str (.float x))
    | .str s => .text s
    | _ => .text ""

def BoundField.json : BoundField → Json
  | bool b => .ofBool b
  | int n => .ofInt n
  | float repr => .atom repr.toList
  | text s => .ofString s
  | groups members => .arr ((members.sort fun a b => a ≤ b).map Json.ofString)

/-- A field whose float, if it is one, has such a literal. -/
def BoundField.Literal : BoundField → Prop
  | float repr => Json.FloatLiteral repr
  | _ => True

theorem BoundField.writable {field : BoundField} (literal : field.Literal) : field.json.Writable := by
  cases field with
  | bool b => exact Json.literal_bool b
  | int n => exact Json.literal_int n
  | float repr => exact Json.FloatLiteral.literal literal
  | text s => exact Json.writable_ofString s
  | groups members =>
      have all : ∀ texts : List String, Json.AllWritable (texts.map Json.ofString) := by
        intro texts
        induction texts with
        | nil => exact trivial
        | cons s rest ih => exact ⟨Json.writable_ofString s, ih⟩
      exact all _

/-- Fields of different types, or with different values, have different JSON. -/
theorem BoundField.json_inj {a b : BoundField} (literal : a.Literal) (literal' : b.Literal) :
    a.json = b.json ↔ a = b := by
  constructor
  · intro same
    cases a with
    | bool x =>
        cases b with
        | bool y => rw [Json.ofBool_inj.mp same]
        | int n => exact absurd same (Json.ofBool_ne_ofInt x n)
        | float repr => exact absurd same.symm (literal'.ne_bool x)
        | text s => cases same
        | groups members => cases same
    | int m =>
        cases b with
        | bool y => exact absurd same.symm (Json.ofBool_ne_ofInt y m)
        | int n => rw [Json.ofInt_inj.mp same]
        | float repr => exact absurd same.symm (literal'.ne_int m)
        | text s => cases same
        | groups members => cases same
    | float repr =>
        cases b with
        | bool y => exact absurd same (literal.ne_bool y)
        | int n => exact absurd same (literal.ne_int n)
        | float repr' => rw [String.toList_injective (Json.atom.inj same)]
        | text s => cases same
        | groups members => cases same
    | text s =>
        cases b with
        | text s' => rw [Json.ofString_inj.mp same]
        | bool y => cases same
        | int n => cases same
        | float repr => cases same
        | groups members => cases same
    | groups members =>
        cases b with
        | groups members' =>
            have sorted := List.map_injective_iff.mpr (fun _ _ => Json.ofString_inj.mp) (Json.arr.inj same)
            have equal := congrArg (fun texts : List String => (texts : Multiset String)) sorted
            simp only [Multiset.sort_eq] at equal
            rw [equal]
        | bool y => cases same
        | int n => cases same
        | float repr => cases same
        | text s => cases same
  · rintro rfl
    rfl

section Canonical
variable {T : Text} {request request' : Entries}

theorem dumps_texts_eq (T : Text) (texts : List String) :
    dumps T (.list (texts.map Value.str)) = .ok (Json.arr (texts.map Json.ofString)).text := by
  have items : dumpsItems T (texts.map Value.str) = .ok (texts.map dumpText) := by
    induction texts with
    | nil => rfl
    | cons s rest ih =>
        change (do
          let parts ← dumpsItems T (rest.map Value.str)
          (.ok (dumpText s :: parts) : Except Python.Error (List (List Char)))) = _
        rw [ih]
        rfl
  have parts : Json.texts (texts.map Json.ofString) = texts.map dumpText := by
    rw [Json.texts_eq, List.map_map]
    exact List.map_congr_left fun s _ => (dumpText_eq s).symm
  change (do
    let parts ← dumpsItems T (texts.map Value.str)
    (.ok (['['] ++ joined parts ++ [']']) : Except Python.Error (List Char))) = _
  rw [items, bind_ok, Json.text, parts, joined_eq]
  rfl

theorem sorted_groups (groups : List String) :
    groups.insertionSort (fun a b => a ≤ b) = (groups : Multiset String).sort fun a b => a ≤ b := by
  refine List.Perm.eq_of_pairwise' (r := fun a b : String => a ≤ b) ?_ ?_ ?_
  · exact List.pairwise_insertionSort _ groups
  · exact Multiset.pairwise_sort _ _
  · refine (List.perm_insertionSort _ groups).trans (Multiset.coe_eq_coe.mp ?_).symm
    exact Multiset.sort_eq _ _

theorem given_eq (T : Text) (request : Entries) (key : String) :
    T.given request key = if (request.orNone key).truthy then T.str (request.orNone key) else "" := by
  unfold Text.given Entries.orNone
  cases request.get key with
  | none => rfl
  | some v => rfl

theorem groups_normalised (bindable : BindableRequest request) :
    ∃ v, bound_field T request "groups" = .ok v ∧ dumps T v = .ok (normalised T request "groups").json.text := by
  rcases bindable.groups with absent | ⟨groups, given⟩
  · have bound : bound_field T request "groups" = .ok (.list (([] : List String).map Value.str)) := by
      simp only [bound_field, absent]
      rfl
    refine ⟨_, bound, ?_⟩
    rw [dumps_texts_eq]
    simp only [normalised, absent, if_true, BoundField.json, Multiset.sort_zero]
  · have texts : (groups.map Value.str).map T.str = groups := by
      rw [List.map_map]
      exact List.map_id groups
    have bound : bound_field T request "groups" =
        .ok (.list ((groups.insertionSort fun a b => a ≤ b).map Value.str)) := by
      cases groups with
      | nil =>
          simp only [bound_field, given]
          rfl
      | cons group rest =>
          have some_group : (Value.list ((group :: rest).map Value.str)).truthy = true := rfl
          simp only [bound_field, given, some_group, if_true, iterated, bind_ok, texts]
    refine ⟨_, bound, ?_⟩
    rw [dumps_texts_eq, sorted_groups]
    simp only [normalised, given, if_true, texts, BoundField.json]

theorem scalar_normalised {key : String} (other : key ≠ "groups") (other' : key ≠ "tenant_id")
    (bindable : Bindable (request.orNone key)) :
    ∃ v, bound_field T request key = .ok v ∧ dumps T v = .ok (normalised T request key).json.text := by
  simp only [bound_field, normalised, if_neg other, if_neg other']
  generalize request.orNone key = value at bindable ⊢
  cases bindable with
  | none => exact ⟨.str "", rfl, congrArg Except.ok (dumpText_eq "")⟩
  | bool b =>
      refine ⟨.bool b, rfl, ?_⟩
      cases b with
      | false => rfl
      | true => rfl
  | int n => exact ⟨.int n, rfl, rfl⟩
  | float x => exact ⟨.float (.finite x), rfl, rfl⟩
  | str s => exact ⟨.str s, rfl, congrArg Except.ok (dumpText_eq s)⟩

/-- The text of a bound field is that of the normalised field. -/
theorem fieldText_normalised (bindable : BindableRequest request) {key : String} (listed : key ∈ BINDING_FIELDS) :
    ∃ v, bound_field T request key = .ok v ∧ dumps T v = .ok (normalised T request key).json.text := by
  by_cases groups : key = "groups"
  · subst groups
    exact groups_normalised bindable
  by_cases tenant : key = "tenant_id"
  · subst tenant
    exact ⟨_, rfl, congrArg Except.ok (dumpText_eq _)⟩
  · exact scalar_normalised groups tenant (bindable.fields key listed groups)

theorem normalised_literal (floats : Json.PrintsFloats T) (bindable : BindableRequest request) {key : String}
    (listed : key ∈ BINDING_FIELDS) : (normalised T request key).Literal := by
  unfold normalised
  by_cases groups : key = "groups"
  · subst groups
    rcases bindable.groups with absent | ⟨groups, given⟩
    · simp only [absent]
      exact trivial
    · simp only [given]
      exact trivial
  · simp only [if_neg groups]
    by_cases tenant : key = "tenant_id"
    · rw [if_pos tenant]
      exact trivial
    · rw [if_neg tenant]
      have bindable := bindable.fields key listed groups
      generalize request.orNone key = value at bindable ⊢
      cases bindable with
      | none => exact trivial
      | bool b => exact trivial
      | int n => exact trivial
      | float x => exact floats x
      | str s => exact trivial

/-- The keys in the order of the canonical text. -/
def sortedFields : List String := BINDING_FIELDS.insertionSort fun a b => a ≤ b

theorem mem_sortedFields {key : String} : key ∈ sortedFields ↔ key ∈ BINDING_FIELDS := List.mem_insertionSort _

/-- The object whose text is hashed. -/
def boundJson (T : Text) (request : Entries) : Json :=
  Json.record (sortedFields.map fun key => (key, (normalised T request key).json))

theorem canonical_text (bindable : BindableRequest request) :
    canonical T request = .ok (boundJson T request).text := by
  have members : bindingMembers T request sortedFields =
      .ok (sortedFields.map fun key => (key, (normalised T request key).json.text)) := by
    refine mapM_all_ok fun key listed => ?_
    obtain ⟨v, bound, dumped⟩ := fieldText_normalised (T := T) bindable (mem_sortedFields.mp listed)
    rw [bound, bind_ok, dumped, bind_ok]
  change (do
    let members ← bindingMembers T request sortedFields
    (.ok (dumpMembers members) : Except Python.Error (List Char))) = _
  rw [members, bind_ok, boundJson, ← dumpMembers_text, List.map_map]
  rfl

theorem boundJson_writable (floats : Json.PrintsFloats T) (bindable : BindableRequest request) :
    (boundJson T request).Writable := by
  have all : ∀ keys : List String, (∀ key ∈ keys, key ∈ BINDING_FIELDS) → Json.MembersWritable
      ((keys.map fun key => (key, (normalised T request key).json)).map fun member =>
        (member.1.toList.map Char.toNat, member.2)) := by
    intro keys listed
    induction keys with
    | nil => exact trivial
    | cons key rest ih =>
        obtain ⟨here, later⟩ := List.forall_mem_cons.mp listed
        exact ⟨Json.writable_ofString key, BoundField.writable (normalised_literal floats bindable here), ih later⟩
  exact all sortedFields fun key listed => mem_sortedFields.mp listed

theorem boundJson_eq_iff (floats : Json.PrintsFloats T) (bindable : BindableRequest request)
    (bindable' : BindableRequest request') : boundJson T request = boundJson T request' ↔
      ∀ key ∈ BINDING_FIELDS, normalised T request key = normalised T request' key := by
  have members : boundJson T request = boundJson T request' ↔
      ∀ key ∈ sortedFields, (normalised T request key).json = (normalised T request' key).json := by
    simp only [boundJson, Json.record, List.map_map, Json.obj.injEq, List.map_inj_left, Function.comp_apply,
      Prod.mk.injEq, true_and]
  rw [members]
  constructor
  · intro same key listed
    exact (BoundField.json_inj (normalised_literal floats bindable listed)
      (normalised_literal floats bindable' listed)).mp (same key (mem_sortedFields.mpr listed))
  · intro same key listed
    rw [same key (mem_sortedFields.mp listed)]

end Canonical

/-- Requests which agree in the bound fields, up to the order of the groups. -/
structure SameBinding (request request' : Entries) : Prop where
  fields : ∀ key ∈ BINDING_FIELDS, key ≠ "groups" → request.orNone key = request'.orNone key
  groups : request.orNone "groups" = request'.orNone "groups" ∨ ∃ groups groups' : List String, groups.Perm groups' ∧
    request.orNone "groups" = .list (groups.map Value.str) ∧ request'.orNone "groups" = .list (groups'.map Value.str)

/-- The canonical text is exactly that of the normalised fields: there is one for every request, two are the same just
when these are, and nothing else of a request changes it. -/
theorem canonicalisation_exact (T : Text) (floats : Json.PrintsFloats T) (request request' : Entries)
    (bindable : BindableRequest request) (bindable' : BindableRequest request') :
    (∃ text, canonical T request = .ok text) ∧
      (canonical T request = canonical T request' ↔
        ∀ key ∈ BINDING_FIELDS, normalised T request key = normalised T request' key) ∧
      (SameBinding request request' → canonical T request = canonical T request') := by
  have exact_ : canonical T request = canonical T request' ↔
      ∀ key ∈ BINDING_FIELDS, normalised T request key = normalised T request' key := by
    rw [canonical_text bindable, canonical_text bindable', Except.ok.injEq,
      Json.text_inj (boundJson_writable floats bindable) (boundJson_writable floats bindable'),
      boundJson_eq_iff floats bindable bindable']
  refine ⟨⟨_, canonical_text bindable⟩, exact_, ?_⟩
  intro same
  apply exact_.mpr
  intro key listed
  by_cases groups : key = "groups"
  · subst groups
    rcases same.groups with equal | ⟨groups, groups', permuted, given, given'⟩
    · simp only [normalised, equal, if_true]
    · simp only [normalised, given, given', if_true]
      exact congrArg BoundField.groups (Multiset.coe_eq_coe.mpr ((permuted.map Value.str).map T.str))
  · have team : T.given request "team" = T.given request' "team" := by
      rw [given_eq, given_eq, same.fields "team" (by decide) (by decide)]
    simp only [normalised, same.fields key listed groups, team]

/-- Two requests for the same groups in another order, at the same price. -/
def boundRequest (groups : List String) : Entries :=
  [(.str "subject", .str "alice"), (.str "groups", .list (groups.map Value.str)), (.str "team", .str "finance"),
    (.str "input_tokens", .int 100), (.str "cost_per_request_usd", .float (.finite spent)),
    (.str "write_permission", .bool false)]

theorem spendText_prints : Json.PrintsFloats spendText := by
  intro x
  change Json.FloatLiteral (if x.value = 0 then "0.0" else "1.5")
  split
  · exact ⟨by decide +kernel, List.all_eq_true.mp (by decide), by decide⟩
  · exact ⟨by decide +kernel, List.all_eq_true.mp (by decide), by decide⟩

theorem boundRequest_bindable (groups : List String) : BindableRequest (boundRequest groups) where
  fields key listed other := by
    simp only [BINDING_FIELDS, List.mem_cons, List.not_mem_nil, or_false] at listed
    rcases listed with rfl | rfl | rfl | rfl | rfl | rfl | rfl | rfl | rfl | rfl | rfl | rfl | rfl | rfl | rfl | rfl |
      rfl | rfl | rfl | rfl | rfl | rfl | rfl | rfl
    all_goals first
      | exact absurd rfl other
      | exact .none
      | exact .str _
      | exact .int _
      | exact .float _
      | exact .bool _
  groups := Or.inr ⟨groups, rfl⟩

theorem canonicalisation_exact_groups :
    canonical spendText (boundRequest ["ml", "ops"]) = canonical spendText (boundRequest ["ops", "ml"]) ∧
      canonical spendText (boundRequest ["ml", "ops"]) ≠ canonical spendText (boundRequest ["ml,ops"]) := by
  constructor
  · refine (canonicalisation_exact spendText spendText_prints _ _ (boundRequest_bindable _)
      (boundRequest_bindable _)).2.2 ⟨?_, ?_⟩
    · intro key _ other
      have missed : (Value.str "groups").isKey key = false := decide_eq_false other.symm
      simp only [boundRequest, Entries.orNone, Entries.get, List.find?_cons, missed]
    · exact Or.inr ⟨_, _, List.Perm.swap _ _ _, rfl, rfl⟩
  · intro same
    have fields := (canonicalisation_exact spendText spendText_prints _ _ (boundRequest_bindable _)
      (boundRequest_bindable _)).2.1.mp same "groups" (by decide)
    have members : (["ml", "ops"] : Multiset String) = ["ml,ops"] := BoundField.groups.inj fields
    exact absurd (congrArg Multiset.card members) (by decide)

end RuntimePlatform.Governance
