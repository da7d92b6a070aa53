import RuntimePlatform.Config.Digest
import RuntimePlatform.Lib.Entries
import RuntimePlatform.Lib.Runs

/-!
`runtime_config.py`: the snapshot of the configuration which a process has loaded, the policy which it has last seen, and
how an expectation of the Control Plane is compared with them.
-/

namespace RuntimePlatform.Runtime
open Python Config

/-- A text which is given and not empty. -/
def nonempty (text : Option String) : Option String := text.filter fun s => decide (s ≠ "")

structure PolicyObservation where
  last_seen_bundle_id : Option String := none
  last_seen_digest : Option String := none
  updated_at : Option ℚ := none

/-- What a governance decision names, and its time. -/
structure Observation where
  bundle_id : Option String
  digest : Option String
  now : ℚ

def PolicyObservation.observe (policy : PolicyObservation) (seen : Observation) : PolicyObservation where
  last_seen_bundle_id := (nonempty seen.bundle_id).or policy.last_seen_bundle_id
  last_seen_digest := (nonempty seen.digest).or policy.last_seen_digest
  updated_at :=
    if (nonempty seen.bundle_id).isSome ∨ (nonempty seen.digest).isSome then some seen.now else policy.updated_at

structure RuntimeConfigSnapshot where
  digest : String
  generation : ℤ
  loaded_at : ℚ
  profile : String
  models : List String
  routes_digest : String
  status : String

structure RuntimeConfigState where
  active : RuntimeConfigSnapshot
  last_known_good : RuntimeConfigSnapshot
  rejected : Option RuntimeConfigSnapshot
  policy : PolicyObservation
  instance_id : String

/-- `sorted(settings.model_targets)` -/
def sorted_models (s : GatewaySettings) : List String := s.model_targets.keys.insertionSort fun a b => a ≤ b

variable (T : Text) (sha256 : List Char → String)

def routes_text (s : GatewaySettings) : List Char := Json.dumps (.record [
  ("routes", .ofDict (ModelRoute.model_dump T) s.model_routes),
  ("models", .arr ((sorted_models s).map .ofString))])

def compute_routes_digest (s : GatewaySettings) : String := "sha256:" ++ sha256 (routes_text T s)

/-- `RuntimeConfigState.from_settings`, with the generation and the id which the environment names. -/
def from_settings (generation : ℤ) (instance_id : String) (now : ℚ) (s : GatewaySettings) : RuntimeConfigState :=
  let snapshot : RuntimeConfigSnapshot :=
    { digest := compute_config_digest T sha256 s
      generation := generation
      loaded_at := now
      profile := s.profile
      models := sorted_models s
      routes_digest := compute_routes_digest T sha256 s
      status := "active" }
  { active := snapshot, last_known_good := snapshot, rejected := none, policy := {}, instance_id := instance_id }

/-- `runtime_config.policy.observe` in the chat handler. -/
def RuntimeConfigState.observe (state : RuntimeConfigState) (seen : Observation) : RuntimeConfigState :=
  { state with policy := state.policy.observe seen }

def ofText (text : Option String) : Value := text.elim .none .str

/-- `observed_snapshot`, with the version of the gateway. -/
def RuntimeConfigState.observed_snapshot (state : RuntimeConfigState) (runtime_version : String) : Entries := [
  (.str "config_digest", .str state.active.digest),
  (.str "generation", .int state.active.generation),
  (.str "policy_digest", ofText state.policy.last_seen_digest),
  (.str "policy_bundle_id", ofText state.policy.last_seen_bundle_id),
  (.str "routes_digest", .str state.active.routes_digest),
  (.str "models", .list (state.active.models.map .str)),
  (.str "runtime_version", .str runtime_version),
  (.str "instance_id", .str state.instance_id),
  (.str "profile", .str state.active.profile),
  (.str "status", .str state.active.status)]

/-- `want == actual`, where what is there is a text, an integer or nothing. -/
def equals (want actual : Value) : Bool :=
  match actual with
  | .str s => want.isKey s
  | .int n => decide (want.asIndex = some n)
  | _ => false

/-- A field which differs, with what is expected there and what is there. -/
structure Difference where
  field : String
  expected : Value
  actual : Value

/-- One of the checks; a field which is not expected to be anything is not compared. -/
def check (expected : Entries) (field : String) (actual : Value) : List Difference :=
  match expected.orNone field with
  | .none | .str "" => []
  | want => if equals want actual then [] else [⟨field, want, actual⟩]

def check_models (expected : Entries) (actual_models : List String) : List Difference :=
  match expected.orNone "models" with
  | .list models =>
    if (models.map T.str).insertionSort (fun a b => a ≤ b) = actual_models then []
    else [⟨"models", .list models, .list (actual_models.map .str)⟩]
  | _ => []

structure Verification where
  verified : Bool
  differences : List Difference
  observed : Entries
  expected : Entries
  correlation : Entries

def RuntimeConfigState.verify (state : RuntimeConfigState) (runtime_version : String) (expected : Entries) :
    Verification :=
  let observed := state.observed_snapshot runtime_version
  let differences :=
    (["config_digest", "generation", "policy_digest", "routes_digest"].flatMap fun field =>
      check expected field (observed.orNone field)) ++ check_models T expected state.active.models
  { verified := differences.isEmpty
    differences := differences
    observed := observed
    expected := expected
    correlation := [
      (.str "config_generation", observed.orNone "generation"), (.str "config_digest", observed.orNone "config_digest"),
      (.str "policy_bundle_id", observed.orNone "policy_bundle_id"),
      (.str "policy_digest", observed.orNone "policy_digest"), (.str "routes_digest", observed.orNone "routes_digest"),
      (.str "instance_id", observed.orNone "instance_id"),
      (.str "runtime_version", observed.orNone "runtime_version")] }

/-! What the gateway confirms. -/

/-- What the Control Plane expects of a gateway with these settings, of this generation, under this policy. -/
def expectation (desired : GatewaySettings) (generation : ℤ) (policy_digest : String) : Entries := [
  (.str "config_digest", .str (compute_config_digest T sha256 desired)),
  (.str "generation", .int generation),
  (.str "policy_digest", .str policy_digest),
  (.str "routes_digest", .str (compute_routes_digest T sha256 desired)),
  (.str "models", .list ((sorted_models desired).map .str))]

/-- The digest of the policy which was last named. -/
def last_digest (seen : List Observation) : Option String :=
  (seen.filterMap fun observation => nonempty observation.digest).getLast?

section Runs
variable {state : RuntimeConfigState}

/-- An observation changes nothing but the policy. -/
theorem run_observe_active (state : RuntimeConfigState) (seen : List Observation) :
    (Runs.run RuntimeConfigState.observe state seen).active = state.active := by
  induction seen generalizing state with
  | nil => rfl
  | cons first seen ih => exact ih (state.observe first)

theorem run_observe_digest (state : RuntimeConfigState) (seen : List Observation) :
    (Runs.run RuntimeConfigState.observe state seen).policy.last_seen_digest =
      (last_digest seen).or state.policy.last_seen_digest := by
  induction seen using List.reverseRecOn with
  | nil => rfl
  | append_singleton seen last ih =>
      rw [Runs.run_append]
      change (nonempty last.digest).or (Runs.run RuntimeConfigState.observe state seen).policy.last_seen_digest = _
      rw [ih]
      unfold last_digest
      rw [List.filterMap_append]
      cases named : nonempty last.digest with
      | none => simp only [List.filterMap_cons, named, List.filterMap_nil, List.append_nil, Option.none_or]
      | some digest =>
          simp only [List.filterMap_cons, named, List.filterMap_nil, List.getLast?_append, List.getLast?_singleton,
            Option.some_or]

end Runs

section Checks
variable {T sha256} {expected : Entries} {field : String} {s s' : GatewaySettings}

theorem check_text {want : String} (actual : Option String) (expects : expected.orNone field = .str want) :
    check expected field (ofText actual) = [] ↔ want = "" ∨ actual = some want := by
  unfold check
  rw [expects]
  by_cases empty : want = ""
  · rw [empty]
    exact iff_of_true rfl (.inl rfl)
  · have given : (match (Value.str want : Value) with
        | .none | .str "" => ([] : List Difference)
        | want => if equals want (ofText actual) then [] else [⟨field, want, ofText actual⟩]) =
        if equals (.str want) (ofText actual) then [] else [⟨field, .str want, ofText actual⟩] := by
      split
      next same => cases same
      next same =>
        cases same
        exact absurd rfl empty
      next => rfl
    rw [given]
    cases actual with
    | none => exact iff_of_false (List.cons_ne_nil _ _) fun either => either.elim empty fun some => nomatch some
    | some actual =>
        change (if decide (want = actual) = true then _ else _) = _ ↔ _
        by_cases same : want = actual
        · rw [if_pos (decide_eq_true same), same]
          exact iff_of_true rfl (.inr rfl)
        · rw [if_neg fun yes => same (of_decide_eq_true yes)]
          exact iff_of_false (List.cons_ne_nil _ _) fun either => either.elim empty fun found =>
            same (Option.some.inj found).symm

theorem check_int {want actual : ℤ} (expects : expected.orNone field = .int want) :
    check expected field (.int actual) = [] ↔ want = actual := by
  unfold check
  rw [expects]
  change (if decide (some want = some actual) = true then _ else _) = _ ↔ _
  by_cases same : want = actual
  · rw [if_pos (decide_eq_true (congrArg some same))]
    exact iff_of_true rfl same
  · rw [if_neg fun yes => same (Option.some.inj (of_decide_eq_true yes))]
    exact iff_of_false (List.cons_ne_nil _ _) same

theorem prefixed_ne (digest : String) : "sha256:" ++ digest ≠ "" := by
  intro empty
  have chars := congrArg String.toList empty
  rw [String.toList_append] at chars
  exact nomatch chars

theorem check_models_sorted {names actual : List String} (expects : expected.orNone "models" = .list (names.map .str))
    (sorted : names.insertionSort (fun a b => a ≤ b) = names) : check_models T expected actual = [] ↔ names = actual := by
  have texts : (names.map Value.str).map T.str = names := by
    rw [List.map_map]
    exact List.map_id names
  unfold check_models
  rw [expects]
  dsimp only
  rw [texts, sorted]
  by_cases same : names = actual
  · rw [if_pos same]
    exact iff_of_true rfl same
  · rw [if_neg same]
    exact iff_of_false (List.cons_ne_nil _ _) same

theorem sorted_models_sorted (s : GatewaySettings) :
    (sorted_models s).insertionSort (fun a b => a ≤ b) = sorted_models s :=
  (List.pairwise_insertionSort (fun a b : String => a ≤ b) s.model_targets.keys).insertionSort_eq

/-- Settings which agree in the listed fields have the same models. -/
theorem sorted_models_listed (same : SameListed Json.SameSigned s s') : sorted_models s = sorted_models s' := by
  have members : ∀ name, name ∈ s.model_targets.keys ↔ name ∈ s'.model_targets.keys := by
    intro name
    rw [← AList.mem_keys, ← AList.mem_keys, ← AList.lookup_isSome, ← AList.lookup_isSome]
    have agree := same.model_targets name
    generalize s.model_targets.lookup name = one at agree ⊢
    generalize s'.model_targets.lookup name = other at agree ⊢
    cases agree with
    | none => exact Iff.rfl
    | some _ => exact iff_of_true rfl rfl
  have perm : s.model_targets.keys.Perm s'.model_targets.keys :=
    (List.perm_ext_iff_of_nodup s.model_targets.nodupKeys s'.model_targets.nodupKeys).mpr members
  unfold sorted_models
  apply List.Perm.eq_of_pairwise' (r := fun a b : String => a ≤ b)
  · exact List.pairwise_insertionSort _ _
  · exact List.pairwise_insertionSort _ _
  · exact ((List.perm_insertionSort _ _).trans perm).trans (List.perm_insertionSort _ _).symm

theorem routes_text_listed (floats : Json.SeparatesFloats T) (same : SameListed Json.SameSigned s s') :
    routes_text T s = routes_text T s' := by
  unfold routes_text Json.dumps
  congr 1
  apply (Json.sortKeys_record _ _).mpr
  · simp only [List.map_cons, List.map_nil, List.cons.injEq, and_true, sortKeys_ofMap (sortKeys_route floats)]
    exact ⟨same.model_routes, by rw [sorted_models_listed same]⟩
  · rfl
  · simp

end Checks

/-- After any observations, a gateway confirms the expectation of a configuration just when it runs one with the same
listed fields, zeros with their signs, of the same generation, and has last seen the same policy, where one is expected;
the texts which are hashed do not collide. -/
theorem verified_iff_same (T : Text) (floats : Json.SeparatesFloats T) (sha256 : List Char → String)
    (settings desired : GatewaySettings)
    (collision_free : sha256 (config_text T desired) = sha256 (config_text T settings) →
      config_text T desired = config_text T settings)
    (generation wanted : ℤ) (instance_id runtime_version policy_digest : String) (now : ℚ) (seen : List Observation) :
    ((Runs.run RuntimeConfigState.observe (from_settings T sha256 generation instance_id now settings) seen).verify T
        runtime_version (expectation T sha256 desired wanted policy_digest)).verified = true ↔
      SameListed Json.SameSigned desired settings ∧ wanted = generation ∧
        (policy_digest = "" ∨ last_digest seen = some policy_digest) := by
  set state := Runs.run RuntimeConfigState.observe (from_settings T sha256 generation instance_id now settings) seen
    with reached
  have active : state.active = (from_settings T sha256 generation instance_id now settings).active :=
    run_observe_active _ seen
  have policy : state.policy.last_seen_digest = last_digest seen :=
    (run_observe_digest _ seen).trans Option.or_none
  set expected := expectation T sha256 desired wanted policy_digest with expectation_eq
  have config : check expected "config_digest" (.str state.active.digest) = [] ↔
      SameListed Json.SameSigned desired settings := by
    rw [active, ← config_text_eq_iff floats desired settings]
    refine (check_text (some _) rfl).trans ?_
    constructor
    · rintro (empty | same)
      · exact absurd empty (prefixed_ne _)
      · exact collision_free ((String.append_right_inj _).mp (Option.some.inj same)).symm
    · intro same
      exact .inr (congrArg (fun text => some ("sha256:" ++ sha256 text)) same.symm)
  have routes : SameListed Json.SameSigned desired settings →
      check expected "routes_digest" (.str state.active.routes_digest) = [] := by
    intro same
    rw [active]
    refine (check_text (some _) rfl).mpr (.inr ?_)
    exact congrArg (fun text => some ("sha256:" ++ sha256 text)) (routes_text_listed floats same).symm
  have models : SameListed Json.SameSigned desired settings → check_models T expected state.active.models = [] := by
    intro same
    rw [active]
    exact (check_models_sorted rfl (sorted_models_sorted desired)).mpr (sorted_models_listed same)
  have generations : check expected "generation" (.int state.active.generation) = [] ↔ wanted = generation := by
    rw [active]
    exact check_int rfl
  have policies : check expected "policy_digest" (ofText state.policy.last_seen_digest) = [] ↔
      policy_digest = "" ∨ last_digest seen = some policy_digest := by
    rw [policy]
    exact check_text _ rfl
  have verified : (state.verify T runtime_version expected).verified = true ↔
      (check expected "config_digest" (.str state.active.digest) = [] ∧
        check expected "generation" (.int state.active.generation) = [] ∧
        check expected "policy_digest" (ofText state.policy.last_seen_digest) = [] ∧
        check expected "routes_digest" (.str state.active.routes_digest) = []) ∧
        check_models T expected state.active.models = [] := by
    unfold RuntimeConfigState.verify
    dsimp only
    rw [List.isEmpty_iff, List.append_eq_nil_iff]
    simp only [List.flatMap_cons, List.flatMap_nil, List.append_nil, List.append_eq_nil_iff]
    exact Iff.rfl
  rw [verified, config, generations, policies]
  constructor
  · rintro ⟨⟨same, generation_eq, policy_eq, -⟩, -⟩
    exact ⟨same, generation_eq, policy_eq⟩
  · rintro ⟨same, generation_eq, policy_eq⟩
    exact ⟨⟨same, generation_eq, policy_eq, routes same⟩, models same⟩

end RuntimePlatform.Runtime
