import RuntimePlatform.Decisions.RoundTrip

/-!
Shadow outcomes. The task which patches the outcome of a shadow request runs beside the one
which puts the record, in either order, and beside those of other requests. What the two stores
have in common is stated once; the run lemma says which runs attach every outcome to its record.
-/

namespace RuntimePlatform.Decisions
open Python Except

variable {F S : Type}

/-- How a shadow request ends, `run_shadow_request`. -/
inductive ShadowOutcome where
  | success
  | error
  deriving DecidableEq, Repr

def ShadowOutcome.text : ShadowOutcome → String
  | success => "success"
  | error => "error"

/-- A request which puts its record and has a shadow. -/
structure Request (F : Type) where
  record : DecisionRecord F
  outcome : ShadowOutcome
  duration_ms : F

/-- The two steps of a request, taken by two tasks. -/
inductive Step (F : Type) where
  | put (q : Request F) (now : F)
  | patch (q : Request F)

/-- A decision store: its operations, the key of a record, and what lies where. -/
structure RecordStore (F S : Type) where
  put : F → DecisionRecord F → S → S
  patch_shadow : String → String → F → S → S
  get : S → String → Option String → Bool → Except Python.Error (Option (DecisionRecord F))
  key : DecisionRecord F → String
  recordAt : S → String → Option (DecisionRecord F)
  /-- The key which a patch of this request id writes. -/
  picks : S → String → Option String

namespace RecordStore
variable (B : RecordStore F S)

def apply : Step F → S → S
  | .put q now, s => B.put now q.record s
  | .patch q, s => B.patch_shadow q.record.request_id q.outcome.text q.duration_ms s

def exec (s : S) (run : List (Step F)) : S := run.foldl (fun s step => B.apply step s) s

theorem exec_append (s : S) (run : List (Step F)) (step : Step F) :
    B.exec s (run ++ [step]) = B.apply step (B.exec s run) := by
  unfold exec
  rw [List.foldl_append]
  rfl

/-- The record carries what the shadow of the request has given. -/
def Carries (q : Request F) (record : DecisionRecord F) : Prop :=
  record.shadow_outcome = some q.outcome.text ∧ record.shadow_duration_ms = some q.duration_ms

variable (admits : S → DecisionRecord F → Prop) (Asks : Option String → Prop)

/-- A put finds its key free, and is admitted; a patch comes after the put of its own request, and picks that record. -/
def Proper (before : List (Step F)) (s : S) : Step F → Prop
  | .put q _ => B.recordAt s (B.key q.record) = none ∧ admits s q.record
  | .patch q => (∃ now, .put q now ∈ before) ∧ B.picks s q.record.request_id = some (B.key q.record)

/-- Each step of the run is proper where it is taken. -/
def Orderly (s : S) (run : List (Step F)) : Prop :=
  ∀ before step after, run = before ++ step :: after → B.Proper admits before (B.exec s before) step

/-- No shadow outcome is lost or attached to another record, whoever asks and whenever. -/
structure KeepsShadows (s : S) (run : List (Step F)) : Prop where
  /-- A request which has put and patched is answered with its outcome. -/
  attached : ∀ before after, run = before ++ after → ∀ q now, .put q now ∈ before → .patch q ∈ before →
    ∃ record, B.get (B.exec s before) q.record.request_id q.record.tenant_id false = .ok (some record) ∧
        Carries q record
  others : ∀ before q after, run = before ++ .patch q :: after → ∀ k, k ≠ B.key q.record →
    B.recordAt (B.exec s (before ++ [.patch q])) k = B.recordAt (B.exec s before) k
  returns : ∀ before after, run = before ++ after → ∀ request_id tenant_id any_tenant,
    (any_tenant = false → Asks tenant_id) → (B.get (B.exec s before) request_id tenant_id any_tenant).Returns

/-- What the operations do where the keys are free and the patch finds the record. -/
structure Attaches where
  Inv : S → Prop
  put : ∀ {s record}, Inv s → admits s record → B.recordAt s (B.key record) = none → ∀ now,
    Inv (B.put now record s) ∧ (∃ stored, B.recordAt (B.put now record s) (B.key record) = some stored) ∧
      ∀ k, k ≠ B.key record → B.recordAt (B.put now record s) k = B.recordAt s k
  patch : ∀ {s q k record}, Inv s → B.picks s q.record.request_id = some k → B.recordAt s k = some record →
    Inv (B.apply (.patch q) s) ∧ (∃ stored, B.recordAt (B.apply (.patch q) s) k = some stored ∧ Carries q stored) ∧
      ∀ k', k' ≠ k → B.recordAt (B.apply (.patch q) s) k' = B.recordAt s k'
  get : ∀ {s} request_id tenant_id any_tenant, Inv s → (any_tenant = false → Asks tenant_id) →
    (B.get s request_id tenant_id any_tenant).Returns
  own : ∀ {s record stored}, B.recordAt s (B.key record) = some stored →
    B.get s record.request_id record.tenant_id false = .ok (some stored)

variable {B admits Asks} {A : B.Attaches admits Asks} {s : S} {done run : List (Step F)} {q : Request F}

/-- What holds behind a part of a run: the store is in order, and every request which has put its record finds
it there, with the outcome if it has patched it. -/
structure Attached (A : B.Attaches admits Asks) (s : S) (done : List (Step F)) : Prop where
  inv : A.Inv (B.exec s done)
  stored : ∀ q now, .put q now ∈ done → ∃ record, B.recordAt (B.exec s done) (B.key q.record) = some record ∧
    (.patch q ∈ done → Carries q record)
  apart : ∀ p q now now', .put p now ∈ done → .put q now' ∈ done → B.key p.record = B.key q.record → p = q

theorem mem_snoc_of_ne {step last : Step F} (member : step ∈ done ++ [last]) (different : step ≠ last) : step ∈ done :=
  (List.mem_append.mp member).resolve_right fun new => different (List.mem_singleton.mp new)

/-- A put leaves the records of others alone, and its own has not been patched before. -/
theorem Attached.put {now : F} (attached : Attached A s done)
    (proper : B.Proper admits done (B.exec s done) (.put q now))
    (earlier : ∀ p, .patch p ∈ done → ∃ now, .put p now ∈ done) : Attached A s (done ++ [.put q now]) := by
  obtain ⟨free, admitted⟩ := proper
  obtain ⟨inv, ⟨stored, here⟩, others⟩ := A.put attached.inv admitted free now
  have occupied : ∀ p now', .put p now' ∈ done → B.key p.record ≠ B.key q.record := by
    intro p now' before same
    obtain ⟨record, there, _⟩ := attached.stored p now' before
    rw [same, free] at there
    cases there
  refine ⟨?_, ?_, ?_⟩
  · rw [exec_append]
    exact inv
  · intro p now' member
    have patched_before : .patch p ∈ done ++ [.put q now] → .patch p ∈ done :=
      fun patched => mem_snoc_of_ne patched fun bad => nomatch bad
    rw [exec_append]
    change ∃ record, B.recordAt (B.put now q.record (B.exec s done)) (B.key p.record) = some record ∧ _
    rcases List.mem_append.mp member with before | new
    · obtain ⟨record, there, carries⟩ := attached.stored p now' before
      exact ⟨record, (others _ (occupied p now' before)).trans there, fun patched => carries (patched_before patched)⟩
    · cases List.mem_singleton.mp new
      refine ⟨stored, here, fun patched => ?_⟩
      obtain ⟨now'', put⟩ := earlier q (patched_before patched)
      exact absurd rfl (occupied q now'' put)
  · intro p p' now₁ now₂ member member' same
    rcases List.mem_append.mp member with before | new <;> rcases List.mem_append.mp member' with before' | new'
    · exact attached.apart p p' now₁ now₂ before before' same
    · cases List.mem_singleton.mp new'
      exact absurd same (occupied p now₁ before)
    · cases List.mem_singleton.mp new
      exact absurd same.symm (occupied p' now₂ before')
    · cases List.mem_singleton.mp new
      cases List.mem_singleton.mp new'
      rfl

/-- A patch writes the record of its own request, and no other. -/
theorem Attached.patch (attached : Attached A s done) (proper : B.Proper admits done (B.exec s done) (.patch q)) :
    Attached A s (done ++ [.patch q]) := by
  obtain ⟨⟨now, put⟩, picked⟩ := proper
  obtain ⟨record, there, _⟩ := attached.stored q now put
  obtain ⟨inv, ⟨stored, here, carried⟩, others⟩ := A.patch attached.inv picked there
  have put_before : ∀ {p now'}, .put p now' ∈ done ++ [.patch q] → .put p now' ∈ done :=
    fun member => mem_snoc_of_ne member fun bad => nomatch bad
  refine ⟨?_, ?_, fun p p' now₁ now₂ member member' =>
      attached.apart p p' now₁ now₂ (put_before member) (put_before member')⟩
  · rw [exec_append]
    exact inv
  · intro p now' member
    obtain ⟨record', there', carries'⟩ := attached.stored p now' (put_before member)
    rw [exec_append]
    by_cases same : B.key p.record = B.key q.record
    · obtain rfl := attached.apart p q now' now (put_before member) put same
      exact ⟨stored, here, fun _ => carried⟩
    · refine ⟨record', (others _ same).trans there', fun patched => carries' ?_⟩
      refine mem_snoc_of_ne patched fun bad => same ?_
      cases bad
      rfl

theorem orderly_before {before after : List (Step F)} (orderly : B.Orderly admits s (before ++ after)) :
    B.Orderly admits s before := by
  intro former step rest split
  refine orderly former step (rest ++ after) ?_
  rw [split, List.append_assoc]
  rfl

/-- An orderly run leaves every outcome with its record. -/
theorem attached_run (A : B.Attaches admits Asks) (inv : A.Inv s) (run : List (Step F))
    (orderly : B.Orderly admits s run) :
    Attached A s run := by
  induction run using List.reverseRecOn with
  | nil => exact ⟨inv, (fun _ _ none => nomatch none), fun _ _ _ _ none => nomatch none⟩
  | append_singleton done last ih =>
      have before := orderly_before orderly
      have proper := orderly done last [] rfl
      have attached := ih before
      cases last with
      | put q now =>
          refine attached.put proper fun p patched => ?_
          obtain ⟨former, after, split⟩ := List.append_of_mem patched
          obtain ⟨now', put⟩ := (before former _ after split).1
          refine ⟨now', ?_⟩
          rw [split]
          exact List.mem_append_left _ put
      | patch q => exact attached.patch proper

theorem keepsShadows_run (A : B.Attaches admits Asks) (inv : A.Inv s) (run : List (Step F))
    (orderly : B.Orderly admits s run) : B.KeepsShadows Asks s run := by
  have attached : ∀ before after, run = before ++ after → Attached A s before := by
    intro before after split
    rw [split] at orderly
    exact attached_run A inv before (orderly_before orderly)
  constructor
  · intro before after split q now put patched
    obtain ⟨record, there, carries⟩ := (attached before after split).stored q now put
    exact ⟨record, A.own there, carries patched⟩
  · intro before q after split k different
    have here := attached before _ split
    obtain ⟨⟨now, put⟩, picked⟩ := orderly before _ after split
    obtain ⟨record, there, _⟩ := here.stored q now put
    rw [exec_append]
    exact (A.patch here.inv picked there).2.2 k different
  · intro before after split request_id tenant_id any_tenant asks
    exact A.get request_id tenant_id any_tenant (attached before after split).inv asks

end RecordStore

/-! ## The in-process store -/

namespace InMemoryDecisionStore

def recordStore : RecordStore F (InMemoryDecisionStore F) where
  put := put
  patch_shadow := patch_shadow
  get s request_id tenant_id any_tenant := .ok (s.get request_id tenant_id any_tenant)
  key := storage_key
  recordAt s k := s.entries.get k
  picks s request_id := (s.found request_id).map Prod.fst

theorem trim_of_le {max_entries : ℕ} {order : List String} {entries : OrderedDict String (DecisionRecord F)}
    (room : order.length ≤ max_entries) : trim max_entries order entries = (order, entries) := by
  cases order with
  | nil => rfl
  | cons oldest order => rw [trim, if_neg (not_lt.mpr room)]

/-- A put which leaves `max_entries` keys at most drops nothing. -/
theorem put_eq {s : InMemoryDecisionStore F} {record : DecisionRecord F} (now : F)
    (fits : (if storage_key record ∈ s.entries.keys then s.order else s.order ++ [storage_key record]).length ≤
      s.max_entries) :
    put now record s = { s with
      order := if storage_key record ∈ s.entries.keys then s.order else s.order ++ [storage_key record]
      entries := s.entries.set (storage_key record) (record.stamp now) } := by
  have same : storage_key (record.stamp now) = storage_key record := rfl
  unfold put
  dsimp only
  rw [same, trim_of_le fits]

theorem put_entries {s : InMemoryDecisionStore F} {record : DecisionRecord F} (now : F)
    (room : s.order.length < s.max_entries) :
    (put now record s).entries = s.entries.set (storage_key record) (record.stamp now) := by
  rw [put_eq]
  split
  · exact room.le
  · rw [List.length_append, List.length_singleton]
    exact room

theorem found_get {s : InMemoryDecisionStore F} {request_id key : String} {record : DecisionRecord F}
    (found : s.found request_id = some (key, record)) : s.entries.get key = some record :=
  OrderedDict.get_eq_some.mpr (List.mem_of_find?_eq_some found)

def attaches : (recordStore (F := F)).Attaches (fun s _ => s.order.length < s.max_entries) (fun _ => True) where
  Inv _ := True
  put {s record} _ room _ now := by
    change True ∧ (∃ stored, (InMemoryDecisionStore.put now record s).entries.get (storage_key record) = some stored) ∧
      ∀ k, k ≠ storage_key record → (InMemoryDecisionStore.put now record s).entries.get k = s.entries.get k
    rw [put_entries now room]
    exact ⟨trivial, ⟨_, OrderedDict.get_set_self _ _ _⟩, fun k different => OrderedDict.get_set_ne _ _ different⟩
  patch {s q k record} _ picked there := by
    obtain ⟨⟨key, current⟩, found, rfl⟩ := Option.map_eq_some_iff.mp picked
    change True ∧ (∃ stored, (patch_shadow q.record.request_id q.outcome.text q.duration_ms s).entries.get key =
      some stored ∧ RecordStore.Carries q stored) ∧ ∀ k', k' ≠ key →
        (patch_shadow q.record.request_id q.outcome.text q.duration_ms s).entries.get k' = s.entries.get k'
    unfold patch_shadow
    rw [found]
    exact ⟨trivial, ⟨_, OrderedDict.get_set_self _ _ _, rfl, rfl⟩,
        fun k' different => OrderedDict.get_set_ne _ _ different⟩
  get _ _ _ _ _ := ⟨_, rfl⟩
  own {s record stored} there := by
    change Except.ok (s.get record.request_id record.tenant_id false) = _
    unfold InMemoryDecisionStore.get
    rw [if_neg Bool.false_ne_true]
    change s.entries.get (storage_key record) = some stored at there
    change Except.ok (match s.entries.get (storage_key record) with
      | some record => some record
      | none => _) = _
    rw [there]

end InMemoryDecisionStore

/-! ## The store in Redis -/

namespace RedisDecisionStore
variable (C : Codec F)
variable {C} {fields : OrderedDict String String} {record : DecisionRecord F}

/-- What the record says besides its shadow is looked up in the same two parts. -/
theorem find_serialize (record : DecisionRecord F) {name : String} (first : name ≠ "shadow_outcome")
    (second : name ≠ "shadow_duration_ms") :
    ((serialize C record).find? fun e => decide (e.1 = name)) =
      ((serialize C record).take 8 ++ (serialize C record).drop 10).find? fun e => decide (e.1 = name) := by
  have parts : serialize C record = (serialize C record).take 8 ++
      ([("shadow_duration_ms", optional (record.shadow_duration_ms.map C.floats.str)),
        ("shadow_outcome", optional record.shadow_outcome)] ++ (serialize C record).drop 10) := rfl
  have neither : ([("shadow_duration_ms", optional (record.shadow_duration_ms.map C.floats.str)),
      ("shadow_outcome", optional record.shadow_outcome)].find? fun e => decide (e.1 = name)) = none := by
    rw [List.find?_cons_of_neg (by simpa using Ne.symm second), List.find?_cons_of_neg (by simpa using Ne.symm first),
      List.find?_nil]
  rw [parts, List.find?_append, List.find?_append, neither, Option.none_or, ← parts, ← List.find?_append]

/-- Patching the hash is patching the record. -/
theorem Holds.patched (holds : Holds C fields record) (outcome : String) (duration_ms : F) :
    Holds C (fields.update [("shadow_outcome", outcome), ("shadow_duration_ms", C.floats.str duration_ms)])
      (record.patched outcome duration_ms) := by
  intro name
  have two : ([("shadow_outcome", outcome), ("shadow_duration_ms", C.floats.str duration_ms)].map Prod.fst).Nodup := by
    simp only [List.map_cons, List.map_nil]
    decide
  rw [OrderedDict.get_update two, holds name]
  by_cases first : name = "shadow_outcome"
  · subst first
    simp [serialize, DecisionRecord.patched, optional]
  · by_cases second : name = "shadow_duration_ms"
    · subst second
      simp [serialize, DecisionRecord.patched, optional]
    · rw [List.find?_cons_of_neg (by simpa using Ne.symm first), List.find?_cons_of_neg (by simpa using Ne.symm second),
        List.find?_nil, find_serialize record first second,
            find_serialize (record.patched outcome duration_ms) first second]
      rfl

/-! The keyspace. -/

theorem legacy_ne_index (request_id request_id' : String) : legacy_key request_id ≠ index_key request_id' := by
  intro same
  unfold legacy_key index_key at same
  have chars := congrArg String.toList same
  simp at chars

theorem index_key_injective {request_id request_id' : String} (same : index_key request_id = index_key request_id') :
    request_id = request_id' := by
  unfold index_key at same
  exact (String.append_right_inj _).mp same

theorem tenant_ne (tenant_id : Option String) : (orNone tenant_id).getD "platform" ≠ "" := by
  cases known : orNone tenant_id with
  | none => decide
  | some tenant => exact of_decide_eq_true (Option.filter_eq_some_iff.mp known).2

variable (C) in
/-- What lies under a key. -/
def recordAt (s : Keyspace) (k : String) : Option (DecisionRecord F) :=
  match s k with
  | .hash fields =>
    match RedisDecisionStore.decode C fields with
    | .ok decoded => decoded
    | .error _ => none
  | _ => none

variable (C) in
def recordStore : RecordStore F Keyspace where
  put now record s := (put C now record s).2
  patch_shadow request_id outcome duration_ms s := (patch_shadow C request_id outcome duration_ms s).2
  get := get C
  key record := key record.tenant record.request_id
  recordAt := recordAt C
  picks s request_id := (patched_key s request_id).toOption

/-- The keys under which a tenant's records lie are none of the indices. -/
def Apart (tenant : String) : Prop := ∀ request_id request_id', key tenant request_id ≠ index_key request_id'

variable (C) in
/-- Every hash holds a record, and every string is an index which names a tenant. -/
structure Kept (s : Keyspace) : Prop where
  records : ∀ k fields, s k = .hash fields → ∃ record, Holds C fields record ∧ Scored record
  strings : ∀ k text, s k = .string text → ∃ request_id, k = index_key request_id
  indices : ∀ request_id text, s (index_key request_id) = .string text → text ≠ "" ∧ Apart text
  apart : ∀ request_id fields, s (index_key request_id) ≠ .hash fields

theorem Kept.decodes {s : Keyspace} (kept : Kept C s) {k : String} {fields : OrderedDict String String}
    (here : s k = .hash fields) : ∃ decoded, RedisDecisionStore.decode C fields = .ok (some decoded) := by
  obtain ⟨record, holds, scored⟩ := kept.records k fields here
  obtain ⟨decoded, known, _⟩ := holds.decode scored
  exact ⟨decoded, known⟩

/-- Where no record is found, there is no hash. -/
theorem Kept.free {s : Keyspace} (kept : Kept C s) {k : String} (free : recordAt C s k = none)
    (fields : OrderedDict String String) : s k ≠ .hash fields := by
  intro here
  obtain ⟨decoded, known⟩ := kept.decodes here
  unfold recordAt at free
  rw [here] at free
  dsimp only at free
  rw [known] at free
  cases free

theorem Kept.fetch {s : Keyspace} (kept : Kept C s) {k : String} (noIndex : ∀ request_id, k ≠ index_key request_id) :
    (RedisDecisionStore.fetch C s k).Returns := by
  unfold RedisDecisionStore.fetch hgetall
  cases here : s k with
  | missing => exact ⟨none, rfl⟩
  | string text =>
      obtain ⟨request_id, same⟩ := kept.strings k text here
      exact absurd same (noIndex request_id)
  | hash fields =>
      obtain ⟨decoded, known⟩ := kept.decodes here
      exact ⟨_, known⟩

theorem Kept.orLegacy {s : Keyspace} (kept : Kept C s) {request_id : String}
    {first : Except Python.Error (Option (DecisionRecord F))} (returned : first.Returns) :
    (RedisDecisionStore.orLegacy C s request_id first).Returns := by
  obtain ⟨found, rfl⟩ := returned
  unfold RedisDecisionStore.orLegacy
  rw [bind_ok]
  cases found with
  | some record => exact ⟨_, rfl⟩
  | none => exact kept.fetch (legacy_ne_index request_id)

/-- In such a keyspace a lookup by a tenant apart from the indices, or by an auditor, does not raise. -/
theorem Kept.get {s : Keyspace} (kept : Kept C s) (request_id : String) (tenant_id : Option String) (any_tenant : Bool)
    (asks : any_tenant = false → Apart ((orNone tenant_id).getD "platform")) :
    (RedisDecisionStore.get C s request_id tenant_id any_tenant).Returns := by
  unfold RedisDecisionStore.get
  cases any_tenant with
  | false =>
      rw [if_neg Bool.false_ne_true]
      exact kept.orLegacy (kept.fetch (asks rfl request_id))
  | true =>
      rw [if_pos rfl]
      unfold getString
      cases here : s (index_key request_id) with
      | missing => exact kept.fetch (legacy_ne_index request_id)
      | hash fields => exact absurd here (kept.apart request_id fields)
      | string text =>
          obtain ⟨named, apart⟩ := kept.indices request_id text here
          dsimp only
          rw [bind_ok, orNone_of named]
          exact kept.orLegacy (kept.fetch (apart request_id))

/-- Writing a hash under a key which is no index keeps the keyspace in order. -/
theorem Kept.write {s : Keyspace} (kept : Kept C s) {k : String} {fields : OrderedDict String String}
    {record : DecisionRecord F} (noIndex : ∀ request_id, k ≠ index_key request_id) (holds : Holds C fields record)
    (scored : Scored record) : Kept C (Function.update s k (.hash fields)) := by
  constructor
  · intro k' fields' here
    by_cases same : k' = k
    · rw [same, Function.update_self] at here
      cases here
      exact ⟨record, holds, scored⟩
    · rw [Function.update_of_ne same] at here
      exact kept.records k' fields' here
  · intro k' text here
    by_cases same : k' = k
    · rw [same, Function.update_self] at here
      cases here
    · rw [Function.update_of_ne same] at here
      exact kept.strings k' text here
  · intro request_id text here
    rw [Function.update_of_ne (noIndex request_id).symm] at here
    exact kept.indices request_id text here
  · intro request_id fields' here
    rw [Function.update_of_ne (noIndex request_id).symm] at here
    exact kept.apart request_id fields' here

/-- So does naming a tenant apart from the indices in one of them. -/
theorem Kept.name {s : Keyspace} (kept : Kept C s) {request_id tenant : String} (named : tenant ≠ "")
    (apart : Apart tenant) : Kept C (Function.update s (index_key request_id) (.string tenant)) := by
  constructor
  · intro k fields here
    by_cases same : k = index_key request_id
    · rw [same, Function.update_self] at here
      cases here
    · rw [Function.update_of_ne same] at here
      exact kept.records k fields here
  · intro k text here
    by_cases same : k = index_key request_id
    · exact ⟨request_id, same⟩
    · rw [Function.update_of_ne same] at here
      exact kept.strings k text here
  · intro request_id' text here
    by_cases same : index_key request_id' = index_key request_id
    · rw [same, Function.update_self] at here
      cases here
      exact ⟨named, apart⟩
    · rw [Function.update_of_ne same] at here
      exact kept.indices request_id' text here
  · intro request_id' fields here
    by_cases same : index_key request_id' = index_key request_id
    · rw [same, Function.update_self] at here
      cases here
    · rw [Function.update_of_ne same] at here
      exact kept.apart request_id' fields here

theorem recordAt_hash {s : Keyspace} {k : String} {fields : OrderedDict String String} (here : s k = .hash fields)
    {decoded : DecisionRecord F} (known : RedisDecisionStore.decode C fields = .ok (some decoded)) :
    recordAt C s k = some decoded := by
  unfold recordAt
  rw [here]
  dsimp only
  rw [known]

theorem recordAt_congr {s s' : Keyspace} {k : String} (same : s k = s' k) : recordAt C s k = recordAt C s' k := by
  unfold recordAt
  rw [same]

/-- A record is found in a hash only. -/
theorem hash_of_recordAt {s : Keyspace} {k : String} {record : DecisionRecord F}
    (there : recordAt C s k = some record) :
    ∃ fields, s k = .hash fields ∧ RedisDecisionStore.decode C fields = .ok (some record) := by
  unfold recordAt at there
  cases here : s k with
  | missing =>
      rw [here] at there
      cases there
  | string text =>
      rw [here] at there
      cases there
  | hash fields =>
      rw [here] at there
      dsimp only at there
      refine ⟨fields, rfl, ?_⟩
      cases known : RedisDecisionStore.decode C fields with
      | ok decoded =>
          rw [known] at there
          rw [← there]
      | error e =>
          rw [known] at there
          cases there

/-- The put of a record whose key is free writes its hash and its index. -/
theorem put_eq {s : Keyspace} (kept : Kept C s) {record : DecisionRecord F} (apart : Apart record.tenant)
    (free : recordAt C s (key record.tenant record.request_id) = none) (now : F) :
    (put C now record s).2 = Function.update (Function.update s (key record.tenant record.request_id)
      (.hash (OrderedDict.empty.update (serialize C (record.stamp now))))) (index_key record.request_id)
        (.string record.tenant) := by
  change Function.update (hset (key record.tenant record.request_id) (serialize C (record.stamp now)) s).2 _ _ = _
  unfold hset
  cases here : s (key record.tenant record.request_id) with
  | missing => rfl
  | string text =>
      obtain ⟨request_id, same⟩ := kept.strings _ text here
      exact absurd same (apart record.request_id request_id)
  | hash fields => exact absurd here (kept.free free fields)

variable (C) in
def attaches : (recordStore C).Attaches (fun _ record => Scored record ∧ Apart record.tenant)
    (fun tenant_id => Apart ((orNone tenant_id).getD "platform")) where
  Inv := Kept C
  put {s record} kept admitted free now := by
    obtain ⟨scored, apart⟩ := admitted
    change Kept C (RedisDecisionStore.put C now record s).2 ∧
      (∃ stored, recordAt C (RedisDecisionStore.put C now record s).2 (key record.tenant record.request_id) =
        some stored) ∧
        ∀ k, k ≠ key record.tenant record.request_id →
          recordAt C (RedisDecisionStore.put C now record s).2 k = recordAt C s k
    rw [put_eq kept apart free now]
    have holds : Holds C (OrderedDict.empty.update (serialize C (record.stamp now))) (record.stamp now) := holds_written
    have written := kept.write (apart record.request_id) holds scored
    refine ⟨written.name (tenant_ne _) apart, ?_, fun k different => ?_⟩
    · obtain ⟨decoded, known, _⟩ := holds.decode scored
      refine ⟨decoded, recordAt_hash ?_ known⟩
      rw [Function.update_of_ne (apart _ _), Function.update_self]
    · by_cases index : k = index_key record.request_id
      · rw [index]
        have before : recordAt C s (index_key record.request_id) = none := by
          unfold recordAt
          cases here : s (index_key record.request_id) with
          | missing => rfl
          | string text => rfl
          | hash fields => exact absurd here (kept.apart _ fields)
        rw [before]
        unfold recordAt
        rw [Function.update_self]
      · refine recordAt_congr ?_
        rw [Function.update_of_ne index, Function.update_of_ne different]
  patch {s q k record} kept picked there := by
    obtain ⟨fields, here, _⟩ := hash_of_recordAt there
    obtain ⟨old, holds, scored⟩ := kept.records k fields here
    have noIndex : ∀ request_id, k ≠ index_key request_id := fun request_id same =>
      kept.apart request_id fields (same ▸ here)
    have patched := holds.patched q.outcome.text q.duration_ms
    have result : (patch_shadow C q.record.request_id q.outcome.text q.duration_ms s).2 = Function.update s k
        (.hash (fields.update [("shadow_outcome", q.outcome.text),
            ("shadow_duration_ms", C.floats.str q.duration_ms)])) := by
      unfold patch_shadow
      change (patched_key s q.record.request_id).toOption = some k at picked
      cases known : patched_key s q.record.request_id with
      | error e =>
          rw [known] at picked
          cases picked
      | ok key =>
          rw [known] at picked
          cases picked
          simp only [hset, here]
    change Kept C (patch_shadow C q.record.request_id q.outcome.text q.duration_ms s).2 ∧
      (∃ stored, recordAt C (patch_shadow C q.record.request_id q.outcome.text q.duration_ms s).2 k = some stored ∧
        RecordStore.Carries q stored) ∧ ∀ k', k' ≠ k →
          recordAt C (patch_shadow C q.record.request_id q.outcome.text q.duration_ms s).2 k' = recordAt C s k'
    rw [result]
    refine ⟨kept.write noIndex patched scored, ?_,
        fun k' different => recordAt_congr (Function.update_of_ne different _ _)⟩
    obtain ⟨decoded, known, outcome, duration⟩ := patched.decode scored
    refine ⟨decoded, recordAt_hash (Function.update_self _ _ _) known, ?_, duration⟩
    rw [outcome]
    cases q.outcome with
    | success => rfl
    | error => rfl
  get request_id tenant_id any_tenant kept asks := kept.get request_id tenant_id any_tenant asks
  own {s record stored} there := by
    obtain ⟨fields, here, known⟩ := hash_of_recordAt there
    change s (key record.tenant record.request_id) = .hash fields at here
    have found : RedisDecisionStore.fetch C s (key record.tenant record.request_id) = .ok (some stored) := by
      unfold RedisDecisionStore.fetch hgetall
      rw [here]
      exact known
    change RedisDecisionStore.orLegacy C s record.request_id
      (RedisDecisionStore.fetch C s (key record.tenant record.request_id)) = _
    rw [found]
    rfl

theorem kept_missing : Kept C (fun _ => .missing) :=
  ⟨(fun _ _ here => nomatch here), (fun _ _ here => nomatch here), (fun _ _ here => nomatch here),
      fun _ _ here => nomatch here⟩

end RedisDecisionStore
/-! ## Runs of both -/

/-- Where each put finds its key free (below `max_entries` in the process, and by a tenant whose keys are no
index in Redis) and each patch comes behind the put of its own request and picks that record, every shadow
outcome ends up with its record, no other record changes, and no lookup raises. -/
theorem shadows_attached (C : Codec F) (max_entries : ℕ) (run : List (Step F)) :
    (InMemoryDecisionStore.recordStore.Orderly (fun s _ => s.order.length < s.max_entries) (.new max_entries) run →
      InMemoryDecisionStore.recordStore.KeepsShadows (fun _ => True) (.new max_entries) run) ∧
    ((RedisDecisionStore.recordStore C).Orderly
        (fun _ record => RedisDecisionStore.Scored record ∧ RedisDecisionStore.Apart record.tenant)
        (fun _ => .missing) run →
      (RedisDecisionStore.recordStore C).KeepsShadows
        (fun tenant_id => RedisDecisionStore.Apart ((orNone tenant_id).getD "platform")) (fun _ => .missing) run) :=
  ⟨RecordStore.keepsShadows_run InMemoryDecisionStore.attaches trivial run,
    RecordStore.keepsShadows_run (RedisDecisionStore.attaches C) RedisDecisionStore.kept_missing run⟩

def requestOf (tenant request_id : String) : Request (Fin 101) where
  record := {
    request_id, requested_model := "m", selected_backend := "m", routing_reason := "primary", fallback_used := false
    health_score := some 100, duration_ms := 5, shadow_backend := some "n", shadow_duration_ms := none
    shadow_outcome := none, estimated_cost := none, stream_outcome := none, stream_ttft_ms := none
    control_plane_decision_id := none, approval_id := none, policy_bundle_id := none, policy_digest := none
    request_digest := none, control_plane_version := none, runtime_version := none
    enforcement_outcome := some "executed", tenant_id := some tenant, recorded_at := 0 }
  outcome := .success
  duration_ms := 7

theorem shadows_attached_in_order :
    InMemoryDecisionStore.recordStore.KeepsShadows (fun _ => True) (.new 10)
        [.put (requestOf "a" "r") 1, .patch (requestOf "a" "r")] ∧
      (RedisDecisionStore.recordStore wholeCodec).KeepsShadows
        (fun tenant_id => RedisDecisionStore.Apart ((orNone tenant_id).getD "platform")) (fun _ => .missing)
        [.put (requestOf "a" "r") 1, .patch (requestOf "a" "r")] := by
  have attached := shadows_attached wholeCodec 10 [.put (requestOf "a" "r") 1, .patch (requestOf "a" "r")]
  have steps : ∀ {before step after}, ([.put (requestOf "a" "r") 1,
      .patch (requestOf "a" "r")] : List (Step (Fin 101))) =
      before ++ step :: after → before = [] ∧ step = .put (requestOf "a" "r") 1 ∨
        before = [.put (requestOf "a" "r") 1] ∧ step = .patch (requestOf "a" "r") := by
    intro before step after split
    rcases before with _ | ⟨first, _ | ⟨second, before⟩⟩
    · cases split
      exact Or.inl ⟨rfl, rfl⟩
    · cases split
      exact Or.inr ⟨rfl, rfl⟩
    · have long := congrArg List.length split
      simp at long
  constructor
  · refine attached.1 fun before step after split => ?_
    rcases steps split with ⟨rfl, rfl⟩ | ⟨rfl, rfl⟩
    · exact ⟨rfl, by decide⟩
    · exact ⟨⟨1, List.mem_cons_self⟩, by decide +kernel⟩
  · refine attached.2 fun before step after split => ?_
    rcases steps split with ⟨rfl, rfl⟩ | ⟨rfl, rfl⟩
    · refine ⟨rfl, fun n known => ?_, fun request_id request_id' same => ?_⟩
      · cases known
        decide
      · change RedisDecisionStore.key "a" request_id = _ at same
        unfold RedisDecisionStore.key RedisDecisionStore.index_key at same
        have chars := congrArg String.toList same
        simp at chars
    · exact ⟨⟨1, List.mem_cons_self⟩, by decide +kernel⟩

/-- The shadow outcome in an answer. -/
def shadowIn (answer : Except Python.Error (Option (DecisionRecord F))) : Option (Option String) :=
  (answer.toOption.bind id).map DecisionRecord.shadow_outcome

/-- A request which has put and patched, and is answered without an outcome. -/
theorem not_keeps_of_unpatched {B : RecordStore F S} {Asks : Option String → Prop} {s : S} {run : List (Step F)}
    (q : Request F) (now : F) (put : .put q now ∈ run) (patch : .patch q ∈ run)
    (lost : shadowIn (B.get (B.exec s run) q.record.request_id q.record.tenant_id false) = some none) :
    ¬ B.KeepsShadows Asks s run := by
  intro keeps
  obtain ⟨record, answered, outcome, _⟩ := keeps.attached run [] (List.append_nil run).symm q now put patch
  rw [answered] at lost
  have unpatched : record.shadow_outcome = none := Option.some.inj lost
  rw [outcome] at unpatched
  cases unpatched

/-- An outcome which comes before its record is lost, in Redis in a hash which no lookup can read; and the outcome
of a request goes to another tenant's record with the same id, in the process to the first, in Redis to the last. -/
theorem shadows_astray :
    ¬ InMemoryDecisionStore.recordStore.KeepsShadows (fun _ => True) (.new 10)
        [.patch (requestOf "a" "r"), .put (requestOf "a" "r") 1] ∧
      ¬ InMemoryDecisionStore.recordStore.KeepsShadows (fun _ => True) (.new 10)
        [.put (requestOf "a" "r") 1, .put (requestOf "b" "r") 1, .patch (requestOf "b" "r")] ∧
      ¬ (RedisDecisionStore.recordStore wholeCodec).KeepsShadows (fun tenant_id => tenant_id = some "a")
        (fun _ => .missing) [.patch (requestOf "a" "r")] ∧
      ¬ (RedisDecisionStore.recordStore wholeCodec).KeepsShadows (fun tenant_id => tenant_id = some "a")
        (fun _ => .missing) [.patch (requestOf "a" "r"), .put (requestOf "a" "r") 1] ∧
      ¬ (RedisDecisionStore.recordStore wholeCodec).KeepsShadows (fun tenant_id => tenant_id = some "a")
        (fun _ => .missing) [.put (requestOf "a" "r") 1, .put (requestOf "b" "r") 1, .patch (requestOf "a" "r")] := by
  refine ⟨?_, ?_, ?_, ?_, ?_⟩
  · exact not_keeps_of_unpatched (requestOf "a" "r") 1 (by simp) (by simp) (by decide +kernel)
  · exact not_keeps_of_unpatched (requestOf "b" "r") 1 (by simp) (by simp) (by decide +kernel)
  · intro keeps
    obtain ⟨answer, returned⟩ := keeps.returns [.patch (requestOf "a" "r")] [] rfl "r" (some "a") false fun _ => rfl
    have raises : ((RedisDecisionStore.recordStore wholeCodec).get ((RedisDecisionStore.recordStore wholeCodec).exec
        (fun _ => .missing) [.patch (requestOf "a" "r")]) "r" (some "a") false).isOk = false := by decide +kernel
    rw [returned] at raises
    cases raises
  · exact not_keeps_of_unpatched (requestOf "a" "r") 1 (by simp) (by simp) (by decide +kernel)
  · exact not_keeps_of_unpatched (requestOf "a" "r") 1 (by simp) (by simp) (by decide +kernel)

end RuntimePlatform.Decisions
