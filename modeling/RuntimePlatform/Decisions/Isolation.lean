import Mathlib.Data.List.Dedup
import RuntimePlatform.Decisions.Shadow

/-!
Isolation of the tenants' records. Two runs are compared: one as it happened, and one without the
puts of a tenant. The endpoint answers another tenant alike as long as no key of the first one's
records is a key of somebody else's, and no patch picks its record in the place of a visible one.
-/

namespace RuntimePlatform.Decisions
open Python Except

variable {F S : Type}

/-- A call on a store, by whichever tenant. -/
inductive Call (F : Type) where
  | put (record : DecisionRecord F) (now : F)
  | patch_shadow (request_id outcome : String) (duration_ms : F)

def Call.request_id : Call F → String
  | put record _ => record.request_id
  | patch_shadow request_id _ _ => request_id

/-- The call puts a record for this tenant. -/
def Call.putsFor (tenant : String) : Call F → Bool
  | put record _ => decide (record.tenant_id = some tenant)
  | patch_shadow _ _ _ => false

namespace RecordStore
variable (B : RecordStore F S)

def perform : Call F → S → S
  | .put record now, s => B.put now record s
  | .patch_shadow request_id outcome duration_ms, s => B.patch_shadow request_id outcome duration_ms s

def performAll (s : S) (calls : List (Call F)) : S := calls.foldl (fun s call => B.perform call s) s

theorem performAll_append (s : S) (calls : List (Call F)) (call : Call F) :
    B.performAll s (calls ++ [call]) = B.perform call (B.performAll s calls) := by
  unfold performAll
  rw [List.foldl_append]
  rfl

/-- The calls without the puts for a tenant. -/
def without (tenant : String) (calls : List (Call F)) : List (Call F) := calls.filter fun call => !call.putsFor tenant

theorem without_own {tenant : String} {call : Call F} (own : call.putsFor tenant = true) (calls : List (Call F)) :
    without tenant (calls ++ [call]) = without tenant calls := by
  rw [without, List.filter_append, List.filter_cons_of_neg (by rw [own]; exact Bool.false_ne_true), List.filter_nil,
    List.append_nil, without]

theorem performAll_without {tenant : String} {call : Call F} (other : call.putsFor tenant = false) (s : S)
    (calls : List (Call F)) : B.performAll s (without tenant (calls ++ [call])) =
      B.perform call (B.performAll s (without tenant calls)) := by
  rw [without, List.filter_append, List.filter_cons_of_pos (by rw [other]; rfl), List.filter_nil, performAll_append,
    without]

/-- What the endpoint answers a caller of the tenant who is no auditor. -/
def answer (s : S) (caller request_id : String) : Except NotServed (DecisionRecord F) :=
  get_decision (B.get s) caller false request_id

/-- Whenever they ask, the callers of one tenant are answered alike with and without the puts for another, and never
with one of these. -/
def Isolates (s : S) (tenant caller : String) (calls : List (Call F)) : Prop :=
  ∀ before after, calls = before ++ after → ∀ request_id,
    B.answer (B.performAll s before) caller request_id =
        B.answer (B.performAll s (without tenant before)) caller request_id ∧
      ∀ record, B.answer (B.performAll s before) caller request_id = .ok record → record.tenant_id ≠ some tenant

end RecordStore

/-- Records which the endpoint shows to callers of the tenant: their own, and those of no tenant. -/
def DecisionRecord.VisibleTo (caller : String) (record : DecisionRecord F) : Prop :=
  orNone record.tenant_id = none ∨ orNone record.tenant_id = some caller

section Endpoint
variable {get get' : String → Option String → Bool → Except Python.Error (Option (DecisionRecord F))}
variable {caller request_id : String} {record record' : DecisionRecord F}

theorem get_decision_missing (missing : get request_id (some caller) false = .ok none) :
    get_decision get caller false request_id = .error .not_found := by
  unfold get_decision
  rw [missing]

theorem get_decision_visible (found : get request_id (some caller) false = .ok (some record))
    (visible : record.VisibleTo caller) : get_decision get caller false request_id = .ok record := by
  unfold get_decision
  rw [found]
  dsimp only
  rcases visible with shared | own
  · rw [shared]
  · rw [own]
    exact if_neg fun hidden => hidden.1 rfl

theorem get_decision_hidden (found : get request_id (some caller) false = .ok (some record))
    (hidden : ¬ record.VisibleTo caller) : get_decision get caller false request_id = .error .not_found := by
  unfold DecisionRecord.VisibleTo at hidden
  rw [not_or] at hidden
  obtain ⟨owner, owned⟩ := Option.ne_none_iff_exists'.mp hidden.1
  unfold get_decision
  rw [found]
  dsimp only
  rw [owned]
  exact if_pos ⟨fun same => hidden.2 (same ▸ owned), rfl⟩

theorem VisibleTo_congr (same : record.tenant_id = record'.tenant_id) :
    record.VisibleTo caller ↔ record'.VisibleTo caller := by
  unfold DecisionRecord.VisibleTo
  rw [same]

theorem not_visible {tenant : String} (named : tenant ≠ "") (different : tenant ≠ caller)
    (owned : record.tenant_id = some tenant) : ¬ record.VisibleTo caller := by
  unfold DecisionRecord.VisibleTo
  rw [owned, RedisDecisionStore.orNone_of named]
  rintro (shared | own)
  · cases shared
  · exact different (Option.some.inj own)

/-- The endpoint shows no record of another tenant. -/
theorem get_decision_tenant {tenant : String} (named : tenant ≠ "") (different : tenant ≠ caller)
    (answered : get_decision get caller false request_id = .ok record) : record.tenant_id ≠ some tenant := by
  intro owned
  cases found : get request_id (some caller) false with
  | error e =>
      unfold get_decision at answered
      rw [found] at answered
      cases answered
  | ok value =>
      cases value with
      | none =>
          rw [get_decision_missing found] at answered
          cases answered
      | some stored =>
          by_cases visible : stored.VisibleTo caller
          · rw [get_decision_visible found visible] at answered
            cases answered
            exact not_visible named different owned visible
          · rw [get_decision_hidden found visible] at answered
            cases answered

/-- Two records of the same tenant, equal where they are visible, are answered alike. -/
theorem get_decision_congr (found : get request_id (some caller) false = .ok (some record))
    (found' : get' request_id (some caller) false = .ok (some record')) (same : record.tenant_id = record'.tenant_id)
    (equal : record.VisibleTo caller → record = record') :
    get_decision get caller false request_id = get_decision get' caller false request_id := by
  by_cases visible : record.VisibleTo caller
  · obtain rfl := equal visible
    rw [get_decision_visible found visible, get_decision_visible found' visible]
  · rw [get_decision_hidden found visible, get_decision_hidden found' (mt (VisibleTo_congr same).mpr visible)]

end Endpoint

/-! ## The in-process store -/

namespace InMemoryDecisionStore

/-- The key is one under which the calls put a record for the tenant. -/
def PutFor (tenant : String) (calls : List (Call F)) (k : String) : Prop :=
  ∃ record now, .put record now ∈ calls ∧ record.tenant_id = some tenant ∧ k = storage_key record

/-- The key is one under which the calls put a record for somebody else. -/
def PutForOther (tenant : String) (calls : List (Call F)) (k : String) : Prop :=
  ∃ record now, .put record now ∈ calls ∧ record.tenant_id ≠ some tenant ∧ k = storage_key record

/-- The keys of the tenant's records are no keys of others and none which the caller looks up, and no patch finds
a record of the tenant while the caller sees one with that id. -/
structure Separate (max_entries : ℕ) (tenant caller : String) (calls : List (Call F)) : Prop where
  others : ∀ k, PutFor tenant calls k → ¬ PutForOther tenant calls k
  lookups : ∀ k, PutFor tenant calls k → ∀ request_id, k ≠ caller ++ ":" ++ request_id
  patches : ∀ before request_id outcome duration_ms after,
    calls = before ++ .patch_shadow request_id outcome duration_ms :: after →
    ∀ k record, (recordStore.performAll (.new max_entries) before).found request_id = some (k, record) →
      record.tenant_id = some tenant →
      ∀ e ∈ (recordStore.performAll (.new max_entries) before).entries.items, e.2.request_id = request_id →
        ¬ e.2.VisibleTo caller

def storageKeys (calls : List (Call F)) : List String :=
  calls.filterMap fun call => match call with
    | .put record _ => some (storage_key record)
    | .patch_shadow _ _ _ => none

/-- What two related entries share: all, where the caller sees them. -/
def Same (caller : String) (x y : String × DecisionRecord F) : Prop :=
  x.1 = y.1 ∧ x.2.request_id = y.2.request_id ∧ x.2.tenant_id = y.2.tenant_id ∧ (x.2.VisibleTo caller → x.2 = y.2)

/-- The entry is no record of the tenant. -/
def other (tenant : String) (e : String × DecisionRecord F) : Bool := decide (e.2.tenant_id ≠ some tenant)

/-- The store of the one run, without the tenant's records, is the store of the other. -/
structure Alike (tenant caller : String) (calls : List (Call F)) (s s' : InMemoryDecisionStore F) : Prop where
  entries : List.Forall₂ (Same caller) (s.entries.items.filter (other tenant)) s'.entries.items
  own : ∀ e ∈ s.entries.items, e.2.tenant_id = some tenant → PutFor tenant calls e.1
  foreign : ∀ e ∈ s.entries.items, e.2.tenant_id ≠ some tenant → PutForOther tenant calls e.1

/-- The store has the order of its entries, all put by these calls. -/
structure Room (max_entries : ℕ) (calls : List (Call F)) (s : InMemoryDecisionStore F) : Prop where
  order : s.order = s.entries.keys
  limit : s.max_entries = max_entries
  keys : ∀ k ∈ s.entries.keys, k ∈ storageKeys calls

variable {tenant caller : String} {max_entries : ℕ} {calls : List (Call F)} {s s' : InMemoryDecisionStore F}

theorem mem_storageKeys {record : DecisionRecord F} {now : F} (member : .put record now ∈ calls) :
    storage_key record ∈ storageKeys calls := List.mem_filterMap.mpr ⟨_, member, rfl⟩

/-- With room for every key of the calls, a put drops nothing. -/
theorem Room.put_eq (room : Room max_entries calls s) (fits : (storageKeys calls).dedup.length ≤ max_entries)
    {record : DecisionRecord F} {now : F} (member : .put record now ∈ calls) :
    put now record s = { s with
      order := (s.entries.set (storage_key record) (record.stamp now)).keys
      entries := s.entries.set (storage_key record) (record.stamp now) } := by
  have keys := OrderedDict.keys_set s.entries (storage_key record) (record.stamp now)
  have listed : ∀ k ∈ (s.entries.set (storage_key record) (record.stamp now)).keys, k ∈ storageKeys calls := by
    intro k there
    rw [keys] at there
    split at there
    · exact room.keys k there
    · rcases List.mem_append.mp there with older | new
      · exact room.keys k older
      · rw [List.mem_singleton.mp new]
        exact mem_storageKeys member
  have distinct : (s.entries.set (storage_key record) (record.stamp now)).keys.Nodup :=
    (s.entries.set (storage_key record) (record.stamp now)).nodup
  have few := (List.subperm_of_subset distinct fun k there => List.mem_dedup.mpr (listed k there)).length_le
  rw [keys] at few
  rw [InMemoryDecisionStore.put_eq, keys, room.order]
  rw [room.order, room.limit]
  exact few.trans fits

theorem Room.put (room : Room max_entries calls s) (fits : (storageKeys calls).dedup.length ≤ max_entries)
    {record : DecisionRecord F} {now : F} (member : .put record now ∈ calls) :
    Room max_entries calls (InMemoryDecisionStore.put now record s) := by
  rw [room.put_eq fits member]
  refine ⟨rfl, room.limit, fun k there => ?_⟩
  obtain ⟨e, written, rfl⟩ := List.mem_map.mp there
  rcases OrderedDict.mem_write written with rfl | older
  · exact mem_storageKeys member
  · exact room.keys _ (List.mem_map_of_mem older)

theorem Room.patch_shadow (room : Room max_entries calls s) (request_id outcome : String) (duration_ms : F) :
    Room max_entries calls (InMemoryDecisionStore.patch_shadow request_id outcome duration_ms s) := by
  unfold InMemoryDecisionStore.patch_shadow
  cases here : s.found request_id with
  | none => exact room
  | some e =>
      obtain ⟨key, current⟩ := e
      have listed : key ∈ s.entries.keys := List.mem_map_of_mem (List.mem_of_find?_eq_some here)
      have keys := OrderedDict.keys_set s.entries key (current.patched outcome duration_ms)
      rw [if_pos listed] at keys
      refine ⟨room.order.trans keys.symm, room.limit, fun k there => room.keys k ?_⟩
      rw [← keys]
      exact there

theorem same_refl (x : String × DecisionRecord F) : Same caller x x := ⟨rfl, rfl, rfl, fun _ => rfl⟩

theorem Same.patched {x y : String × DecisionRecord F} (same : Same caller x y) (outcome : String) (duration_ms : F) :
    Same caller (x.1, x.2.patched outcome duration_ms) (y.1, y.2.patched outcome duration_ms) :=
  ⟨same.1, same.2.1, same.2.2.1, fun visible => congrArg (fun r => r.patched outcome duration_ms) (same.2.2.2 visible)⟩

/-- Writing an entry of the tenant over entries of the tenant leaves the rest. -/
theorem Alike.writeOwn (alike : Alike tenant caller calls s s') {k : String} (record : DecisionRecord F)
    (own : PutFor tenant calls k) (owned : record.tenant_id = some tenant) (alone : ¬ PutForOther tenant calls k)
    {t t' : InMemoryDecisionStore F} (items : t.entries.items = OrderedDict.write k record s.entries.items)
    (related : List.Forall₂ (Same caller) (s.entries.items.filter (other tenant)) t'.entries.items) :
    Alike tenant caller calls t t' := by
  constructor
  · rw [items, OrderedDict.filter_write_dropped]
    · exact related
    · exact fun kept => of_decide_eq_true kept owned
    · exact fun e listed same kept => alone (same ▸ alike.foreign e listed (of_decide_eq_true kept))
  · intro e listed owner
    rw [items] at listed
    rcases OrderedDict.mem_write listed with rfl | older
    · exact own
    · exact alike.own e older owner
  · intro e listed owner
    rw [items] at listed
    rcases OrderedDict.mem_write listed with rfl | older
    · exact absurd owned owner
    · exact alike.foreign e older owner

/-- Writing an entry of somebody else writes it in both. -/
theorem Alike.writeOther (alike : Alike tenant caller calls s s') {k : String} (record : DecisionRecord F)
    {record' : DecisionRecord F} (here : PutForOther tenant calls k) (foreign : record.tenant_id ≠ some tenant)
    (alone : ¬ PutFor tenant calls k)
    (same : Same caller (k, record) (k, record')) {t t' : InMemoryDecisionStore F}
    (items : t.entries.items = OrderedDict.write k record s.entries.items)
    (items' : t'.entries.items = OrderedDict.write k record' s'.entries.items) : Alike tenant caller calls t t' := by
  constructor
  · rw [items, items', OrderedDict.filter_write_kept (decide_eq_true foreign)]
    · exact OrderedDict.forall₂_write (fun same => same.1) alike.entries same
    · intro e listed same
      exact decide_eq_true fun owned => alone (same ▸ alike.own e listed owned)
  · intro e listed owner
    rw [items] at listed
    rcases OrderedDict.mem_write listed with rfl | older
    · exact absurd owner foreign
    · exact alike.own e older owner
  · intro e listed owner
    rw [items] at listed
    rcases OrderedDict.mem_write listed with rfl | older
    · exact here
    · exact alike.foreign e older owner

/-- A patch which finds no record of the tenant in the place of a visible one keeps the two stores alike. -/
theorem Alike.patch (alike : Alike tenant caller calls s s')
    (separate : ∀ k, PutFor tenant calls k → ¬ PutForOther tenant calls k)
    (request_id outcome : String) (duration_ms : F)
    (patches : ∀ k record, s.found request_id = some (k, record) → record.tenant_id = some tenant →
      ∀ e ∈ s.entries.items, e.2.request_id = request_id → ¬ e.2.VisibleTo caller) :
    Alike tenant caller calls (patch_shadow request_id outcome duration_ms s)
      (patch_shadow request_id outcome duration_ms s') := by
  have scans := OrderedDict.forall₂_find (p := fun e => decide (e.2.request_id = request_id))
    (q := fun e => decide (e.2.request_id = request_id)) (fun same => by rw [same.2.1]) alike.entries
  unfold patch_shadow
  cases here : s.found request_id with
  | none =>
      have none_kept : (s.entries.items.filter (other tenant)).find?
          (fun e => decide (e.2.request_id = request_id)) = none :=
        List.find?_eq_none.mpr fun e member => List.find?_eq_none.mp here e (List.mem_filter.mp member).1
      rcases scans with ⟨_, missing⟩ | ⟨x, y, hit, _, _⟩
      · have here' : s'.found request_id = none := missing
        rw [here']
        exact alike
      · rw [none_kept] at hit
        cases hit
  | some e =>
      obtain ⟨key, current⟩ := e
      have member : (key, current) ∈ s.entries.items := List.mem_of_find?_eq_some here
      by_cases owned : current.tenant_id = some tenant
      · have own := alike.own _ member owned
        refine alike.writeOwn (current.patched outcome duration_ms) own owned (separate key own) rfl ?_
        rcases scans with ⟨_, missing⟩ | ⟨x, y, hit, hit', same⟩
        · have here' : s'.found request_id = none := missing
          rw [here']
          exact alike.entries
        · have here' : s'.found request_id = some y := hit'
          rw [here']
          have member' : y ∈ s'.entries.items := List.mem_of_find?_eq_some here'
          refine OrderedDict.forall₂_write_right alike.entries (List.mem_map_of_mem member') ?_
          intro x' listed y' listed' sameKey related
          have one : y' = y := List.inj_on_of_nodup_map s'.entries.nodup listed' member' sameKey
          subst one
          have asked : x'.2.request_id = request_id := by
            rw [related.2.1]
            exact of_decide_eq_true (@List.find?_some _
                (fun e : String × DecisionRecord F => decide (e.2.request_id = request_id)) _ _ here')
          have hidden := patches key current here owned x' (List.mem_filter.mp listed).1 asked
          exact ⟨related.1, related.2.1, related.2.2.1, fun visible => absurd visible hidden⟩
      · have kept := OrderedDict.find_filter_of_kept (p := other tenant) here (decide_eq_true owned)
        rcases scans with ⟨missing, _⟩ | ⟨x, y, hit, hit', same⟩
        · rw [kept] at missing
          cases missing
        · rw [kept] at hit
          cases hit
          have here' : s'.found request_id = some y := hit'
          rw [here']
          obtain ⟨key', current'⟩ := y
          obtain rfl : key = key' := same.1
          have other := alike.foreign _ member owned
          exact alike.writeOther (current.patched outcome duration_ms) other owned
            (fun own => separate key own other) (same.patched outcome duration_ms) rfl rfl

/-- Side by side, the calls and the calls without the puts for the tenant. -/
theorem alike_run (fits : (storageKeys calls).dedup.length ≤ max_entries)
    (separate : Separate max_entries tenant caller calls)
    (before after : List (Call F)) (split : calls = before ++ after) :
    Room max_entries calls (recordStore.performAll (.new max_entries) before) ∧
      Room max_entries calls (recordStore.performAll (.new max_entries) (RecordStore.without tenant before)) ∧
      Alike tenant caller calls (recordStore.performAll (.new max_entries) before)
        (recordStore.performAll (.new max_entries) (RecordStore.without tenant before)) := by
  induction before using List.reverseRecOn generalizing after with
  | nil =>
      have room : Room max_entries calls (InMemoryDecisionStore.new max_entries) :=
          ⟨rfl, rfl, fun _ none => nomatch none⟩
      exact ⟨room, room, .nil, (fun _ none => nomatch none), fun _ none => nomatch none⟩
  | append_singleton before last ih =>
      obtain ⟨room, room', alike⟩ := ih (last :: after) (by rw [split, List.append_assoc]; rfl)
      have member : last ∈ calls := by
        rw [split]
        exact List.mem_append_left _ (List.mem_append_right _ List.mem_cons_self)
      rw [RecordStore.performAll_append]
      cases last with
      | put record now =>
          have written := congrArg (fun t => t.entries.items) (room.put_eq fits member)
          by_cases owned : record.tenant_id = some tenant
          · have own : PutFor tenant calls (storage_key record) := ⟨record, now, member, owned, rfl⟩
            have puts : (Call.put record now).putsFor tenant = true := decide_eq_true owned
            rw [RecordStore.without_own puts]
            refine ⟨room.put fits member, room', ?_⟩
            exact alike.writeOwn (record.stamp now) own owned (separate.others _ own) written alike.entries
          · have here : PutForOther tenant calls (storage_key record) := ⟨record, now, member, owned, rfl⟩
            have puts : (Call.put record now).putsFor tenant = false := decide_eq_false owned
            rw [RecordStore.performAll_without _ puts]
            refine ⟨room.put fits member, room'.put fits member, ?_⟩
            exact alike.writeOther (record.stamp now) here owned (fun own => separate.others _ own here)
              (same_refl _) written (congrArg (fun t => t.entries.items) (room'.put_eq fits member))
      | patch_shadow request_id outcome duration_ms =>
          have kept : (Call.patch_shadow request_id outcome duration_ms : Call F).putsFor tenant = false := rfl
          rw [RecordStore.performAll_without _ kept]
          refine ⟨room.patch_shadow request_id outcome duration_ms,
              room'.patch_shadow request_id outcome duration_ms, ?_⟩
          refine alike.patch separate.others request_id outcome duration_ms ?_
          exact separate.patches before request_id outcome duration_ms after (by rw [split, List.append_assoc]; rfl)

/-- What two alike stores hold under one key. -/
theorem Alike.lookup (alike : Alike tenant caller calls s s') (k : String) :
    (∃ record, s.entries.get k = some record ∧ record.tenant_id = some tenant ∧ s'.entries.get k = none) ∨
      s.entries.get k = none ∧ s'.entries.get k = none ∨
      ∃ record record', s.entries.get k = some record ∧ s'.entries.get k = some record' ∧
        Same caller (k, record) (k, record') := by
  have scans := OrderedDict.forall₂_find (p := fun e => decide (e.1 = k)) (q := fun e => decide (e.1 = k))
    (fun same => by rw [same.1]) alike.entries
  rcases scans with ⟨missing, missing'⟩ | ⟨x, y, hit, hit', same⟩
  · have absent : s'.entries.get k = none := congrArg (Option.map Prod.snd) missing'
    cases found : s.entries.get k with
    | none => exact Or.inr (Or.inl ⟨rfl, absent⟩)
    | some record =>
        refine Or.inl ⟨record, rfl, ?_, absent⟩
        by_contra foreign
        have kept : (k, record) ∈ s.entries.items.filter (other tenant) :=
          List.mem_filter.mpr ⟨OrderedDict.get_eq_some.mp found, decide_eq_true foreign⟩
        exact List.find?_eq_none.mp missing _ kept (decide_eq_true rfl)
  · have here : x.1 = k := of_decide_eq_true
        (@List.find?_some _ (fun e : String × DecisionRecord F => decide (e.1 = k)) _ _ hit)
    obtain ⟨key, record⟩ := x
    obtain ⟨key', record'⟩ := y
    obtain rfl : key = k := here
    obtain rfl : key = key' := same.1
    refine Or.inr (Or.inr ⟨record, record', ?_, congrArg (Option.map Prod.snd) hit', same⟩)
    exact OrderedDict.get_eq_some.mpr (List.mem_filter.mp (List.mem_of_find?_eq_some hit)).1

theorem get_own (asks : caller ≠ "") (s : InMemoryDecisionStore F) (request_id : String) :
    s.get request_id (some caller) false = match s.entries.get (caller ++ ":" ++ request_id) with
      | some record => some record
      | none => s.entries.get request_id := by
  unfold InMemoryDecisionStore.get
  rw [if_neg Bool.false_ne_true, RedisDecisionStore.orNone_of asks]
  rfl

/-- Alike stores answer alike. -/
theorem Alike.answer (alike : Alike tenant caller calls s s') (named : tenant ≠ "") (asks : caller ≠ "")
    (different : tenant ≠ caller) (lookups : ∀ k, PutFor tenant calls k → ∀ request_id, k ≠ caller ++ ":" ++ request_id)
    (request_id : String) : recordStore.answer s caller request_id = recordStore.answer s' caller request_id := by
  have got := get_own asks s request_id
  have got' := get_own asks s' request_id
  have first := alike.lookup (caller ++ ":" ++ request_id)
  have second := alike.lookup request_id
  change get_decision (recordStore.get s) caller false request_id =
      get_decision (recordStore.get s') caller false request_id
  rcases first with ⟨record, found, owned, _⟩ | ⟨missing, missing'⟩ | ⟨record, record', found, found', same⟩
  · exact absurd rfl (lookups _ (alike.own _ (OrderedDict.get_eq_some.mp found) owned) request_id)
  · rw [missing] at got
    rw [missing'] at got'
    rcases second with ⟨record, found, owned, absent⟩ | ⟨absent, absent'⟩ | ⟨record, record', found, found', same⟩
    · rw [get_decision_hidden (congrArg Except.ok (got.trans found)) (not_visible named different owned),
        get_decision_missing (congrArg Except.ok (got'.trans absent))]
    · rw [get_decision_missing (congrArg Except.ok (got.trans absent)),
        get_decision_missing (congrArg Except.ok (got'.trans absent'))]
    · exact get_decision_congr (congrArg Except.ok (got.trans found)) (congrArg Except.ok (got'.trans found'))
        same.2.2.1 same.2.2.2
  · rw [found] at got
    rw [found'] at got'
    exact get_decision_congr (congrArg Except.ok got) (congrArg Except.ok got') same.2.2.1 same.2.2.2

theorem isolates (named : tenant ≠ "") (asks : caller ≠ "") (different : tenant ≠ caller)
    (fits : (storageKeys calls).dedup.length ≤ max_entries) (separate : Separate max_entries tenant caller calls) :
    recordStore.Isolates (.new max_entries) tenant caller calls := by
  intro before after split request_id
  obtain ⟨_, _, alike⟩ := alike_run fits separate before after split
  exact ⟨alike.answer named asks different separate.lookups request_id,
    fun record answered => get_decision_tenant named different answered⟩

end InMemoryDecisionStore

/-! ## The store in Redis -/

namespace RedisDecisionStore

/-- The key of a hash which the calls put for the tenant. -/
def OwnHash (tenant : String) (calls : List (Call F)) (k : String) : Prop :=
  ∃ record now, .put record now ∈ calls ∧ record.tenant_id = some tenant ∧ k = key record.tenant record.request_id

/-- The key of an index which the calls put for the tenant. -/
def OwnIndex (tenant : String) (calls : List (Call F)) (k : String) : Prop :=
  ∃ record now, .put record now ∈ calls ∧ record.tenant_id = some tenant ∧ k = index_key record.request_id

def Own (tenant : String) (calls : List (Call F)) (k : String) : Prop :=
    OwnHash tenant calls k ∨ OwnIndex tenant calls k

/-- The keys of the tenant's puts are no hashes of others, no indices which a call reads and none which the caller
looks up, and no patch writes one of them. -/
structure Separate (C : Codec F) (tenant caller : String) (calls : List (Call F)) : Prop where
  others : ∀ record now, .put record now ∈ calls → record.tenant_id ≠ some tenant →
    ¬ Own tenant calls (key record.tenant record.request_id)
  indices : ∀ k, OwnHash tenant calls k → ∀ call ∈ calls, k ≠ index_key call.request_id
  lookups : ∀ k, Own tenant calls k → ∀ request_id, k ≠ key caller request_id ∧ k ≠ legacy_key request_id
  patches : ∀ before request_id outcome duration_ms after,
    calls = before ++ .patch_shadow request_id outcome duration_ms :: after →
    ∀ k, patched_key ((recordStore C).performAll (fun _ => .missing) before) request_id = .ok k → ¬ Own tenant calls k

/-- The keyspaces differ in the tenant's hashes, and in indices which name the tenant. -/
structure Alike (tenant : String) (calls : List (Call F)) (s s' : Keyspace) : Prop where
  others : ∀ k, ¬ Own tenant calls k → s k = s' k
  indices : ∀ k, OwnIndex tenant calls k → s k = s' k ∨ s k = .string tenant

variable {C : Codec F} {tenant caller : String} {calls : List (Call F)} {s s' : Keyspace}

/-- `HSET` writes its key only. -/
theorem hset_other {k k' : String} (mapping : List (String × String)) (different : k' ≠ k) (s : Keyspace) :
    (hset k mapping s).2 k' = s k' := by
  unfold hset
  cases s k with
  | missing => exact Function.update_of_ne different _ _
  | hash fields => exact Function.update_of_ne different _ _
  | string text => rfl

/-- What `HSET` writes depends on what was there. -/
theorem hset_congr {k : String} (mapping : List (String × String)) (same : s k = s' k) :
    (hset k mapping s).2 k = (hset k mapping s').2 k := by
  unfold hset
  rw [← same]
  cases here : s k with
  | missing =>
      change Function.update s k _ k = Function.update s' k _ k
      rw [Function.update_self, Function.update_self]
  | hash fields =>
      change Function.update s k _ k = Function.update s' k _ k
      rw [Function.update_self, Function.update_self]
  | string text => exact here.trans (here.symm.trans same)

theorem put_apply (C : Codec F) (now : F) (record : DecisionRecord F) (s : Keyspace) :
    (put C now record s).2 = Function.update
      (hset (key record.tenant record.request_id) (serialize C (record.stamp now)) s).2 (index_key record.request_id)
        (.string record.tenant) := rfl

theorem tenant_of (named : tenant ≠ "") {record : DecisionRecord F} (owned : record.tenant_id = some tenant) :
    record.tenant = tenant := by
  unfold DecisionRecord.tenant
  rw [owned, orNone_of named]
  rfl

/-- An `HSET` of one of the tenant's hashes. -/
theorem Alike.hsetOwn (alike : Alike tenant calls s s') (separate : Separate C tenant caller calls) {k : String}
    (own : OwnHash tenant calls k) (mapping : List (String × String)) :
    Alike tenant calls (hset k mapping s).2 s' := by
  constructor
  · intro k' foreign
    have different : k' ≠ k := fun same => foreign (Or.inl (same ▸ own))
    rw [hset_other mapping different]
    exact alike.others k' foreign
  · rintro _ ⟨record, now, member, owned, rfl⟩
    have different : index_key record.request_id ≠ k := (separate.indices k own _ member).symm
    rw [hset_other mapping different]
    exact alike.indices _ ⟨record, now, member, owned, rfl⟩

/-- An `HSET` of somebody else's key, in both. -/
theorem Alike.hsetOther (alike : Alike tenant calls s s') {k : String} (foreign : ¬ Own tenant calls k)
    (mapping : List (String × String)) : Alike tenant calls (hset k mapping s).2 (hset k mapping s').2 := by
  constructor
  · intro k' foreign'
    by_cases same : k' = k
    · rw [same]
      exact hset_congr mapping (alike.others k foreign)
    · rw [hset_other mapping same, hset_other mapping same]
      exact alike.others k' foreign'
  · intro k' own
    have different : k' ≠ k := fun same => foreign (Or.inr (same ▸ own))
    rw [hset_other mapping different, hset_other mapping different]
    exact alike.indices k' own

/-- The tenant names itself in an index. -/
theorem Alike.nameOwn (alike : Alike tenant calls s s') {k : String} (own : OwnIndex tenant calls k) :
    Alike tenant calls (Function.update s k (.string tenant)) s' := by
  constructor
  · intro k' foreign
    have different : k' ≠ k := fun same => foreign (Or.inr (same ▸ own))
    rw [Function.update_of_ne different]
    exact alike.others k' foreign
  · intro k' own'
    by_cases same : k' = k
    · rw [same, Function.update_self]
      exact Or.inr rfl
    · rw [Function.update_of_ne same]
      exact alike.indices k' own'

theorem Alike.nameOther (alike : Alike tenant calls s s') (k text : String) :
    Alike tenant calls (Function.update s k (.string text)) (Function.update s' k (.string text)) := by
  constructor
  · intro k' foreign
    by_cases same : k' = k
    · rw [same, Function.update_self, Function.update_self]
    · rw [Function.update_of_ne same, Function.update_of_ne same]
      exact alike.others k' foreign
  · intro k' own
    by_cases same : k' = k
    · rw [same, Function.update_self, Function.update_self]
      exact Or.inl rfl
    · rw [Function.update_of_ne same, Function.update_of_ne same]
      exact alike.indices k' own

/-- A patch which writes none of the tenant's keys reads the same index in both. -/
theorem Alike.patched_key (alike : Alike tenant calls s s') (named : tenant ≠ "")
    (separate : Separate C tenant caller calls) {request_id outcome : String} {duration_ms : F}
    (member : .patch_shadow request_id outcome duration_ms ∈ calls)
    (foreign : ∀ k, RedisDecisionStore.patched_key s request_id = .ok k → ¬ Own tenant calls k) :
    RedisDecisionStore.patched_key s request_id = RedisDecisionStore.patched_key s' request_id := by
  have same : s (index_key request_id) = s' (index_key request_id) := by
    by_cases own : OwnIndex tenant calls (index_key request_id)
    · rcases alike.indices _ own with same | itself
      · exact same
      · obtain ⟨record, now, put, owned, known⟩ := own
        have asked : RedisDecisionStore.patched_key s request_id = .ok (key tenant request_id) := by
          unfold RedisDecisionStore.patched_key getString
          rw [itself]
          dsimp only [bind, Except.bind]
          rw [orNone_of named]
        refine absurd (Or.inl ⟨record, now, put, owned, ?_⟩) (foreign _ asked)
        rw [tenant_of named owned, index_key_injective known]
    · refine alike.others _ fun either => either.elim (fun hash => ?_) own
      exact separate.indices _ hash _ member rfl
  unfold RedisDecisionStore.patched_key getString
  rw [same]

/-- Side by side, the calls and the calls without the puts for the tenant. -/
theorem alike_run (named : tenant ≠ "") (separate : Separate C tenant caller calls)
    (before after : List (Call F)) (split : calls = before ++ after) :
    Alike tenant calls ((recordStore C).performAll (fun _ => .missing) before)
      ((recordStore C).performAll (fun _ => .missing) (RecordStore.without tenant before)) := by
  induction before using List.reverseRecOn generalizing after with
  | nil => exact ⟨fun _ _ => rfl, fun _ _ => Or.inl rfl⟩
  | append_singleton before last ih =>
      have alike := ih (last :: after) (by rw [split, List.append_assoc]; rfl)
      have member : last ∈ calls := by
        rw [split]
        exact List.mem_append_left _ (List.mem_append_right _ List.mem_cons_self)
      rw [RecordStore.performAll_append]
      cases last with
      | put record now =>
          change Alike tenant calls (put C now record _).2 _
          rw [put_apply]
          by_cases owned : record.tenant_id = some tenant
          · have puts : (Call.put record now).putsFor tenant = true := decide_eq_true owned
            rw [RecordStore.without_own puts]
            have hashed := alike.hsetOwn separate ⟨record, now, member, owned, rfl⟩ (serialize C (record.stamp now))
            have itself := tenant_of named owned
            rw [itself] at hashed ⊢
            exact hashed.nameOwn ⟨record, now, member, owned, rfl⟩
          · have puts : (Call.put record now).putsFor tenant = false := decide_eq_false owned
            rw [RecordStore.performAll_without _ puts]
            exact (alike.hsetOther (separate.others record now member owned) _).nameOther _ _
      | patch_shadow request_id outcome duration_ms =>
          have kept : (Call.patch_shadow request_id outcome duration_ms : Call F).putsFor tenant = false := rfl
          rw [RecordStore.performAll_without _ kept]
          have foreign := separate.patches before request_id outcome duration_ms after
            (by rw [split, List.append_assoc]; rfl)
          have read := alike.patched_key named separate member foreign
          change Alike tenant calls (patch_shadow C request_id outcome duration_ms _).2
            (patch_shadow C request_id outcome duration_ms _).2
          unfold patch_shadow
          rw [← read]
          cases known : patched_key ((recordStore C).performAll (fun _ => .missing) before) request_id with
          | error e => exact alike
          | ok k => exact alike.hsetOther (foreign k known) _

/-- Alike keyspaces answer alike. -/
theorem Alike.answer (alike : Alike tenant calls s s') (asks : caller ≠ "") (separate : Separate C tenant caller calls)
    (request_id : String) : (recordStore C).answer s caller request_id =
        (recordStore C).answer s' caller request_id := by
  have first : s (key caller request_id) = s' (key caller request_id) :=
    alike.others _ fun own => (separate.lookups _ own request_id).1 rfl
  have second : s (legacy_key request_id) = s' (legacy_key request_id) :=
    alike.others _ fun own => (separate.lookups _ own request_id).2 rfl
  have same : get C s request_id (some caller) false = get C s' request_id (some caller) false := by
    unfold RedisDecisionStore.get RedisDecisionStore.orLegacy RedisDecisionStore.fetch hgetall
    rw [if_neg Bool.false_ne_true, if_neg Bool.false_ne_true, orNone_of asks]
    simp only [Option.getD_some]
    rw [first, second]
  change get_decision (get C s) caller false request_id = get_decision (get C s') caller false request_id
  unfold get_decision
  rw [same]

theorem isolates (named : tenant ≠ "") (asks : caller ≠ "") (different : tenant ≠ caller)
    (separate : Separate C tenant caller calls) :
    (recordStore C).Isolates (fun _ => .missing) tenant caller calls := by
  intro before after split request_id
  exact ⟨(alike_run named separate before after split).answer asks separate request_id,
    fun record answered => get_decision_tenant named different answered⟩

end RedisDecisionStore

/-! ## Runs of both -/

/-- With room for every key, and as long as no key of the tenant's puts is a key of others or one which the caller
looks up, and no patch meets a record of the tenant in the place of one which the caller sees (in Redis: writes a
key of the tenant), the tenant's records stay apart from the answers to the caller. -/
theorem decisions_isolated (C : Codec F) (max_entries : ℕ) {tenant caller : String} (named : tenant ≠ "")
    (asks : caller ≠ "") (different : tenant ≠ caller) (calls : List (Call F)) :
    ((InMemoryDecisionStore.storageKeys calls).dedup.length ≤ max_entries →
      InMemoryDecisionStore.Separate max_entries tenant caller calls →
      InMemoryDecisionStore.recordStore.Isolates (.new max_entries) tenant caller calls) ∧
    (RedisDecisionStore.Separate C tenant caller calls →
      (RedisDecisionStore.recordStore C).Isolates (fun _ => .missing) tenant caller calls) :=
  ⟨InMemoryDecisionStore.isolates named asks different, RedisDecisionStore.isolates named asks different⟩

/-- A put and the patch for another tenant, and a put for this one. -/
def besideCalls : List (Call (Fin 101)) :=
  [.put (requestOf "b" "r").record 1, .put (requestOf "a" "q").record 1, .patch_shadow "r" "success" 7]

theorem besideCalls_patch {before after : List (Call (Fin 101))} {request_id outcome : String} {duration_ms : Fin 101}
    (split : besideCalls = before ++ .patch_shadow request_id outcome duration_ms :: after) :
    before = [.put (requestOf "b" "r").record 1, .put (requestOf "a" "q").record 1] ∧ request_id = "r" := by
  unfold besideCalls at split
  rcases before with _ | ⟨first, _ | ⟨second, _ | ⟨third, before⟩⟩⟩
  · cases split
  · cases split
  · cases split
    exact ⟨rfl, rfl⟩
  · have long := congrArg List.length split
    simp at long

theorem besideCalls_put {record : DecisionRecord (Fin 101)} {now : Fin 101} (member : .put record now ∈ besideCalls) :
    record = (requestOf "b" "r").record ∨ record = (requestOf "a" "q").record := by
  simp only [besideCalls, List.mem_cons, Call.put.injEq, reduceCtorEq, List.not_mem_nil, or_false] at member
  exact member.imp And.left And.left

theorem besideCalls_own {record : DecisionRecord (Fin 101)} {now : Fin 101} (member : .put record now ∈ besideCalls)
    (owned : record.tenant_id = some "a") : record = (requestOf "a" "q").record := by
  refine (besideCalls_put member).resolve_left fun same => ?_
  rw [same] at owned
  exact absurd owned (by decide)

theorem besideCalls_other {record : DecisionRecord (Fin 101)} {now : Fin 101} (member : .put record now ∈ besideCalls)
    (foreign : record.tenant_id ≠ some "a") : record = (requestOf "b" "r").record := by
  refine (besideCalls_put member).resolve_right fun same => foreign ?_
  rw [same]
  rfl

theorem besideCalls_storage {k : String} (own : InMemoryDecisionStore.PutFor "a" besideCalls k) : k = "a:q" := by
  obtain ⟨record, now, member, owned, rfl⟩ := own
  rw [besideCalls_own member owned]
  decide +kernel

theorem besideCalls_hash {k : String} (own : RedisDecisionStore.OwnHash "a" besideCalls k) :
    k = "arp:a:decision:q" := by
  obtain ⟨record, now, member, owned, rfl⟩ := own
  rw [besideCalls_own member owned]
  decide +kernel

theorem besideCalls_keys {k : String} (own : RedisDecisionStore.Own "a" besideCalls k) :
    k = "arp:a:decision:q" ∨ k = "arp:decision-index:q" := by
  refine own.imp besideCalls_hash fun index => ?_
  obtain ⟨record, now, member, owned, rfl⟩ := index
  rw [besideCalls_own member owned]
  decide +kernel

theorem besideCalls_separate : InMemoryDecisionStore.Separate 10 "a" "b" besideCalls := by
  constructor
  · rintro k own ⟨record, now, member, foreign, same⟩
    rw [besideCalls_storage own, besideCalls_other member foreign] at same
    exact absurd same (by decide +kernel)
  · intro k own request_id same
    rw [besideCalls_storage own] at same
    have chars := congrArg String.toList same
    simp at chars
  · intro before request_id outcome duration_ms after split k record found owned
    obtain ⟨rfl, rfl⟩ := besideCalls_patch split
    have first : ((InMemoryDecisionStore.recordStore.performAll (InMemoryDecisionStore.new 10)
        [Call.put (requestOf "b" "r").record 1, Call.put (requestOf "a" "q").record 1]).found "r").map
          (fun e => e.2.tenant_id) = some (some "b") := by decide +kernel
    rw [found, Option.map_some, owned] at first
    exact absurd first (by decide)

theorem besideCalls_separate_redis : RedisDecisionStore.Separate wholeCodec "a" "b" besideCalls := by
  constructor
  · intro record now member foreign own
    rw [besideCalls_other member foreign] at own
    exact absurd (besideCalls_keys own) (by decide +kernel)
  · intro k own call _ same
    rw [besideCalls_hash own] at same
    unfold RedisDecisionStore.index_key at same
    have chars := congrArg String.toList same
    simp at chars
  · intro k own request_id
    unfold RedisDecisionStore.key RedisDecisionStore.legacy_key
    constructor
    all_goals
      intro same
      rcases besideCalls_keys own with rfl | rfl
      all_goals
        have chars := congrArg String.toList same
        simp at chars
  · intro before request_id outcome duration_ms after split k written own
    obtain ⟨rfl, rfl⟩ := besideCalls_patch split
    have known : (RedisDecisionStore.patched_key ((RedisDecisionStore.recordStore wholeCodec).performAll
        (fun _ => .missing) [Call.put (requestOf "b" "r").record 1,
            Call.put (requestOf "a" "q").record 1]) "r").toOption =
          some "arp:b:decision:r" := by decide +kernel
    rw [written] at known
    obtain rfl : k = "arp:b:decision:r" := Option.some.inj known
    exact absurd (besideCalls_keys own) (by decide)

theorem decisions_isolated_beside :
    InMemoryDecisionStore.recordStore.Isolates (.new 10) "a" "b" besideCalls ∧
      (RedisDecisionStore.recordStore wholeCodec).Isolates (fun _ => .missing) "a" "b" besideCalls := by
  have isolated := @decisions_isolated _ wholeCodec 10 "a" "b" (by decide) (by decide) (by decide) besideCalls
  exact ⟨isolated.1 (by decide +kernel) besideCalls_separate, isolated.2 besideCalls_separate_redis⟩

/-- The shadow outcome which the caller is shown. -/
def shownShadow (answer : Except NotServed (DecisionRecord F)) : Option (Option String) :=
  answer.toOption.map DecisionRecord.shadow_outcome

theorem not_isolates_of_shown {B : RecordStore F S} {s : S} {tenant caller : String} {calls : List (Call F)}
    (request_id : String)
    (shown : shownShadow (B.answer (B.performAll s calls) caller request_id) ≠
      shownShadow (B.answer (B.performAll s (RecordStore.without tenant calls)) caller request_id)) :
    ¬ B.Isolates s tenant caller calls :=
  fun isolates => shown (congrArg shownShadow (isolates calls [] (List.append_nil calls).symm request_id).1)

/-- One tenant's record takes the shadow outcome of another's with the same id, in the process the first, in Redis
the last; and with colons in the names, two records of two tenants have one key. -/
theorem decisions_not_isolated :
    ¬ InMemoryDecisionStore.recordStore.Isolates (.new 10) "a" "b"
        [.put (requestOf "a" "r").record 1, .put (requestOf "b" "r").record 1, .patch_shadow "r" "success" 7] ∧
      ¬ InMemoryDecisionStore.recordStore.Isolates (.new 10) "b:a" "b"
        [.put (requestOf "b" "a:r").record 1, .put (requestOf "b:a" "r").record 1] ∧
      ¬ (RedisDecisionStore.recordStore wholeCodec).Isolates (fun _ => .missing) "a" "b"
        [.put (requestOf "b" "r").record 1, .put (requestOf "a" "r").record 1, .patch_shadow "r" "success" 7] ∧
      ¬ (RedisDecisionStore.recordStore wholeCodec).Isolates (fun _ => .missing) "b:decision:a" "b"
        [.put (requestOf "b" "a:decision:r").record 1, .put (requestOf "b:decision:a" "r").record 1] := by
  refine ⟨?_, ?_, ?_, ?_⟩
  · exact not_isolates_of_shown "r" (by decide +kernel)
  · exact not_isolates_of_shown "a:r" (by decide +kernel)
  · exact not_isolates_of_shown "r" (by decide +kernel)
  · exact not_isolates_of_shown "a:decision:r" (by decide +kernel)

end RuntimePlatform.Decisions
