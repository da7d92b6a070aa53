import RuntimePlatform.Decisions.Isolation
import Mathlib.Data.List.DropRight

/-!
The in-process store keeps the records whose keys came last, at most `max_entries` of them. A record which is put again
keeps its place in the queue, and one whose key was dropped comes to its end; a patch does not count.
-/

namespace RuntimePlatform.Decisions

variable {F : Type}

/-- A record without the outcome of its shadow. -/
def DecisionRecord.unshadowed (record : DecisionRecord F) : DecisionRecord F :=
  { record with shadow_outcome := none, shadow_duration_ms := none }

/-- What was put last under each key, before and after a call. -/
def noted (puts : String → Option (DecisionRecord F)) : Call F → String → Option (DecisionRecord F)
  | .put record now => Function.update puts (InMemoryDecisionStore.storage_key record) (some (record.stamp now))
  | .patch_shadow _ _ _ => puts

def lastPut (calls : List (Call F)) : String → Option (DecisionRecord F) := calls.foldl noted fun _ => none

theorem rtake_rtake {α : Type} (l : List α) (m n : ℕ) : (l.rtake n).rtake m = l.rtake (min m n) := by
  simp only [List.rtake_eq_reverse_take_reverse, List.reverse_reverse, List.take_take]

theorem length_rtake_le {α : Type} (l : List α) (n : ℕ) : (l.rtake n).length ≤ n := by
  unfold List.rtake
  rw [List.length_drop]
  omega

/-- A list which is cut to its end before it grows is as one which is cut after. -/
theorem rtake_concat {α : Type} (l : List α) (x : α) (n : ℕ) : (l.rtake n ++ [x]).rtake n = (l ++ [x]).rtake n := by
  cases n with
  | zero => rw [List.rtake_zero, List.rtake_zero]
  | succ n => rw [List.rtake_concat_succ, List.rtake_concat_succ, rtake_rtake, Nat.min_eq_left (Nat.le_succ n)]

namespace InMemoryDecisionStore

/-- The key which a call brings into the store. -/
def brings (s : InMemoryDecisionStore F) : Call F → Option String
  | .put record _ => if storage_key record ∈ s.entries.keys then none else some (storage_key record)
  | .patch_shadow _ _ _ => none

/-- The keys which a run brings into the store, one after another. -/
def brought (s : InMemoryDecisionStore F) : List (Call F) → List String
  | [] => []
  | call :: calls => (s.brings call).toList ++ brought (recordStore.perform call s) calls

/-- What the loop leaves of a store which is in order. -/
theorem trim_spec (max_entries : ℕ) (order : List String) (entries : OrderedDict String (DecisionRecord F))
    (listed : entries.keys = order) : (trim max_entries order entries).1 = order.rtake max_entries ∧
      (trim max_entries order entries).2.keys = order.rtake max_entries ∧
      ∀ k record, (trim max_entries order entries).2.get k = some record → entries.get k = some record := by
  induction order generalizing entries with
  | nil =>
      rw [List.rtake_nil]
      exact ⟨rfl, listed, fun _ _ held => held⟩
  | cons oldest order ih =>
      unfold trim
      by_cases full : (oldest :: order).length > max_entries
      · rw [if_pos full]
        have fresh : oldest ∉ order ∧ order.Nodup := List.nodup_cons.mp (listed ▸ entries.nodup)
        have left : (entries.erase oldest).keys = order := by
          rw [OrderedDict.keys_erase, listed, List.filter_cons_of_neg (by simp)]
          apply List.filter_eq_self.mpr
          intro k member
          exact decide_eq_true fun same => fresh.1 (same ▸ member)
        obtain ⟨cut, keys, held⟩ := ih _ left
        have same : (oldest :: order).rtake max_entries = order.rtake max_entries := by
          rw [List.length_cons] at full
          unfold List.rtake
          rw [List.length_cons, Nat.succ_sub (Nat.le_of_lt_succ full), List.drop_succ_cons]
        rw [same]
        exact ⟨cut, keys, fun k record found => OrderedDict.get_of_erase (held k record found)⟩
      · rw [if_neg full]
        have whole : (oldest :: order).rtake max_entries = oldest :: order := by
          unfold List.rtake
          rw [Nat.sub_eq_zero_of_le (not_lt.mp full), List.drop_zero]
        rw [whole]
        exact ⟨rfl, listed, fun _ _ held => held⟩

/-- The store has the last of the keys which were brought, in order, and under each what was put last, but for shadow
outcomes. -/
structure Retains (max_entries : ℕ) (s : InMemoryDecisionStore F) (came : List String)
    (puts : String → Option (DecisionRecord F)) : Prop where
  size : s.max_entries = max_entries
  keys : s.entries.keys = s.order
  order : s.order = came.rtake max_entries
  records : ∀ k record, s.entries.get k = some record → ∃ last, puts k = some last ∧ record.unshadowed = last.unshadowed

section Steps
variable {max_entries : ℕ} {s : InMemoryDecisionStore F} {came : List String} {puts : String → Option (DecisionRecord F)}

theorem Retains.put (retains : Retains max_entries s came puts) (record : DecisionRecord F) (now : F) :
    Retains max_entries (put now record s) (came ++ (s.brings (.put record now)).toList)
      (noted puts (.put record now)) := by
  obtain ⟨size, ordered, order, records⟩ := retains
  subst size
  have listed : (s.entries.set (storage_key record) (record.stamp now)).keys =
      if storage_key record ∈ s.entries.keys then s.order else s.order ++ [storage_key record] := by
    rw [OrderedDict.keys_set, ordered]
  obtain ⟨cut, keys, held⟩ := trim_spec s.max_entries _ _ listed
  refine ⟨rfl, ?_, ?_, fun k found present => ?_⟩
  · exact keys.trans cut.symm
  · refine cut.trans ?_
    change _ = (came ++ (if storage_key record ∈ s.entries.keys then none else some (storage_key record)).toList).rtake
      s.max_entries
    split
    · rw [order, rtake_rtake, min_self, Option.toList_none, List.append_nil]
    · rw [order, rtake_concat, Option.toList_some]
  · have written := held k found present
    rw [OrderedDict.get_set] at written
    change ∃ last, Function.update puts (storage_key record) (some (record.stamp now)) k = some last ∧ _
    by_cases own : k = storage_key record
    · rw [if_pos own] at written
      rw [own, Function.update_self]
      exact ⟨_, written, rfl⟩
    · rw [if_neg own] at written
      rw [Function.update_of_ne own]
      exact records k found written

theorem Retains.patch_shadow (retains : Retains max_entries s came puts) (request_id outcome : String) (duration_ms : F) :
    Retains max_entries (patch_shadow request_id outcome duration_ms s) came puts := by
  unfold InMemoryDecisionStore.patch_shadow
  cases picked : s.found request_id with
  | none => exact retains
  | some entry =>
      obtain ⟨key, current⟩ := entry
      have here := found_get picked
      have present : key ∈ s.entries.keys := by
        by_contra missing
        rw [OrderedDict.get_eq_none.mpr missing] at here
        cases here
      refine ⟨retains.size, ?_, retains.order, fun k record held => ?_⟩
      · rw [OrderedDict.keys_set, if_pos present]
        exact retains.keys
      · rw [OrderedDict.get_set] at held
        split at held
        · next own =>
            cases held
            rw [own]
            exact retains.records key current here
        · exact retains.records k record held

theorem Retains.run (retains : Retains max_entries s came puts) (calls : List (Call F)) :
    Retains max_entries (recordStore.performAll s calls) (came ++ s.brought calls) (calls.foldl noted puts) := by
  induction calls generalizing s came puts with
  | nil =>
      unfold brought
      rw [List.append_nil]
      exact retains
  | cons call calls ih =>
      unfold brought
      rw [← List.append_assoc]
      apply ih
      cases call with
      | put record now => exact retains.put record now
      | patch_shadow request_id outcome duration_ms =>
          unfold brings
          rw [Option.toList_none, List.append_nil]
          exact retains.patch_shadow request_id outcome duration_ms

end Steps

/-- After any run the store has the last `max_entries` keys which came. A caller finds the record of a request whose key
is one of them, as it was put last, and no call finds any other record. -/
theorem last_records_kept (max_entries : ℕ) (calls : List (Call F)) :
    let s := recordStore.performAll (new max_entries) calls
    let kept := ((new max_entries : InMemoryDecisionStore F).brought calls).rtake max_entries
    s.entries.keys = kept ∧ kept.length ≤ max_entries ∧ ∀ request_id tenant_id,
      ((orNone tenant_id).getD "platform" ++ ":" ++ request_id ∈ kept → ∃ record last,
        s.get request_id tenant_id false = some record ∧
          lastPut calls ((orNone tenant_id).getD "platform" ++ ":" ++ request_id) = some last ∧
            record.unshadowed = last.unshadowed) ∧
      ∀ any_tenant record, s.get request_id tenant_id any_tenant = some record →
        ∃ k ∈ kept, ∃ last, lastPut calls k = some last ∧ record.unshadowed = last.unshadowed := by
  intro s kept
  have start : Retains max_entries (new max_entries : InMemoryDecisionStore F) [] fun _ => none :=
    ⟨rfl, rfl, (List.rtake_nil _).symm, fun _ _ none => nomatch none⟩
  have retains := start.run calls
  have keys : s.entries.keys = kept := retains.keys.trans retains.order
  have puts : ∀ {k record}, s.entries.get k = some record →
      k ∈ kept ∧ ∃ last, lastPut calls k = some last ∧ record.unshadowed = last.unshadowed := by
    intro k record held
    refine ⟨?_, retains.records k record held⟩
    by_contra missing
    rw [OrderedDict.get_eq_none.mpr (keys ▸ missing)] at held
    cases held
  refine ⟨keys, length_rtake_le _ _, fun request_id tenant_id => ⟨fun member => ?_, fun any_tenant record got => ?_⟩⟩
  · cases held : s.entries.get ((orNone tenant_id).getD "platform" ++ ":" ++ request_id) with
    | none => exact absurd (keys ▸ member) (OrderedDict.get_eq_none.mp held)
    | some record =>
        obtain ⟨_, last, put, same⟩ := puts held
        refine ⟨record, last, ?_, put, same⟩
        unfold get
        rw [if_neg Bool.false_ne_true]
        dsimp only
        rw [held]
  · unfold get at got
    split at got
    · obtain ⟨⟨k, value⟩, first, rfl⟩ := Option.map_eq_some_iff.mp got
      obtain ⟨member, last, put, same⟩ := puts (OrderedDict.get_eq_some.mpr (List.mem_of_find?_eq_some first))
      exact ⟨k, member, last, put, same⟩
    · dsimp only at got
      split at got
      · next held =>
          cases got
          obtain ⟨member, last, put, same⟩ := puts held
          exact ⟨_, member, last, put, same⟩
      · obtain ⟨member, last, put, same⟩ := puts got
        exact ⟨_, member, last, put, same⟩

end InMemoryDecisionStore

end RuntimePlatform.Decisions
