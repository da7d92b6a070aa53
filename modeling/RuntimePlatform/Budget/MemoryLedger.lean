import RuntimePlatform.Budget.Memory
import RuntimePlatform.Budget.Backend

/-!
The in-process store keeps a ledger as well. Expiry is a loop over the reservations,
followed by one over the tombstones; both are replayed id by id.
-/

namespace RuntimePlatform.Budget
open Ledger
variable {ι : Type} [DecidableEq ι]

inductive MemoryCall (ι : Type) where
  | reserve (nowMs windowMs : ℤ) (estimate : ℕ) (resId : ι) (ttlMs : ℤ)
  | settle (resId : ι) (actual : ℕ) (nowMs windowMs : ℤ)
  | purge (nowMs : ℤ)

def MemoryCall.exec (budget : ℤ) (memory : Option (MemoryWindow ι)) :
    MemoryCall ι → Option (MemoryWindow ι)
  | .reserve nowMs windowMs estimate resId ttlMs =>
      (reserveMemory nowMs windowMs budget estimate resId ttlMs memory).2
  | .settle resId actual nowMs windowMs => settleMemory resId actual nowMs windowMs memory
  | .purge nowMs => purgeMemory nowMs memory

namespace MemoryWindow

/-- Expired reservations lapse, then stale tombstones are forgotten. -/
def expireEvents (nowMs keysTtlMs : ℤ) (state : MemoryWindow ι) : List (Event ι) :=
  (expiredIds nowMs state).map .lapsed ++
    (staleIds nowMs (sweep nowMs keysTtlMs state)).map .forgotten

def rollEvents (nowMs windowMs : ℤ) (state : MemoryWindow ι) : List (Event ι) :=
  if state.windowStartMs = 0 ∨ nowMs - state.windowStartMs ≥ windowMs then [.reset] else []

end MemoryWindow
open MemoryWindow

def MemoryCall.events (budget : ℤ) (memory : Option (MemoryWindow ι)) :
    MemoryCall ι → List (Event ι)
  | .reserve nowMs windowMs estimate resId ttlMs =>
      let state := memory.getD .new
      let code := (state.reserve nowMs windowMs budget estimate resId ttlMs).1.code
      expireEvents nowMs (max windowMs ttlMs * 4) state ++ rollEvents nowMs windowMs state ++
        if code = 1 then [.admitted resId estimate] else []
  | .settle resId actual nowMs windowMs =>
      match memory with
      | none => []
      | some state =>
          if (state.settle resId actual nowMs windowMs).1 then
            rollEvents nowMs windowMs state ++ [.charged resId actual]
          else []
  | .purge nowMs =>
      match memory with
      | none => []
      | some state => expireEvents nowMs purgeTtlMs state

/-- The guard without Redis. -/
def memory (budget : ℤ) : Backend ι (Option (MemoryWindow ι)) (MemoryCall ι) where
  init := none
  exec := MemoryCall.exec budget
  events := MemoryCall.events budget
  draws
    | .reserve _ _ _ resId _ => [resId]
    | _ => []

namespace MemoryWindow

structure Represents (state : MemoryWindow ι) (L : Ledger ι) : Prop where
  reservations : ∀ id, (state.reservations.lookup id).map Prod.snd =
    if id ∈ L.live then some (L.estimate id) else none
  tombstones : ∀ id, (state.tombstones.lookup id).map Prod.snd =
    if id ∈ L.late then some (L.estimate id) else none
  committed : state.committedMicros = L.committed
  reserved : state.reservedMicros = L.reserved

theorem represents_new : Represents (ι := ι) .new Ledger.empty where
  reservations _ := rfl
  tombstones _ := rfl
  committed := rfl
  reserved := rfl

section Members
variable {state : MemoryWindow ι} {L : Ledger ι} {id : ι} {entry : ℤ × ℤ}

theorem Represents.live_of_lookup (rep : state.Represents L)
    (found : state.reservations.lookup id = some entry) : id ∈ L.live ∧ entry.2 = L.estimate id := by
  have amount := rep.reservations id
  rw [found, Option.map_some] at amount
  split at amount
  · next live => exact ⟨live, Option.some.inj amount⟩
  · cases amount

theorem Represents.lookup_of_live (rep : state.Represents L) (live : id ∈ L.live) :
    ∃ expiry, state.reservations.lookup id = some (expiry, L.estimate id) := by
  have amount := rep.reservations id
  rw [if_pos live, Option.map_eq_some_iff] at amount
  obtain ⟨⟨expiry, _⟩, found, rfl⟩ := amount
  exact ⟨expiry, found⟩

theorem Represents.lookup_of_not_live (rep : state.Represents L) (absent : id ∉ L.live) :
    state.reservations.lookup id = none := by
  have amount := rep.reservations id
  rwa [if_neg absent, Option.map_eq_none_iff] at amount

theorem Represents.late_of_lookup (rep : state.Represents L)
    (found : state.tombstones.lookup id = some entry) : id ∈ L.late := by
  have amount := rep.tombstones id
  rw [found, Option.map_some] at amount
  split at amount
  · next late => exact late
  · cases amount

theorem Represents.lookup_of_late (rep : state.Represents L) (late : id ∈ L.late) :
    ∃ forget, state.tombstones.lookup id = some (forget, L.estimate id) := by
  have amount := rep.tombstones id
  rw [if_pos late, Option.map_eq_some_iff] at amount
  obtain ⟨⟨forget, _⟩, found, rfl⟩ := amount
  exact ⟨forget, found⟩

theorem Represents.lookup_of_not_late (rep : state.Represents L) (absent : id ∉ L.late) :
    state.tombstones.lookup id = none := by
  have amount := rep.tombstones id
  rwa [if_neg absent, Option.map_eq_none_iff] at amount

theorem mem_expiredIds {nowMs : ℤ} :
    id ∈ expiredIds nowMs state ↔ ∃ entry, state.reservations.lookup id = some entry ∧ entry.1 ≤ nowMs := by
  rw [expiredIds, ← AList.mem_keys, AList.mem_filter]
  simp only [decide_eq_true_eq]

theorem mem_staleIds {nowMs : ℤ} :
    id ∈ staleIds nowMs state ↔ ∃ entry, state.tombstones.lookup id = some entry ∧ entry.1 ≤ nowMs := by
  rw [staleIds, ← AList.mem_keys, AList.mem_filter]
  simp only [decide_eq_true_eq]

omit [DecidableEq ι] in
theorem expiredIds_nodup (nowMs : ℤ) (state : MemoryWindow ι) : (expiredIds nowMs state).Nodup :=
  AList.keys_nodup _

omit [DecidableEq ι] in
theorem staleIds_nodup (nowMs : ℤ) (state : MemoryWindow ι) : (staleIds nowMs state).Nodup :=
  AList.keys_nodup _

theorem Represents.expiredIds_live (rep : state.Represents L) (nowMs : ℤ) :
    ∀ id ∈ expiredIds nowMs state, id ∈ L.live := by
  intro id member
  obtain ⟨entry, found, _⟩ := mem_expiredIds.mp member
  exact (rep.live_of_lookup found).1

theorem Represents.staleIds_late (rep : state.Represents L) (nowMs : ℤ) :
    ∀ id ∈ staleIds nowMs state, id ∈ L.late := by
  intro id member
  obtain ⟨entry, found, _⟩ := mem_staleIds.mp member
  exact rep.late_of_lookup found

end Members

/-! What the expiry loop leaves of the two dicts. -/
section Loop
variable {state : MemoryWindow ι} {nowMs keysTtlMs : ℤ} {id : ι} {entry : ℤ × ℤ}

theorem popEach_reservations (ids : List ι) (state : MemoryWindow ι) (j : ι) :
    (ids.foldl (popExpired nowMs keysTtlMs) state).reservations.lookup j =
      if j ∈ ids then none else state.reservations.lookup j := by
  induction ids generalizing state with
  | nil => simp only [List.foldl_nil, List.not_mem_nil, if_false]
  | cons id ids ih =>
      rw [List.foldl_cons, ih]
      by_cases later : j ∈ ids
      · simp only [later, List.mem_cons, or_true, if_true]
      · simp only [later, List.mem_cons, or_false, if_false, popExpired]
        split
        · next absent =>
            split
            · next same => rw [same, absent]
            · rfl
        · exact AList.lookup_erase_if _ _ _

theorem popEach_tombstones (ids : List ι) {state : MemoryWindow ι} {j : ι}
    (found : (ids.foldl (popExpired nowMs keysTtlMs) state).tombstones.lookup j = some entry) :
    state.tombstones.lookup j = some entry ∨ j ∈ ids ∧ entry.1 = nowMs + keysTtlMs := by
  induction ids generalizing state with
  | nil => exact .inl found
  | cons id ids ih =>
      rw [List.foldl_cons] at found
      rcases ih found with old | ⟨member, forget⟩
      · unfold popExpired at old
        split at old
        · exact .inl old
        · simp only [AList.lookup_insert_if] at old
          split at old
          · next same =>
              cases old
              exact .inr ⟨same ▸ List.mem_cons_self, rfl⟩
          · exact .inl old
      · exact .inr ⟨List.mem_cons_of_mem id member, forget⟩

theorem expireMemory_reservations (state : MemoryWindow ι) (j : ι) :
    (expireMemory nowMs keysTtlMs state).reservations.lookup j =
      if j ∈ expiredIds nowMs state then none else state.reservations.lookup j :=
  popEach_reservations _ state j

theorem expireMemory_tombstones
    (found : (expireMemory nowMs keysTtlMs state).tombstones.lookup id = some entry) :
    state.tombstones.lookup id = some entry ∨
      id ∈ expiredIds nowMs state ∧ entry.1 = nowMs + keysTtlMs := by
  simp only [expireMemory, dropStale, AList.lookup_eraseEach] at found
  split at found
  · cases found
  · exact popEach_tombstones _ found

/-- An id is forgotten only when the time of its tombstone has come, or at once
when the tombstone itself would have no life. -/
theorem mem_staleIds_sweep (member : id ∈ staleIds nowMs (sweep nowMs keysTtlMs state)) :
    (∃ entry, state.tombstones.lookup id = some entry ∧ entry.1 ≤ nowMs) ∨ keysTtlMs ≤ 0 := by
  obtain ⟨entry, found, passed⟩ := mem_staleIds.mp member
  rcases popEach_tombstones _ found with old | ⟨_, forget⟩
  · exact .inl ⟨entry, old, passed⟩
  · exact .inr (by omega)

end Loop

/-! One lemma per statement of the source, and from them one per method. -/
section Steps
variable {cap : ℤ} {state : MemoryWindow ι} {L : Ledger ι}

theorem Represents.popExpired (sound : L.Sound cap) (rep : state.Represents L) {id : ι}
    (live : id ∈ L.live) (nowMs keysTtlMs : ℤ) :
    (popExpired nowMs keysTtlMs state id).Represents (L.apply (.lapsed id)) := by
  obtain ⟨expiry, found⟩ := rep.lookup_of_live live
  have room := estimate_le_reserved sound live
  simp only [MemoryWindow.popExpired, found]
  constructor
  · intro j
    simp only [AList.lookup_erase_if, Ledger.apply, Finset.mem_erase]
    by_cases same : j = id
    · simp only [same, if_true, Option.map_none, ne_eq, not_true_eq_false, false_and, if_false]
    · simp only [same, if_false, rep.reservations, ne_eq, not_false_eq_true, true_and]
  · intro j
    simp only [AList.lookup_insert_if, Ledger.apply, Finset.mem_insert]
    by_cases same : j = id
    · subst same; simp only [if_true, Option.map_some, true_or]
    · simp only [same, if_false, rep.tombstones, false_or]
  · exact rep.committed
  · have after : (L.apply (.lapsed id)).reserved = L.reserved - L.estimate id := reserved_erase live
    rw [after, ← rep.reserved]
    exact max_eq_right (by rw [rep.reserved]; omega)

theorem Represents.popEach (nowMs keysTtlMs : ℤ) {ids : List ι} (sound : L.Sound cap)
    (rep : state.Represents L) (live : ∀ id ∈ ids, id ∈ L.live) (nodup : ids.Nodup) :
    (ids.foldl (MemoryWindow.popExpired nowMs keysTtlMs) state).Represents
      (L.replay (ids.map .lapsed)) := by
  induction ids generalizing state L with
  | nil => exact rep
  | cons id ids ih =>
      obtain ⟨first, rest⟩ := List.nodup_cons.mp nodup
      have here := live id List.mem_cons_self
      refine ih (sound.lapsed here) (rep.popExpired sound here nowMs keysTtlMs) ?_ rest
      intro j member
      refine Finset.mem_erase.mpr ⟨?_, live j (List.mem_cons_of_mem id member)⟩
      rintro rfl
      exact first member

theorem Represents.sweep (sound : L.Sound cap) (rep : state.Represents L) (nowMs keysTtlMs : ℤ) :
    (sweep nowMs keysTtlMs state).Represents (L.replay ((expiredIds nowMs state).map .lapsed)) :=
  rep.popEach nowMs keysTtlMs sound (rep.expiredIds_live nowMs) (expiredIds_nodup nowMs state)

theorem Represents.dropStale (rep : state.Represents L) (nowMs : ℤ) :
    (dropStale nowMs state).Represents (L.replay ((staleIds nowMs state).map .forgotten)) := by
  rw [replay_forgotten]
  refine ⟨rep.reservations, ?_, rep.committed, rep.reserved⟩
  intro j
  simp only [MemoryWindow.dropStale, AList.lookup_eraseEach, Finset.mem_sdiff, List.mem_toFinset]
  by_cases stale : j ∈ staleIds nowMs state
  · simp only [stale, if_true, Option.map_none, not_true_eq_false, and_false, if_false]
  · simp only [stale, if_false, rep.tombstones, not_false_eq_true, and_true]

theorem Represents.legal_expire (sound : L.Sound cap) (rep : state.Represents L)
    (nowMs keysTtlMs : ℤ) : LegalLog cap L (expireEvents nowMs keysTtlMs state) :=
  legalLog_append.mpr
    ⟨legal_lapsed (rep.expiredIds_live nowMs) (expiredIds_nodup nowMs state),
      legal_forgotten ((rep.sweep sound nowMs keysTtlMs).staleIds_late nowMs) (staleIds_nodup nowMs _)⟩

theorem Represents.expire (sound : L.Sound cap) (rep : state.Represents L) (nowMs keysTtlMs : ℤ) :
    (expireMemory nowMs keysTtlMs state).Represents
      (L.replay (expireEvents nowMs keysTtlMs state)) := by
  rw [expireEvents, replay_append]
  exact (rep.sweep sound nowMs keysTtlMs).dropStale nowMs

theorem legal_roll (cap nowMs windowMs : ℤ) (state : MemoryWindow ι) (L : Ledger ι) :
    LegalLog cap L (rollEvents nowMs windowMs state) := by
  unfold rollEvents
  split
  · exact ⟨trivial, trivial⟩
  · trivial

theorem Represents.roll (rep : state.Represents L) (nowMs windowMs : ℤ) :
    (rollWindow nowMs windowMs state).Represents (L.replay (rollEvents nowMs windowMs state)) := by
  unfold rollWindow rollEvents
  split
  · exact ⟨rep.reservations, rep.tombstones, rfl, rep.reserved⟩
  · exact rep

omit [DecidableEq ι] in
/-- The window test looks at the start of the window only. -/
theorem rollEvents_congr {nowMs windowMs : ℤ} {state' : MemoryWindow ι}
    (same : state'.windowStartMs = state.windowStartMs) :
    rollEvents nowMs windowMs state' = rollEvents nowMs windowMs state := by
  unfold rollEvents
  rw [same]

theorem popEach_windowStart (nowMs keysTtlMs : ℤ) (ids : List ι) (state : MemoryWindow ι) :
    (ids.foldl (MemoryWindow.popExpired nowMs keysTtlMs) state).windowStartMs = state.windowStartMs := by
  induction ids generalizing state with
  | nil => rfl
  | cons id ids ih =>
      rw [List.foldl_cons, ih, MemoryWindow.popExpired]
      split <;> rfl

@[simp] theorem expireMemory_windowStart (nowMs keysTtlMs : ℤ) (state : MemoryWindow ι) :
    (expireMemory nowMs keysTtlMs state).windowStartMs = state.windowStartMs :=
  popEach_windowStart nowMs keysTtlMs _ state

/-- The ledger on which a reserve decides. -/
def tested (nowMs windowMs keysTtlMs : ℤ) (state : MemoryWindow ι) (L : Ledger ι) : Ledger ι :=
  L.replay (expireEvents nowMs keysTtlMs state ++ rollEvents nowMs windowMs state)

theorem Represents.tested (sound : L.Sound cap) (rep : state.Represents L)
    (nowMs windowMs keysTtlMs : ℤ) :
    (rollWindow nowMs windowMs (expireMemory nowMs keysTtlMs state)).Represents
      (tested nowMs windowMs keysTtlMs state L) := by
  rw [MemoryWindow.tested, replay_append]
  have rolled := (rep.expire sound nowMs keysTtlMs).roll nowMs windowMs
  rwa [rollEvents_congr (expireMemory_windowStart nowMs keysTtlMs state)] at rolled

theorem Represents.legal_tested (sound : L.Sound cap) (rep : state.Represents L)
    (nowMs windowMs keysTtlMs : ℤ) :
    LegalLog cap L (expireEvents nowMs keysTtlMs state ++ rollEvents nowMs windowMs state) :=
  legalLog_append.mpr ⟨rep.legal_expire sound nowMs keysTtlMs, legal_roll _ _ _ _ _⟩

/-- The ids a reserve forgets. -/
def forgottenIds (nowMs keysTtlMs : ℤ) (state : MemoryWindow ι) : List ι :=
  staleIds nowMs (MemoryWindow.sweep nowMs keysTtlMs state)

theorem tested_eq (nowMs windowMs keysTtlMs : ℤ) (state : MemoryWindow ι) (L : Ledger ι) :
    MemoryWindow.tested nowMs windowMs keysTtlMs state L = { L with
      live := L.live \ (expiredIds nowMs state).toFinset
      late := (L.late ∪ (expiredIds nowMs state).toFinset) \
        (forgottenIds nowMs keysTtlMs state).toFinset
      charges := (MemoryWindow.tested nowMs windowMs keysTtlMs state L).charges } := by
  unfold MemoryWindow.tested rollEvents
  rw [replay_append, expireEvents, replay_append, replay_lapsed, replay_forgotten]
  split <;> rfl

theorem tested_issued (nowMs windowMs keysTtlMs : ℤ) (state : MemoryWindow ι) (L : Ledger ι) :
    (MemoryWindow.tested nowMs windowMs keysTtlMs state L).issued = L.issued := by
  rw [tested_eq]

theorem tested_committed (nowMs windowMs keysTtlMs : ℤ) (state : MemoryWindow ι) (L : Ledger ι) :
    (MemoryWindow.tested nowMs windowMs keysTtlMs state L).committed =
      if state.windowStartMs = 0 ∨ nowMs - state.windowStartMs ≥ windowMs then 0 else L.committed := by
  unfold MemoryWindow.tested rollEvents
  rw [replay_append, expireEvents, replay_append, replay_lapsed, replay_forgotten]
  split <;> rfl

theorem Represents.admit (rep : state.Represents L) {id : ι} (absent : id ∉ L.live)
    (fresh : id ∉ L.late) (expiry estimate : ℤ) :
    Represents { state with
      reservedMicros := state.reservedMicros + estimate
      reservations := state.reservations.insert id (expiry, estimate) }
      (L.apply (.admitted id estimate)) where
  reservations j := by
    simp only [AList.lookup_insert_if, Ledger.apply, Finset.mem_insert]
    by_cases same : j = id
    · subst same; simp only [if_true, Option.map_some, true_or, Function.update_self]
    · simp only [same, if_false, rep.reservations, false_or, Function.update_of_ne same]
  tombstones j := by
    by_cases same : j = id
    · subst same
      rw [rep.lookup_of_not_late fresh]
      change none = if j ∈ L.late then _ else none
      rw [if_neg fresh]
    · simp only [rep.tombstones, Ledger.apply, Function.update_of_ne same]
  committed := rep.committed
  reserved := by rw [reserved_admitted id estimate absent, ← rep.reserved]

/-- The one state a settle which takes effect can leave. -/
theorem Represents.charge (rep : state.Represents L) {id : ι} {actual : ℤ}
    {state' : MemoryWindow ι}
    (reservations : ∀ j, state'.reservations.lookup j =
      if j = id then none else state.reservations.lookup j)
    (tombstones : ∀ j, state'.tombstones.lookup j =
      if j = id then none else state.tombstones.lookup j)
    (committed : state'.committedMicros = state.committedMicros + actual)
    (reserved : state'.reservedMicros = (L.apply (.charged id actual)).reserved) :
    state'.Represents (L.apply (.charged id actual)) where
  reservations j := by
    simp only [reservations, Ledger.apply, Finset.mem_erase]
    by_cases same : j = id
    · simp only [same, if_true, Option.map_none, ne_eq, not_true_eq_false, false_and, if_false]
    · simp only [same, if_false, rep.reservations, ne_eq, not_false_eq_true, true_and]
  tombstones j := by
    simp only [tombstones, Ledger.apply, Finset.mem_erase]
    by_cases same : j = id
    · simp only [same, if_true, Option.map_none, ne_eq, not_true_eq_false, false_and, if_false]
    · simp only [same, if_false, rep.tombstones, ne_eq, not_false_eq_true, true_and]
  committed := by rw [committed, rep.committed, add_comm]; rfl
  reserved := reserved

theorem replay_rollEvents (nowMs windowMs : ℤ) (state : MemoryWindow ι) (L : Ledger ι) :
    L.replay (rollEvents nowMs windowMs state) =
      { L with charges := (L.replay (rollEvents nowMs windowMs state)).charges } := by
  unfold rollEvents
  split <;> rfl

theorem committed_rollEvents (nowMs windowMs : ℤ) (state : MemoryWindow ι) (L : Ledger ι) :
    (L.replay (rollEvents nowMs windowMs state)).committed =
      if state.windowStartMs = 0 ∨ nowMs - state.windowStartMs ≥ windowMs then 0 else L.committed := by
  unfold rollEvents
  split <;> rfl

omit [DecidableEq ι] in
/-- Rolling the window looks at its start and writes the start and the spend. -/
theorem rollWindow_with (nowMs windowMs reserved : ℤ) (reservations tombstones : Dict ι (ℤ × ℤ))
    (state : MemoryWindow ι) :
    rollWindow nowMs windowMs { state with reservedMicros := reserved, reservations, tombstones } =
      { rollWindow nowMs windowMs state with
        reservedMicros := reserved, reservations, tombstones } := by
  unfold rollWindow
  split <;> rfl

omit [DecidableEq ι] in
theorem rollWindow_eq (nowMs windowMs : ℤ) (state : MemoryWindow ι) :
    rollWindow nowMs windowMs state = { state with
      windowStartMs := (rollWindow nowMs windowMs state).windowStartMs
      committedMicros := (rollWindow nowMs windowMs state).committedMicros } := by
  unfold rollWindow
  split <;> rfl

omit [DecidableEq ι] in
theorem rollWindow_windowStart (nowMs windowMs : ℤ) (state : MemoryWindow ι) :
    (rollWindow nowMs windowMs state).windowStartMs =
      if state.windowStartMs = 0 ∨ nowMs - state.windowStartMs ≥ windowMs then nowMs
      else state.windowStartMs := by
  unfold rollWindow
  split <;> rfl

/-- A settle takes effect exactly on the ids that are held, live or late. -/
theorem settle_spec (sound : L.Sound cap) (rep : state.Represents L) (id : ι) (actual : ℕ)
    (nowMs windowMs : ℤ) :
    ((state.settle id actual nowMs windowMs).1 = true ↔ id ∈ L.live ∨ id ∈ L.late) ∧
    ((state.settle id actual nowMs windowMs).1 = false →
      (state.settle id actual nowMs windowMs).2 = state) ∧
    ((state.settle id actual nowMs windowMs).1 = true →
      (state.settle id actual nowMs windowMs).2.Represents
        ((L.replay (rollEvents nowMs windowMs state)).apply (.charged id actual))) := by
  have rolled := rep.roll nowMs windowMs
  have fields := replay_rollEvents nowMs windowMs state L
  by_cases live : id ∈ L.live
  · obtain ⟨expiry, found⟩ := rep.lookup_of_live live
    have notLate := rep.lookup_of_not_late (sound.apart id live)
    have room := estimate_le_reserved sound live
    simp only [MemoryWindow.settle, found]
    refine ⟨by simp only [live, true_or], by simp only [Bool.true_eq_false, false_implies], fun _ => ?_⟩
    rw [rollWindow_with nowMs windowMs _ (state.reservations.erase id) state.tombstones]
    refine rolled.charge ?_ ?_ rfl ?_
    · intro j
      rw [rollWindow_eq]
      exact AList.lookup_erase_if _ _ _
    · intro j
      rw [rollWindow_eq]
      by_cases same : j = id
      · subst same; simp only [if_true, notLate]
      · simp only [same, if_false]
    · rw [reserved_charged, fields]
      simp only [if_pos live]
      rw [← rep.reserved] at room
      rw [max_eq_right (by omega), rep.reserved]
      rfl
  · have unlisted := rep.lookup_of_not_live live
    by_cases late : id ∈ L.late
    · obtain ⟨forget, found⟩ := rep.lookup_of_late late
      simp only [MemoryWindow.settle, unlisted, found]
      refine ⟨by simp only [late, or_true], by simp only [Bool.true_eq_false, false_implies], fun _ => ?_⟩
      rw [rollWindow_with nowMs windowMs state.reservedMicros state.reservations
        (state.tombstones.erase id)]
      refine rolled.charge ?_ ?_ rfl ?_
      · intro j
        rw [rollWindow_eq]
        by_cases same : j = id
        · subst same; simp only [if_true, unlisted]
        · simp only [same, if_false]
      · intro j
        rw [rollWindow_eq]
        exact AList.lookup_erase_if _ _ _
      · rw [reserved_charged, fields]
        simp only [if_neg live]
        exact rep.reserved
    · have unknown := rep.lookup_of_not_late late
      simp only [MemoryWindow.settle, unlisted, unknown]
      refine ⟨by simp only [live, late, or_self, Bool.false_eq_true], fun _ => trivial,
        by simp only [Bool.false_eq_true, false_implies]⟩

/-! What a settle leaves of the dicts and of the window, whether or not it took effect. -/

theorem settle_reservations (state : MemoryWindow ι) (id : ι) (actual nowMs windowMs : ℤ) (j : ι) :
    (state.settle id actual nowMs windowMs).2.reservations.lookup j =
      if j = id then none else state.reservations.lookup j := by
  simp only [MemoryWindow.settle]
  split
  · rw [rollWindow_eq]
    exact AList.lookup_erase_if _ _ _
  · next absent =>
      have unlisted : state.reservations.lookup j =
          if j = id then none else state.reservations.lookup j := by
        split
        · next same => rw [same, absent]
        · rfl
      split
      · exact unlisted
      · rw [rollWindow_eq]
        exact unlisted

theorem settle_tombstones {state : MemoryWindow ι} {id j : ι} {actual nowMs windowMs : ℤ}
    {entry : ℤ × ℤ}
    (found : (state.settle id actual nowMs windowMs).2.tombstones.lookup j = some entry) :
    state.tombstones.lookup j = some entry := by
  simp only [MemoryWindow.settle] at found
  split at found
  · rw [rollWindow_eq] at found
    exact found
  · split at found
    · exact found
    · rw [rollWindow_eq] at found
      simp only [AList.lookup_erase_if] at found
      split at found
      · cases found
      · exact found

theorem settle_windowStart {state : MemoryWindow ι} {id : ι} {actual nowMs windowMs : ℤ}
    (took : (state.settle id actual nowMs windowMs).1 = true) :
    (state.settle id actual nowMs windowMs).2.windowStartMs =
      (rollWindow nowMs windowMs state).windowStartMs := by
  simp only [MemoryWindow.settle] at took ⊢
  split
  · unfold rollWindow
    split <;> rfl
  · next absent =>
      simp only [absent] at took
      split
      · next unknown =>
          simp only [unknown, Bool.false_eq_true] at took
      · unfold rollWindow
        split <;> rfl

/-- What a reserve does: it decides on the tested ledger and admits what fits. -/
theorem reserve_spec (sound : L.Sound cap) (rep : state.Represents L)
    (nowMs windowMs budget estimate : ℤ) (id : ι) (ttlMs : ℤ) :
    let M := tested nowMs windowMs (max windowMs ttlMs * 4) state L
    let swept := rollWindow nowMs windowMs (expireMemory nowMs (max windowMs ttlMs * 4) state)
    swept.Represents M ∧
    state.reserve nowMs windowMs budget estimate id ttlMs =
      if M.committed + M.reserved + estimate > budget then
        (⟨0, M.committed, M.reserved⟩, swept)
      else
        (⟨1, M.committed, M.reserved + estimate⟩, { swept with
          reservedMicros := swept.reservedMicros + estimate
          reservations := swept.reservations.insert id (nowMs + ttlMs, estimate) }) := by
  intro M swept
  have rep' := rep.tested sound nowMs windowMs (max windowMs ttlMs * 4)
  have committed : swept.committedMicros = M.committed := rep'.committed
  have reserved : swept.reservedMicros = M.reserved := rep'.reserved
  refine ⟨rep', ?_⟩
  rw [← committed, ← reserved]
  rfl

end Steps
end MemoryWindow

/-! The three calls on the state of a scope, which its first reserve creates. -/
section Calls
variable {budget cap : ℤ} {state : Option (MemoryWindow ι)} {L : Ledger ι}

def MemoryRepresents (state : Option (MemoryWindow ι)) (L : Ledger ι) : Prop :=
  (state.getD .new).Represents L

theorem reserveMemory_keeps (le : budget ≤ cap) (sound : L.Sound cap)
    (rep : MemoryRepresents state L) (nowMs windowMs : ℤ) (estimate : ℕ) (resId : ι) (ttlMs : ℤ)
    (fresh : resId ∉ L.issued) :
    (memory budget).Keeps cap MemoryRepresents state L (.reserve nowMs windowMs estimate resId ttlMs) := by
  obtain ⟨rep', out⟩ := reserve_spec sound rep nowMs windowMs budget estimate resId ttlMs
  have legal := rep.legal_tested sound nowMs windowMs (max windowMs ttlMs * 4)
  have fresh' := fresh
  rw [← tested_issued nowMs windowMs (max windowMs ttlMs * 4) (state.getD .new)] at fresh'
  simp only [Backend.Keeps, memory, MemoryCall.events, MemoryCall.exec, reserveMemory, out]
  rw [replay_append]
  have sound' := sound.replay legal
  change (tested nowMs windowMs (max windowMs ttlMs * 4) (state.getD .new) L).Sound cap at sound'
  change _ ∧ MemoryRepresents _ ((tested nowMs windowMs (max windowMs ttlMs * 4) (state.getD .new) L).replay _)
  set M := tested nowMs windowMs (max windowMs ttlMs * 4) (state.getD .new) L with same
  by_cases full : M.committed + M.reserved + estimate > budget
  · simp only [if_pos full, zero_ne_one, if_false, List.append_nil]
    exact ⟨legal, rep'⟩
  · have notLive : resId ∉ M.live := fun live => fresh' (sound'.live_issued live)
    have notLate : resId ∉ M.late := fun late => fresh' (sound'.late_issued late)
    simp only [if_neg full, if_true]
    exact ⟨legalLog_append.mpr
      ⟨legal, ⟨fresh', Int.natCast_nonneg _, (not_lt.mp full).trans le⟩, trivial⟩,
      rep'.admit notLive notLate _ _⟩

theorem settleMemory_keeps (sound : L.Sound cap) (rep : MemoryRepresents state L) (resId : ι)
    (actual : ℕ) (nowMs windowMs : ℤ) :
    (memory budget).Keeps cap MemoryRepresents state L (.settle resId actual nowMs windowMs) := by
  have amount : max 0 (actual : ℤ) = actual := max_eq_right (Int.natCast_nonneg _)
  cases state with
  | none => exact ⟨trivial, rep⟩
  | some state =>
      have here : state.Represents L := rep
      obtain ⟨effect, quiet, charged⟩ := settle_spec sound here resId actual nowMs windowMs
      simp only [Backend.Keeps, memory, MemoryCall.events, MemoryCall.exec, settleMemory, amount,
        Option.map_some, MemoryRepresents, Option.getD_some]
      cases took : (state.settle resId actual nowMs windowMs).1 with
      | false =>
          rw [quiet took]
          exact ⟨trivial, here⟩
      | true =>
          have held : (L.replay (rollEvents nowMs windowMs state)).Legal cap (.charged resId actual) := by
            rw [replay_rollEvents]
            exact ⟨effect.mp took, Int.natCast_nonneg _⟩
          simp only [if_true]
          rw [replay_append]
          exact ⟨legalLog_append.mpr ⟨legal_roll _ _ _ _ _, held, trivial⟩, charged took⟩

theorem purgeMemory_keeps (sound : L.Sound cap) (rep : MemoryRepresents state L) (nowMs : ℤ) :
    (memory budget).Keeps cap MemoryRepresents state L (.purge nowMs) := by
  cases state with
  | none => exact ⟨trivial, rep⟩
  | some state =>
      have swept : state.Represents L := rep
      exact ⟨swept.legal_expire sound nowMs purgeTtlMs, swept.expire sound nowMs purgeTtlMs⟩

theorem expireEvents_admits {nowMs keysTtlMs : ℤ} {w : MemoryWindow ι} {id : ι} {estimate : ℤ} :
    Event.admitted id estimate ∉ expireEvents nowMs keysTtlMs w := by
  simp [expireEvents]

omit [DecidableEq ι] in
theorem rollEvents_admits {nowMs windowMs : ℤ} {w : MemoryWindow ι} {id : ι} {estimate : ℤ} :
    Event.admitted id estimate ∉ rollEvents nowMs windowMs w := by
  unfold rollEvents
  split <;> simp

theorem memory_refines (le : budget ≤ cap) : (memory (ι := ι) budget).Refines cap MemoryRepresents where
  init := represents_new
  keeps state L c sound rep fresh := by
    cases c with
    | reserve nowMs windowMs estimate resId ttlMs =>
        exact reserveMemory_keeps le sound rep nowMs windowMs estimate resId ttlMs
          (fresh resId List.mem_cons_self)
    | settle resId actual nowMs windowMs =>
        exact settleMemory_keeps sound rep resId actual nowMs windowMs
    | purge nowMs => exact purgeMemory_keeps sound rep nowMs
  admits state c id estimate h := by
    cases c with
    | reserve nowMs windowMs est resId ttlMs =>
        simp only [memory, MemoryCall.events, List.mem_append, expireEvents_admits, rollEvents_admits,
          false_or] at h
        split at h
        · simp only [List.mem_singleton, Event.admitted.injEq] at h
          exact h.1 ▸ List.mem_cons_self
        · cases h
    | settle resId actual nowMs windowMs =>
        simp only [memory, MemoryCall.events] at h
        split at h
        · cases h
        · split at h
          · simp [rollEvents_admits] at h
          · cases h
    | purge nowMs =>
        simp only [memory, MemoryCall.events] at h
        split at h
        · cases h
        · exact absurd h expireEvents_admits

end Calls
end RuntimePlatform.Budget
