import RuntimePlatform.Lib.Simulation
import RuntimePlatform.Budget.ScriptLedger
import RuntimePlatform.Budget.MemoryLedger

/-!
The two backends side by side, on one scope and one clock. They keep different
garbage: Redis drops all three keys at once when no reserve has touched them for
long enough, the in-process store forgets tombstones one by one. What is left over
on one side only belongs to requests older than a settle may be.
-/

namespace RuntimePlatform.Budget
open Redis Ledger Simulation
variable {ι : Type} [DecidableEq ι]

/-- The integers the guard derives from a `ScopeBudget`. -/
structure ScopeLimits where
  windowMs : ℤ
  ttlMs : ℤ
  budgetMicros : ℤ
  window_pos : 0 < windowMs
  ttl_pos : 0 < ttlMs
  budget_pos : 0 < budgetMicros

/-- A call on the scope, with the reading of the common clock. -/
inductive Request (ι : Type) where
  | reserve (nowMs : ℤ) (estimate : ℕ) (resId : ι)
  | settle (nowMs : ℤ) (resId : ι) (actual : ℕ)

def Request.nowMs {ι : Type} : Request ι → ℤ
  | .reserve nowMs _ _ | .settle nowMs _ _ => nowMs

namespace ScopeLimits
variable (S : ScopeLimits)

def keysTtlMs : ℤ := max S.windowMs S.ttlMs * 4

def memoryStep (state : Option (MemoryWindow ι)) :
    Request ι → Option ReserveResult × Option (MemoryWindow ι)
  | .reserve nowMs estimate resId =>
      let out := reserveMemory nowMs S.windowMs S.budgetMicros estimate resId S.ttlMs state
      (some out.1, out.2)
  | .settle nowMs resId actual => (none, settleMemory resId actual nowMs S.windowMs state)

/-- A script runs on the keys which have not expired; the guard reads three numbers of its reply. -/
def redisStep (k : Keys ι) : Request ι → Option ReserveResult × Keys ι
  | .reserve nowMs estimate resId =>
      let out := reserveLua nowMs nowMs S.windowMs S.budgetMicros estimate resId S.ttlMs (k.evict nowMs)
      (some ⟨out.1.code, out.1.committed, out.1.reserved⟩, out.2)
  | .settle nowMs resId actual => (none, (settleLua resId actual nowMs S.windowMs (k.evict nowMs)).2)

end ScopeLimits

/-- The time of the last call, and the time each id was reserved at. -/
structure History (ι : Type) where
  time : ℤ
  born : ι → Option ℤ

def History.start {ι : Type} : History ι := ⟨0, fun _ => none⟩

def History.next (h : History ι) : Request ι → History ι
  | .reserve nowMs _ resId => ⟨nowMs, Function.update h.born resId (some nowMs)⟩
  | .settle nowMs _ _ => { h with time := nowMs }

/-- Readings do not decrease, ids are fresh, and a settle comes at most the life of
a reservation and one window after its reserve. -/
def History.Allowed (S : ScopeLimits) (h : History ι) : Request ι → Prop
  | .reserve nowMs _ resId => h.time ≤ nowMs ∧ h.born resId = none
  | .settle nowMs resId _ =>
      h.time ≤ nowMs ∧ ∀ b ∈ h.born resId, nowMs ≤ b + S.ttlMs + S.windowMs

instance (S : ScopeLimits) (h : History ι) (r : Request ι) : Decidable (h.Allowed S r) :=
  match r with
  | .reserve .. => inferInstanceAs (Decidable (_ ∧ _))
  | .settle .. => inferInstanceAs (Decidable (_ ∧ _))

/-- Too old to be settled in an admissible run. -/
def Old (S : ScopeLimits) (h : History ι) (id : ι) : Prop :=
  ∃ b, h.born id = some b ∧ b + S.ttlMs + S.windowMs < h.time

/-- The times in the dicts are those the reservations were given. -/
structure Dated (S : ScopeLimits) (h : History ι) (w : MemoryWindow ι) : Prop where
  reservations : ∀ id entry, w.reservations.lookup id = some entry →
    ∃ b, h.born id = some b ∧ entry.1 = b + S.ttlMs
  tombstones : ∀ id entry, w.tombstones.lookup id = some entry →
    ∃ b, h.born id = some b ∧ b + S.ttlMs + S.keysTtlMs ≤ entry.1

/-- The two stores hold the same reservations and spend. Their late ids agree but for old ones. -/
structure Agrees (S : ScopeLimits) (h : History ι) (w : MemoryWindow ι) (k : Keys ι)
    (Lm Lr : Ledger ι) : Prop where
  sound_memory : Lm.Sound S.budgetMicros
  sound_redis : Lr.Sound S.budgetMicros
  memory : w.Represents Lm
  redis : Holds k Lr
  dated : Dated S h w
  live : Lm.live = Lr.live
  estimate : ∀ id ∈ Lm.live, Lm.estimate id = Lr.estimate id
  expiry : ∀ id, k.reservations.value.lookup id = (w.reservations.lookup id).map Prod.fst
  late : ∀ id, ¬ Old S h id → (id ∈ Lm.late ↔ id ∈ Lr.late)
  spent : Lm.committed = Lr.committed
  fresh : ∀ id, h.born id = none → id ∉ Lm.issued ∧ id ∉ Lr.issued

/-- The keys exist and agree with memory; `last` is the time of the last reserve. A
settle may have opened the window after it, as late as settles may come. -/
structure Current (S : ScopeLimits) (h : History ι) (w : MemoryWindow ι) (k : Keys ι)
    (Lm Lr : Ledger ι) (last : ℤ) : Prop extends Agrees S h w k Lm Lr where
  window : loadWindow k = some ⟨Lr.committed, Lr.reserved, w.windowStartMs⟩
  window_due : k.window.deadline = some (last + S.keysTtlMs)
  reservations_due : k.reservations.Until (last + S.keysTtlMs)
  amounts_due : k.amounts.Until (last + S.keysTtlMs)
  last_le : last ≤ h.time
  start_le : w.windowStartMs ≤ last + S.ttlMs + S.windowMs
  start_le_time : w.windowStartMs ≤ h.time
  born_le : ∀ id b, h.born id = some b → b ≤ last

/-- The keys do not exist, and memory holds nothing a next call could tell from an empty window. -/
structure Idle (S : ScopeLimits) (h : History ι) (w : MemoryWindow ι) (L : Ledger ι) : Prop where
  sound : L.Sound S.budgetMicros
  memory : w.Represents L
  dated : Dated S h w
  expired : ∀ id entry, w.reservations.lookup id = some entry → entry.1 ≤ h.time
  old : ∀ id, id ∈ L.live ∨ id ∈ L.late → Old S h id
  rolled : windowOver h.time S.windowMs w.windowStartMs
  born_le : ∀ id b, h.born id = some b → b ≤ h.time
  fresh : ∀ id, h.born id = none → id ∉ L.issued

inductive Related (S : ScopeLimits) (h : History ι) (m : Option (MemoryWindow ι)) : Keys ι → Prop
  | idle {L} : Idle S h (m.getD .new) L → Related S h m Keys.empty
  | current {k Lm Lr last} : Current S h (m.getD .new) k Lm Lr last → Related S h m k

theorem related_start (S : ScopeLimits) : Related (ι := ι) S .start none Keys.empty := by
  refine .idle (L := Ledger.empty) ⟨sound_empty S.budget_pos.le, MemoryWindow.represents_new,
    ?_, ?_, ?_, ?_, ?_, ?_⟩
  · constructor
    · intro id entry found
      cases found
    · intro id entry found
      cases found
  · intro id entry found
    cases found
  · intro id held
    simp [Ledger.empty] at held
  · exact .inl rfl
  · intro id b born
    cases born
  · exact fun id _ => Finset.notMem_empty id

section Time
variable {S : ScopeLimits} {h : History ι} {w : MemoryWindow ι} {k : Keys ι} {L Lm Lr : Ledger ι}
  {last nowMs : ℤ}

theorem ScopeLimits.keysTtlMs_ge (S : ScopeLimits) : S.ttlMs + S.windowMs + S.windowMs < S.keysTtlMs := by
  have := S.window_pos
  have := S.ttl_pos
  unfold ScopeLimits.keysTtlMs
  omega

omit [DecidableEq ι] in
theorem Old.later {id : ι} (old : Old S h id) (le : h.time ≤ nowMs) :
    Old S { h with time := nowMs } id := by
  obtain ⟨b, born, passed⟩ := old
  exact ⟨b, born, passed.trans_le le⟩

theorem Dated.later (dated : Dated S h w) : Dated S { h with time := nowMs } w :=
  ⟨dated.reservations, dated.tombstones⟩

theorem Agrees.later (agrees : Agrees S h w k Lm Lr) (le : h.time ≤ nowMs) :
    Agrees S { h with time := nowMs } w k Lm Lr :=
  { agrees with
    dated := agrees.dated.later
    late := fun id young => agrees.late id fun old => young (old.later le) }

theorem Idle.later (idle : Idle S h w L) (le : h.time ≤ nowMs) :
    Idle S { h with time := nowMs } w L :=
  { idle with
    dated := idle.dated.later
    expired := fun id entry found => (idle.expired id entry found).trans le
    old := fun id held => (idle.old id held).later le
    rolled := idle.rolled.imp_right fun passed => by
      change nowMs - w.windowStartMs ≥ S.windowMs
      omega
    born_le := fun id b born => (idle.born_le id b born).trans le }

theorem Dated.born (dated : Dated S h w) (rep : w.Represents L) {id : ι}
    (held : id ∈ L.live ∨ id ∈ L.late) : ∃ b, h.born id = some b := by
  rcases held with live | late
  · obtain ⟨expiry, found⟩ := rep.lookup_of_live live
    obtain ⟨b, born, _⟩ := dated.reservations id _ found
    exact ⟨b, born⟩
  · obtain ⟨forget, found⟩ := rep.lookup_of_late late
    obtain ⟨b, born, _⟩ := dated.tombstones id _ found
    exact ⟨b, born⟩

/-- A settle of a held id that is not old comes soon after the last reserve. -/
theorem Current.prompt (current : Current S h w k Lm Lr last) {id : ι}
    (held : id ∈ Lm.live ∨ id ∈ Lm.late) (young : ¬ Old S h id) :
    h.time ≤ last + S.ttlMs + S.windowMs := by
  obtain ⟨b, born⟩ := current.dated.born current.memory held
  have := current.born_le id b born
  by_contra late
  exact young ⟨b, born, by omega⟩

/-- Once the keys are due, everything memory holds is expired and old. -/
theorem Current.idle (current : Current S h w k Lm Lr last) (due : last + S.keysTtlMs < nowMs)
    (le : h.time ≤ nowMs) : Idle S { h with time := nowMs } w Lm where
  sound := current.sound_memory
  memory := current.memory
  dated := current.dated.later
  expired id entry found := by
    obtain ⟨b, born, expiry⟩ := current.dated.reservations id entry found
    have := current.born_le id b born
    have := S.keysTtlMs_ge
    have := S.window_pos
    change entry.1 ≤ nowMs
    omega
  old id held := by
    obtain ⟨b, born⟩ := current.dated.born current.memory held
    have := current.born_le id b born
    have := S.keysTtlMs_ge
    have := S.window_pos
    refine ⟨b, born, ?_⟩
    change b + S.ttlMs + S.windowMs < nowMs
    omega
  rolled := by
    have := current.start_le
    have := S.keysTtlMs_ge
    have := S.ttl_pos
    refine .inr ?_
    change nowMs - w.windowStartMs ≥ S.windowMs
    omega
  born_le id b born := (current.born_le id b born).trans (current.last_le.trans le)
  fresh id unborn := (current.fresh id unborn).1

omit [DecidableEq ι] in
theorem Keys.evict_empty (nowMs : ℤ) : (Keys.empty : Keys ι).evict nowMs = Keys.empty := by
  unfold Keys.evict Keys.empty
  simp only [Key.evict_missing]

theorem Current.evict_due (current : Current S h w k Lm Lr last)
    (due : last + S.keysTtlMs < nowMs) : k.evict nowMs = Keys.empty := by
  unfold Keys.evict Keys.empty
  have window : k.window.Until (last + S.keysTtlMs) := .inr current.window_due
  rw [window.evict_of_lt due, current.reservations_due.evict_of_lt due,
    current.amounts_due.evict_of_lt due]

theorem Current.evict_kept (current : Current S h w k Lm Lr last)
    (kept : nowMs ≤ last + S.keysTtlMs) : k.evict nowMs = k := by
  unfold Keys.evict
  have window : k.window.Until (last + S.keysTtlMs) := .inr current.window_due
  rw [window.evict_of_le kept, current.reservations_due.evict_of_le kept,
    current.amounts_due.evict_of_le kept]

/-- A script starts from keys that are still related, with time moved on. -/
theorem Related.evict {m : Option (MemoryWindow ι)} (related : Related S h m k)
    (le : h.time ≤ nowMs) : Related S { h with time := nowMs } m (k.evict nowMs) := by
  cases related with
  | idle idle =>
      rw [Keys.evict_empty]
      exact .idle (idle.later le)
  | @current _ _ _ last current =>
      by_cases due : last + S.keysTtlMs < nowMs
      · rw [current.evict_due due]
        exact .idle (current.idle due le)
      · rw [current.evict_kept (not_lt.mp due)]
        exact .current { current with
          toAgrees := current.toAgrees.later le
          last_le := current.last_le.trans le
          start_le_time := current.start_le_time.trans le }

end Time

/-! Expiry and the window test on both sides. -/
section Sweep
variable {S : ScopeLimits} {h : History ι} {w : MemoryWindow ι} {k : Keys ι} {L Lm Lr : Ledger ι}
  {last : ℤ} {x : Expired ι}

/-- Memory when a reserve decides. -/
def ScopeLimits.swept (S : ScopeLimits) (nowMs : ℤ) (w : MemoryWindow ι) : MemoryWindow ι :=
  (w.expireMemory nowMs S.keysTtlMs).rollWindow nowMs S.windowMs

/-- The ledger of `swept`. -/
def ScopeLimits.sweptLedger (S : ScopeLimits) (nowMs : ℤ) (w : MemoryWindow ι) (L : Ledger ι) :
    Ledger ι := MemoryWindow.tested nowMs S.windowMs S.keysTtlMs w L

theorem swept_reservations (nowMs : ℤ) (w : MemoryWindow ι) (id : ι) :
    (S.swept nowMs w).reservations.lookup id =
      if id ∈ w.expiredIds nowMs then none else w.reservations.lookup id := by
  rw [ScopeLimits.swept, MemoryWindow.rollWindow_eq]
  exact MemoryWindow.expireMemory_reservations w id

theorem swept_windowStart (nowMs : ℤ) (w : MemoryWindow ι) :
    (S.swept nowMs w).windowStartMs =
      if windowOver nowMs S.windowMs w.windowStartMs then nowMs else w.windowStartMs := by
  rw [ScopeLimits.swept, MemoryWindow.rollWindow_windowStart, MemoryWindow.expireMemory_windowStart]
  rfl

theorem Dated.swept (dated : Dated S h w) : Dated S h (S.swept h.time w) where
  reservations id entry found := by
    rw [swept_reservations] at found
    split at found
    · cases found
    · exact dated.reservations id entry found
  tombstones id entry found := by
    rw [ScopeLimits.swept, MemoryWindow.rollWindow_eq] at found
    rcases MemoryWindow.expireMemory_tombstones found with old | ⟨member, forget⟩
    · exact dated.tombstones id entry old
    · obtain ⟨reservation, held, passed⟩ := MemoryWindow.mem_expiredIds.mp member
      obtain ⟨b, born, expiry⟩ := dated.reservations id reservation held
      exact ⟨b, born, by omega⟩

/-- Only the tombstones of old ids are forgotten. -/
theorem Dated.forgotten_old (dated : Dated S h w) {id : ι}
    (member : id ∈ w.forgottenIds h.time S.keysTtlMs) : Old S h id := by
  have life := S.keysTtlMs_ge
  have := S.window_pos
  have := S.ttl_pos
  rcases MemoryWindow.mem_staleIds_sweep member with ⟨entry, found, passed⟩ | none
  · obtain ⟨b, born, forget⟩ := dated.tombstones id entry found
    exact ⟨b, born, by omega⟩
  · omega

theorem Agrees.expired_iff (agrees : Agrees S h w k Lm Lr) (nowMs : ℤ) (id : ι) :
    id ∈ rangeByScore nowMs k.reservations.value ↔ id ∈ w.expiredIds nowMs := by
  rw [mem_rangeByScore, MemoryWindow.mem_expiredIds, agrees.expiry]
  simp only [Option.map_eq_some_iff]
  constructor
  · rintro ⟨_, ⟨entry, found, rfl⟩, passed⟩
    exact ⟨entry, found, passed⟩
  · rintro ⟨entry, found, passed⟩
    exact ⟨entry.1, ⟨entry, found, rfl⟩, passed⟩

theorem sweptLedger_eq (S : ScopeLimits) (nowMs : ℤ) (w : MemoryWindow ι) (L : Ledger ι) :
    S.sweptLedger nowMs w L = { L with
      live := L.live \ (w.expiredIds nowMs).toFinset
      late := (L.late ∪ (w.expiredIds nowMs).toFinset) \ (w.forgottenIds nowMs S.keysTtlMs).toFinset
      charges := (S.sweptLedger nowMs w L).charges } :=
  MemoryWindow.tested_eq nowMs S.windowMs S.keysTtlMs w L

/-- The scores after expiry, from the dict after expiry. -/
theorem expiry_swept (same : ∀ id, k.reservations.value.lookup id =
      (w.reservations.lookup id).map Prod.fst) {nowMs reserved : ℤ}
    (expired : expire nowMs reserved k = some x) (id : ι) :
    x.keys.reservations.value.lookup id = ((S.swept nowMs w).reservations.lookup id).map Prod.fst := by
  rw [(expire_eq_some expired).1, Key.put_value, remRangeByScore, AList.lookup_filter,
    swept_reservations, same]
  cases found : w.reservations.lookup id with
  | none =>
      have absent : id ∉ w.expiredIds nowMs := by
        rw [MemoryWindow.mem_expiredIds, found]
        rintro ⟨_, none, _⟩
        cases none
      rw [if_neg absent]
      rfl
  | some entry =>
      have member : id ∈ w.expiredIds nowMs ↔ entry.1 ≤ nowMs := by
        rw [MemoryWindow.mem_expiredIds, found]
        simp only [Option.some.injEq, exists_eq_left']
      by_cases passed : entry.1 ≤ nowMs
      · rw [if_pos (member.mpr passed)]
        simp only [Option.map_some, Option.map_none, Option.filter_some, passed, decide_true,
          Bool.not_true, Bool.false_eq_true, if_false]
      · rw [if_neg (fun h => passed (member.mp h))]
        simp only [Option.map_some, Option.filter_some, passed, decide_false, Bool.not_false, if_true]

theorem Current.swept (current : Current S h w k Lm Lr last)
    (expired : expire h.time Lr.reserved k = some x)
    (holds : Holds x.keys (tested h.time S.windowMs k Lr)) :
    Agrees S h (S.swept h.time w) x.keys (S.sweptLedger h.time w Lm)
      (tested h.time S.windowMs k Lr) where
  sound_memory := current.sound_memory.replay (current.memory.legal_tested current.sound_memory _ _ _)
  sound_redis := current.sound_redis.replay
    (tested_legal _ ⟨current.redis, _, current.window⟩ h.time S.windowMs)
  memory := current.memory.tested current.sound_memory _ _ _
  redis := holds
  dated := current.dated.swept
  live := by
    rw [sweptLedger_eq, tested_live]
    change Lm.live \ _ = _
    rw [current.live]
    congr 1
    ext id
    simp only [List.mem_toFinset, current.expired_iff]
  estimate id member := by
    rw [sweptLedger_eq] at member ⊢
    rw [tested_estimate]
    exact current.estimate id (Finset.mem_sdiff.mp member).1
  expiry := expiry_swept current.expiry expired
  late id young := by
    rw [sweptLedger_eq, tested_late]
    simp only [Finset.mem_sdiff, Finset.mem_union, List.mem_toFinset, current.expired_iff,
      current.late id young, and_iff_left_iff_imp]
    exact fun _ forgotten => young (current.dated.forgotten_old forgotten)
  spent := by
    rw [tested_committed _ _ current.window, ScopeLimits.sweptLedger, MemoryWindow.tested_committed,
      current.spent]
    rfl
  fresh id unborn := by
    rw [sweptLedger_eq, tested_issued]
    exact current.fresh id unborn

omit [DecidableEq ι] in
theorem loadWindow_empty : loadWindow (Keys.empty : Keys ι) = some ⟨0, 0, 0⟩ := rfl

theorem Idle.swept (idle : Idle S h w L) (expired : expire h.time 0 Keys.empty = some x)
    (holds : Holds x.keys (tested h.time S.windowMs Keys.empty Ledger.empty)) :
    Agrees S h (S.swept h.time w) x.keys (S.sweptLedger h.time w L)
      (tested h.time S.windowMs Keys.empty Ledger.empty) := by
  have all : ∀ id ∈ L.live, id ∈ w.expiredIds h.time := by
    intro id live
    obtain ⟨expiry, found⟩ := idle.memory.lookup_of_live live
    exact MemoryWindow.mem_expiredIds.mpr ⟨_, found, idle.expired id _ found⟩
  have none : (S.sweptLedger h.time w L).live = ∅ := by
    rw [sweptLedger_eq]
    exact Finset.sdiff_eq_empty_iff_subset.mpr fun id live => List.mem_toFinset.mpr (all id live)
  have rep := idle.memory.tested idle.sound h.time S.windowMs S.keysTtlMs
  refine ⟨idle.sound.replay (idle.memory.legal_tested idle.sound _ _ _),
    (sound_empty S.budget_pos.le).replay (tested_legal _ represents_empty h.time S.windowMs),
    rep, holds, idle.dated.swept, ?_, ?_, ?_, ?_, ?_, ?_⟩
  · rw [none, tested_live]
    rfl
  · intro id member
    rw [none] at member
    exact absurd member (Finset.notMem_empty id)
  · intro id
    have unlisted : (S.swept h.time w).reservations.lookup id = Option.none :=
      rep.lookup_of_not_live (none ▸ Finset.notMem_empty id)
    have removed : x.keys.reservations.value.lookup id = Option.none := by
      rw [(expire_eq_some expired).1, Key.put_value, remRangeByScore, AList.lookup_filter]
      rfl
    rw [unlisted, removed]
    rfl
  · intro id young
    rw [sweptLedger_eq, tested_late]
    simp only [Finset.mem_sdiff, Finset.mem_union, List.mem_toFinset, Ledger.empty,
      Finset.notMem_empty, false_or]
    constructor
    · rintro ⟨late | member, _⟩
      · exact absurd (idle.old id (.inr late)) young
      · exact absurd (idle.old id (.inl (idle.memory.expiredIds_live h.time id member))) young
    · intro member
      obtain ⟨_, found, _⟩ := mem_rangeByScore.mp member
      cases found
  · rw [tested_committed _ _ loadWindow_empty, if_pos (.inl rfl), ScopeLimits.sweptLedger,
      MemoryWindow.tested_committed]
    exact if_pos idle.rolled
  · intro id unborn
    rw [sweptLedger_eq, tested_issued]
    exact ⟨idle.fresh id unborn, Finset.notMem_empty id⟩

end Sweep

/-! One lemma per call: equal replies, and keys and memory stay related. -/
section Calls
variable {S : ScopeLimits} {h : History ι} {w : MemoryWindow ι} {k : Keys ι} {Lm Lr : Ledger ι}
  {m : Option (MemoryWindow ι)} {id : ι}

/-- The history with the reserve of `id` at the present time. -/
def History.record (h : History ι) (id : ι) : History ι :=
  { h with born := Function.update h.born id (some h.time) }

@[simp] theorem record_born (h : History ι) (id : ι) : (h.record id).born id = some h.time :=
  Function.update_self ..

theorem record_born_ne (h : History ι) {id j : ι} (other : j ≠ id) :
    (h.record id).born j = h.born j := Function.update_of_ne other ..

theorem old_record (S : ScopeLimits) (unborn : h.born id = none) (j : ι) :
    Old S (h.record id) j ↔ Old S h j := by
  have := S.window_pos
  have := S.ttl_pos
  by_cases same : j = id
  · subst same
    constructor
    · rintro ⟨b, born, passed⟩
      rw [record_born, Option.some.injEq] at born
      change b + S.ttlMs + S.windowMs < h.time at passed
      omega
    · rintro ⟨b, born, _⟩
      rw [unborn] at born
      cases born
  · unfold Old
    rw [record_born_ne h same]
    rfl

theorem born_record (unborn : h.born id = none) {j : ι} {b : ℤ} (born : h.born j = some b) :
    (h.record id).born j = some b := by
  have other : j ≠ id := by
    rintro rfl
    rw [unborn] at born
    cases born
  rw [record_born_ne h other, born]

theorem Dated.record (dated : Dated S h w) (unborn : h.born id = none) : Dated S (h.record id) w where
  reservations j entry found := by
    obtain ⟨b, born, expiry⟩ := dated.reservations j entry found
    exact ⟨b, born_record unborn born, expiry⟩
  tombstones j entry found := by
    obtain ⟨b, born, forget⟩ := dated.tombstones j entry found
    exact ⟨b, born_record unborn born, forget⟩

/-- A reserve that is denied leaves only its id in the history. -/
theorem Agrees.deny (agrees : Agrees S h w k Lm Lr) (unborn : h.born id = none) :
    Agrees S (h.record id) w k Lm Lr :=
  { agrees with
    dated := agrees.dated.record unborn
    late := fun j young => agrees.late j fun old => young ((old_record S unborn j).mpr old)
    fresh := fun j fresh => by
      refine agrees.fresh j ?_
      cases born : h.born j with
      | none => rfl
      | some b =>
          rw [born_record unborn born] at fresh
          cases fresh }

theorem Agrees.reserved_eq (agrees : Agrees S h w k Lm Lr) : Lm.reserved = Lr.reserved :=
  Finset.sum_congr agrees.live fun id member => agrees.estimate id (agrees.live ▸ member)

theorem Agrees.admit (agrees : Agrees S h w k Lm Lr) (unborn : h.born id = none) (estimate : ℕ)
    (room : Lr.committed + Lr.reserved + estimate ≤ S.budgetMicros) :
    Agrees S (h.record id)
      { w with
        reservedMicros := w.reservedMicros + estimate
        reservations := w.reservations.insert id (h.time + S.ttlMs, estimate) }
      { k with
        reservations := k.reservations.put (k.reservations.value.insert id (h.time + S.ttlMs))
        amounts := k.amounts.put (k.amounts.value.insert id (.int estimate)) }
      (Lm.apply (.admitted id estimate)) (Lr.apply (.admitted id estimate)) := by
  obtain ⟨freshMemory, freshRedis⟩ := agrees.fresh id unborn
  have notLive : id ∉ Lm.live := fun live => freshMemory (agrees.sound_memory.live_issued live)
  have notLate : id ∉ Lm.late := fun late => freshMemory (agrees.sound_memory.late_issued late)
  have room' : Lm.committed + Lm.reserved + estimate ≤ S.budgetMicros := by
    rw [agrees.spent, agrees.reserved_eq]; exact room
  refine ⟨agrees.sound_memory.admitted ⟨freshMemory, Int.natCast_nonneg _, room'⟩,
    agrees.sound_redis.admitted ⟨freshRedis, Int.natCast_nonneg _, room⟩,
    agrees.memory.admit notLive notLate _ _, agrees.redis.admit id _ _, ?_, ?_, ?_, ?_, ?_,
    agrees.spent, ?_⟩
  · refine ⟨fun j entry found => ?_, (agrees.dated.record unborn).tombstones⟩
    simp only [AList.lookup_insert_if] at found
    split at found
    · next same =>
        cases found
        exact ⟨h.time, same ▸ record_born h j, rfl⟩
    · exact (agrees.dated.record unborn).reservations j entry found
  · change insert id Lm.live = insert id Lr.live
    rw [agrees.live]
  · intro j member
    by_cases same : j = id
    · subst same
      simp only [Ledger.apply, Function.update_self]
    · simp only [Ledger.apply, Function.update_of_ne same]
      exact agrees.estimate j ((Finset.mem_insert.mp member).resolve_left same)
  · intro j
    simp only [Key.put_value, AList.lookup_insert_if]
    split
    · rfl
    · exact agrees.expiry j
  · exact fun j young => agrees.late j fun old => young ((old_record S unborn j).mpr old)
  · intro j fresh
    have other : j ≠ id := by
      rintro rfl
      simp only [record_born, reduceCtorEq] at fresh
    rw [record_born_ne h other] at fresh
    simp only [Ledger.apply, Finset.mem_insert, other, false_or]
    exact agrees.fresh j fresh

theorem Agrees.congr (agrees : Agrees S h w k Lm Lr) {k' : Keys ι}
    (reservations : k'.reservations.value = k.reservations.value)
    (amounts : k'.amounts.value = k.amounts.value) : Agrees S h w k' Lm Lr :=
  { agrees with
    redis := agrees.redis.congr reservations amounts
    expiry := by rw [reservations]; exact agrees.expiry }

/-- The last commands of a reserve make agreeing keys current. -/
theorem Agrees.touched (agrees : Agrees S h w k Lm Lr) {r : Key (ZSet ι)} (zset : ZSet ι)
    {a : Key (Dict ι Stored)} (amounts : Dict ι Stored)
    (reservations_put : k.reservations = r.put zset) (amounts_put : k.amounts = a.put amounts)
    (start_le : w.windowStartMs ≤ h.time) (born_le : ∀ j b, h.born j = some b → b ≤ h.time) :
    Current S h w (touch h.time S.keysTtlMs (putWindow Lr.committed Lr.reserved w.windowStartMs k))
      Lm Lr h.time := by
  have positive : 0 < S.keysTtlMs := by
    have := S.keysTtlMs_ge
    have := S.window_pos
    have := S.ttl_pos
    omega
  have values : Agrees S h w (touch h.time S.keysTtlMs
      (putWindow Lr.committed Lr.reserved w.windowStartMs k)) Lm Lr :=
    agrees.congr (Key.pexpire_value _ positive) (Key.pexpire_value _ positive)
  have later : w.windowStartMs ≤ h.time + S.ttlMs + S.windowMs := by
    have := S.window_pos
    have := S.ttl_pos
    omega
  refine ⟨values, ?_, ?_, ?_, ?_, le_rfl, later, start_le, born_le⟩
  · exact (loadWindow_congr (Key.pexpire_value _ positive)).trans (loadWindow_putWindow _ _ _ _)
  · exact Key.pexpire_deadline positive (putWindow_ne_default _ _ _ _)
  · simp only [touch, putWindow, reservations_put]
    exact Key.until_pexpire_put positive _ _
  · simp only [touch, putWindow, amounts_put]
    exact Key.until_pexpire_put positive _ _

/-- Related stores, swept for a reserve. -/
theorem Related.swept (related : Related S h m k) :
    ∃ Lm Lr windowStart, Lm.Sound S.budgetMicros ∧ Lr.Sound S.budgetMicros ∧
      (m.getD .new).Represents Lm ∧ Represents k Lr ∧
      loadWindow k = some ⟨Lr.committed, Lr.reserved, windowStart⟩ ∧
      (if windowOver h.time S.windowMs windowStart then h.time else windowStart) =
        (S.swept h.time (m.getD .new)).windowStartMs ∧
      (S.swept h.time (m.getD .new)).windowStartMs ≤ h.time ∧
      (∀ j b, h.born j = some b → b ≤ h.time) ∧
      ∀ x, expire h.time Lr.reserved k = some x →
        Holds x.keys (tested h.time S.windowMs k Lr) →
        Agrees S h (S.swept h.time (m.getD .new)) x.keys (S.sweptLedger h.time (m.getD .new) Lm)
          (tested h.time S.windowMs k Lr) := by
  cases related with
  | @idle L idle =>
      refine ⟨L, Ledger.empty, 0, idle.sound, sound_empty S.budget_pos.le, idle.memory,
        represents_empty, loadWindow_empty, ?_, ?_, idle.born_le, fun x expired => idle.swept expired⟩
      · rw [swept_windowStart, if_pos idle.rolled]
        exact if_pos (.inl rfl)
      · rw [swept_windowStart, if_pos idle.rolled]
  | @current _ Lm Lr last current =>
      refine ⟨Lm, Lr, _, current.sound_memory, current.sound_redis, current.memory,
        ⟨current.redis, _, current.window⟩, current.window, ?_, ?_, ?_,
        fun x expired => current.swept expired⟩
      · rw [swept_windowStart]
      · rw [swept_windowStart]
        split
        · exact le_rfl
        · exact current.start_le_time
      · exact fun j b born => (current.born_le j b born).trans current.last_le

/-- A reply the guard does not take for a corrupt store. -/
theorem interpret_reply {code committed reserved : ℤ} (known : code = 0 ∨ code = 1)
    (spent : 0 ≤ committed) (held : 0 ≤ reserved) : interpret ⟨code, committed, reserved⟩ ≠ .corrupt := by
  have fine : ¬ ((code ≠ 0 ∧ code ≠ 1) ∨ committed < 0 ∨ reserved < 0) := by omega
  rw [interpret, if_neg fine]
  split <;> exact nofun

theorem reserve_lockstep (related : Related S h m k) (id : ι) (unborn : h.born id = none)
    (estimate : ℕ) :
    let left := reserveMemory h.time S.windowMs S.budgetMicros estimate id S.ttlMs m
    let right := reserveLua h.time h.time S.windowMs S.budgetMicros estimate id S.ttlMs k
    left.1 = ⟨right.1.code, right.1.committed, right.1.reserved⟩ ∧ interpret left.1 ≠ .corrupt ∧
      Related S (h.record id) left.2 right.2 := by
  obtain ⟨Lm, Lr, windowStart, soundM, soundR, repM, repR, loaded, start, start_le, born_le, sweep⟩ :=
    related.swept
  have args : ¬ ((estimate : ℤ) < 0 ∨ S.budgetMicros ≤ 0 ∨ S.windowMs ≤ 0 ∨ S.ttlMs ≤ 0) := by
    have := S.window_pos
    have := S.ttl_pos
    have := S.budget_pos
    omega
  obtain ⟨windowStart', x, loaded', expired, holds, right⟩ :=
    reserveLua_spec soundR repR h.time h.time id args
  obtain rfl : windowStart' = windowStart := by
    rw [loaded, Option.some.injEq, Loaded.mk.injEq] at loaded'
    exact loaded'.2.2.symm
  obtain ⟨_, left⟩ :=
    MemoryWindow.reserve_spec soundM repM h.time S.windowMs S.budgetMicros estimate id S.ttlMs
  have agrees := sweep x expired holds
  have committed : (S.sweptLedger h.time (m.getD .new) Lm).committed = _ := agrees.spent
  have reserved := agrees.reserved_eq
  have spent := committed_nonneg agrees.sound_redis.actual_nonneg
  have held := reserved_nonneg agrees.sound_redis
  have record_le : ∀ j b, (h.record id).born j = some b → b ≤ (h.record id).time := by
    intro j b born
    by_cases same : j = id
    · subst same
      rw [record_born, Option.some.injEq] at born
      exact born.symm.le
    · rw [record_born_ne h same] at born
      exact born_le j b born
  obtain ⟨put, amounts, amounts_put⟩ := expire_eq_some expired
  simp only [ScopeLimits.sweptLedger, ScopeLimits.keysTtlMs] at committed reserved
  simp only [reserveMemory, left, right, committed, reserved]
  set N := tested h.time S.windowMs k Lr
  by_cases full : N.committed + N.reserved + estimate > S.budgetMicros
  · simp only [if_pos full, start]
    have current := (agrees.deny unborn).touched _ _ put amounts_put start_le record_le
    exact ⟨trivial, interpret_reply (.inl rfl) spent held, .current current⟩
  · simp only [if_neg full, start]
    have admitted := agrees.admit unborn estimate (not_lt.mp full)
    have total : (N.apply (.admitted id estimate)).reserved = N.reserved + estimate := by
      refine reserved_admitted id (estimate : ℤ) fun live => ?_
      exact (agrees.fresh id unborn).2 (agrees.sound_redis.live_issued live)
    have current := admitted.touched (x.keys.reservations.value.insert id (h.time + S.ttlMs))
      (x.keys.amounts.value.insert id (.int estimate)) rfl rfl start_le record_le
    rw [total] at current
    exact ⟨trivial, interpret_reply (.inr rfl) spent (by omega), .current current⟩

omit [DecidableEq ι] in
theorem Ledger.fields_of_charges {L L' : Ledger ι} (same : L' = { L with charges := L'.charges }) :
    L'.live = L.live ∧ L'.late = L.late ∧ L'.estimate = L.estimate ∧ L'.issued = L.issued := by
  rw [same]
  exact ⟨rfl, rfl, rfl, rfl⟩

/-- The same charge on both sides; `LM` and `LR` are the ledgers after the window test. -/
theorem Agrees.charge {w' : MemoryWindow ι} {k' : Keys ι} {LM LR : Ledger ι} {actual : ℤ}
    (agrees : Agrees S h w k Lm Lr) (rolled_memory : LM = { Lm with charges := LM.charges })
    (rolled_redis : LR = { Lr with charges := LR.charges }) (spent : LM.committed = LR.committed)
    (sound_memory : (LM.apply (.charged id actual)).Sound S.budgetMicros)
    (sound_redis : (LR.apply (.charged id actual)).Sound S.budgetMicros)
    (memory : w'.Represents (LM.apply (.charged id actual)))
    (redis : Holds k' (LR.apply (.charged id actual))) (dated : Dated S h w')
    (expiry : ∀ j, k'.reservations.value.lookup j = (w'.reservations.lookup j).map Prod.fst) :
    Agrees S h w' k' (LM.apply (.charged id actual)) (LR.apply (.charged id actual)) := by
  obtain ⟨liveM, lateM, estimateM, issuedM⟩ := Ledger.fields_of_charges rolled_memory
  obtain ⟨liveR, lateR, estimateR, issuedR⟩ := Ledger.fields_of_charges rolled_redis
  refine ⟨sound_memory, sound_redis, memory, redis, dated, ?_, ?_, expiry, ?_, ?_, ?_⟩
  · simp only [Ledger.apply, liveM, liveR, agrees.live]
  · intro j member
    simp only [Ledger.apply, liveM, estimateM, estimateR] at member ⊢
    exact agrees.estimate j (Finset.mem_of_mem_erase member)
  · intro j young
    simp only [Ledger.apply, lateM, lateR, Finset.mem_erase, agrees.late j young]
  · change actual + LM.committed = actual + LR.committed
    rw [spent]
  · intro j unborn
    simp only [Ledger.apply, issuedM, issuedR]
    exact agrees.fresh j unborn

/-- Settling an id that is not old keeps current stores in step. -/
theorem Current.settle {last : ℤ} (current : Current S h w k Lm Lr last) (young : ¬ Old S h id)
    (actual : ℕ) :
    ∃ Lm' Lr', Current S h (w.settle id actual h.time S.windowMs).2
      (settleLua id actual h.time S.windowMs k).2 Lm' Lr' last := by
  have rep : Represents k Lr := ⟨current.redis, _, current.window⟩
  obtain ⟨effect, quiet, charged⟩ :=
    MemoryWindow.settle_spec current.sound_memory current.memory id actual h.time S.windowMs
  have held_iff : id ∈ Lm.live ∨ id ∈ Lm.late ↔ id ∈ Lr.live ∨ id ∈ Lr.late := by
    rw [current.live, current.late id young]
  by_cases held : id ∈ Lr.live ∨ id ∈ Lr.late
  · have took := effect.mpr (held_iff.mpr held)
    obtain ⟨code, amt, _, out⟩ := settleLua_held current.sound_redis rep actual h.time
      S.window_pos current.window held
    have start := MemoryWindow.settle_windowStart took
    rw [MemoryWindow.rollWindow_windowStart] at start
    have spent : (Lm.replay (w.rollEvents h.time S.windowMs)).committed =
        (Lr.replay (resetEvents h.time S.windowMs k)).committed := by
      rw [committed_resetEvents _ _ current.window, MemoryWindow.committed_rollEvents, current.spent]
      rfl
    have soundM : ((Lm.replay (w.rollEvents h.time S.windowMs)).apply (.charged id actual)).Sound
        S.budgetMicros := by
      refine (current.sound_memory.replay (MemoryWindow.legal_roll _ _ _ w Lm)).charged ?_
      rw [MemoryWindow.replay_rollEvents]
      exact ⟨effect.mp took, Int.natCast_nonneg _⟩
    have soundR : ((Lr.replay (resetEvents h.time S.windowMs k)).apply (.charged id actual)).Sound
        S.budgetMicros := by
      refine (current.sound_redis.replay (legal_resetEvents _ _ _ k Lr)).charged ?_
      rw [replay_resetEvents]
      exact ⟨held, Int.natCast_nonneg _⟩
    have holds := (current.redis.resetEvents h.time S.windowMs k).charge id (actual : ℤ)
    have dated : Dated S h (w.settle id actual h.time S.windowMs).2 := by
      refine ⟨fun j entry found => ?_, fun j entry found => ?_⟩
      · rw [MemoryWindow.settle_reservations] at found
        split at found
        · cases found
        · exact current.dated.reservations j entry found
      · exact current.dated.tombstones j entry (MemoryWindow.settle_tombstones found)
    have expiry : ∀ j, (k.reservations.value.erase id).lookup j =
        ((w.settle id actual h.time S.windowMs).2.reservations.lookup j).map Prod.fst := by
      intro j
      rw [MemoryWindow.settle_reservations, AList.lookup_erase_if]
      split
      · rfl
      · exact current.expiry j
    have agrees := current.toAgrees.charge (MemoryWindow.replay_rollEvents _ _ w Lm)
      (replay_resetEvents _ _ k Lr) spent soundM soundR (charged took) holds dated
      (by simpa only [Key.put_value] using expiry)
    rw [out]
    have prompt : h.time ≤ last + S.ttlMs + S.windowMs :=
      current.prompt (held_iff.mpr held) young
    refine ⟨_, _, ⟨agrees.congr rfl rfl, ?_, ?_, ?_, ?_, current.last_le, ?_, ?_, current.born_le⟩⟩
    · rw [start]
      exact loadWindow_putWindow _ _ _ _
    · exact (putWindow_deadline _ _ _ _).trans current.window_due
    · refine current.reservations_due.put fun empty => ?_
      rw [empty]
      rfl
    · refine current.amounts_due.put fun empty => ?_
      rw [empty]
      rfl
    · rw [start]
      split
      · exact prompt
      · exact current.start_le
    · rw [start]
      split
      · exact le_rfl
      · exact current.start_le_time
  · have idle := quiet (Bool.eq_false_iff.mpr fun took => held (held_iff.mp (effect.mp took)))
    rw [not_or] at held
    rw [idle, settleLua_unknown rep actual h.time S.window_pos held.1 held.2]
    exact ⟨Lm, Lr, current⟩

theorem settle_lockstep (related : Related S h m k) (young : ¬ Old S h id) (actual : ℕ) :
    Related S h (settleMemory id actual h.time S.windowMs m)
      (settleLua id actual h.time S.windowMs k).2 := by
  have amount : max 0 (actual : ℤ) = actual := max_eq_right (Int.natCast_nonneg _)
  cases related with
  | idle idle =>
      have untouched : settleLua id (actual : ℤ) h.time S.windowMs (Keys.empty : Keys ι) =
          (⟨0, 0, 0, 0⟩, Keys.empty) :=
        settleLua_unknown represents_empty actual h.time S.window_pos (Finset.notMem_empty id)
          (Finset.notMem_empty id)
      rw [untouched]
      cases m with
      | none => exact .idle idle
      | some state =>
          obtain ⟨effect, quiet, _⟩ :=
            MemoryWindow.settle_spec idle.sound idle.memory id actual h.time S.windowMs
          have none := quiet (Bool.eq_false_iff.mpr fun took => young (idle.old id (effect.mp took)))
          rw [settleMemory, amount, Option.map_some]
          change (state.settle id actual h.time S.windowMs).2 = state at none
          rw [none]
          exact .idle idle
  | current current =>
      obtain ⟨Lm', Lr', current'⟩ := current.settle young actual
      cases m with
      | none => exact .current current'
      | some state =>
          rw [settleMemory, amount, Option.map_some]
          exact .current current'

theorem lockstep (S : ScopeLimits) (h : History ι) (m : Option (MemoryWindow ι)) (k : Keys ι)
    (r : Request ι) (related : Related S h m k) (allowed : h.Allowed S r) :
    (S.memoryStep m r).1 = (S.redisStep k r).1 ∧
      (∀ reply ∈ (S.memoryStep m r).1, interpret reply ≠ .corrupt) ∧
      Related S (h.next r) (S.memoryStep m r).2 (S.redisStep k r).2 := by
  cases r with
  | reserve nowMs estimate id =>
      have step := reserve_lockstep (related.evict allowed.1) id allowed.2 estimate
      refine ⟨congrArg some step.1, ?_, step.2.2⟩
      intro reply member
      cases member
      exact step.2.1
  | settle nowMs id actual =>
      refine ⟨rfl, nofun, ?_⟩
      refine settle_lockstep (related.evict allowed.1) ?_ actual
      rintro ⟨b, born, passed⟩
      exact absurd (allowed.2 b born) (not_le.mpr passed)

end Calls

/-- The guard answers every reserve of an admissible run in the same way with and
without Redis, and never takes its store for corrupt. -/
theorem backends_agree (S : ScopeLimits) (requests : List (Request ι))
    (run : Admissible (History.Allowed S) History.next .start requests) :
    (replies S.memoryStep none requests).map interpret =
        (replies S.redisStep Keys.empty requests).map interpret ∧
      replies S.memoryStep none requests = replies S.redisStep Keys.empty requests ∧
      ∀ reply ∈ replies S.memoryStep none requests, interpret reply ≠ .corrupt := by
  have same : replies S.memoryStep none requests = replies S.redisStep Keys.empty requests :=
    replies_eq (R := Related S) (fun h m k r related allowed =>
      have step := lockstep S h m k r related allowed
      ⟨step.1, step.2.2⟩) (related_start S) run
  refine ⟨congrArg _ same, same, ?_⟩
  exact forall_replies (R := Related S) (fun h m k r related allowed =>
    have step := lockstep S h m k r related allowed
    step.2) (related_start S) run

/-- A denied reserve, a late settle that opens the next window, and reserves after
the keys have expired. -/
def expiringRequests : List (Request ℕ) :=
  [.reserve 1000 60 1, .reserve 1005 60 2, .reserve 1020 30 3, .settle 1060 1 70,
    .reserve 1065 50 4, .settle 1066 3 20, .reserve 2000 90 5, .settle 2010 5 10, .reserve 2011 80 6]

def expiringLimits : ScopeLimits := ⟨50, 10, 100, by decide, by decide, by decide⟩

theorem backends_agree_expiring :
    replies expiringLimits.redisStep Keys.empty expiringRequests =
      replies expiringLimits.memoryStep none expiringRequests ∧
    replies expiringLimits.memoryStep none expiringRequests =
      [⟨1, 0, 60⟩, ⟨0, 0, 60⟩, ⟨1, 0, 30⟩, ⟨0, 70, 0⟩, ⟨1, 0, 90⟩, ⟨1, 10, 80⟩] :=
  ⟨(backends_agree expiringLimits expiringRequests (by decide)).2.1.symm, by decide⟩

end RuntimePlatform.Budget
