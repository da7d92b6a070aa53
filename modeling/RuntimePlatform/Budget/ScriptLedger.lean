import RuntimePlatform.Budget.Scripts
import RuntimePlatform.Budget.Backend

/-!
The scripts keep a ledger. Every call is given the events it causes, read off its
reply, and the three keys after a run represent the ledger that replays them.
-/

namespace RuntimePlatform.Budget
open Redis Ledger
variable {ι : Type} [DecidableEq ι]

/-- One step of some replica, or the server dropping the keys of the scope at
their common deadline. Ids are the ones `uuid4` gave; amounts are not negative. -/
inductive RedisCall (ι : Type) where
  | reserve (redisNow now window : ℤ) (estimate : ℕ) (resId : ι) (ttl : ℤ)
  | settle (resId : ι) (actual : ℕ) (now window : ℤ)
  | purge (now : ℤ)
  | keysExpire

def RedisCall.exec (budget : ℤ) (k : Keys ι) : RedisCall ι → Keys ι
  | .reserve redisNow now window estimate resId ttl =>
      (reserveLua redisNow now window budget estimate resId ttl k).2
  | .settle resId actual now window => (settleLua resId actual now window k).2
  | .purge now => (purgeLua now k).2
  | .keysExpire => Keys.empty

def resetEvents (now window : ℤ) (k : Keys ι) : List (Event ι) :=
  match loadWindow k with
  | some w => if windowOver now window w.windowStart then [.reset] else []
  | none => []

def lapseEvents (now : ℤ) (k : Keys ι) : List (Event ι) :=
  (rangeByScore now k.reservations.value).map Event.lapsed

/-- The events of one call, as its reply tells them: a settle takes effect when it
answers 1 or 2, and a window is reset where the script tests for it. -/
def RedisCall.events (budget : ℤ) (k : Keys ι) : RedisCall ι → List (Event ι)
  | .reserve redisNow now window estimate resId ttl =>
      let code := (reserveLua redisNow now window budget estimate resId ttl k).1.code
      if code = 1 then lapseEvents now k ++ resetEvents now window k ++ [.admitted resId estimate]
      else if code = 0 then lapseEvents now k ++ resetEvents now window k
      else []
  | .settle resId actual now window =>
      let code := (settleLua resId actual now window k).1.code
      if code = 1 ∨ code = 2 then resetEvents now window k ++ [.charged resId actual] else []
  | .purge now => if (purgeLua now k).1.expiredCount < 0 then [] else lapseEvents now k
  | .keysExpire => [.dropped]

/-- The guard with Redis. -/
def redis (budget : ℤ) : Backend ι (Keys ι) (RedisCall ι) where
  init := Keys.empty
  exec := RedisCall.exec budget
  events := RedisCall.events budget
  draws
    | .reserve _ _ _ _ resId _ => [resId]
    | _ => []

/-! What the keys say about a ledger. -/

def storedFor (L : Ledger ι) (id : ι) : Option Stored :=
  if id ∈ L.live then some (.int (L.estimate id))
  else if id ∈ L.late then some (.tombstone (L.estimate id))
  else none

structure Holds (k : Keys ι) (L : Ledger ι) : Prop where
  members : ∀ id, id ∈ k.reservations.value ↔ id ∈ L.live
  amounts : ∀ id, k.amounts.value.lookup id = storedFor L id

structure Represents (k : Keys ι) (L : Ledger ι) : Prop extends Holds k L where
  window : ∃ windowStart, loadWindow k = some ⟨L.committed, L.reserved, windowStart⟩

theorem represents_empty : Represents (Keys.empty : Keys ι) Ledger.empty where
  members id := by simp [Keys.empty, Ledger.empty]; exact AList.notMem_empty id
  amounts id := by simp [Keys.empty, Ledger.empty, storedFor]; rfl
  window := ⟨0, rfl⟩

section Values
variable {k k' : Keys ι} {L : Ledger ι}

theorem Holds.congr (holds : Holds k L) (reservations : k'.reservations.value = k.reservations.value)
    (amounts : k'.amounts.value = k.amounts.value) : Holds k' L where
  members id := by rw [reservations]; exact holds.members id
  amounts id := by rw [amounts]; exact holds.amounts id

theorem Represents.touch {redisNow ttl : ℤ} (positive : 0 < ttl) (rep : Represents k L) :
    Represents (touch redisNow ttl k) L := by
  have window : (Budget.touch redisNow ttl k).window.value = k.window.value :=
    Key.pexpire_value _ positive
  obtain ⟨windowStart, loaded⟩ := rep.window
  exact {
    toHolds := rep.toHolds.congr (Key.pexpire_value _ positive) (Key.pexpire_value _ positive)
    window := ⟨windowStart, (loadWindow_congr window).trans loaded⟩ }

theorem storedAmount_live (holds : Holds k L) {id : ι} (live : id ∈ L.live) :
    storedAmount k id = some (L.estimate id) := by
  simp only [storedAmount, holds.amounts, storedFor, if_pos live, Stored.tonumber]

theorem rangeByScore_live (holds : Holds k L) (now : ℤ) :
    ∀ id ∈ rangeByScore now k.reservations.value, id ∈ L.live := by
  intro id member
  obtain ⟨score, found, _⟩ := mem_rangeByScore.mp member
  exact (holds.members id).mp (AList.mem_of_lookup found)

/-- Expiry cannot fail on represented keys and lapses exactly the expired ids. -/
theorem expire_holds {budget : ℤ} (sound : L.Sound budget) (holds : Holds k L) (now : ℤ) :
    ∃ x, expire now L.reserved k = some x ∧
      x.reserved = (L.replay (lapseEvents now k)).reserved ∧
      Holds x.keys (L.replay (lapseEvents now k)) ∧
      x.keys.window = k.window ∧ 0 ≤ x.count ∧ (x.count = 0 → lapseEvents now k = []) := by
  have live := rangeByScore_live holds now
  have nodup := rangeByScore_nodup now k.reservations.value
  have amount : ∀ id ∈ rangeByScore now k.reservations.value,
      storedAmount k id = some (L.estimate id) := fun id member =>
    storedAmount_live holds (live id member)
  have intact : ¬ (rangeByScore now k.reservations.value).any
      (fun id => (storedAmount k id).isNone) = true := by
    rw [List.any_eq_true]
    rintro ⟨id, member, corrupt⟩
    simp only [amount id member, Option.isNone_some, Bool.false_eq_true] at corrupt
  have released : ((rangeByScore now k.reservations.value).map
      fun id => (storedAmount k id).getD 0).sum =
        ((rangeByScore now k.reservations.value).map L.estimate).sum := by
    congr 1
    refine List.map_congr_left fun id member => ?_
    simp only [amount id member, Option.getD_some]
  have after := reserved_lapsed live nodup
  have nonneg := reserved_nonneg
    (sound.replay (legal_lapsed live nodup : LegalLog budget L _))
  refine ⟨_, by rw [expire, if_neg intact], ?_, ?_, rfl, Int.natCast_nonneg _, ?_⟩
  · simp only [lapseEvents, released, after]
    rw [after] at nonneg
    exact if_neg (not_lt.mpr nonneg)
  · constructor
    · intro id
      simp only [Key.put_value, mem_remRangeByScore, holds.members, lapseEvents, replay_lapsed,
        Finset.mem_sdiff, List.mem_toFinset]
    · intro id
      simp only [Key.put_value, AList.lookup_insertEach, lapseEvents, replay_lapsed, storedFor,
        Finset.mem_sdiff, Finset.mem_union, List.mem_toFinset]
      by_cases expired : id ∈ rangeByScore now k.reservations.value
      · simp only [expired, if_true, not_true_eq_false, and_false, if_false, or_true,
          amount id expired, Option.getD_some]
      · simp only [expired, if_false, not_false_eq_true, and_true, or_false, holds.amounts,
          storedFor]
  · intro zero
    have none := List.length_eq_zero_iff.mp (Int.natCast_eq_zero.mp zero)
    simp only [lapseEvents, none, List.map_nil]

end Values

/-- Expiry writes both the reservations and the amounts. -/
theorem expire_eq_some {now reserved : ℤ} {k : Keys ι} {x : Expired ι}
    (expired : expire now reserved k = some x) :
    x.keys.reservations = k.reservations.put (remRangeByScore now k.reservations.value) ∧
      ∃ amounts, x.keys.amounts = k.amounts.put amounts := by
  simp only [expire] at expired
  split at expired
  · cases expired
  · cases expired
    exact ⟨rfl, _, rfl⟩

section Updates
variable {k : Keys ι} {L : Ledger ι}

theorem Holds.represents (holds : Holds k L) (windowStart : ℤ) :
    Represents (putWindow L.committed L.reserved windowStart k) L where
  members := holds.members
  amounts := holds.amounts
  window := ⟨windowStart, loadWindow_putWindow _ _ _ _⟩

theorem Holds.admit (holds : Holds k L) (id : ι) (score estimate : ℤ) :
    Holds { k with
      reservations := k.reservations.put (k.reservations.value.insert id score)
      amounts := k.amounts.put (k.amounts.value.insert id (.int estimate)) }
      (L.apply (.admitted id estimate)) where
  members j := by
    simp only [Key.put_value, AList.mem_insert, holds.members, Ledger.apply, Finset.mem_insert]
  amounts j := by
    simp only [Key.put_value, AList.lookup_insert_if, holds.amounts, storedFor, Ledger.apply,
      Finset.mem_insert]
    by_cases same : j = id
    · subst same; simp only [if_true, true_or, Function.update_self]
    · simp only [same, if_false, false_or, Function.update_of_ne same]

theorem Holds.charge (holds : Holds k L) (id : ι) (actual : ℤ) :
    Holds { k with
      amounts := k.amounts.put (k.amounts.value.erase id)
      reservations := k.reservations.put (k.reservations.value.erase id) }
      (L.apply (.charged id actual)) where
  members j := by
    simp only [Key.put_value, AList.mem_erase, holds.members, Ledger.apply, Finset.mem_erase]
  amounts j := by
    simp only [Key.put_value, AList.lookup_erase_if, holds.amounts, storedFor, Ledger.apply,
      Finset.mem_erase]
    by_cases same : j = id
    · simp only [same, if_true, ne_eq, not_true_eq_false, false_and, if_false]
    · simp only [same, if_false, ne_eq, not_false_eq_true, true_and]

omit [DecidableEq ι] in
theorem resetEvents_eq {now window committed reserved windowStart : ℤ}
    (loaded : loadWindow k = some ⟨committed, reserved, windowStart⟩) :
    resetEvents now window k = if windowOver now window windowStart then [.reset] else [] := by
  simp only [resetEvents, loaded]

/-- The ledger on which a reserve decides: expired ids lapsed, the window tested. -/
def tested (now window : ℤ) (k : Keys ι) (L : Ledger ι) : Ledger ι :=
  L.replay (lapseEvents now k ++ resetEvents now window k)

/-- The window test touches the charges only. -/
theorem replay_resetEvents (now window : ℤ) (k : Keys ι) (L : Ledger ι) :
    L.replay (resetEvents now window k) =
      { L with charges := (L.replay (resetEvents now window k)).charges } := by
  unfold resetEvents
  split
  · split <;> rfl
  · rfl

theorem committed_resetEvents (now window : ℤ) {reserved windowStart : ℤ}
    (loaded : loadWindow k = some ⟨L.committed, reserved, windowStart⟩) :
    (L.replay (resetEvents now window k)).committed =
      if windowOver now window windowStart then 0 else L.committed := by
  rw [resetEvents_eq loaded]
  split <;> rfl

theorem legal_resetEvents (budget now window : ℤ) (k : Keys ι) (L : Ledger ι) :
    LegalLog budget L (resetEvents now window k) := by
  unfold resetEvents
  split
  · split
    · exact ⟨trivial, trivial⟩
    · trivial
  · trivial

theorem Holds.resetEvents {keys : Keys ι} (holds : Holds keys L) (now window : ℤ) (k : Keys ι) :
    Holds keys (L.replay (resetEvents now window k)) := by
  rw [replay_resetEvents]
  exact ⟨holds.members, holds.amounts⟩

end Updates

/-! One lemma per script: the events are legal, and the keys go on representing
the ledger that replays them. -/
section Scripts
variable {budget cap : ℤ} {k : Keys ι} {L : Ledger ι}

theorem tested_eq (now window : ℤ) (k : Keys ι) (L : Ledger ι) :
    tested now window k L =
      { L.replay (lapseEvents now k) with charges := (tested now window k L).charges } := by
  rw [tested, replay_append, replay_resetEvents]

theorem tested_issued (now window : ℤ) (k : Keys ι) (L : Ledger ι) :
    (tested now window k L).issued = L.issued := by
  rw [tested_eq, lapseEvents, issued_lapsed]

theorem tested_live (now window : ℤ) (k : Keys ι) (L : Ledger ι) :
    (tested now window k L).live = L.live \ (rangeByScore now k.reservations.value).toFinset := by
  rw [tested_eq, lapseEvents, replay_lapsed]

theorem tested_late (now window : ℤ) (k : Keys ι) (L : Ledger ι) :
    (tested now window k L).late = L.late ∪ (rangeByScore now k.reservations.value).toFinset := by
  rw [tested_eq, lapseEvents, replay_lapsed]

theorem tested_estimate (now window : ℤ) (k : Keys ι) (L : Ledger ι) :
    (tested now window k L).estimate = L.estimate := by
  rw [tested_eq, lapseEvents, replay_lapsed]

theorem tested_committed (now window : ℤ) {reserved windowStart : ℤ}
    (loaded : loadWindow k = some ⟨L.committed, reserved, windowStart⟩) :
    (tested now window k L).committed =
      if windowOver now window windowStart then 0 else L.committed := by
  have lapsed : (L.replay (lapseEvents now k)).committed = L.committed := committed_lapsed _ _
  have loaded' : loadWindow k =
      some ⟨(L.replay (lapseEvents now k)).committed, reserved, windowStart⟩ := by
    rw [lapsed]; exact loaded
  rw [tested, replay_append, committed_resetEvents now window loaded', lapsed]

theorem tested_legal (cap : ℤ) (rep : Represents k L) (now window : ℤ) :
    LegalLog cap L (lapseEvents now k ++ resetEvents now window k) :=
  legalLog_append.mpr
    ⟨legal_lapsed (rangeByScore_live rep.toHolds now) (rangeByScore_nodup _ _),
      legal_resetEvents _ _ _ _ _⟩

omit [DecidableEq ι] in
theorem keysTtl_pos {estimate window ttl : ℤ}
    (args : ¬ (estimate < 0 ∨ budget ≤ 0 ∨ window ≤ 0 ∨ ttl ≤ 0)) : 0 < max window ttl * 4 := by
  have := le_max_left window ttl
  omega

/-- What a reserve with usable arguments does to represented keys. -/
theorem reserveLua_spec (sound : L.Sound cap) (rep : Represents k L)
    (redisNow now : ℤ) (resId : ι) {window estimate ttl : ℤ}
    (args : ¬ (estimate < 0 ∨ budget ≤ 0 ∨ window ≤ 0 ∨ ttl ≤ 0)) :
    ∃ windowStart x, loadWindow k = some ⟨L.committed, L.reserved, windowStart⟩ ∧
      expire now L.reserved k = some x ∧ Holds x.keys (tested now window k L) ∧
      reserveLua redisNow now window budget estimate resId ttl k =
        let M := tested now window k L
        let windowStart := if windowOver now window windowStart then now else windowStart
        if M.committed + M.reserved + estimate > budget then
          (⟨0, M.committed, M.reserved, M.committed + M.reserved, x.count⟩,
            touch redisNow (max window ttl * 4)
              (putWindow M.committed M.reserved windowStart x.keys))
        else
          (⟨1, M.committed, M.reserved + estimate, M.committed + (M.reserved + estimate), x.count⟩,
            touch redisNow (max window ttl * 4)
              (putWindow M.committed (M.reserved + estimate) windowStart { x.keys with
                reservations := x.keys.reservations.put
                  (x.keys.reservations.value.insert resId (now + ttl))
                amounts := x.keys.amounts.put
                  (x.keys.amounts.value.insert resId (.int estimate)) })) := by
  obtain ⟨windowStart, loaded⟩ := rep.window
  obtain ⟨x, expired, reserved, holds, _⟩ := expire_holds sound rep.toHolds now
  have reserved' : x.reserved = (tested now window k L).reserved := by
    rw [tested_eq, reserved]; rfl
  have committed := tested_committed now window loaded
  refine ⟨windowStart, x, loaded, expired, ?_, ?_⟩
  · rw [tested, replay_append]
    exact holds.resetEvents now window k
  · simp only [reserveLua, if_neg args, loaded, expired, ← committed, reserved']
    rfl

theorem reserve_keeps (le : budget ≤ cap) (sound : L.Sound cap) (rep : Represents k L)
    (redisNow now window : ℤ) (estimate : ℕ) (resId : ι) (ttl : ℤ) (fresh : resId ∉ L.issued) :
    (redis budget).Keeps cap Represents k L (.reserve redisNow now window estimate resId ttl) := by
  by_cases bad : (estimate : ℤ) < 0 ∨ budget ≤ 0 ∨ window ≤ 0 ∨ ttl ≤ 0
  · simp only [Backend.Keeps, redis, RedisCall.events, RedisCall.exec, reserveLua, if_pos bad]
    exact ⟨trivial, rep⟩
  obtain ⟨windowStart, x, _, _, holds, out⟩ :=
    reserveLua_spec sound rep redisNow now resId bad
  have positive := keysTtl_pos bad
  have legal := tested_legal cap rep now window
  by_cases full : (tested now window k L).committed + (tested now window k L).reserved + estimate > budget
  · simp only [if_pos full] at out
    simp only [Backend.Keeps, redis, RedisCall.events, RedisCall.exec, out]
    exact ⟨legal, (holds.represents _).touch positive⟩
  · simp only [if_neg full] at out
    have fresh' : resId ∉ (tested now window k L).issued := by rwa [tested_issued]
    have absent : resId ∉ (tested now window k L).live := fun live =>
      fresh' ((sound.replay legal).live_issued live)
    have admitted : (tested now window k L).Legal cap (.admitted resId estimate) :=
      ⟨fresh', Int.natCast_nonneg _, (not_lt.mp full).trans le⟩
    have entered := Holds.admit holds resId (now + ttl) estimate
    have rep' := entered.represents
      (if windowOver now window windowStart then now else windowStart)
    rw [reserved_admitted resId (estimate : ℤ) absent] at rep'
    simp only [Backend.Keeps, redis, RedisCall.events, RedisCall.exec, out, if_true]
    rw [replay_append L _ [Event.admitted resId (estimate : ℤ)]]
    exact ⟨legalLog_append.mpr ⟨legal, admitted, trivial⟩, rep'.touch positive⟩

/-- The ledger after a settle that takes effect: the window tested, the amount charged. -/
def charged (resId : ι) (actual now window : ℤ) (k : Keys ι) (L : Ledger ι) : Ledger ι :=
  (L.replay (resetEvents now window k)).apply (.charged resId actual)

theorem charged_committed (resId : ι) (actual now window : ℤ) {windowStart : ℤ}
    (loaded : loadWindow k = some ⟨L.committed, L.reserved, windowStart⟩) :
    (charged resId actual now window k L).committed =
      (if windowOver now window windowStart then 0 else L.committed) + actual := by
  rw [← committed_resetEvents now window loaded, add_comm]
  rfl

theorem charged_reserved (resId : ι) (actual now window : ℤ) (k : Keys ι) (L : Ledger ι) :
    (charged resId actual now window k L).reserved =
      if resId ∈ L.live then L.reserved - L.estimate resId else L.reserved := by
  rw [charged, reserved_charged, replay_resetEvents]
  rfl

theorem settleLua_held (sound : L.Sound cap) (rep : Represents k L) {resId : ι} (actual : ℕ)
    (now : ℤ) {window windowStart : ℤ} (positive : 0 < window)
    (loaded : loadWindow k = some ⟨L.committed, L.reserved, windowStart⟩)
    (held : resId ∈ L.live ∨ resId ∈ L.late) :
    ∃ code amt, (code = 1 ∨ code = 2) ∧
      settleLua resId actual now window k =
        let M := charged resId actual now window k L
        (⟨code, M.committed, M.reserved, amt⟩,
          putWindow M.committed M.reserved
            (if windowOver now window windowStart then now else windowStart) { k with
              amounts := k.amounts.put (k.amounts.value.erase resId)
              reservations := k.reservations.put (k.reservations.value.erase resId) }) := by
  have args : ¬ ((actual : ℤ) < 0 ∨ window ≤ 0) := by omega
  have committed := charged_committed resId (actual : ℤ) now window loaded
  have reserved := charged_reserved resId (actual : ℤ) now window k L
  have stored := rep.amounts resId
  by_cases live : resId ∈ L.live
  · have room := estimate_le_reserved sound live
    have left : ¬ L.reserved - L.estimate resId < 0 := by omega
    rw [storedFor, if_pos live] at stored
    rw [if_pos live] at reserved
    refine ⟨1, L.estimate resId, .inl rfl, ?_⟩
    simp only [settleLua, if_neg args, stored, splitAmount, loaded, Bool.false_eq_true, if_false,
      if_neg left, committed, reserved]
  · have late := held.resolve_left live
    rw [storedFor, if_neg live, if_pos late] at stored
    rw [if_neg live] at reserved
    refine ⟨2, L.estimate resId, .inr rfl, ?_⟩
    simp only [settleLua, if_neg args, stored, splitAmount, loaded, if_true, committed, reserved]

theorem settleLua_unknown (rep : Represents k L) {resId : ι} (actual : ℕ) (now : ℤ) {window : ℤ}
    (positive : 0 < window) (live : resId ∉ L.live) (late : resId ∉ L.late) :
    settleLua resId actual now window k = (⟨0, 0, 0, 0⟩, k) := by
  have args : ¬ ((actual : ℤ) < 0 ∨ window ≤ 0) := by omega
  have stored := rep.amounts resId
  rw [storedFor, if_neg live, if_neg late] at stored
  simp only [settleLua, if_neg args, stored]

theorem settle_keeps (sound : L.Sound cap) (rep : Represents k L)
    (resId : ι) (actual : ℕ) (now window : ℤ) :
    (redis budget).Keeps cap Represents k L (.settle resId actual now window) := by
  obtain ⟨windowStart, loaded⟩ := rep.window
  by_cases bad : (actual : ℤ) < 0 ∨ window ≤ 0
  · simp only [Backend.Keeps, redis, RedisCall.events, RedisCall.exec, settleLua, if_pos bad]
    exact ⟨trivial, rep⟩
  have positive : 0 < window := by omega
  by_cases held : resId ∈ L.live ∨ resId ∈ L.late
  · obtain ⟨code, amt, effect, out⟩ :=
      settleLua_held sound rep actual now positive loaded held
    have legal : (L.replay (resetEvents now window k)).Legal cap (.charged resId actual) := by
      rw [replay_resetEvents]
      exact ⟨held, Int.natCast_nonneg _⟩
    have holds := (rep.toHolds.resetEvents now window k).charge resId actual
    simp only [Backend.Keeps, redis, RedisCall.events, RedisCall.exec, out, if_pos effect]
    rw [replay_append]
    exact ⟨legalLog_append.mpr ⟨legal_resetEvents _ _ _ _ _, legal, trivial⟩, holds.represents _⟩
  · rw [not_or] at held
    have out := settleLua_unknown rep actual now positive held.1 held.2
    simp only [Backend.Keeps, redis, RedisCall.events, RedisCall.exec, out]
    exact ⟨trivial, rep⟩

theorem purge_keeps (sound : L.Sound cap) (rep : Represents k L) (now : ℤ) :
    (redis budget).Keeps cap Represents k L (.purge now) := by
  obtain ⟨windowStart, loaded⟩ := rep.window
  obtain ⟨x, expired, reserved, holds, window, nonneg, none⟩ := expire_holds sound rep.toHolds now
  have legal : LegalLog cap L (lapseEvents now k) :=
    legal_lapsed (rangeByScore_live rep.toHolds now) (rangeByScore_nodup _ _)
  have committed : (L.replay (lapseEvents now k)).committed = L.committed := committed_lapsed _ _
  simp only [Backend.Keeps, redis, RedisCall.events, RedisCall.exec, purgeLua, loaded, expired,
      if_neg (not_lt.mpr nonneg)]
  refine ⟨legal, ?_⟩
  by_cases some : x.count > 0
  · rw [if_pos some]
    obtain ⟨hc, _, hw⟩ := loadWindow_eq_some.mp loaded
    refine { members := holds.members, amounts := holds.amounts, window := ⟨windowStart, ?_⟩ }
    refine loadWindow_eq_some.mpr ?_
    simp only [Key.put_value, window, num, Stored.tonumber, reserved, committed]
    exact ⟨hc, trivial, hw⟩
  · rw [if_neg some]
    have quiet := none (by omega)
    rw [quiet] at holds ⊢
    exact { toHolds := holds, window := ⟨windowStart, (loadWindow_congr (by rw [window])).trans loaded⟩ }

theorem represents_dropped (L : Ledger ι) : Represents Keys.empty (L.apply .dropped) where
  members id := by simp [Keys.empty, Ledger.apply]; exact AList.notMem_empty id
  amounts id := by simp [Keys.empty, Ledger.apply, storedFor]; rfl
  window := ⟨0, rfl⟩

theorem keysExpire_keeps (L : Ledger ι) : (redis budget).Keeps cap Represents k L .keysExpire :=
  ⟨⟨trivial, trivial⟩, represents_dropped L⟩

theorem admitted_mem_events {c : RedisCall ι} {id : ι} {estimate : ℤ}
    (h : Event.admitted id estimate ∈ c.events budget k) : id ∈ (redis budget).draws c := by
  have lapse : ∀ now, Event.admitted id estimate ∉ lapseEvents now k := by
    intro now member
    obtain ⟨_, _, same⟩ := List.mem_map.mp member
    cases same
  have reset : ∀ now window, Event.admitted id estimate ∉ resetEvents now window k := by
    intro now window member
    unfold resetEvents at member
    split at member
    · split at member <;> simp at member
    · simp at member
  cases c with
  | reserve redisNow now window est resId ttl =>
      simp only [RedisCall.events] at h
      split at h
      · simp only [List.mem_append, lapse, reset, false_or, List.mem_singleton,
          Event.admitted.injEq] at h
        exact h.1 ▸ List.mem_cons_self
      · split at h
        · simp only [List.mem_append, lapse, reset, or_self] at h
        · cases h
  | settle resId actual now window =>
      simp only [RedisCall.events] at h
      split at h
      · simp [reset] at h
      · cases h
  | purge now =>
      simp only [RedisCall.events] at h
      split at h
      · cases h
      · exact absurd h (lapse now)
  | keysExpire => simp [RedisCall.events] at h

theorem redis_refines (le : budget ≤ cap) : (redis budget).Refines cap (Represents (ι := ι)) where
  init := represents_empty
  keeps k L c sound rep fresh := by
    cases c with
    | reserve redisNow now window estimate resId ttl =>
        exact reserve_keeps le sound rep redisNow now window estimate resId ttl
          (fresh resId List.mem_cons_self)
    | settle resId actual now window => exact settle_keeps sound rep resId actual now window
    | purge now => exact purge_keeps sound rep now
    | keysExpire => exact keysExpire_keeps L
  admits _ _ _ _ h := admitted_mem_events h

end Scripts

/-! ## Accounting of the three keys -/

/-- The amount of a reservation that is not a tombstone. -/
def liveAmount (k : Keys ι) (id : ι) : ℤ :=
  match k.amounts.value.lookup id with
  | some (.int n) => n
  | _ => 0

theorem Represents.reserved_eq {k : Keys ι} {L : Ledger ι} (rep : Represents k L) :
    L.reserved = ∑ id ∈ k.reservations.value.ids, liveAmount k id := by
  have ids : k.reservations.value.ids = L.live := by
    ext id
    rw [AList.mem_ids, rep.members]
  rw [ids]
  refine Finset.sum_congr rfl fun id live => ?_
  simp only [liveAmount, rep.amounts, storedFor, if_pos live]

/-- For any interleaving of the scripts by any number of replicas, with any clock
readings, the stored window is exactly what the live amounts and the settles since
the last reset say, nothing is charged twice, and an admission stays within the budget. -/
theorem redis_accounting (budget : ℤ) (calls : List (RedisCall ι))
    (fresh : ((redis budget).drawnIds calls).Nodup) :
    (∃ windowStart, loadWindow ((redis budget).run calls) = some
      ⟨(((sinceReset ((redis budget).log calls)).filterMap Event.charge?).map Prod.snd).sum,
        ∑ id ∈ ((redis budget).run calls).reservations.value.ids,
          liveAmount ((redis budget).run calls) id,
        windowStart⟩) ∧
    (∀ id ∈ ((redis budget).run calls).reservations.value, ∀ n,
      ((redis budget).run calls).amounts.value.lookup id ≠ some (.tombstone n)) ∧
    ((((redis budget).log calls).filterMap Event.charge?).map Prod.fst).Nodup ∧
    ∀ redisNow now window estimate resId ttl,
      let out := reserveLua redisNow now window budget estimate resId ttl ((redis budget).run calls)
      out.1.code = 1 → out.1.committed + out.1.reserved ≤ budget ∧
        ∃ windowStart, loadWindow out.2 = some ⟨out.1.committed, out.1.reserved, windowStart⟩ := by
  have refines := redis_refines (ι := ι) (le_max_left budget 0)
  obtain ⟨sound, rep⟩ := refines.run (le_max_right budget 0) fresh
  refine ⟨?_, ?_, refines.charged_once (le_max_right budget 0) fresh, ?_⟩
  · obtain ⟨windowStart, loaded⟩ := rep.window
    have committed : ((redis budget).ledger calls).committed = _ := committed_replay _
    rw [rep.reserved_eq, committed] at loaded
    exact ⟨windowStart, loaded⟩
  · intro id member n
    have live := (rep.members id).mp member
    rw [rep.amounts, storedFor, if_pos live]
    simp only [ne_eq, Option.some.injEq, reduceCtorEq, not_false_eq_true]
  · intro redisNow now window estimate resId ttl out allowed
    by_cases bad : estimate < 0 ∨ budget ≤ 0 ∨ window ≤ 0 ∨ ttl ≤ 0
    · simp only [out, reserveLua, if_pos bad] at allowed
      cases allowed
    obtain ⟨windowStart, x, _, _, _, spec⟩ :=
      reserveLua_spec sound rep redisNow now resId bad
    set M := tested now window ((redis budget).run calls) ((redis budget).ledger calls)
    by_cases full : M.committed + M.reserved + estimate > budget
    · simp only [out, spec, if_pos full] at allowed
      cases allowed
    · simp only [if_neg full] at spec
      simp only [out, spec]
      refine ⟨by linarith, if windowOver now window windowStart then now else windowStart, ?_⟩
      rw [loadWindow_congr (Key.pexpire_value _ (keysTtl_pos bad)), loadWindow_putWindow]

/-- A reservation that expires while its request runs, then a late and a duplicate settle. -/
def lateSettle : List (RedisCall ℕ) :=
  [.reserve 1000 1000 60000 60 1 100, .purge 1200, .reserve 1200 1200 60000 100 2 100,
    .settle 1 50 1250 60000, .settle 1 50 1260 60000]

theorem redis_accounting_lateSettle :
    (∃ windowStart, loadWindow ((redis 100).run lateSettle) = some
      ⟨(((sinceReset ((redis 100).log lateSettle)).filterMap Event.charge?).map Prod.snd).sum,
        ∑ id ∈ ((redis 100).run lateSettle).reservations.value.ids,
          liveAmount ((redis 100).run lateSettle) id,
        windowStart⟩) ∧
    ((((redis 100).log lateSettle).filterMap Event.charge?).map Prod.fst).Nodup :=
  have accounts := redis_accounting 100 lateSettle (by decide)
  ⟨accounts.1, accounts.2.2.1⟩

end RuntimePlatform.Budget
