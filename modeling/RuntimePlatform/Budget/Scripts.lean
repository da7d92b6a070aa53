import RuntimePlatform.Lib.Redis
import Mathlib.Algebra.Ring.Int.Defs

/-!
The Lua scripts of the inference budget guard. Each script runs atomically on the
three keys of one scope. Its arguments are integers written by the gateway, so
`tonumber` reads them; what is stored in the keys is checked as the scripts check it.
Sums are exact, as those of Lua's doubles are while the amounts stay below `2 ^ 53`.
-/

namespace RuntimePlatform.Budget
open Redis

/-- The text of a stored field. `other` is any text which is neither a decimal
integer nor `x` before one. -/
inductive Stored where
  | int (n : ℤ)
  | tombstone (n : ℤ)
  | other
  deriving DecidableEq

def Stored.tonumber : Stored → Option ℤ
  | .int n => some n
  | .tombstone _ | .other => none

/-- The fields of the window hash; an absent field is `none`. -/
structure WindowHash where
  committedMicros : Option Stored
  reservedMicros : Option Stored
  windowStart : Option Stored
  deriving DecidableEq, Inhabited

/-- `KEYS[1]` window hash, `KEYS[2]` reservations (id to expiry), `KEYS[3]` amounts. -/
structure Keys (ι : Type) where
  window : Key WindowHash
  reservations : Key (ZSet ι)
  amounts : Key (Dict ι Stored)

structure ReserveReply where
  code : ℤ
  committed : ℤ
  reserved : ℤ
  total : ℤ
  expired : ℤ
  deriving DecidableEq

structure SettleReply where
  code : ℤ
  committed : ℤ
  reserved : ℤ
  reservedAmt : ℤ
  deriving DecidableEq

structure PurgeReply where
  expiredCount : ℤ
  released : ℤ
  committed : ℤ
  reserved : ℤ
  deriving DecidableEq

/-- What `load_window` returns. -/
structure Loaded where
  committed : ℤ
  reserved : ℤ
  windowStart : ℤ

def num : Option Stored → Option ℤ
  | none => some 0
  | some v => v.tonumber

section Scripts
variable {ι : Type}

def Keys.empty : Keys ι := ⟨Key.missing, Key.missing, Key.missing⟩

def loadWindow (k : Keys ι) : Option Loaded :=
  match num k.window.value.committedMicros, num k.window.value.reservedMicros,
      num k.window.value.windowStart with
  | some committed, some reserved, some windowStart => some ⟨committed, reserved, windowStart⟩
  | _, _, _ => none

/-- The window test of the reserve and settle scripts. -/
def windowOver (now window windowStart : ℤ) : Prop := windowStart = 0 ∨ now - windowStart ≥ window

instance (now window windowStart : ℤ) : Decidable (windowOver now window windowStart) :=
  inferInstanceAs (Decidable (_ ∨ _))

def putWindow (committed reserved windowStart : ℤ) (k : Keys ι) : Keys ι :=
  { k with window := k.window.put ⟨some (.int committed), some (.int reserved), some (.int windowStart)⟩ }

@[simp] theorem loadWindow_putWindow (committed reserved windowStart : ℤ) (k : Keys ι) :
    loadWindow (putWindow committed reserved windowStart k) =
      some ⟨committed, reserved, windowStart⟩ := by
  simp [loadWindow, putWindow, num, Stored.tonumber]

theorem putWindow_ne_default (committed reserved windowStart : ℤ) (k : Keys ι) :
    (putWindow committed reserved windowStart k).window.value ≠ default := by
  rw [putWindow, Key.put_value]
  intro same
  cases congrArg WindowHash.windowStart same

theorem putWindow_deadline (committed reserved windowStart : ℤ) (k : Keys ι) :
    (putWindow committed reserved windowStart k).window.deadline = k.window.deadline := by
  refine Key.put_deadline _ ?_
  intro same
  cases congrArg WindowHash.windowStart same

theorem loadWindow_eq_some {k : Keys ι} {w : Loaded} :
    loadWindow k = some w ↔ num k.window.value.committedMicros = some w.committed ∧
      num k.window.value.reservedMicros = some w.reserved ∧
      num k.window.value.windowStart = some w.windowStart := by
  unfold loadWindow
  constructor
  · intro h
    split at h
    · next committed reserved windowStart =>
        cases h
        exact ⟨committed, reserved, windowStart⟩
    · cases h
  · rintro ⟨committed, reserved, windowStart⟩
    simp only [committed, reserved, windowStart]

theorem loadWindow_congr {k k' : Keys ι} (h : k.window.value = k'.window.value) : loadWindow k = loadWindow k' := by
  simp only [loadWindow, h]

variable [DecidableEq ι]

/-- The amount an expiring id gives back: nothing without a stored amount, `none`
when the stored text is not a number. -/
def storedAmount (k : Keys ι) (id : ι) : Option ℤ :=
  match k.amounts.value.lookup id with
  | none => some 0
  | some raw => raw.tonumber

structure Expired (ι : Type) where
  keys : Keys ι
  reserved : ℤ
  count : ℤ
  released : ℤ

/-- Expire reservations whose time has passed, leaving tombstones; `none`, with
nothing modified, when a stored amount is corrupt. -/
def expire (now reserved : ℤ) (k : Keys ι) : Option (Expired ι) :=
  let expired := rangeByScore now k.reservations.value
  if expired.any fun id => (storedAmount k id).isNone then none
  else
    let amount := fun id => (storedAmount k id).getD 0
    let released := (expired.map amount).sum
    let amounts := k.amounts.put
      (AList.insertEach (fun id => Stored.tombstone (amount id)) expired k.amounts.value)
    let reservations := k.reservations.put (remRangeByScore now k.reservations.value)
    let left := reserved - released
    some {
      keys := { k with reservations, amounts }
      reserved := if left < 0 then 0 else left
      count := expired.length
      released }

def touch (redisNow ttl : ℤ) (k : Keys ι) : Keys ι where
  window := k.window.pexpire redisNow ttl
  reservations := k.reservations.pexpire redisNow ttl
  amounts := k.amounts.pexpire redisNow ttl

/-- The reserve script; `redisNow` is the server's own clock, which only the
deadlines of the keys depend on. -/
def reserveLua (redisNow now window budget estimate : ℤ) (resId : ι) (ttl : ℤ) (k : Keys ι) :
    ReserveReply × Keys ι :=
  if estimate < 0 ∨ budget ≤ 0 ∨ window ≤ 0 ∨ ttl ≤ 0 then (⟨-1, 0, 0, 0, 0⟩, k)
  else
    let keysTtl := max window ttl * 4
    match loadWindow k with
    | none => (⟨-2, 0, 0, 0, 0⟩, k)
    | some w =>
      match expire now w.reserved k with
      | none => (⟨-2, 0, 0, 0, 0⟩, k)
      | some x =>
        -- Window rollover resets committed spend only; live reservations carry over.
        let rolled := windowOver now window w.windowStart
        let windowStart := if rolled then now else w.windowStart
        let committed := if rolled then 0 else w.committed
        if committed + x.reserved + estimate > budget then
          (⟨0, committed, x.reserved, committed + x.reserved, x.count⟩,
            touch redisNow keysTtl (putWindow committed x.reserved windowStart x.keys))
        else
          let reserved := x.reserved + estimate
          let k := putWindow committed reserved windowStart x.keys
          let k := { k with reservations := k.reservations.put (k.reservations.value.insert resId (now + ttl)) }
          let k := { k with amounts := k.amounts.put (k.amounts.value.insert resId (.int estimate)) }
          (⟨1, committed, reserved, committed + reserved, x.count⟩, touch redisNow keysTtl k)

/-- The stored amount as the settle script splits it: whether it is a tombstone,
and its number. -/
def splitAmount : Stored → Bool × Option ℤ
  | .int n => (false, some n)
  | .tombstone n => (true, some n)
  | .other => (false, none)

/-- The settle script. -/
def settleLua (resId : ι) (actual now window : ℤ) (k : Keys ι) : SettleReply × Keys ι :=
  if actual < 0 ∨ window ≤ 0 then (⟨-1, 0, 0, 0⟩, k)
  else
    match k.amounts.value.lookup resId with
    | none => (⟨0, 0, 0, 0⟩, k)
    | some raw =>
      let tombstone := (splitAmount raw).1
      match (splitAmount raw).2, loadWindow k with
      | some amt, some w =>
        let rolled := windowOver now window w.windowStart
        let windowStart := if rolled then now else w.windowStart
        let committed := (if rolled then 0 else w.committed) + actual
        let left := w.reserved - amt
        let reserved := if tombstone then w.reserved else if left < 0 then 0 else left
        let k := { k with amounts := k.amounts.put (k.amounts.value.erase resId) }
        let k := { k with reservations := k.reservations.put (k.reservations.value.erase resId) }
        (⟨if tombstone then 2 else 1, committed, reserved, amt⟩,
          putWindow committed reserved windowStart k)
      | _, _ => (⟨-2, 0, 0, 0⟩, k)

/-- The purge script. It writes the reserved field only, and only when something expired. -/
def purgeLua (now : ℤ) (k : Keys ι) : PurgeReply × Keys ι :=
  match loadWindow k with
  | none => (⟨-2, 0, 0, 0⟩, k)
  | some w =>
    match expire now w.reserved k with
    | none => (⟨-2, 0, 0, 0⟩, k)
    | some x =>
      let window := { x.keys.window.value with reservedMicros := some (.int x.reserved) }
      (⟨x.count, x.released, w.committed, x.reserved⟩,
        if x.count > 0 then { x.keys with window := x.keys.window.put window } else x.keys)

/-- What a script issued at `now` finds of the three keys. -/
def Keys.evict (now : ℤ) (k : Keys ι) : Keys ι where
  window := k.window.evict now
  reservations := k.reservations.evict now
  amounts := k.amounts.evict now

end Scripts
end RuntimePlatform.Budget
