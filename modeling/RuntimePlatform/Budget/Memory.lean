import RuntimePlatform.Lib.Dict
import Mathlib.Order.Lattice
import Mathlib.Data.Int.Basic

/-!
The in-process store of the budget guard: one `_MemoryWindow` per scope, which the
first reserve of the scope creates. Times and amounts are the integers of the code.
-/

namespace RuntimePlatform.Budget
variable {ι : Type}

/-- `reservations` maps an id to its expiry and amount, `tombstones` an expired and
unsettled id to the time after which it is forgotten and its amount. -/
structure MemoryWindow (ι : Type) where
  windowStartMs : ℤ
  committedMicros : ℤ
  reservedMicros : ℤ
  reservations : Dict ι (ℤ × ℤ)
  tombstones : Dict ι (ℤ × ℤ)

def MemoryWindow.new : MemoryWindow ι := ⟨0, 0, 0, ∅, ∅⟩

/-- The three numbers of a reserve result which the guard reads. -/
structure ReserveResult where
  code : ℤ
  committed : ℤ
  reserved : ℤ
  deriving DecidableEq, Repr

/-- What `_interpret_reserve_result` makes of three integers. -/
inductive Interpreted where
  | corrupt
  | exceeded (committed reserved : ℤ)
  | allowed (committed reserved : ℤ)
  deriving DecidableEq, Repr

def interpret (r : ReserveResult) : Interpreted :=
  if (r.code ≠ 0 ∧ r.code ≠ 1) ∨ r.committed < 0 ∨ r.reserved < 0 then .corrupt
  else if r.code = 0 then .exceeded r.committed r.reserved
  else .allowed r.committed r.reserved

namespace MemoryWindow

def rollWindow (nowMs windowMs : ℤ) (state : MemoryWindow ι) : MemoryWindow ι :=
  if state.windowStartMs = 0 ∨ nowMs - state.windowStartMs ≥ windowMs then
    { state with windowStartMs := nowMs, committedMicros := 0 }
  else state

/-- The ids the expiry loop runs over. -/
def expiredIds (nowMs : ℤ) (state : MemoryWindow ι) : List ι :=
  (state.reservations.filter fun _ entry => decide (entry.1 ≤ nowMs)).keys

def staleIds (nowMs : ℤ) (state : MemoryWindow ι) : List ι :=
  (state.tombstones.filter fun _ entry => decide (entry.1 ≤ nowMs)).keys

variable [DecidableEq ι]

/-- One pass of the expiry loop. -/
def popExpired (nowMs keysTtlMs : ℤ) (state : MemoryWindow ι) (resId : ι) : MemoryWindow ι :=
  match state.reservations.lookup resId with
  | none => state -- not reached: the id was read from the dict
  | some (_, amt) =>
    { state with
      reservations := state.reservations.erase resId
      reservedMicros := max 0 (state.reservedMicros - amt)
      tombstones := state.tombstones.insert resId (nowMs + keysTtlMs, amt) }

def dropStale (nowMs : ℤ) (state : MemoryWindow ι) : MemoryWindow ι :=
  { state with tombstones := AList.eraseEach (staleIds nowMs state) state.tombstones }

def sweep (nowMs keysTtlMs : ℤ) (state : MemoryWindow ι) : MemoryWindow ι :=
  (expiredIds nowMs state).foldl (popExpired nowMs keysTtlMs) state

/-- `_expire_memory`, without the count of expired ids that it returns. -/
def expireMemory (nowMs keysTtlMs : ℤ) (state : MemoryWindow ι) : MemoryWindow ι :=
  dropStale nowMs (sweep nowMs keysTtlMs state)

/-- `_reserve_memory` under the lock, on the state that `setdefault` gives. -/
def reserve (nowMs windowMs budgetMicros estimateMicros : ℤ) (resId : ι) (ttlMs : ℤ)
    (state : MemoryWindow ι) : ReserveResult × MemoryWindow ι :=
  let state := expireMemory nowMs (max windowMs ttlMs * 4) state
  let state := rollWindow nowMs windowMs state
  if state.committedMicros + state.reservedMicros + estimateMicros > budgetMicros then
    (⟨0, state.committedMicros, state.reservedMicros⟩, state)
  else
    let state := { state with
      reservedMicros := state.reservedMicros + estimateMicros
      reservations := state.reservations.insert resId (nowMs + ttlMs, estimateMicros) }
    (⟨1, state.committedMicros, state.reservedMicros⟩, state)

/-- The in-process half of `_settle`; true when the settle took effect. -/
def settle (resId : ι) (actualMicros nowMs windowMs : ℤ) (state : MemoryWindow ι) :
    Bool × MemoryWindow ι :=
  let charge := fun state =>
    let state := rollWindow nowMs windowMs state
    { state with committedMicros := state.committedMicros + actualMicros }
  match state.reservations.lookup resId with
  | some (_, reservedAmt) =>
    (true, charge { state with
      reservations := state.reservations.erase resId
      reservedMicros := max 0 (state.reservedMicros - reservedAmt) })
  | none =>
    match state.tombstones.lookup resId with
    | none => (false, state)
    | some _ => (true, charge { state with tombstones := state.tombstones.erase resId })

end MemoryWindow

/-- The tombstone life of `purge_expired` and `snapshot_micros`, which do not know the scope's own. -/
def purgeTtlMs : ℤ := 4 * 3600000

section Scope
variable [DecidableEq ι]
open MemoryWindow

/-! The guard on one scope: `none` until the scope is first reserved. -/

def reserveMemory (nowMs windowMs budgetMicros estimateMicros : ℤ) (resId : ι) (ttlMs : ℤ)
    (memory : Option (MemoryWindow ι)) : ReserveResult × Option (MemoryWindow ι) :=
  let out := (memory.getD .new).reserve nowMs windowMs budgetMicros estimateMicros resId ttlMs
  (out.1, some out.2)

/-- A settle through the guard; `actualMicros` is what the reservation asks to charge. -/
def settleMemory (resId : ι) (actualMicros nowMs windowMs : ℤ)
    (memory : Option (MemoryWindow ι)) : Option (MemoryWindow ι) :=
  memory.map fun state => (state.settle resId (max 0 actualMicros) nowMs windowMs).2

def purgeMemory (nowMs : ℤ) (memory : Option (MemoryWindow ι)) : Option (MemoryWindow ι) :=
  memory.map (expireMemory nowMs purgeTtlMs)

end Scope
end RuntimePlatform.Budget
