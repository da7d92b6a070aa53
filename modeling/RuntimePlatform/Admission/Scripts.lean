import RuntimePlatform.Lib.Redis

/-!
The Lua scripts of the fleet-wide admission semaphore, on the three keys of one
tenant and model. A lease is a member of the sorted set, scored with its expiry;
the hash keeps the text of its fencing token; the counter hands tokens out.
-/

namespace RuntimePlatform.Admission
open Redis

/-- `KEYS[1]` leases, `KEYS[2]` tokens, `KEYS[3]` fence counter. The scripts treat the
text of a token as they find it, so its type is left open. -/
structure Keys (ι τ : Type) where
  leases : Key (ZSet ι)
  tokens : Key (Dict ι τ)
  fence : Key ℕ

/-- `{0, inflight, expired}` or `{1, token, inflight, expired}`. -/
inductive AcquireReply where
  | full (inflight expired : ℕ)
  | granted (token inflight expired : ℕ)
  deriving DecidableEq, Repr

section Scripts
variable {ι τ : Type}

def Keys.empty : Keys ι τ := ⟨Key.missing, Key.missing, Key.missing⟩

/-- What a script issued at `now` finds of the keys. -/
def Keys.evict (now : ℤ) (k : Keys ι τ) : Keys ι τ where
  leases := k.leases.evict now
  tokens := k.tokens.evict now
  fence := k.fence.evict now

variable [DecidableEq ι] [DecidableEq τ]

/-- The first lines of the acquire and purge scripts: drop the expired leases. -/
def reclaim (now : ℤ) (k : Keys ι τ) : Keys ι τ :=
  let expired := rangeByScore now k.leases.value
  if expired.length > 0 then
    { k with
      tokens := k.tokens.put (AList.eraseEach expired k.tokens.value)
      leases := k.leases.put (remRangeByScore now k.leases.value) }
  else k

/-- The acquire script; `tostring` is Lua's. -/
def acquireLua (tostring : ℕ → τ) (now ttl : ℤ) (limit : ℕ) (leaseId : ι) (k : Keys ι τ) :
    AcquireReply × Keys ι τ :=
  let expiredCount := (rangeByScore now k.leases.value).length
  let k := reclaim now k
  let inflight := card k.leases.value
  if inflight ≥ limit then (.full inflight expiredCount, k)
  else
    let token := k.fence.value + 1
    let k := { k with fence := k.fence.put token }
    let k := { k with leases := k.leases.put (k.leases.value.insert leaseId (now + ttl)) }
    let k := { k with tokens := k.tokens.put (k.tokens.value.insert leaseId (tostring token)) }
    (.granted token (inflight + 1) expiredCount,
      { leases := k.leases.pexpire now (ttl * 4)
        tokens := k.tokens.pexpire now (ttl * 4)
        fence := k.fence.pexpire now (ttl * 8) })

/-- The renew script; it leaves the counter alone. -/
def renewLua (now ttl : ℤ) (leaseId : ι) (token : τ) (k : Keys ι τ) : Bool × Keys ι τ :=
  if k.tokens.value.lookup leaseId ≠ some token then (false, k)
  else
    match k.leases.value.lookup leaseId with
    | none => (false, k)
    | some _ =>
      let k := { k with leases := k.leases.put (k.leases.value.insert leaseId (now + ttl)) }
      (true, { k with
        leases := k.leases.pexpire now (ttl * 4)
        tokens := k.tokens.pexpire now (ttl * 4) })

def releaseLua (leaseId : ι) (token : τ) (k : Keys ι τ) : Bool × Keys ι τ :=
  if k.tokens.value.lookup leaseId ≠ some token then (false, k)
  else
    (true, { k with
      leases := k.leases.put (k.leases.value.erase leaseId)
      tokens := k.tokens.put (k.tokens.value.erase leaseId) })

/-- The purge script; it answers the number of expired and of remaining leases. -/
def purgeLua (now : ℤ) (k : Keys ι τ) : (ℕ × ℕ) × Keys ι τ :=
  let expiredCount := (rangeByScore now k.leases.value).length
  let k := reclaim now k
  ((expiredCount, card k.leases.value), k)

end Scripts

/-! ## Runs -/

/-- One script run by some replica, at a reading of the common clock. -/
inductive Call (ι τ : Type) where
  | acquire (now : ℤ) (leaseId : ι)
  | renew (now : ℤ) (leaseId : ι) (token : τ)
  | release (now : ℤ) (leaseId : ι) (token : τ)
  | purge (now : ℤ)

def Call.now {ι τ : Type} : Call ι τ → ℤ
  | .acquire now _ | .renew now _ _ | .release now _ _ | .purge now => now

/-- The lease id an acquire attempt draws. -/
def Call.draws {ι τ : Type} : Call ι τ → List ι
  | .acquire _ leaseId => [leaseId]
  | _ => []

/-- The settings all replicas share. -/
structure Settings (τ : Type) where
  ttl : ℤ
  limit : ℕ
  tostring : ℕ → τ

section Runs
variable {ι τ : Type} [DecidableEq ι] [DecidableEq τ] (S : Settings τ)

def Settings.exec (k : Keys ι τ) : Call ι τ → Keys ι τ
  | .acquire now leaseId => (acquireLua S.tostring now S.ttl S.limit leaseId (k.evict now)).2
  | .renew now leaseId token => (renewLua now S.ttl leaseId token (k.evict now)).2
  | .release now leaseId token => (releaseLua leaseId token (k.evict now)).2
  | .purge now => (purgeLua now (k.evict now)).2

/-- The token of an acquire that succeeds from these keys. -/
def Settings.granted? (k : Keys ι τ) : Call ι τ → Option (ι × ℕ)
  | .acquire now leaseId =>
      match (acquireLua S.tostring now S.ttl S.limit leaseId (k.evict now)).1 with
      | .granted token _ _ => some (leaseId, token)
      | .full _ _ => none
  | _ => none

def Settings.runFrom (k : Keys ι τ) (calls : List (Call ι τ)) : Keys ι τ := calls.foldl S.exec k

def Settings.run (calls : List (Call ι τ)) : Keys ι τ := S.runFrom Keys.empty calls

@[simp] theorem Settings.runFrom_append (k : Keys ι τ) (calls more : List (Call ι τ)) :
    S.runFrom k (calls ++ more) = S.runFrom (S.runFrom k calls) more := List.foldl_append

@[simp] theorem Settings.runFrom_cons (k : Keys ι τ) (c : Call ι τ) (calls : List (Call ι τ)) :
    S.runFrom k (c :: calls) = S.runFrom (S.exec k c) calls := rfl

end Runs

end RuntimePlatform.Admission
