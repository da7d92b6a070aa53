import RuntimePlatform.Lib.Redis
import RuntimePlatform.Tenant.Memory

/-!
The tenant counters in Redis. The three scripts run atomically on the two keys of a team, with a
date which the gateway read before it sent them. Their counts are those of Redis below `10 ^ 14`,
which Lua's `tostring` prints in full; beyond it HINCRBY cannot read what a refund has written.
-/

namespace RuntimePlatform.Tenant
open Redis

/-- The usage hash; its fields are written together. -/
structure UsageHash (S : Type) where
  day : ℤ
  tokens : ℤ
  spend_usd : S

/-- `KEYS[1]` the sliding window, `KEYS[2]` the usage hash. -/
structure TenantKeys (S : Type) where
  rpm : Key (ZSet String)
  usage : Key (Option (UsageHash S))

instance decidableNoHash {S : Type} (v : Option (UsageHash S)) : Decidable (v = default) :=
  match v with
  | none => isTrue rfl
  | some _ => isFalse nofun

/-- So many tokens come to counts which are printed in full. -/
def Printed (tokens : List ℕ) : Prop := tokens.sum < 10 ^ 14

instance (tokens : List ℕ) : Decidable (Printed tokens) := inferInstanceAs (Decidable (_ < _))

variable {S : Type} (F : Spending S)

/-- The hash after `if day ~= today then HSET ...`. -/
def rolled (asked : ℤ) (usage : Option (UsageHash S)) : UsageHash S :=
  match usage with
  | some hash => if hash.day = asked then hash else ⟨asked, 0, F.zero⟩
  | none => ⟨asked, 0, F.zero⟩

def RESERVE_LUA (now : ℤ) (member : String) (token_delta : ℕ) (asked : ℤ) (spend_delta : S) (k : TenantKeys S) :
    TenantKeys S × ℕ × ℤ × S :=
  let rpm := k.rpm.evict now
  let rpm := rpm.put (remRangeByScore (now - WINDOW_SECONDS * 1000) rpm.value)
  let rpm := rpm.put (rpm.value.insert member now)
  let rpm := rpm.pexpire now ((WINDOW_SECONDS + 1) * 1000)
  let usage := k.usage.evict now
  let hash := rolled F asked usage.value
  let hash := { hash with tokens := hash.tokens + token_delta, spend_usd := F.add hash.spend_usd spend_delta }
  (⟨rpm, (usage.put (some hash)).pexpire now 172800000⟩, card rpm.value, hash.tokens, hash.spend_usd)

def REFUND_LUA (now : ℤ) (member : String) (token_delta : ℕ) (asked : ℤ) (spend_delta : S) (k : TenantKeys S) :
    TenantKeys S :=
  let rpm := k.rpm.evict now
  let rpm := rpm.put (rpm.value.erase member)
  let usage := k.usage.evict now
  match usage.value with
  | some hash =>
    if hash.day = asked then
      ⟨rpm, usage.put (some { hash with
        tokens := max 0 (hash.tokens - token_delta)
        spend_usd := F.clamp (F.sub hash.spend_usd spend_delta) })⟩
    else ⟨rpm, usage⟩
  | none => ⟨rpm, usage⟩

def RECONCILE_LUA (now : ℤ) (token_delta asked : ℤ) (spend_delta : S) (k : TenantKeys S) : TenantKeys S × ℤ × S :=
  let usage := k.usage.evict now
  let hash := rolled F asked usage.value
  let hash := { hash with
    tokens := max 0 (hash.tokens + token_delta)
    spend_usd := F.clamp (F.add hash.spend_usd spend_delta) }
  ({ k with usage := (usage.put (some hash)).pexpire now 172800000 }, hash.tokens, hash.spend_usd)

/-- The keys of the teams. -/
abbrev RedisTenantAttributionStore (S : Type) := String → TenantKeys S

namespace RedisTenantAttributionStore

def empty : RedisTenantAttributionStore S := fun _ => ⟨Key.missing, Key.missing⟩

def reserve_request (store : RedisTenantAttributionStore S) (now asked : ℤ) (team : String)
    (input_tokens output_tokens : ℕ) (spend_usd : S) (member_id : String) :
    RedisTenantAttributionStore S × QuotaReservation S :=
  let token_delta := input_tokens + output_tokens
  let (keys, rpm, tokens_today, spend) := RESERVE_LUA F now member_id token_delta asked spend_usd (store team)
  (Function.update store team keys, ⟨team, member_id, token_delta, spend_usd, rpm, tokens_today, spend⟩)

def refund_reservation (store : RedisTenantAttributionStore S) (now asked : ℤ) (reservation : QuotaReservation S) :
    RedisTenantAttributionStore S :=
  Function.update store reservation.team (REFUND_LUA F now reservation.member_id reservation.reserved_tokens asked
    reservation.reserved_spend_usd (store reservation.team))

def reconcile_usage (store : RedisTenantAttributionStore S) (now asked : ℤ) (reservation : QuotaReservation S)
    (actual_input_tokens actual_output_tokens : ℕ) (actual_spend_usd : S) : RedisTenantAttributionStore S × ℤ × S :=
  let actual_tokens := actual_input_tokens + actual_output_tokens
  let token_delta : ℤ := actual_tokens - reservation.reserved_tokens
  let spend_delta := F.delta actual_spend_usd reservation.reserved_spend_usd
  let (keys, tokens_today, spend) := RECONCILE_LUA F now token_delta asked spend_delta (store reservation.team)
  (Function.update store reservation.team keys, tokens_today, spend)

/-- What its three commands answer at one moment. That the first of them, ZREMRANGEBYSCORE, also prunes the window is
left out here. -/
def usage_snapshot (store : RedisTenantAttributionStore S) (now : ℤ) (team : String) : ℕ × ℤ :=
  let rpm := card (remRangeByScore (now - WINDOW_SECONDS * 1000) ((store team).rpm.evict now).value)
  match ((store team).usage.evict now).value with
  | some hash => (rpm, if hash.day = today now then hash.tokens else 0)
  | none => (rpm, 0)

def spend_snapshot (store : RedisTenantAttributionStore S) (now : ℤ) (team : String) : S :=
  match ((store team).usage.evict now).value with
  | some hash => if hash.day = today now then hash.spend_usd else F.zero
  | none => F.zero

/-- The store behind the interface; it awaits Redis after it has read the date. -/
def backend : TenantAttributionBackend (RedisTenantAttributionStore S) S where
  empty := empty
  awaits := true
  reserve_request := reserve_request F
  refund_reservation := refund_reservation F
  reconcile_usage := reconcile_usage F
  usage_snapshot := usage_snapshot
  spend_snapshot := spend_snapshot F

variable {F}

/-- The tokens which a hash has for a day. -/
def tokensOn (usage : Option (UsageHash S)) (day : ℤ) : ℤ :=
  match usage with
  | some hash => if hash.day = day then hash.tokens else 0
  | none => 0

/-- A hash lives until its day is over, and it is of no later day. -/
def Lives (usage : Key (Option (UsageHash S))) (now : ℤ) : Prop :=
  ∀ hash, usage.value = some hash → hash.day ≤ today now ∧
    ∃ deadline, usage.deadline = some deadline ∧ (hash.day + 1) * 86400000 ≤ deadline

def AllLive (store : RedisTenantAttributionStore S) (now : ℤ) : Prop := ∀ team, Lives (store team).usage now

/-- A hash which is gone is of an earlier day. -/
theorem Lives.evict_cases {usage : Key (Option (UsageHash S))} {now : ℤ} (lives : Lives usage now) :
    usage.evict now = usage ∨
      (usage.evict now).value = none ∧ ∀ hash, usage.value = some hash → hash.day ≠ today now := by
  by_cases gone : usage.expired now
  · refine Or.inr ⟨by rw [Key.evict_of gone]; rfl, fun hash found same => ?_⟩
    obtain ⟨_, deadline, due, long⟩ := lives hash found
    obtain ⟨passed, known, before⟩ := gone
    obtain rfl := Option.some.inj (due.symm.trans known)
    rw [same] at long
    unfold today at long
    omega
  · exact Or.inl (Key.evict_of_not gone)

/-- A hash which is gone has no tokens for the day. -/
theorem tokensOn_evict {usage : Key (Option (UsageHash S))} {now : ℤ} (lives : Lives usage now) :
    tokensOn (usage.evict now).value (today now) = tokensOn usage.value (today now) := by
  rcases lives.evict_cases with same | ⟨gone, earlier⟩
  · rw [same]
  · rw [gone]
    cases found : usage.value with
    | none => rfl
    | some hash => exact (if_neg (earlier hash found)).symm

theorem count_eq {store : RedisTenantAttributionStore S} {now : ℤ} (live : AllLive store now) (team : String) :
    (backend F).count store now team = tokensOn (store team).usage.value (today now) := by
  rw [← tokensOn_evict (live team)]
  change (usage_snapshot store now team).2 = _
  unfold usage_snapshot tokensOn
  cases ((store team).usage.evict now).value with
  | none => rfl
  | some hash => rfl

theorem lives_evict {usage : Key (Option (UsageHash S))} {now : ℤ} (lives : Lives usage now) :
    Lives (usage.evict now) now := by
  rcases usage.evict_cases now with same | gone
  · rw [same]
    exact lives
  · rw [gone]
    exact fun _ bad => nomatch bad

theorem rolled_day (asked : ℤ) (usage : Option (UsageHash S)) : (rolled F asked usage).day = asked := by
  unfold rolled
  cases usage with
  | none => rfl
  | some hash =>
      dsimp only
      split
      · assumption
      · rfl

theorem rolled_tokens (asked : ℤ) (usage : Option (UsageHash S)) :
    (rolled F asked usage).tokens = tokensOn usage asked := by
  unfold rolled tokensOn
  cases usage with
  | none => rfl
  | some hash =>
      dsimp only
      split
      · rfl
      · rfl

/-- What the two scripts which roll the day leave of the hash. -/
theorem stored_value (usage : Key (Option (UsageHash S))) (hash : UsageHash S) (now : ℤ) :
    ((usage.put (some hash)).pexpire now 172800000).value = some hash := by
  rw [Key.pexpire_value _ (by decide), Key.put_value]

theorem lives_stored (usage : Key (Option (UsageHash S))) {hash : UsageHash S} {now : ℤ}
    (early : hash.day ≤ today now) :
    Lives ((usage.put (some hash)).pexpire now 172800000) now := by
  intro other same
  rw [stored_value] at same
  obtain rfl := Option.some.inj same
  have present : (usage.put (some hash)).value ≠ default := by
    rw [Key.put_value]
    exact nofun
  refine ⟨early, _, Key.pexpire_deadline (by decide) present, ?_⟩
  unfold today at early
  omega

/-- A write of the hash keeps its deadline. -/
theorem lives_put {usage : Key (Option (UsageHash S))} {hash other : UsageHash S} {now : ℤ} (lives : Lives usage now)
    (found : usage.value = some hash) (same : other.day = hash.day) : Lives (usage.put (some other)) now := by
  intro written equal
  rw [Key.put_value] at equal
  obtain rfl : other = written := Option.some.inj equal
  have present : (some other : Option (UsageHash S)) ≠ default := nofun
  rw [Key.put_deadline _ present, same]
  exact lives hash found

/-- What a write of the keys of one team does to the counts of all. -/
theorem counted_write {store written : RedisTenantAttributionStore S} {now : ℤ} (live : AllLive store now)
    {team : String} {keys : TenantKeys S} (writes : written = Function.update store team keys)
    (lives : Lives keys.usage now) : AllLive written now ∧ ∀ other, (backend F).count written now other =
      if other = team then tokensOn keys.usage.value (today now) else (backend F).count store now other := by
  have kept : AllLive written now := by
    intro other
    rw [writes]
    by_cases here : other = team
    · rw [here, Function.update_self]
      exact lives
    · rw [Function.update_of_ne here]
      exact live other
  refine ⟨kept, fun other => ?_⟩
  rw [count_eq kept, count_eq live, writes]
  by_cases here : other = team
  · rw [here, Function.update_self, if_pos rfl]
  · rw [Function.update_of_ne here, if_neg here]

/-- A refund touches the hash of its own date only. -/
theorem refund_usage {keys : TenantKeys S} {now asked : ℤ} (lives : Lives keys.usage now) (member : String)
    (token_delta : ℕ) (spend_delta : S) :
    Lives (REFUND_LUA F now member token_delta asked spend_delta keys).usage now ∧
      tokensOn (REFUND_LUA F now member token_delta asked spend_delta keys).usage.value (today now) =
        if asked = today now then max 0 (tokensOn keys.usage.value (today now) - token_delta)
        else tokensOn keys.usage.value (today now) := by
  have evicted := lives_evict lives
  rw [← tokensOn_evict lives]
  unfold REFUND_LUA
  dsimp only
  cases found : (keys.usage.evict now).value with
  | none =>
      refine ⟨evicted, ?_⟩
      dsimp only
      rw [found]
      change (0 : ℤ) = if asked = today now then max 0 (0 - (token_delta : ℤ)) else 0
      split <;> omega
  | some hash =>
      by_cases here : hash.day = asked
      · simp only [if_pos here]
        refine ⟨lives_put evicted found rfl, ?_⟩
        rw [Key.put_value]
        unfold tokensOn
        dsimp only
        rw [here]
        split
        · rfl
        · rfl
      · simp only [if_neg here]
        refine ⟨evicted, ?_⟩
        rw [found]
        unfold tokensOn
        dsimp only
        by_cases timely : asked = today now
        · rw [if_pos timely, if_neg (timely ▸ here)]
          omega
        · rw [if_neg timely]

/-- The store counts as the interface asks. -/
theorem counts (F : Spending S) : Counts (backend F) AllLive where
  empty now := ⟨fun _ _ bad => (nomatch bad), fun _ => rfl⟩
  wait store now ms live := by
    have later : AllLive store (now + ms) := fun team hash found =>
      ⟨(live team hash found).1.trans (today_mono ms), (live team hash found).2⟩
    refine ⟨later, fun team => ?_⟩
    rw [count_eq later, count_eq live]
    by_cases same : today (now + ms) = today now
    · rw [if_pos same, same]
    · rw [if_neg same]
      unfold tokensOn
      cases found : (store team).usage.value with
      | none => rfl
      | some hash =>
          refine if_neg fun here => same ?_
          exact le_antisymm (here ▸ (live team hash found).1) (today_mono ms)
  reserve store now asked team input_tokens output_tokens spend_usd member_id live may := by
    have writes : (reserve_request F store now asked team input_tokens output_tokens spend_usd member_id).1 =
        Function.update store team (RESERVE_LUA F now member_id (input_tokens + output_tokens) asked spend_usd
          (store team)).1 := rfl
    have day := rolled_day (F := F) asked ((store team).usage.evict now).value
    obtain ⟨kept, counted⟩ := counted_write (F := F) live writes (lives_stored _ (by rw [day]; exact may.1))
    refine ⟨kept, ⟨rfl, rfl⟩, fun other => (counted other).trans ?_⟩
    by_cases here : other = team
    · rw [if_pos here, if_pos here, count_eq live, ← tokensOn_evict (live team)]
      simp only [RESERVE_LUA, stored_value, tokensOn, day]
      by_cases timely : asked = today now
      · rw [if_pos timely, if_pos timely, rolled_tokens, timely]
        rfl
      · rw [if_neg timely, if_neg timely]
    · rw [if_neg here, if_neg here]
  refund store now asked reservation live may := by
    have writes : refund_reservation F store now asked reservation = Function.update store reservation.team
        (REFUND_LUA F now reservation.member_id reservation.reserved_tokens asked reservation.reserved_spend_usd
          (store reservation.team)) := rfl
    obtain ⟨lives, tokens⟩ := refund_usage (live reservation.team) reservation.member_id reservation.reserved_tokens
      reservation.reserved_spend_usd
    obtain ⟨kept, counted⟩ := counted_write (F := F) live writes lives
    refine ⟨kept, fun other => (counted other).trans ?_⟩
    by_cases here : other = reservation.team
    · rw [here, if_pos rfl, tokens, count_eq live]
      by_cases timely : asked = today now
      · rw [if_pos timely, if_pos ⟨rfl, timely⟩]
      · rw [if_neg timely, if_neg fun both => timely both.2]
    · rw [if_neg here, if_neg fun both => here both.1]
  reconcile store now asked reservation actual_input_tokens actual_output_tokens actual_spend_usd live may := by
    have writes : (reconcile_usage F store now asked reservation actual_input_tokens actual_output_tokens
        actual_spend_usd).1 = Function.update store reservation.team (RECONCILE_LUA F now
          ((actual_input_tokens + actual_output_tokens : ℕ) - reservation.reserved_tokens) asked
          (F.delta actual_spend_usd reservation.reserved_spend_usd) (store reservation.team)).1 := rfl
    have day := rolled_day (F := F) asked ((store reservation.team).usage.evict now).value
    obtain ⟨kept, counted⟩ := counted_write (F := F) live writes (lives_stored _ (by rw [day]; exact may.1))
    refine ⟨kept, fun other => (counted other).trans ?_⟩
    by_cases here : other = reservation.team
    · rw [here, if_pos rfl, if_pos rfl, count_eq live, ← tokensOn_evict (live reservation.team)]
      simp only [RECONCILE_LUA, stored_value, tokensOn, day]
      by_cases timely : asked = today now
      · rw [if_pos timely, if_pos timely, rolled_tokens, timely]
        rfl
      · rw [if_neg timely, if_neg timely]
    · rw [if_neg here, if_neg here]

end RedisTenantAttributionStore
end RuntimePlatform.Tenant
