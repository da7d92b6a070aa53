import RuntimePlatform.Tenant.Reports

/-!
The two tenant stores side by side, on one team and with the same clock: what they answer at every reservation and at
every snapshot.
-/

namespace RuntimePlatform.Tenant

variable {S : Type}

/-- What `usage_snapshot` leaves of the store: it prunes the window, and starts the counts afresh on a new day. -/
def TenantAttributionStore.looked (F : Spending S) (store : TenantAttributionStore S) (now : ℤ) (team : String) :
    TenantAttributionStore S :=
  store.put team (store.get F now (today now) team)

/-- What `usage_snapshot` leaves in Redis, after its ZREMRANGEBYSCORE. -/
def RedisTenantAttributionStore.looked (store : RedisTenantAttributionStore S) (now : ℤ) (team : String) :
    RedisTenantAttributionStore S :=
  let rpm := (store team).rpm.evict now
  Function.update store team
    { store team with rpm := rpm.put (Redis.remRangeByScore (now - WINDOW_SECONDS * 1000) rpm.value) }

/-- A reservation as each of the stores has returned it. -/
structure Made (S : Type) where
  process : QuotaReservation S
  redis : QuotaReservation S
  time : ℤ
  refunded : Bool

structure Pair (S : Type) where
  process : TenantAttributionStore S
  redis : RedisTenantAttributionStore S
  now : ℤ
  made : List (Made S)

/-- The operations on one team, and the time which passes. -/
inductive Op (S : Type) where
  | wait (ms : ℕ)
  | reserve (input_tokens output_tokens : ℕ) (spend_usd : S) (member_id : String)
  | refund (i : ℕ)
  | reconcile (i actual_input_tokens actual_output_tokens : ℕ) (actual_spend_usd : S)
  | snapshot

/-- The tokens which are brought in. -/
def Op.tokens : Op S → ℕ
  | .reserve input_tokens output_tokens _ _ => input_tokens + output_tokens
  | .reconcile _ actual_input_tokens actual_output_tokens _ => actual_input_tokens + actual_output_tokens
  | .wait _ | .refund _ | .snapshot => 0

def Pair.Fresh (p : Pair S) (member_id : String) : Prop := ∀ m ∈ p.made, m.process.member_id ≠ member_id

instance (p : Pair S) (member_id : String) : Decidable (p.Fresh member_id) :=
  inferInstanceAs (Decidable (∀ m ∈ p.made, _))

section Stores
variable (F G : Spending S) (team : String)

def Pair.step (p : Pair S) : Op S → Pair S
  | .wait ms => { p with now := p.now + ms }
  | .reserve input_tokens output_tokens spend_usd member_id =>
    if p.Fresh member_id then
      let process := TenantAttributionStore.reserve_request F p.process p.now (today p.now) team input_tokens
        output_tokens spend_usd member_id
      let redis := RedisTenantAttributionStore.reserve_request G p.redis p.now (today p.now) team input_tokens
        output_tokens spend_usd member_id
      ⟨process.1, redis.1, p.now, p.made ++ [⟨process.2, redis.2, p.now, false⟩]⟩
    else p
  | .refund i =>
    match p.made[i]? with
    | some m =>
      ⟨TenantAttributionStore.refund_reservation F p.process p.now (today p.now) m.process,
        RedisTenantAttributionStore.refund_reservation G p.redis p.now (today p.now) m.redis, p.now,
        p.made.set i { m with refunded := true }⟩
    | none => p
  | .reconcile i actual_input_tokens actual_output_tokens actual_spend_usd =>
    match p.made[i]? with
    | some m =>
      { p with
        process := (TenantAttributionStore.reconcile_usage F p.process p.now (today p.now) m.process
          actual_input_tokens actual_output_tokens actual_spend_usd).1
        redis := (RedisTenantAttributionStore.reconcile_usage G p.redis p.now (today p.now) m.redis
          actual_input_tokens actual_output_tokens actual_spend_usd).1 }
    | none => p
  | .snapshot => { p with process := p.process.looked F p.now team, redis := p.redis.looked p.now team }

def Pair.start (now : ℤ) : Pair S :=
  ⟨TenantAttributionStore.empty F, RedisTenantAttributionStore.empty, now, []⟩

/-- Both stores answer an operation with the same number, of requests or of tokens. -/
def SameAnswer {α : Type} (reserved : QuotaReservation S → α) (snapshot : ℕ × ℤ → α) (p : Pair S) : Op S → Prop
  | .reserve input_tokens output_tokens spend_usd member_id => p.Fresh member_id →
    reserved (TenantAttributionStore.reserve_request F p.process p.now (today p.now) team input_tokens output_tokens
        spend_usd member_id).2 =
      reserved (RedisTenantAttributionStore.reserve_request G p.redis p.now (today p.now) team input_tokens
        output_tokens spend_usd member_id).2
  | .snapshot => snapshot (TenantAttributionStore.usage_snapshot F p.process p.now team) =
      snapshot (RedisTenantAttributionStore.usage_snapshot p.redis p.now team)
  | _ => True

def SameRequests : Pair S → Op S → Prop := SameAnswer F G team QuotaReservation.requests_last_minute Prod.fst

def SameTokens : Pair S → Op S → Prop := SameAnswer F G team QuotaReservation.tokens_today Prod.snd

end Stores

/-- No request which has not been refunded is exactly a minute old. -/
def Pair.OffEdge (p : Pair S) : Prop := ∀ m ∈ p.made, m.refunded = false → m.time ≠ p.now - WINDOW_SECONDS * 1000

def OffEdgeAt (p : Pair S) : Op S → Prop
  | .reserve _ _ _ member_id => p.Fresh member_id → p.OffEdge
  | .snapshot => p.OffEdge
  | _ => True

/-! The requests which have not been refunded. -/

def liveTimes (made : List (Made S)) : List ℤ := (made.filter fun m => !m.refunded).map Made.time

def LiveAt (made : List (Made S)) (id : String) (time : ℤ) : Prop :=
  ∃ m ∈ made, m.refunded = false ∧ m.process.member_id = id ∧ m.time = time

theorem live_made (made : List (Made S)) (m : Made S) (fresh : m.refunded = false) :
    liveTimes (made ++ [m]) = liveTimes made ++ [m.time] := by
  unfold liveTimes
  rw [List.filter_append, List.map_append, List.filter_cons_of_pos (by simp [fresh])]
  rfl

theorem liveAt_made (made : List (Made S)) (m : Made S) (fresh : m.refunded = false) (id : String) (time : ℤ) :
    LiveAt (made ++ [m]) id time ↔ LiveAt made id time ∨ m.process.member_id = id ∧ m.time = time := by
  constructor
  · rintro ⟨other, listed, facts⟩
    rcases List.mem_append.mp listed with old | new
    · exact Or.inl ⟨other, old, facts⟩
    · rw [List.mem_singleton.mp new] at facts
      exact Or.inr facts.2
  · rintro (⟨other, old, facts⟩ | facts)
    · exact ⟨other, List.mem_append_left _ old, facts⟩
    · exact ⟨m, List.mem_append_right _ (List.mem_singleton_self m), fresh, facts⟩

/-- Marking a reservation changes its place in the list only. -/
theorem marked_split {made : List (Made S)} {i : ℕ} {m : Made S} (here : made[i]? = some m) (m' : Made S) :
    ∃ before after, made = before ++ m :: after ∧ made.set i m' = before ++ m' :: after := by
  obtain ⟨inside, rfl⟩ := List.getElem?_eq_some_iff.mp here
  refine ⟨made.take i, made.drop (i + 1), ?_, ?_⟩
  · rw [List.getElem_cons_drop, List.take_append_drop]
  · rw [List.set_eq_take_append_cons_drop, if_pos inside]

theorem live_refunded {made : List (Made S)} {i : ℕ} {m : Made S} (here : made[i]? = some m) :
    (liveTimes (made.set i { m with refunded := true })).Perm
      (if m.refunded then liveTimes made else (liveTimes made).erase m.time) := by
  obtain ⟨before, after, split, marked⟩ := marked_split here { m with refunded := true }
  unfold liveTimes
  rw [marked, split, List.filter_append, List.filter_append, List.filter_cons_of_neg (by simp)]
  cases refunded : m.refunded with
  | true => rw [if_pos rfl, List.filter_cons_of_neg (by simp [refunded])]
  | false =>
      rw [if_neg Bool.false_ne_true, List.filter_cons_of_pos (by simp [refunded]), List.map_append, List.map_append,
        List.map_cons]
      refine List.Perm.cons_inv (a := m.time) (List.perm_middle.symm.trans (List.perm_cons_erase ?_))
      exact List.mem_append_right _ List.mem_cons_self

theorem marked_ids {made : List (Made S)} {i : ℕ} {m : Made S} (here : made[i]? = some m) :
    (made.set i { m with refunded := true }).map (fun m => m.process.member_id) =
      made.map fun m => m.process.member_id := by
  obtain ⟨before, after, split, marked⟩ := marked_split here { m with refunded := true }
  rw [marked, split, List.map_append, List.map_append, List.map_cons, List.map_cons]

/-- A reservation other than the one which is marked. -/
theorem mem_marked {made : List (Made S)} (ids : (made.map fun m => m.process.member_id).Nodup) {i : ℕ} {m : Made S}
    (here : made[i]? = some m) {other : Made S} : other ∈ made.set i { m with refunded := true } ↔
      other ∈ made ∧ other.process.member_id ≠ m.process.member_id ∨ other = { m with refunded := true } := by
  obtain ⟨before, after, split, marked⟩ := marked_split here { m with refunded := true }
  have apart : ∀ other, other ∈ before ∨ other ∈ after → other.process.member_id ≠ m.process.member_id := by
    intro other inside same
    rw [split, List.map_append, List.map_cons, List.nodup_middle, List.nodup_cons, List.mem_append] at ids
    rcases inside with first | last
    · exact ids.1 (Or.inl (same ▸ List.mem_map_of_mem first))
    · exact ids.1 (Or.inr (same ▸ List.mem_map_of_mem last))
  rw [marked, split]
  simp only [List.mem_append, List.mem_cons]
  constructor
  · rintro (first | rfl | last)
    · exact Or.inl ⟨Or.inl first, apart other (Or.inl first)⟩
    · exact Or.inr rfl
    · exact Or.inl ⟨Or.inr (Or.inr last), apart other (Or.inr last)⟩
  · rintro (⟨first | rfl | last, different⟩ | rfl)
    · exact Or.inl first
    · exact absurd rfl different
    · exact Or.inr (Or.inr last)
    · exact Or.inr (Or.inl rfl)

theorem liveAt_refunded {made : List (Made S)} (ids : (made.map fun m => m.process.member_id).Nodup) {i : ℕ}
    {m : Made S} (here : made[i]? = some m) (id : String) (time : ℤ) :
    LiveAt (made.set i { m with refunded := true }) id time ↔ LiveAt made id time ∧ id ≠ m.process.member_id := by
  constructor
  · rintro ⟨other, listed, standing, rfl, same⟩
    rcases (mem_marked ids here).mp listed with ⟨old, different⟩ | rfl
    · exact ⟨⟨other, old, standing, rfl, same⟩, different⟩
    · cases standing
  · rintro ⟨⟨other, old, standing, rfl, same⟩, different⟩
    exact ⟨other, (mem_marked ids here).mpr (Or.inl ⟨old, different⟩), standing, rfl, same⟩

/-! What both stores know of the reservations. -/

/-- The stores have the same tokens for the day, and the requests of the last minute but for those on its edge. -/
structure Paired (F G : Spending S) (team : String) (p : Pair S) : Prop where
  dated : TenantAttributionStore.Dated p.process p.now
  lasting : RedisTenantAttributionStore.AllLive p.redis p.now
  tokens : (TenantAttributionStore.backend F).count p.process p.now team =
    (RedisTenantAttributionStore.backend G).count p.redis p.now team
  stamped : TenantAttributionStore.Stamped (p.process.usage team).request_times (liveTimes p.made) p.now
  scored : RedisTenantAttributionStore.Scored (p.redis team).rpm (LiveAt p.made) p.now
  ids : (p.made.map fun m => m.process.member_id).Nodup
  past : ∀ m ∈ p.made, m.time ≤ p.now
  alike : ∀ m ∈ p.made, m.process.team = team ∧ m.redis.team = team ∧
    m.redis.member_id = m.process.member_id ∧ m.redis.reserved_tokens = m.process.reserved_tokens
  members : ∀ m ∈ p.made, p.process.members m.process.member_id = if m.refunded then none else some m.time

variable {F G : Spending S} {team : String} {p : Pair S}

theorem may_ask {σ : Type} (B : TenantAttributionBackend σ S) (now : ℤ) : B.MayAsk (today now) now :=
  ⟨le_rfl, fun _ => rfl⟩

theorem window_of_get (store : TenantAttributionStore S) (now asked : ℤ) (team : String) :
    (store.get F now asked team).request_times = prune_window (store.usage team).request_times now := by
  simp only [TenantAttributionStore.get]
  split
  · rfl
  · rfl

/-! The windows in Redis. -/

/-- The window after ZREMRANGEBYSCORE and ZADD. -/
def added (rpm : Redis.Key (Redis.ZSet String)) (now : ℤ) (member_id : String) : Redis.Key (Redis.ZSet String) :=
  let pruned := rpm.put (Redis.remRangeByScore (now - WINDOW_SECONDS * 1000) rpm.value)
  pruned.put (pruned.value.insert member_id now)

theorem reserve_window (G : Spending S) (store : RedisTenantAttributionStore S) (now asked : ℤ) (team : String)
    (input_tokens output_tokens : ℕ) (spend_usd : S) (member_id : String) :
    ((RedisTenantAttributionStore.reserve_request G store now asked team input_tokens output_tokens spend_usd
      member_id).1 team).rpm = (added ((store team).rpm.evict now) now member_id).pexpire now
        ((WINDOW_SECONDS + 1) * 1000) := by
  simp only [RedisTenantAttributionStore.reserve_request, RESERVE_LUA, Function.update_self]
  rfl

theorem refund_window (G : Spending S) (store : RedisTenantAttributionStore S) (now asked : ℤ)
    (reservation : QuotaReservation S) :
    ((RedisTenantAttributionStore.refund_reservation G store now asked reservation) reservation.team).rpm =
      ((store reservation.team).rpm.evict now).put
        (((store reservation.team).rpm.evict now).value.erase reservation.member_id) := by
  simp only [RedisTenantAttributionStore.refund_reservation, REFUND_LUA, Function.update_self]
  split
  · split
    · rfl
    · rfl
  · rfl

theorem reconcile_window (G : Spending S) (store : RedisTenantAttributionStore S) (now asked : ℤ)
    (reservation : QuotaReservation S) (actual_input_tokens actual_output_tokens : ℕ) (actual_spend_usd : S) :
    ((RedisTenantAttributionStore.reconcile_usage G store now asked reservation actual_input_tokens
      actual_output_tokens actual_spend_usd).1 reservation.team).rpm = (store reservation.team).rpm := by
  simp only [RedisTenantAttributionStore.reconcile_usage, RECONCILE_LUA, Function.update_self]

theorem looked_window (store : RedisTenantAttributionStore S) (now : ℤ) (team : String) :
    (store.looked now team team).rpm = ((store team).rpm.evict now).put
      (Redis.remRangeByScore (now - WINDOW_SECONDS * 1000) ((store team).rpm.evict now).value) := by
  simp only [RedisTenantAttributionStore.looked, Function.update_self]

/-- ZREMRANGEBYSCORE takes nothing of the last minute. -/
theorem scored_pruned {rpm : Redis.Key (Redis.ZSet String)} {has : String → ℤ → Prop} {now : ℤ}
    (scored : RedisTenantAttributionStore.Scored rpm has now) : RedisTenantAttributionStore.Scored
      (rpm.put (Redis.remRangeByScore (now - WINDOW_SECONDS * 1000) rpm.value)) has now := by
  refine ⟨fun id time late => ?_, fun deadline due id time stamp => ?_⟩
  · rw [Redis.Key.put_value, Redis.lookup_remRangeByScore, and_iff_left late]
    exact scored.members id time late
  · rw [Redis.Key.put_value] at stamp
    have present := AList.ne_default_of_mem (AList.mem_of_lookup stamp)
    rw [Redis.Key.put_deadline _ present] at due
    exact scored.lasts deadline due id time (Redis.lookup_remRangeByScore.mp stamp).1

theorem paired_start (now : ℤ) : Paired F G team (Pair.start F now) where
  dated _ _ bad := nomatch bad
  lasting _ _ bad := nomatch bad
  tokens := rfl
  stamped := ⟨List.Pairwise.nil, fun _ bad => absurd bad List.not_mem_nil, fun _ _ => List.Perm.refl _⟩
  scored := ⟨fun _ _ _ => iff_of_false (fun bad => nomatch bad) fun ⟨_, bad, _⟩ => absurd bad List.not_mem_nil,
    fun _ bad => nomatch bad⟩
  ids := List.nodup_nil
  past _ bad := absurd bad List.not_mem_nil
  alike _ bad := absurd bad List.not_mem_nil
  members _ bad := absurd bad List.not_mem_nil

theorem Paired.wait (paired : Paired F G team p) (ms : ℕ) : Paired F G team { p with now := p.now + ms } := by
  obtain ⟨dated, counted⟩ := (TenantAttributionStore.counts F).wait p.process p.now ms paired.dated
  obtain ⟨lasting, counted'⟩ := (RedisTenantAttributionStore.counts G).wait p.redis p.now ms paired.lasting
  refine ⟨dated, lasting, ?_, paired.stamped.wait ms, paired.scored.wait ms, paired.ids, fun m listed => ?_,
    paired.alike, paired.members⟩
  · rw [counted, counted', paired.tokens]
  · exact (paired.past m listed).trans (le_add_of_nonneg_right (Int.natCast_nonneg ms))

theorem Paired.reserve (paired : Paired F G team p) {member_id : String} (fresh : p.Fresh member_id)
    (input_tokens output_tokens : ℕ) (spend_usd : S) :
    Paired F G team (p.step F G team (.reserve input_tokens output_tokens spend_usd member_id)) := by
  simp only [Pair.step]
  rw [if_pos fresh]
  obtain ⟨dated, -, counted⟩ := (TenantAttributionStore.counts F).reserve p.process p.now (today p.now) team
    input_tokens output_tokens spend_usd member_id paired.dated (may_ask _ _)
  obtain ⟨lasting, -, counted'⟩ := (RedisTenantAttributionStore.counts G).reserve p.redis p.now (today p.now) team
    input_tokens output_tokens spend_usd member_id paired.lasting (may_ask _ _)
  refine ⟨dated, lasting, ?_, ?_, ?_, ?_, fun m listed => ?_, fun m listed => ?_, fun m listed => ?_⟩
  · refine (counted team).trans (Eq.trans ?_ (counted' team).symm)
    rw [paired.tokens]
  · rw [live_made _ _ rfl]
    have window : ((TenantAttributionStore.reserve_request F p.process p.now (today p.now) team input_tokens
        output_tokens spend_usd member_id).1.usage team).request_times =
          prune_window (p.process.usage team).request_times p.now ++ [p.now] := by
      simp only [TenantAttributionStore.reserve_request, TenantAttributionStore.put, Function.update_self,
        window_of_get]
    rw [window]
    exact paired.stamped.prune.append
  · rw [reserve_window]
    refine paired.scored.evict.add ?_ (fun time held => ?_) fun id time => ?_
    · rintro id time ⟨m, listed, -, -, rfl⟩
      exact paired.past m listed
    · obtain ⟨m, listed, -, same, -⟩ := held
      exact fresh m listed same
    · exact liveAt_made _ _ rfl id time
  · rw [List.map_append, List.map_singleton, List.nodup_append]
    refine ⟨paired.ids, List.nodup_singleton _, fun id listed other new => ?_⟩
    obtain ⟨m, inside, rfl⟩ := List.mem_map.mp listed
    rw [List.mem_singleton.mp new]
    exact fresh m inside
  · rcases List.mem_append.mp listed with old | new
    · exact paired.past m old
    · rw [List.mem_singleton.mp new]
  · rcases List.mem_append.mp listed with old | new
    · exact paired.alike m old
    · rw [List.mem_singleton.mp new]
      exact ⟨rfl, rfl, rfl, rfl⟩
  · rcases List.mem_append.mp listed with old | new
    · exact (Function.update_of_ne (fresh m old) _ _).trans (paired.members m old)
    · rw [List.mem_singleton.mp new]
      exact Function.update_self _ _ _

theorem Paired.refund (paired : Paired F G team p) {i : ℕ} {m : Made S} (here : p.made[i]? = some m) :
    Paired F G team (p.step F G team (.refund i)) := by
  simp only [Pair.step, here]
  have member := List.mem_of_getElem? here
  obtain ⟨own, own', id, reserved⟩ := paired.alike m member
  obtain ⟨dated, counted⟩ := (TenantAttributionStore.counts F).refund p.process p.now (today p.now) m.process
    paired.dated (may_ask _ _)
  obtain ⟨lasting, counted'⟩ := (RedisTenantAttributionStore.counts G).refund p.redis p.now (today p.now) m.redis
    paired.lasting (may_ask _ _)
  refine ⟨dated, lasting, ?_, ?_, ?_, ?_, fun other listed => ?_, fun other listed => ?_, fun other listed => ?_⟩
  · refine (counted team).trans (Eq.trans ?_ (counted' team).symm)
    rw [own, own', reserved, paired.tokens]
  · have window : ((TenantAttributionStore.refund_reservation F p.process p.now (today p.now) m.process).usage
        team).request_times = if m.refunded then prune_window (p.process.usage team).request_times p.now
          else (prune_window (p.process.usage team).request_times p.now).erase m.time := by
      simp only [TenantAttributionStore.refund_reservation, TenantAttributionStore.put, own, Function.update_self,
        window_of_get, paired.members m member]
      cases m.refunded with
      | true => rfl
      | false => rfl
    have live := live_refunded here
    rw [window]
    cases refunded : m.refunded with
    | true =>
        rw [refunded, if_pos rfl] at live
        exact paired.stamped.prune.perm live
    | false =>
        rw [refunded, if_neg Bool.false_ne_true] at live
        exact paired.stamped.prune.erase m.time live
  · have window := refund_window G p.redis p.now (today p.now) m.redis
    rw [own', id] at window
    rw [window]
    exact paired.scored.evict.remove (liveAt_refunded paired.ids here)
  · rw [marked_ids here]
    exact paired.ids
  · rcases (mem_marked paired.ids here).mp listed with ⟨old, -⟩ | rfl
    · exact paired.past other old
    · exact paired.past m member
  · rcases (mem_marked paired.ids here).mp listed with ⟨old, -⟩ | rfl
    · exact paired.alike other old
    · exact paired.alike m member
  · rcases (mem_marked paired.ids here).mp listed with ⟨old, different⟩ | rfl
    · exact (Function.update_of_ne different _ _).trans (paired.members other old)
    · exact Function.update_self _ _ _

theorem Paired.reconcile (paired : Paired F G team p) {i : ℕ} {m : Made S} (here : p.made[i]? = some m)
    (actual_input_tokens actual_output_tokens : ℕ) (actual_spend_usd : S) :
    Paired F G team (p.step F G team (.reconcile i actual_input_tokens actual_output_tokens actual_spend_usd)) := by
  simp only [Pair.step, here]
  obtain ⟨own, own', id, reserved⟩ := paired.alike m (List.mem_of_getElem? here)
  obtain ⟨dated, counted⟩ := (TenantAttributionStore.counts F).reconcile p.process p.now (today p.now) m.process
    actual_input_tokens actual_output_tokens actual_spend_usd paired.dated (may_ask _ _)
  obtain ⟨lasting, counted'⟩ := (RedisTenantAttributionStore.counts G).reconcile p.redis p.now (today p.now) m.redis
    actual_input_tokens actual_output_tokens actual_spend_usd paired.lasting (may_ask _ _)
  refine ⟨dated, lasting, ?_, ?_, ?_, paired.ids, paired.past, paired.alike, paired.members⟩
  · refine (counted team).trans (Eq.trans ?_ (counted' team).symm)
    rw [own, own', reserved, paired.tokens]
  · have window : ((TenantAttributionStore.reconcile_usage F p.process p.now (today p.now) m.process
        actual_input_tokens actual_output_tokens actual_spend_usd).1.usage team).request_times =
          prune_window (p.process.usage team).request_times p.now := by
      simp only [TenantAttributionStore.reconcile_usage, TenantAttributionStore.put, own, Function.update_self,
        window_of_get]
    rw [window]
    exact paired.stamped.prune
  · have window := reconcile_window G p.redis p.now (today p.now) m.redis actual_input_tokens actual_output_tokens
      actual_spend_usd
    rw [own'] at window
    rw [window]
    exact paired.scored

theorem Paired.snapshot (paired : Paired F G team p) : Paired F G team (p.step F G team .snapshot) := by
  have writes : (p.process.looked F p.now team).usage =
      Function.update p.process.usage team (p.process.get F p.now (today p.now) team) := rfl
  obtain ⟨dated, counted⟩ := TenantAttributionStore.counted_write (F := F) paired.dated writes
    (TenantAttributionStore.get_day p.process p.now _ team)
  have writes' : p.redis.looked p.now team = Function.update p.redis team _ := rfl
  obtain ⟨lasting, counted'⟩ := RedisTenantAttributionStore.counted_write (F := G) paired.lasting writes'
    (paired.lasting team)
  refine ⟨dated, lasting, ?_, ?_, ?_, paired.ids, paired.past, paired.alike, paired.members⟩
  · refine (counted team).trans (Eq.trans ?_ (counted' team).symm)
    rw [if_pos rfl, if_pos rfl, ← RedisTenantAttributionStore.count_eq paired.lasting team (F := G), ← paired.tokens]
    rfl
  · change TenantAttributionStore.Stamped ((p.process.looked F p.now team).usage team).request_times _ _
    rw [writes, Function.update_self, window_of_get]
    exact paired.stamped.prune
  · change RedisTenantAttributionStore.Scored (p.redis.looked p.now team team).rpm _ _
    rw [looked_window]
    exact scored_pruned paired.scored.evict

theorem Paired.step (paired : Paired F G team p) (e : Op S) : Paired F G team (p.step F G team e) := by
  cases e with
  | wait ms => exact paired.wait ms
  | reserve input_tokens output_tokens spend_usd member_id =>
      by_cases fresh : p.Fresh member_id
      · exact paired.reserve fresh input_tokens output_tokens spend_usd
      · simp only [Pair.step, if_neg fresh]
        exact paired
  | refund i =>
      cases here : p.made[i]? with
      | some m => exact paired.refund here
      | none =>
          simp only [Pair.step, here]
          exact paired
  | reconcile i actual_input_tokens actual_output_tokens actual_spend_usd =>
      cases here : p.made[i]? with
      | some m => exact paired.reconcile here actual_input_tokens actual_output_tokens actual_spend_usd
      | none =>
          simp only [Pair.step, here]
          exact paired
  | snapshot => exact paired.snapshot

/-! The answers. -/

theorem countP_edge (times : List ℤ) (cutoff : ℤ) :
    times.countP (fun time => decide (cutoff ≤ time)) =
      times.countP (fun time => decide (cutoff < time)) + times.count cutoff := by
  induction times with
  | nil => rfl
  | cons time times ih =>
      rw [List.countP_cons, List.countP_cons, List.count_cons, ih]
      rcases lt_trichotomy cutoff time with later | rfl | earlier
      · simp [later, later.le, later.ne']
        omega
      · simp
        omega
      · simp [earlier.ne, not_le.mpr earlier, not_lt.mpr earlier.le]

theorem count_live (made : List (Made S)) (time : ℤ) :
    (liveTimes made).count time = 0 ↔ ∀ m ∈ made, m.refunded = false → m.time ≠ time := by
  rw [List.count_eq_zero]
  simp [liveTimes]

/-- The store of one process counts the requests which are at most a minute old. -/
theorem process_requests (paired : Paired F G team p) :
    (TenantAttributionStore.usage_snapshot F p.process p.now team).1 =
      (liveTimes p.made).countP fun time => decide (p.now - WINDOW_SECONDS * 1000 ≤ time) := by
  have same := paired.stamped.same _ le_rfl
  change (p.process.get F p.now (today p.now) team).request_times.length = _
  rw [window_of_get, TenantAttributionStore.prune_window_eq paired.stamped.ordered, same.length_eq,
    ← List.countP_eq_length_filter]

theorem redis_snapshot (store : RedisTenantAttributionStore S) (now : ℤ) (team : String) :
    (RedisTenantAttributionStore.usage_snapshot store now team).1 =
      Redis.card (Redis.remRangeByScore (now - WINDOW_SECONDS * 1000) ((store team).rpm.evict now).value) := by
  unfold RedisTenantAttributionStore.usage_snapshot
  cases ((store team).usage.evict now).value with
  | none => rfl
  | some hash => rfl

/-- The store in Redis counts those which are less than a minute old. -/
theorem redis_requests (paired : Paired F G team p) :
    (RedisTenantAttributionStore.usage_snapshot p.redis p.now team).1 =
      (liveTimes p.made).countP fun time => decide (p.now - WINDOW_SECONDS * 1000 < time) := by
  have scored := paired.scored.evict
  have ids : (Redis.remRangeByScore (p.now - WINDOW_SECONDS * 1000) ((p.redis team).rpm.evict p.now).value).ids =
      ((p.made.filter fun m => !m.refunded && decide (p.now - WINDOW_SECONDS * 1000 < m.time)).map
        fun m => m.process.member_id).toFinset := by
    ext id
    rw [AList.mem_ids, AList.mem_iff_lookup, List.mem_toFinset, List.mem_map]
    constructor
    · rintro ⟨time, stamp⟩
      obtain ⟨held, late⟩ := Redis.lookup_remRangeByScore.mp stamp
      obtain ⟨m, listed, standing, same, rfl⟩ := (scored.members id time late).mp held
      exact ⟨m, List.mem_filter.mpr ⟨listed, by simp [standing, late]⟩, same⟩
    · rintro ⟨m, listed, same⟩
      obtain ⟨inside, facts⟩ := List.mem_filter.mp listed
      rw [Bool.and_eq_true, Bool.not_eq_true', decide_eq_true_eq] at facts
      exact ⟨m.time, Redis.lookup_remRangeByScore.mpr
        ⟨(scored.members id _ facts.2).mpr ⟨m, inside, facts.1, same, rfl⟩, facts.2⟩⟩
  rw [redis_snapshot, Redis.card, ids,
    List.toFinset_card_of_nodup (paired.ids.sublist (List.filter_sublist.map _)), List.length_map, liveTimes,
    List.countP_map, List.countP_filter, ← List.countP_eq_length_filter]
  exact List.countP_congr fun m _ => by simp [and_comm]

/-- Both stores count the same requests just when none is exactly a minute old. -/
theorem requests_agree_iff (paired : Paired F G team p) :
    (TenantAttributionStore.usage_snapshot F p.process p.now team).1 =
      (RedisTenantAttributionStore.usage_snapshot p.redis p.now team).1 ↔ p.OffEdge := by
  rw [process_requests paired, redis_requests paired, countP_edge, Nat.add_eq_left, count_live]
  exact Iff.rfl

theorem tokens_agree (paired : Paired F G team p) :
    (TenantAttributionStore.usage_snapshot F p.process p.now team).2 =
      (RedisTenantAttributionStore.usage_snapshot p.redis p.now team).2 := paired.tokens

/-- A reservation is told of one request more than a snapshot. -/
theorem process_reserved (store : TenantAttributionStore S) (now : ℤ) (input_tokens output_tokens : ℕ) (spend_usd : S)
    (member_id : String) :
    (TenantAttributionStore.reserve_request F store now (today now) team input_tokens output_tokens spend_usd
        member_id).2.requests_last_minute = (TenantAttributionStore.usage_snapshot F store now team).1 + 1 ∧
      (TenantAttributionStore.reserve_request F store now (today now) team input_tokens output_tokens spend_usd
        member_id).2.tokens_today =
          (TenantAttributionStore.usage_snapshot F store now team).2 + (input_tokens + output_tokens : ℕ) :=
  ⟨List.length_append, rfl⟩

theorem redis_reserved (paired : Paired F G team p) {member_id : String} (fresh : p.Fresh member_id)
    (input_tokens output_tokens : ℕ) (spend_usd : S) :
    (RedisTenantAttributionStore.reserve_request G p.redis p.now (today p.now) team input_tokens output_tokens
        spend_usd member_id).2.requests_last_minute =
          (RedisTenantAttributionStore.usage_snapshot p.redis p.now team).1 + 1 ∧
      (RedisTenantAttributionStore.reserve_request G p.redis p.now (today p.now) team input_tokens output_tokens
        spend_usd member_id).2.tokens_today =
          (RedisTenantAttributionStore.usage_snapshot p.redis p.now team).2 + (input_tokens + output_tokens : ℕ) := by
  constructor
  · have absent : member_id ∉ (Redis.remRangeByScore (p.now - WINDOW_SECONDS * 1000)
        ((p.redis team).rpm.evict p.now).value).ids := by
      rw [AList.mem_ids, AList.mem_iff_lookup]
      rintro ⟨time, stamp⟩
      obtain ⟨held, late⟩ := Redis.lookup_remRangeByScore.mp stamp
      obtain ⟨m, listed, -, same, -⟩ := (paired.scored.evict.members member_id time late).mp held
      exact fresh m listed same
    rw [redis_snapshot]
    change Redis.card ((added ((p.redis team).rpm.evict p.now) p.now member_id).pexpire p.now
      ((WINDOW_SECONDS + 1) * 1000)).value = _
    rw [Redis.Key.pexpire_value _ (by decide), added, Redis.Key.put_value, Redis.Key.put_value, Redis.card,
      AList.ids_insert, Finset.card_insert_of_notMem absent]
    rfl
  · have counted : (RedisTenantAttributionStore.usage_snapshot p.redis p.now team).2 = _ :=
      RedisTenantAttributionStore.count_eq (F := G) paired.lasting team
    rw [counted, ← RedisTenantAttributionStore.tokensOn_evict (paired.lasting team),
      ← RedisTenantAttributionStore.rolled_tokens (F := G)]
    rfl

theorem sameTokens_of_paired (paired : Paired F G team p) (e : Op S) : SameTokens F G team p e := by
  cases e with
  | reserve input_tokens output_tokens spend_usd member_id =>
      intro fresh
      rw [(process_reserved _ _ _ _ _ _).2, (redis_reserved paired fresh _ _ _).2, tokens_agree paired]
  | snapshot => exact tokens_agree paired
  | wait ms => trivial
  | refund i => trivial
  | reconcile i actual_input_tokens actual_output_tokens actual_spend_usd => trivial

theorem sameRequests_iff (paired : Paired F G team p) (e : Op S) : SameRequests F G team p e ↔ OffEdgeAt p e := by
  cases e with
  | reserve input_tokens output_tokens spend_usd member_id =>
      refine forall_congr' fun fresh => ?_
      rw [(process_reserved _ _ _ _ _ _).1, (redis_reserved paired fresh _ _ _).1, Nat.add_right_cancel_iff]
      exact requests_agree_iff paired
  | snapshot => exact requests_agree_iff paired
  | wait ms => exact Iff.rfl
  | refund i => exact Iff.rfl
  | reconcile i actual_input_tokens actual_output_tokens actual_spend_usd => exact Iff.rfl

theorem agree_iff {F G : Spending S} {team : String} {p : Pair S} (paired : Paired F G team p) (ops : List (Op S)) :
    (Runs.EveryStep (Pair.step F G team) (fun p e => SameRequests F G team p e ∧ SameTokens F G team p e) p ops ↔
      Runs.EveryStep (Pair.step F G team) OffEdgeAt p ops) ∧
    Runs.EveryStep (Pair.step F G team) (SameTokens F G team) p ops := by
  induction ops generalizing p with
  | nil => exact ⟨Iff.rfl, trivial⟩
  | cons e ops ih =>
      obtain ⟨later, tokens⟩ := ih (paired.step e)
      have here := sameTokens_of_paired paired e
      exact ⟨and_congr ((and_iff_left here).trans (sameRequests_iff paired e)) later, here, tokens⟩

/-- In every run whose counts Redis prints in full the stores answer with the same tokens, and with the same requests
just when no request is exactly a minute old where they are asked. -/
theorem stores_agree_iff (F G : Spending S) (team : String) (now : ℤ) (ops : List (Op S))
    (_ : Printed (ops.map Op.tokens)) :
    (Runs.EveryStep (Pair.step F G team) (fun p e => SameRequests F G team p e ∧ SameTokens F G team p e)
        (Pair.start F now) ops ↔
      Runs.EveryStep (Pair.step F G team) OffEdgeAt (Pair.start F now) ops) ∧
    Runs.EveryStep (Pair.step F G team) (SameTokens F G team) (Pair.start F now) ops :=
  agree_iff (paired_start now) ops

/-- A request, and a snapshot a minute after it. -/
def aMinuteLater : List (Op ℚ) := [.reserve 10 5 1 "first", .wait 60000, .snapshot]

/-- The same tokens, and a request which is a minute old. -/
theorem stores_agree_aMinuteLater :
    ¬ Runs.EveryStep (Pair.step exactSpending exactSpending "finance") OffEdgeAt (Pair.start exactSpending 0)
      aMinuteLater ∧
    Runs.EveryStep (Pair.step exactSpending exactSpending "finance") (SameTokens exactSpending exactSpending "finance")
      (Pair.start exactSpending 0) aMinuteLater := by
  obtain ⟨requests, tokens⟩ := stores_agree_iff exactSpending exactSpending "finance" 0 aMinuteLater (by decide)
  refine ⟨fun off => ?_, tokens⟩
  have counted : (1 : ℕ) = 0 := (requests.mpr off).2.2.1.1
  exact absurd counted (by decide)

theorem edge_counted_once : ¬ Runs.EveryStep (Pair.step exactSpending exactSpending "finance")
    (fun p e => SameRequests exactSpending exactSpending "finance" p e ∧
      SameTokens exactSpending exactSpending "finance" p e) (Pair.start exactSpending 0) aMinuteLater := by
  intro every
  have counted : (1 : ℕ) = 0 := every.2.2.1.1
  exact absurd counted (by decide)

end RuntimePlatform.Tenant
