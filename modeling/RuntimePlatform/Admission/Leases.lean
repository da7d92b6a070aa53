import RuntimePlatform.Admission.Scripts

/-!
Safety of the lease store: the sorted set and the hash always speak of the same
leases, never more than the limit, and a lease that is renewed in time stays.
-/

namespace RuntimePlatform.Admission
open Redis
variable {ι τ : Type} [DecidableEq ι]

/-- The two lease keys name the same leases and share their deadline. -/
structure Paired (k : Keys ι τ) : Prop where
  same : ∀ id, id ∈ k.tokens.value ↔ id ∈ k.leases.value
  due : k.tokens.deadline = k.leases.deadline

structure Inv (limit : ℕ) (k : Keys ι τ) : Prop extends Paired k where
  bounded : card k.leases.value ≤ limit

section Store
variable {k : Keys ι τ} {now : ℤ}

theorem put_due {α β : Type} [Inhabited α] [Inhabited β] [∀ v : α, Decidable (v = default)]
    [∀ v : β, Decidable (v = default)] {a : Key α} {b : Key β} (due : a.deadline = b.deadline)
    {v : α} {w : β} (empty : v = default ↔ w = default) : (a.put v).deadline = (b.put w).deadline := by
  by_cases none : w = default
  · rw [Key.put, if_pos (empty.mpr none), Key.put, if_pos none]
    rfl
  · rw [Key.put_deadline a (mt empty.mp none), Key.put_deadline b none, due]

theorem pexpire_due {α β : Type} [Inhabited α] [Inhabited β] [∀ v : α, Decidable (v = default)]
    [∀ v : β, Decidable (v = default)] {a : Key α} {b : Key β} (due : a.deadline = b.deadline)
    (empty : a.value = default ↔ b.value = default) (now ttl : ℤ) :
    (a.pexpire now ttl).deadline = (b.pexpire now ttl).deadline ∧
      ((a.pexpire now ttl).value = a.value ∧ (b.pexpire now ttl).value = b.value ∨
        (a.pexpire now ttl).value = default ∧ (b.pexpire now ttl).value = default) := by
  unfold Key.pexpire
  by_cases none : b.value = default
  · rw [if_pos (empty.mpr none), if_pos none]
    exact ⟨due, .inl ⟨rfl, rfl⟩⟩
  · rw [if_neg (mt empty.mp none), if_neg none]
    split
    · exact ⟨rfl, .inr ⟨rfl, rfl⟩⟩
    · exact ⟨rfl, .inl ⟨rfl, rfl⟩⟩

omit [DecidableEq ι] in
theorem Paired.empty_iff (paired : Paired k) : k.tokens.value = default ↔ k.leases.value = default := by
  rw [AList.eq_default_iff, AList.eq_default_iff]
  exact forall_congr' fun id => not_congr (paired.same id)

omit [DecidableEq ι] in
/-- Both keys are there or neither is. -/
theorem Paired.evict (paired : Paired k) (now : ℤ) : Paired (k.evict now) ∧
    ((k.evict now).leases = k.leases ∧ (k.evict now).tokens = k.tokens ∨
      (k.evict now).leases = Key.missing ∧ (k.evict now).tokens = Key.missing) := by
  have together : k.tokens.expired now ↔ k.leases.expired now := by
    unfold Key.expired
    rw [paired.due]
  unfold Keys.evict
  by_cases gone : k.leases.expired now
  · rw [Key.evict_of gone, Key.evict_of (together.mpr gone)]
    exact ⟨⟨fun id => ⟨fun h => absurd h (AList.notMem_empty id), fun h => absurd h (AList.notMem_empty id)⟩,
      rfl⟩, .inr ⟨rfl, rfl⟩⟩
  · rw [Key.evict_of_not gone, Key.evict_of_not (mt together.mp gone)]
    exact ⟨⟨paired.same, paired.due⟩, .inl ⟨rfl, rfl⟩⟩

theorem Inv.evict {limit : ℕ} (inv : Inv limit k) (now : ℤ) : Inv limit (k.evict now) := by
  obtain ⟨paired, kept | gone⟩ := inv.toPaired.evict now
  · refine ⟨paired, ?_⟩
    rw [kept.1]
    exact inv.bounded
  · refine ⟨paired, ?_⟩
    rw [gone.1]
    exact Nat.zero_le limit

omit [DecidableEq ι] in
/-- A write to both keys that keeps them naming the same leases. -/
theorem Paired.put (paired : Paired k) (leases : ZSet ι) (tokens : Dict ι τ)
    (same : ∀ id, id ∈ tokens ↔ id ∈ leases) :
    Paired { k with leases := k.leases.put leases, tokens := k.tokens.put tokens } where
  same id := by simp only [Key.put_value, same]
  due := by
    refine put_due paired.due ?_
    rw [AList.eq_default_iff, AList.eq_default_iff]
    exact forall_congr' fun id => not_congr (same id)

omit [DecidableEq ι] in
theorem Paired.pexpire (paired : Paired k) (now ttl : ℤ) (fence : Key ℕ) :
    Paired ⟨k.leases.pexpire now ttl, k.tokens.pexpire now ttl, fence⟩ := by
  obtain ⟨due, kept | gone⟩ := pexpire_due paired.due paired.empty_iff now ttl
  · refine ⟨fun id => ?_, due⟩
    simp only [kept.1, kept.2, paired.same]
  · refine ⟨fun id => ?_, due⟩
    simp only [gone.1, gone.2]
    exact ⟨fun h => absurd h (AList.notMem_empty id), fun h => absurd h (AList.notMem_empty id)⟩

theorem card_pexpire_le (key : Key (ZSet ι)) (now ttl : ℤ) :
    card (key.pexpire now ttl).value ≤ card key.value := by
  unfold Key.pexpire
  split
  · exact le_rfl
  · split
    · exact Nat.zero_le _
    · exact le_rfl

/-- The scripts drop the expired leases from both keys, when there are any. -/
theorem reclaim_cases (now : ℤ) (k : Keys ι τ) :
    reclaim now k = { k with
      leases := k.leases.put (remRangeByScore now k.leases.value)
      tokens := k.tokens.put (AList.eraseEach (rangeByScore now k.leases.value) k.tokens.value) } ∨
    reclaim now k = k ∧ rangeByScore now k.leases.value = [] := by
  by_cases some : (rangeByScore now k.leases.value).length > 0
  · exact .inl (if_pos some)
  · exact .inr ⟨if_neg some, List.length_eq_zero_iff.mp (by omega)⟩

theorem reclaim_lease (now : ℤ) (k : Keys ι τ) (id : ι) {score : ℤ} :
    (reclaim now k).leases.value.lookup id = some score ↔
      k.leases.value.lookup id = some score ∧ now < score := by
  rcases reclaim_cases now k with dropped | ⟨kept, none⟩
  · rw [dropped, Key.put_value, lookup_remRangeByScore]
  · rw [kept]
    refine ⟨fun found => ⟨found, ?_⟩, And.left⟩
    by_contra passed
    have member := mem_rangeByScore.mpr ⟨score, found, not_lt.mp passed⟩
    rw [none] at member
    cases member

theorem Paired.reclaim (paired : Paired k) (now : ℤ) : Paired (reclaim now k) := by
  rcases reclaim_cases now k with dropped | ⟨kept, _⟩
  · rw [dropped]
    refine paired.put _ _ fun id => ?_
    rw [AList.mem_eraseEach, mem_remRangeByScore, paired.same]
  · rw [kept]
    exact paired

theorem card_reclaim_le (now : ℤ) (k : Keys ι τ) :
    card (reclaim now k).leases.value ≤ card k.leases.value := by
  refine Finset.card_le_card fun id member => ?_
  rw [AList.mem_ids, AList.mem_iff_lookup] at member ⊢
  obtain ⟨score, found⟩ := member
  exact ⟨score, ((reclaim_lease now k id).mp found).1⟩

@[simp] theorem reclaim_fence (now : ℤ) (k : Keys ι τ) : (reclaim now k).fence = k.fence := by
  rcases reclaim_cases now k with dropped | ⟨kept, _⟩
  · rw [dropped]
  · rw [kept]

theorem card_insert_mem {z : ZSet ι} {id : ι} (member : id ∈ z) (score : ℤ) :
    card (z.insert id score) = card z := by
  rw [card, AList.ids_insert, Finset.insert_eq_of_mem (AList.mem_ids.mpr member)]
  rfl

theorem card_insert_le (z : ZSet ι) (id : ι) (score : ℤ) : card (z.insert id score) ≤ card z + 1 := by
  rw [card, AList.ids_insert]
  exact Finset.card_insert_le id z.ids

end Store

/-! Every script keeps the invariant. -/
section Scripts
variable [DecidableEq τ] {k : Keys ι τ} {limit : ℕ}

omit [DecidableEq τ] in
theorem Inv.reclaim (inv : Inv limit k) (now : ℤ) : Inv limit (reclaim now k) :=
  ⟨inv.toPaired.reclaim now, (card_reclaim_le now k).trans inv.bounded⟩

omit [DecidableEq τ] in
theorem Inv.acquire (inv : Inv limit k) (tostring : ℕ → τ) (now ttl : ℤ) (id : ι) :
    Inv limit (acquireLua tostring now ttl limit id k).2 := by
  have inv' := inv.reclaim now
  by_cases full : card (Admission.reclaim now k).leases.value ≥ limit
  · simp only [acquireLua, if_pos full]
    exact inv'
  · simp only [acquireLua, if_neg full]
    have paired := inv'.toPaired.put
      ((Admission.reclaim now k).leases.value.insert id (now + ttl))
      ((Admission.reclaim now k).tokens.value.insert id
        (tostring ((Admission.reclaim now k).fence.value + 1)))
      fun j => by simp only [AList.mem_insert, inv'.same]
    refine ⟨paired.pexpire now (ttl * 4) _, (card_pexpire_le _ _ _).trans ?_⟩
    rw [Key.put_value]
    exact (card_insert_le _ _ _).trans (Nat.lt_of_not_le full)

theorem Inv.renew (inv : Inv limit k) (now ttl : ℤ) (id : ι) (token : τ) :
    Inv limit (renewLua now ttl id token k).2 := by
  simp only [renewLua]
  split
  · exact inv
  · split
    · exact inv
    · next score found =>
        have member : id ∈ k.leases.value := AList.mem_of_lookup found
        have paired : Paired { k with leases := k.leases.put (k.leases.value.insert id (now + ttl)) } := by
          refine ⟨fun j => ?_, ?_⟩
          · rw [Key.put_value, AList.mem_insert, inv.same]
            exact ⟨.inr, fun h => h.elim (fun same => same ▸ member) fun old => old⟩
          · rw [Key.put_deadline _ (AList.ne_default_of_mem ((AList.mem_insert _).mpr (.inl rfl))), inv.due]
        refine ⟨paired.pexpire now (ttl * 4) _, (card_pexpire_le _ _ _).trans ?_⟩
        rw [Key.put_value, card_insert_mem member]
        exact inv.bounded

theorem Inv.release (inv : Inv limit k) (id : ι) (token : τ) :
    Inv limit (releaseLua id token k).2 := by
  simp only [releaseLua]
  split
  · exact inv
  · refine ⟨inv.toPaired.put _ _ fun j => ?_, ?_⟩
    · rw [AList.mem_erase, AList.mem_erase, inv.same]
    · rw [Key.put_value, card, AList.ids_erase]
      exact (Finset.card_erase_le).trans inv.bounded

omit [DecidableEq τ] in
theorem inv_empty (limit : ℕ) : Inv limit (Keys.empty : Keys ι τ) where
  same _ := Iff.rfl
  due := rfl
  bounded := Nat.zero_le limit

theorem Inv.exec {S : Settings τ} (inv : Inv S.limit k) (c : Call ι τ) : Inv S.limit (S.exec k c) := by
  cases c with
  | acquire now id => exact (inv.evict now).acquire S.tostring now S.ttl id
  | renew now id token => exact (inv.evict now).renew now S.ttl id token
  | release now id token => exact (inv.evict now).release id token
  | purge now => exact (inv.evict now).reclaim now

theorem inv_run (S : Settings τ) (calls : List (Call ι τ)) : Inv S.limit (S.run calls) := by
  induction calls using List.reverseRecOn with
  | nil => exact inv_empty S.limit
  | append_singleton calls c ih =>
      rw [Settings.run, Settings.runFrom_append]
      exact ih.exec c

end Scripts

/-! ## A lease that is renewed in time -/

/-- The recorded expiry of a lease after a call, given the one before it. -/
def Call.expiry [DecidableEq τ] (ttl : ℤ) (id : ι) (token : τ) (expiry : ℤ) : Call ι τ → ℤ
  | .renew now j w => if j = id ∧ w = token then now + ttl else expiry
  | _ => expiry

/-- Until `t` no call comes as late as the recorded expiry, which each renewal moves
on, and none releases the lease. -/
def RenewedUntil [DecidableEq τ] (ttl : ℤ) (id : ι) (token : τ) (t : ℤ) : ℤ → List (Call ι τ) → Prop
  | expiry, [] => t < expiry
  | expiry, c :: calls => c.now < expiry ∧ (∀ now, c ≠ .release now id token) ∧
      RenewedUntil ttl id token t (c.expiry ttl id token expiry) calls

/-- The lease as the keys hold it; `last` is the time both keys were last given their deadline. -/
structure Holding (ttl : ℤ) (id : ι) (token : τ) (time expiry : ℤ) (k : Keys ι τ) : Prop where
  lease : k.leases.value.lookup id = some expiry
  stored : k.tokens.value.lookup id = some token
  due : k.tokens.deadline = k.leases.deadline
  last : ∃ last ≤ time, k.leases.deadline = some (last + ttl * 4) ∧ expiry ≤ last + ttl

section Renewal
variable {ttl : ℤ} {id : ι} {token : τ} {time expiry now : ℤ} {k : Keys ι τ}

theorem Holding.ttl_pos (holding : Holding ttl id token time expiry k) (le : time ≤ now)
    (early : now < expiry) : 0 < ttl := by
  obtain ⟨last, last_le, _, expiry_le⟩ := holding.last
  omega

theorem Holding.later (holding : Holding ttl id token time expiry k) (le : time ≤ now) :
    Holding ttl id token now expiry k := by
  obtain ⟨last, last_le, rest⟩ := holding.last
  exact { holding with last := ⟨last, last_le.trans le, rest⟩ }

/-- The keys outlive the lease. -/
theorem Holding.evict (holding : Holding ttl id token time expiry k) (le : time ≤ now)
    (early : now < expiry) : Holding ttl id token now expiry (k.evict now) := by
  have positive := holding.ttl_pos le early
  obtain ⟨last, last_le, deadline, expiry_le⟩ := holding.last
  have alive : ∀ {α : Type} [Inhabited α] (key : Key α), key.deadline = some (last + ttl * 4) →
      key.evict now = key := by
    intro α _ key due
    refine Key.evict_of_not ?_
    rintro ⟨d, found, passed⟩
    rw [due, Option.some.injEq] at found
    omega
  unfold Keys.evict
  rw [alive _ deadline, alive _ (holding.due.trans deadline)]
  exact { lease := holding.lease, stored := holding.stored, due := holding.due,
          last := ⟨last, last_le.trans le, deadline, expiry_le⟩ }

/-- A write to both keys under which the lease stays. -/
theorem Holding.put (holding : Holding ttl id token time expiry k) {leases : ZSet ι}
    {tokens : Dict ι τ} (lease : leases.lookup id = some expiry)
    (stored : tokens.lookup id = some token) :
    Holding ttl id token time expiry
      { k with leases := k.leases.put leases, tokens := k.tokens.put tokens } where
  lease := by rw [Key.put_value, lease]
  stored := by rw [Key.put_value, stored]
  due := by
    rw [Key.put_deadline _ (AList.ne_default_of_mem (AList.mem_of_lookup lease)),
      Key.put_deadline _ (AList.ne_default_of_mem (AList.mem_of_lookup stored)), holding.due]
  last := by
    rw [Key.put_deadline _ (AList.ne_default_of_mem (AList.mem_of_lookup lease))]
    exact holding.last

theorem holding_pexpire {leases : Key (ZSet ι)} {tokens : Key (Dict ι τ)} (positive : 0 < ttl)
    (lease : leases.value.lookup id = some expiry) (stored : tokens.value.lookup id = some token)
    (le : expiry ≤ now + ttl) (fence : Key ℕ) :
    Holding ttl id token now expiry
      ⟨leases.pexpire now (ttl * 4), tokens.pexpire now (ttl * 4), fence⟩ := by
  have longer : 0 < ttl * 4 := by omega
  have left : (leases.pexpire now (ttl * 4)).deadline = some (now + ttl * 4) :=
    Key.pexpire_deadline longer (AList.ne_default_of_mem (AList.mem_of_lookup lease))
  have right : (tokens.pexpire now (ttl * 4)).deadline = some (now + ttl * 4) :=
    Key.pexpire_deadline longer (AList.ne_default_of_mem (AList.mem_of_lookup stored))
  refine ⟨?_, ?_, ?_, ⟨now, le_rfl, left, le⟩⟩
  · rw [Key.pexpire_value _ longer, lease]
  · rw [Key.pexpire_value _ longer, stored]
  · rw [left, right]

theorem Holding.reclaim (holding : Holding ttl id token time expiry k) (early : now < expiry) :
    Holding ttl id token time expiry (reclaim now k) := by
  have stays := (reclaim_lease now k id).mpr ⟨holding.lease, early⟩
  rcases reclaim_cases now k with dropped | ⟨kept, _⟩
  · rw [dropped] at stays ⊢
    rw [Key.put_value] at stays
    refine holding.put stays ?_
    rw [AList.lookup_eraseEach, if_neg, holding.stored]
    intro member
    obtain ⟨score, found, passed⟩ := mem_rangeByScore.mp member
    rw [holding.lease, Option.some.injEq] at found
    omega
  · rw [kept]
    exact holding

theorem Holding.expiry_le (holding : Holding ttl id token time expiry k) : expiry ≤ time + ttl := by
  obtain ⟨last, last_le, _, le⟩ := holding.last
  omega

variable [DecidableEq τ]

omit [DecidableEq τ] in
theorem Holding.acquire (holding : Holding ttl id token now expiry k) (early : now < expiry)
    (tostring : ℕ → τ) (limit : ℕ) {other : ι} (ne : id ≠ other) :
    Holding ttl id token now expiry (acquireLua tostring now ttl limit other k).2 := by
  have held := holding.reclaim early
  by_cases full : card (Admission.reclaim now k).leases.value ≥ limit
  · simp only [acquireLua, if_pos full]
    exact held
  · simp only [acquireLua, if_neg full]
    refine holding_pexpire (holding.ttl_pos le_rfl early) ?_ ?_ holding.expiry_le _
    · rw [Key.put_value, AList.lookup_insert_ne ne, held.lease]
    · rw [Key.put_value, AList.lookup_insert_ne ne, held.stored]

theorem Holding.renew (holding : Holding ttl id token now expiry k) (early : now < expiry)
    (other : ι) (w : τ) :
    Holding ttl id token now (Call.expiry ttl id token expiry (.renew now other w))
      (renewLua now ttl other w k).2 := by
  have positive := holding.ttl_pos le_rfl early
  by_cases unknown : k.tokens.value.lookup other ≠ some w
  · have notOwn : ¬ (other = id ∧ w = token) := by
      rintro ⟨rfl, rfl⟩
      exact unknown holding.stored
    simp only [renewLua, if_pos unknown, Call.expiry, if_neg notOwn]
    exact holding
  · have known := not_ne_iff.mp unknown
    cases score : k.leases.value.lookup other with
    | none =>
        have notOwn : ¬ (other = id ∧ w = token) := by
          rintro ⟨rfl, _⟩
          rw [holding.lease] at score
          cases score
        simp only [renewLua, if_neg unknown, score, Call.expiry, if_neg notOwn]
        exact holding
    | some s =>
        simp only [renewLua, if_neg unknown, score, Call.expiry]
        by_cases own : other = id
        · subst own
          have same : w = token := by
            rw [holding.stored, Option.some.injEq] at known
            exact known.symm
          rw [if_pos ⟨rfl, same⟩]
          refine holding_pexpire positive ?_ holding.stored le_rfl _
          rw [Key.put_value, AList.lookup_insert]
        · rw [if_neg fun h => own h.1]
          refine holding_pexpire positive ?_ holding.stored holding.expiry_le _
          rw [Key.put_value, AList.lookup_insert_ne (Ne.symm own), holding.lease]

theorem Holding.release (holding : Holding ttl id token now expiry k) {other : ι} {w : τ}
    (kept : ¬ (other = id ∧ w = token)) :
    Holding ttl id token now expiry (releaseLua other w k).2 := by
  by_cases unknown : k.tokens.value.lookup other ≠ some w
  · simp only [releaseLua, if_pos unknown]
    exact holding
  · have ne : id ≠ other := by
      rintro rfl
      rw [not_ne_iff, holding.stored, Option.some.injEq] at unknown
      exact kept ⟨rfl, unknown.symm⟩
    simp only [releaseLua, if_neg unknown]
    refine holding.put ?_ ?_
    · rw [AList.lookup_erase_ne ne, holding.lease]
    · rw [AList.lookup_erase_ne ne, holding.stored]

theorem Holding.exec {S : Settings τ} (holding : Holding S.ttl id token time expiry k)
    (c : Call ι τ) (le : time ≤ c.now) (early : c.now < expiry)
    (kept : ∀ now, c ≠ .release now id token) (other : id ∉ c.draws) :
    Holding S.ttl id token c.now (c.expiry S.ttl id token expiry) (S.exec k c) := by
  have held := holding.evict le early
  cases c with
  | acquire now j => exact held.acquire early S.tostring S.limit (List.ne_of_not_mem_cons other)
  | renew now j w => exact held.renew early j w
  | release now j w =>
      refine held.release ?_
      rintro ⟨rfl, rfl⟩
      exact kept now rfl
  | purge now => exact held.reclaim early

/-- Over a run in which it is renewed in time, a lease stays in both keys. -/
theorem Holding.run {S : Settings τ} {t : ℤ} (calls : List (Call ι τ))
    (holding : Holding S.ttl id token time expiry k)
    (clock : ∀ c ∈ calls, time ≤ c.now) (sorted : calls.Pairwise fun a b => a.now ≤ b.now)
    (others : ∀ c ∈ calls, id ∉ c.draws) (renewed : RenewedUntil S.ttl id token t expiry calls) :
    ∃ time' expiry', Holding S.ttl id token time' expiry' (S.runFrom k calls) ∧ t < expiry' ∧
      (time' = time ∨ ∃ c ∈ calls, time' = c.now) := by
  induction calls generalizing k time expiry with
  | nil => exact ⟨time, expiry, holding, renewed, .inl rfl⟩
  | cons c calls ih =>
      obtain ⟨early, kept, rest⟩ := renewed
      obtain ⟨first, sorted'⟩ := List.pairwise_cons.mp sorted
      have step := holding.exec c (clock c List.mem_cons_self) early kept (others c List.mem_cons_self)
      obtain ⟨time', expiry', held, later, when_⟩ := ih step first sorted'
        (fun d member => others d (List.mem_cons_of_mem c member)) rest
      refine ⟨time', expiry', held, later, .inr ?_⟩
      rcases when_ with rfl | ⟨d, member, same⟩
      · exact ⟨c, List.mem_cons_self, rfl⟩
      · exact ⟨d, List.mem_cons_of_mem c member, same⟩

/-- A granted acquire holds its lease, unless the time to live leaves no time at all. -/
theorem holding_granted (S : Settings τ) (k : Keys ι τ) {n : ℕ} (positive : 0 < S.ttl)
    (granted : S.granted? k (.acquire now id) = some (id, n)) :
    Holding S.ttl id (S.tostring n) now (now + S.ttl) (S.exec k (.acquire now id)) := by
  by_cases full : card (Admission.reclaim now (k.evict now)).leases.value ≥ S.limit
  · simp only [Settings.granted?, acquireLua, if_pos full] at granted
    cases granted
  · simp only [Settings.granted?, acquireLua, if_neg full, Option.some.injEq, Prod.mk.injEq,
      true_and] at granted
    simp only [Settings.exec, acquireLua, if_neg full, granted]
    refine holding_pexpire positive ?_ ?_ le_rfl _
    · rw [Key.put_value, AList.lookup_insert]
    · rw [Key.put_value, AList.lookup_insert]

end Renewal

/-- Safety of the lease store, for any interleaving of the scripts on one clock. -/
theorem lease_store_safety [DecidableEq τ] (S : Settings τ) (calls : List (Call ι τ))
    (clock : calls.Pairwise fun a b => a.now ≤ b.now) (fresh : (calls.flatMap Call.draws).Nodup) :
    (∀ t, card ((S.run calls).evict t).leases.value ≤ S.limit) ∧
    (∀ t id, id ∈ ((S.run calls).evict t).tokens.value ↔ id ∈ ((S.run calls).evict t).leases.value) ∧
    (∀ before now id after n, calls = before ++ .acquire now id :: after →
      S.granted? (S.run before) (.acquire now id) = some (id, n) →
      ∀ t, (∀ c ∈ calls, c.now ≤ t) → RenewedUntil S.ttl id (S.tostring n) t (now + S.ttl) after →
        (∃ score, ((S.run calls).evict t).leases.value.lookup id = some score ∧ t < score) ∧
        ((S.run calls).evict t).tokens.value.lookup id = some (S.tostring n)) ∧
    ∀ now id token, ((S.run calls).evict now).tokens.value.lookup id ≠ some token →
      renewLua now S.ttl id token ((S.run calls).evict now) = (false, (S.run calls).evict now) ∧
      releaseLua id token ((S.run calls).evict now) = (false, (S.run calls).evict now) := by
  have inv := inv_run S calls
  refine ⟨fun t => (inv.evict t).bounded, fun t => (inv.evict t).same, ?_, ?_⟩
  · rintro before now id after n rfl granted t past renewed
    have sorted := (List.pairwise_append.mp clock).2.1
    obtain ⟨first, sorted'⟩ := List.pairwise_cons.mp sorted
    rw [List.flatMap_append] at fresh
    have apart := (List.nodup_append.mp fresh).2.1
    rw [List.flatMap_cons, Call.draws, List.singleton_append, List.nodup_cons] at apart
    have others : ∀ c ∈ after, id ∉ c.draws := fun c member drawn =>
      apart.1 (List.mem_flatMap.mpr ⟨c, member, drawn⟩)
    have reached : now ≤ t :=
      past (.acquire now id) (List.mem_append_right before List.mem_cons_self)
    have positive : 0 < S.ttl := by
      cases after with
      | nil =>
          have early : t < now + S.ttl := renewed
          omega
      | cons c after =>
          have early := renewed.1
          have later := first c List.mem_cons_self
          change now ≤ c.now at later
          omega
    obtain ⟨time, expiry, held, later, when_⟩ :=
      (holding_granted S (S.run before) positive granted).run after first sorted' others renewed
    have time_le : time ≤ t := by
      rcases when_ with rfl | ⟨c, member, rfl⟩
      · exact reached
      · exact past c (List.mem_append_right before (List.mem_cons_of_mem _ member))
    have final := held.evict time_le later
    rw [Settings.run, Settings.runFrom_append, Settings.runFrom_cons]
    exact ⟨⟨expiry, final.lease, later⟩, final.stored⟩
  · intro now id token stale
    exact ⟨if_pos stale, if_pos stale⟩

def twoSlots : Settings String := ⟨10, 2, toString⟩

/-- A lease renewed twice, past the life it started with, while another comes and goes. -/
def renewedCalls : List (Call ℕ String) :=
  [.acquire 0 1, .renew 9 1 "1", .acquire 12 2, .purge 15, .renew 18 1 "1", .acquire 25 3]

theorem lease_store_safety_renewed :
    card ((twoSlots.run renewedCalls).evict 27).leases.value ≤ 2 ∧
    ∃ score, ((twoSlots.run renewedCalls).evict 27).leases.value.lookup 1 = some score ∧ 27 < score := by
  have safe := lease_store_safety twoSlots renewedCalls (by decide) (by decide)
  refine ⟨safe.1 27, (safe.2.2.1 [] 0 1 renewedCalls.tail 1 rfl (by decide) 27 (by decide) ?_).1⟩
  refine ⟨by decide, nofun, by decide, nofun, by decide, nofun, by decide, nofun, by decide, nofun, ?_⟩
  exact (by decide : (27 : ℤ) < 28)

end RuntimePlatform.Admission
