import RuntimePlatform.Admission.Leases

/-!
Fencing tokens come from a counter with a time to live of its own, which only
acquires refresh. They increase as long as no acquire is granted with the counter
expired while a lease is live.
-/

namespace RuntimePlatform.Admission
open Redis
variable {ι τ : Type}

/-- The leases whose recorded expiry lies after `t`. -/
def liveLeases (t : ℤ) (k : Keys ι τ) : ZSet ι := remRangeByScore t (k.evict t).leases.value

def SomeLive (t : ℤ) (k : Keys ι τ) : Prop := liveLeases t k ≠ default

instance (t : ℤ) (k : Keys ι τ) : Decidable (SomeLive t k) :=
  inferInstanceAs (Decidable (¬ _))

variable [DecidableEq ι] [DecidableEq τ] (S : Settings τ)

/-- An acquire which is granted while a lease is live also finds the counter. -/
def Settings.FenceKept (k : Keys ι τ) (c : Call ι τ) : Prop :=
  S.granted? k c ≠ none → SomeLive c.now k → (k.evict c.now).fence.value ≠ 0

instance (k : Keys ι τ) (c : Call ι τ) : Decidable (S.FenceKept k c) :=
  inferInstanceAs (Decidable (_ → _))

/-- Every call of the run is made in a state which the test accepts. -/
def Settings.EveryStep (P : Keys ι τ → Call ι τ → Prop) : Keys ι τ → List (Call ι τ) → Prop
  | _, [] => True
  | k, c :: calls => P k c ∧ EveryStep P (S.exec k c) calls

instance decidableEveryStep (P : Keys ι τ → Call ι τ → Prop) [∀ k c, Decidable (P k c)] :
    ∀ k calls, Decidable (S.EveryStep P k calls)
  | _, [] => isTrue trivial
  | k, c :: calls =>
      have := decidableEveryStep P (S.exec k c) calls
      inferInstanceAs (Decidable (_ ∧ _))

/-- The acquisitions of a run, in order, each with its token. -/
def Settings.grantsFrom : Keys ι τ → List (Call ι τ) → List (ι × ℕ)
  | _, [] => []
  | k, c :: calls => (S.granted? k c).toList ++ grantsFrom (S.exec k c) calls

def Settings.grants (calls : List (Call ι τ)) : List (ι × ℕ) := S.grantsFrom Keys.empty calls

variable {S}

theorem everyStep_append {P : Keys ι τ → Call ι τ → Prop} {k : Keys ι τ} {calls more : List (Call ι τ)} :
    S.EveryStep P k (calls ++ more) ↔ S.EveryStep P k calls ∧ S.EveryStep P (S.runFrom k calls) more := by
  induction calls generalizing k with
  | nil => exact (and_iff_right trivial).symm
  | cons c calls ih =>
      simp only [List.cons_append, Settings.EveryStep, ih, Settings.runFrom_cons, and_assoc]

theorem grantsFrom_append (k : Keys ι τ) (calls more : List (Call ι τ)) :
    S.grantsFrom k (calls ++ more) = S.grantsFrom k calls ++ S.grantsFrom (S.runFrom k calls) more := by
  induction calls generalizing k with
  | nil => rfl
  | cons c calls ih =>
      simp only [List.cons_append, Settings.grantsFrom, ih, Settings.runFrom_cons, List.append_assoc]

/-! What one call can do to the counter and to the set of leases. -/
section Step
variable {k : Keys ι τ} {c : Call ι τ} {id : ι} {n : ℕ}

omit [DecidableEq ι] [DecidableEq τ] in
theorem evict_fence (now : ℤ) (k : Keys ι τ) :
    (k.evict now).fence.value = k.fence.value ∨ (k.evict now).fence.value = 0 :=
  (Key.evict_cases now k.fence).imp (congrArg Key.value) (congrArg Key.value)

omit [DecidableEq ι] [DecidableEq τ] in
theorem mem_evict {now : ℤ} (member : id ∈ (k.evict now).leases.value) : id ∈ k.leases.value := by
  rcases Key.evict_cases now k.leases with kept | gone
  · exact kept ▸ member
  · change id ∈ (k.leases.evict now).value at member
    rw [gone] at member
    exact absurd member (AList.notMem_empty id)

omit [DecidableEq ι] [DecidableEq τ] in
theorem mem_pexpire {key : Key (ZSet ι)} {now ttl : ℤ} (member : id ∈ (key.pexpire now ttl).value) :
    id ∈ key.value := by
  rcases Key.pexpire_cases now ttl key with kept | gone
  · exact kept ▸ member
  · rw [gone] at member
    exact absurd member (AList.notMem_empty id)

omit [DecidableEq τ] in
theorem mem_reclaim (now : ℤ) (k : Keys ι τ) :
    id ∈ (reclaim now (k.evict now)).leases.value ↔ id ∈ liveLeases now k := by
  unfold liveLeases
  rw [AList.mem_iff_lookup, AList.mem_iff_lookup]
  simp only [reclaim_lease, lookup_remRangeByScore]

omit [DecidableEq τ] in
theorem mem_of_live {t : ℤ} (live : id ∈ liveLeases t k) : id ∈ k.leases.value := by
  obtain ⟨score, found⟩ := AList.mem_iff_lookup.mp live
  exact mem_evict (AList.mem_of_lookup (lookup_remRangeByScore.mp found).1)

omit [DecidableEq ι] [DecidableEq τ] in
theorem someLive_of_mem {now : ℤ} (member : id ∈ liveLeases now k) : SomeLive now k :=
  AList.ne_default_of_mem member

/-- A granted acquire hands out the next number and adds one lease to the live ones. -/
theorem granted_step (granted : S.granted? k c = some (id, n)) :
    c = .acquire c.now id ∧ n = (k.evict c.now).fence.value + 1 ∧
      ((S.exec k c).fence.value = n ∨ (S.exec k c).fence.value = 0) ∧
      ∀ j ∈ (S.exec k c).leases.value, j = id ∨ j ∈ liveLeases c.now k := by
  cases c with
  | acquire now other =>
      by_cases full : card (reclaim now (k.evict now)).leases.value ≥ S.limit
      · simp only [Settings.granted?, acquireLua, if_pos full] at granted
        cases granted
      · simp only [Settings.granted?, acquireLua, if_neg full, reclaim_fence, Option.some.injEq,
          Prod.mk.injEq] at granted
        obtain ⟨rfl, rfl⟩ := granted
        refine ⟨rfl, rfl, ?_, fun j member => ?_⟩
        · simp only [Settings.exec, acquireLua, if_neg full, reclaim_fence]
          refine (Key.pexpire_cases now (S.ttl * 8) _).imp (fun kept => ?_) fun gone => gone
          rw [kept, Key.put_value]
        · simp only [Settings.exec, acquireLua, if_neg full] at member
          have inserted := mem_pexpire member
          rw [Key.put_value, AList.mem_insert, mem_reclaim] at inserted
          exact inserted
  | renew now other w => cases granted
  | release now other w => cases granted
  | purge now => cases granted

/-- Any other call leaves the counter alone and adds no lease. -/
theorem other_step (denied : S.granted? k c = none) :
    (S.exec k c).fence = (k.evict c.now).fence ∧
      ∀ j ∈ (S.exec k c).leases.value, j ∈ (k.evict c.now).leases.value := by
  have reclaimed : ∀ now, ∀ j ∈ (reclaim now (k.evict now)).leases.value,
      j ∈ (k.evict now).leases.value := by
    intro now j member
    obtain ⟨score, found⟩ := AList.mem_iff_lookup.mp member
    exact AList.mem_of_lookup ((reclaim_lease now _ j).mp found).1
  cases c with
  | acquire now other =>
      by_cases full : card (reclaim now (k.evict now)).leases.value ≥ S.limit
      · simp only [Settings.exec, acquireLua, if_pos full]
        exact ⟨reclaim_fence _ _, reclaimed now⟩
      · simp only [Settings.granted?, acquireLua, if_neg full, reduceCtorEq] at denied
  | renew now other w =>
      simp only [Settings.exec, renewLua]
      split
      · exact ⟨rfl, fun j member => member⟩
      · split
        · exact ⟨rfl, fun j member => member⟩
        · next score found =>
            refine ⟨rfl, fun j member => ?_⟩
            have inserted := mem_pexpire member
            rw [Key.put_value, AList.mem_insert] at inserted
            rcases inserted with rfl | old
            · exact AList.mem_of_lookup found
            · exact old
  | release now other w =>
      simp only [Settings.exec, releaseLua]
      split
      · exact ⟨rfl, fun j member => member⟩
      · refine ⟨rfl, fun j member => ?_⟩
        rw [Key.put_value, AList.mem_erase] at member
        exact member.2
  | purge now => exact ⟨reclaim_fence _ _, reclaimed now⟩

/-- While some lease is live and the counter is kept, a grant exceeds the counter. -/
theorem granted_gt (kept : S.FenceKept k c) (granted : S.granted? k c = some (id, n))
    (live : SomeLive c.now k) : k.fence.value < n ∧ k.fence.value ≠ 0 := by
  obtain ⟨_, number, _⟩ := granted_step granted
  have present := kept (by rw [granted]; exact Option.some_ne_none _) live
  rcases evict_fence c.now k with same | gone
  · rw [same] at number present
    exact ⟨by omega, present⟩
  · exact absurd gone present

/-- A token already handed out stays below the counter until the counter is gone. -/
def Below (n : ℕ) (k : Keys ι τ) : Prop := n ≤ k.fence.value ∨ k.fence.value = 0

theorem Below.step (below : Below n k) (kept : S.FenceKept k c) (live : SomeLive c.now k) :
    Below n (S.exec k c) := by
  cases granted : S.granted? k c with
  | none =>
      obtain ⟨fence, _⟩ := other_step granted
      rw [Below, fence]
      rcases evict_fence c.now k with same | gone
      · rw [same]; exact below
      · exact .inr gone
  | some grant =>
      obtain ⟨j, m⟩ := grant
      obtain ⟨above, present⟩ := granted_gt kept granted live
      obtain ⟨_, _, counter, _⟩ := granted_step granted
      refine counter.imp (fun same => ?_) fun gone => gone
      have := below.resolve_right present
      omega

end Step

/-! ## Tokens over a run -/

section Run
variable {k : Keys ι τ}

theorem Below.run {n : ℕ} (calls : List (Call ι τ)) (below : Below n k)
    (kept : S.EveryStep S.FenceKept k calls)
    (live : S.EveryStep (fun k c => SomeLive c.now k) k calls) : Below n (S.runFrom k calls) := by
  induction calls generalizing k with
  | nil => exact below
  | cons c calls ih => exact ih (below.step kept.1 live.1) kept.2 live.2

/-- The tokens of the leases in the store: distinct, and below the counter while it is kept. -/
structure Issued (grants : List (ι × ℕ)) (k : Keys ι τ) : Prop where
  below : ∀ id n, id ∈ k.leases.value → (id, n) ∈ grants → Below n k
  distinct : ∀ id j n m, id ∈ k.leases.value → j ∈ k.leases.value → id ≠ j →
    (id, n) ∈ grants → (j, m) ∈ grants → n ≠ m

theorem Issued.step {grants : List (ι × ℕ)} (issued : Issued grants k) {c : Call ι τ}
    (kept : S.FenceKept k c) (fresh : ∀ id ∈ c.draws, ∀ n, (id, n) ∉ grants) :
    Issued (grants ++ (S.granted? k c).toList) (S.exec k c) := by
  cases granted : S.granted? k c with
  | none =>
      obtain ⟨fence, sub⟩ := other_step granted
      rw [Option.toList_none, List.append_nil]
      refine ⟨fun id n member grant => ?_, fun id j n m left right => ?_⟩
      · rw [Below, fence]
        rcases evict_fence c.now k with same | gone
        · rw [same]
          exact issued.below id n (mem_evict (sub id member)) grant
        · exact .inr gone
      · exact issued.distinct id j n m (mem_evict (sub id left)) (mem_evict (sub j right))
  | some grant =>
      obtain ⟨new, number⟩ := grant
      obtain ⟨acquire, _, counter, sub⟩ := granted_step granted
      have drawn : new ∈ c.draws := by rw [acquire]; exact List.mem_cons_self
      rw [Option.toList_some]
      -- a lease other than the new one was live, so its token is below the new one
      have old : ∀ id n, id ∈ (S.exec k c).leases.value → id ≠ new →
          (id, n) ∈ grants ++ [(new, number)] → n < number ∧ (id, n) ∈ grants := by
        intro id n member ne grant
        have live := (sub id member).resolve_left ne
        have grant' : (id, n) ∈ grants := by
          rcases List.mem_append.mp grant with before | last
          · exact before
          · rw [List.mem_singleton, Prod.mk.injEq] at last
            exact absurd last.1 ne
        obtain ⟨above, present⟩ := granted_gt kept granted (someLive_of_mem live)
        have := (issued.below id n (mem_of_live live) grant').resolve_right present
        exact ⟨by omega, grant'⟩
      have own : ∀ n, (new, n) ∈ grants ++ [(new, number)] → n = number := by
        intro n grant
        rcases List.mem_append.mp grant with before | last
        · exact absurd before (fresh new drawn n)
        · rw [List.mem_singleton, Prod.mk.injEq] at last
          exact last.2
      refine ⟨fun id n member grant => counter.imp (fun same => ?_) fun gone => gone,
        fun id j n m left right ne first second => ?_⟩
      · by_cases same' : id = new
        · subst same'
          rw [own n grant, same]
        · have := (old id n member same' grant).1
          omega
      · by_cases isNew : id = new
        · subst isNew
          rw [own n first]
          exact (old j m right (Ne.symm ne) second).1.ne'
        · by_cases isNew' : j = new
          · subst isNew'
            rw [own m second]
            exact (old id n left isNew first).1.ne
          · exact issued.distinct id j n m (mem_of_live ((sub id left).resolve_left isNew))
              (mem_of_live ((sub j right).resolve_left isNew')) ne
              (old id n left isNew first).2 (old j m right isNew' second).2

theorem drawn_of_grant {id : ι} {n : ℕ} (calls : List (Call ι τ)) (grant : (id, n) ∈ S.grantsFrom k calls) :
    id ∈ calls.flatMap Call.draws := by
  induction calls generalizing k with
  | nil => cases grant
  | cons c calls ih =>
      rw [List.flatMap_cons, List.mem_append]
      rcases List.mem_append.mp grant with here | later
      · obtain ⟨acquire, _⟩ := granted_step (Option.mem_toList.mp here)
        rw [acquire]
        exact .inl List.mem_cons_self
      · exact .inr (ih later)

theorem issued_run (calls : List (Call ι τ)) (kept : S.EveryStep S.FenceKept Keys.empty calls)
    (fresh : (calls.flatMap Call.draws).Nodup) : Issued (S.grants calls) (S.run calls) := by
  induction calls using List.reverseRecOn with
  | nil =>
      exact ⟨fun id _ member => absurd member (AList.notMem_empty id),
        fun id _ _ _ member => absurd member (AList.notMem_empty id)⟩
  | append_singleton calls c ih =>
      rw [everyStep_append] at kept
      rw [List.flatMap_append] at fresh
      obtain ⟨before, _, apart⟩ := List.nodup_append.mp fresh
      have step := (ih kept.1 before).step (S := S) kept.2.1 fun id drawn n grant =>
        apart id (drawn_of_grant calls grant) id (by simpa using drawn) rfl
      rw [Settings.grants, grantsFrom_append, Settings.run, Settings.runFrom_append]
      rw [Settings.grantsFrom, Settings.grantsFrom, List.append_nil]
      exact step

end Run

variable (S)

/-- In every run whose granted acquires find the counter while a lease is live, a token
exceeds every earlier one it has been separated from by live leases only, and live
leases carry different tokens. -/
theorem fencing_increases (calls : List (Call ι τ)) (kept : S.EveryStep S.FenceKept Keys.empty calls)
    (fresh : (calls.flatMap Call.draws).Nodup) :
    (∀ before c mid d after id j n m, calls = before ++ c :: mid ++ d :: after →
      S.granted? (S.run before) c = some (id, n) →
      S.granted? (S.run (before ++ c :: mid)) d = some (j, m) →
      S.EveryStep (fun k e => SomeLive e.now k) (S.run (before ++ [c])) (mid ++ [d]) → n < m) ∧
    ∀ t id j n m, id ≠ j → id ∈ liveLeases t (S.run calls) → j ∈ liveLeases t (S.run calls) →
      (id, n) ∈ S.grants calls → (j, m) ∈ S.grants calls → n ≠ m := by
  constructor
  · rintro before c mid d after id j n m rfl first second live
    have split : S.run (before ++ c :: mid) = S.runFrom (S.run (before ++ [c])) mid := by
      rw [Settings.run, Settings.run, ← Settings.runFrom_append, List.append_assoc,
        List.singleton_append]
    have regroup : before ++ c :: mid ++ d :: after = (before ++ [c]) ++ (mid ++ d :: after) := by
      rw [List.append_assoc, List.append_assoc, List.singleton_append, List.cons_append]
    rw [regroup, everyStep_append] at kept
    obtain ⟨keptMid, keptLast, _⟩ := everyStep_append.mp kept.2
    rw [everyStep_append] at live
    obtain ⟨_, _, counter, _⟩ := granted_step first
    have start : Below n (S.run (before ++ [c])) := by
      rw [Settings.run, Settings.runFrom_append]
      exact counter.imp (fun same => same.ge) fun gone => gone
    have below : Below n (S.runFrom (S.runFrom Keys.empty (before ++ [c])) mid) :=
      start.run mid keptMid live.1
    obtain ⟨above, present⟩ := granted_gt keptLast (split ▸ second) live.2.1
    have := below.resolve_right present
    omega
  · intro t id j n m ne left right
    exact (issued_run calls kept fresh).distinct id j n m (mem_of_live left) (mem_of_live right) ne

/-- Two overlapping leases within the life of the counter. -/
def overlapping : List (Call ℕ String) := [.acquire 0 1, .renew 9 1 "1", .acquire 12 2]

theorem fencing_increases_overlapping :
    twoSlots.grants overlapping = [(1, 1), (2, 2)] ∧ 1 < 2 ∧
      1 ∈ liveLeases 13 (twoSlots.run overlapping) ∧ 2 ∈ liveLeases 13 (twoSlots.run overlapping) ∧
      (1 : ℕ) ≠ 2 := by
  have increases := fencing_increases twoSlots overlapping (by decide) (by decide)
  have left : 1 ∈ liveLeases 13 (twoSlots.run overlapping) := by decide
  have right : 2 ∈ liveLeases 13 (twoSlots.run overlapping) := by decide
  refine ⟨by decide, ?_, left, right, ?_⟩
  · exact increases.1 [] (.acquire 0 1) [.renew 9 1 "1"] (.acquire 12 2) [] 1 2 1 2 rfl (by decide)
      (by decide) (by decide)
  · exact increases.2 13 1 2 1 2 (by decide) left right (by decide) (by decide)

/-- A lease that outlives the counter by being renewed. -/
def longRenewed : List (Call ℕ String) :=
  [.renew 9 1 "1", .renew 18 1 "1", .renew 27 1 "1", .renew 36 1 "1", .renew 45 1 "1",
    .renew 54 1 "1", .renew 63 1 "1", .renew 72 1 "1", .renew 81 1 "1"]

/-- The counter starts again at 1 while the first lease is live, so the second lease
gets the token of the first. -/
theorem fence_restarts :
    twoSlots.granted? (twoSlots.run []) (.acquire 0 1) = some (1, 1) ∧
    twoSlots.granted? (twoSlots.run (.acquire 0 1 :: longRenewed)) (.acquire 82 2) = some (2, 1) ∧
    twoSlots.EveryStep (fun k e => SomeLive e.now k) (twoSlots.run [.acquire 0 1])
      (longRenewed ++ [.acquire 82 2]) ∧
    1 ∈ liveLeases 83 (twoSlots.run (.acquire 0 1 :: longRenewed ++ [.acquire 82 2])) ∧
    2 ∈ liveLeases 83 (twoSlots.run (.acquire 0 1 :: longRenewed ++ [.acquire 82 2])) := by
  decide

end RuntimePlatform.Admission
