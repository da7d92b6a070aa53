import RuntimePlatform.Tenant.Backend
import Mathlib.Algebra.Order.Group.Int
import Mathlib.Algebra.Order.Ring.Rat
import Mathlib.Algebra.Order.Monoid.Prod
import Mathlib.Data.List.Induction
import Mathlib.Data.List.Nodup

/-!
What the tenant counters report, and what one request adds to it. The account of a store lists the charges of the
requests; a store reports the requests of the last minute, and the tokens and the spend of the day. A run is compared
with the one without the operations of a request.
-/

namespace RuntimePlatform.Tenant

/-- Spends without rounding. -/
def exactSpending : Spending ℚ where
  zero := 0
  add a b := a + b
  sub a b := a - b
  clamp a := max 0 a
  delta a b := a - b

/-- What is done to a store, and the time which passes. An operation is told the date which it has read. -/
inductive Act where
  | wait (ms : ℕ)
  | reserve (asked : ℤ) (team : String) (input_tokens output_tokens : ℕ) (spend_usd : ℚ) (member_id : String)
  | refund (asked : ℤ) (reservation : QuotaReservation ℚ)
  | reconcile (asked : ℤ) (reservation : QuotaReservation ℚ) (actual_input_tokens actual_output_tokens : ℕ)
    (actual_spend_usd : ℚ)

def Act.member_id : Act → Option String
  | .wait _ => none
  | .reserve _ _ _ _ _ member_id => some member_id
  | .refund _ reservation | .reconcile _ reservation _ _ _ => some reservation.member_id

/-- The tokens which are brought in. -/
def Act.tokens : Act → ℕ
  | .reserve _ _ input_tokens output_tokens _ _ => input_tokens + output_tokens
  | .reconcile _ _ actual_input_tokens actual_output_tokens _ => actual_input_tokens + actual_output_tokens
  | .wait _ | .refund _ _ => 0

structure Timed (σ : Type) where
  store : σ
  now : ℤ

section Stores
variable {σ : Type} (B : TenantAttributionBackend σ ℚ)

def act (w : Timed σ) : Act → Timed σ
  | .wait ms => { w with now := w.now + ms }
  | .reserve asked team input_tokens output_tokens spend_usd member_id =>
    { w with store := (B.reserve_request w.store w.now asked team input_tokens output_tokens spend_usd member_id).1 }
  | .refund asked reservation => { w with store := B.refund_reservation w.store w.now asked reservation }
  | .reconcile asked reservation actual_input_tokens actual_output_tokens actual_spend_usd =>
    { w with store := (B.reconcile_usage w.store w.now asked reservation actual_input_tokens actual_output_tokens
        actual_spend_usd).1 }

/-- The requests of the last minute, and the tokens and the spend of the day. -/
def TenantAttributionBackend.report (store : σ) (now : ℤ) (team : String) : ℕ × ℤ × ℚ :=
  ((B.usage_snapshot store now team).1, (B.usage_snapshot store now team).2, B.spend_snapshot store now team)

/-- The reports on all teams after some acts. -/
def TenantAttributionBackend.reports (now : ℤ) (acts : List Act) (team : String) : ℕ × ℤ × ℚ :=
  B.report (Runs.run (act B) ⟨B.empty, now⟩ acts).store (Runs.run (act B) ⟨B.empty, now⟩ acts).now team

/-- The acts without those on one reservation. -/
def others (member_id : String) (acts : List Act) : List Act :=
  acts.filter fun e => decide (e.member_id ≠ some member_id)

/-- The store reports as if the reservation had never been made. -/
def GivenBack (now : ℤ) (acts : List Act) (member_id : String) : Prop :=
  B.reports now acts = B.reports now (others member_id acts)

end Stores

/-! The account. -/

inductive Standing where
  | pending | refunded | reconciled
  deriving DecidableEq

/-- What is charged for a request: the reservation, then what it has used, or nothing. -/
structure Charge where
  team : String
  member_id : String
  time : ℤ
  tokens : ℕ
  spend_usd : ℚ
  standing : Standing

structure Account where
  now : ℤ
  charges : List Charge

def Charge.settle (member_id : String) (standing : Standing) (tokens : ℕ) (spend_usd : ℚ) (charge : Charge) : Charge :=
  if charge.member_id = member_id then { charge with standing := standing, tokens := tokens, spend_usd := spend_usd }
  else charge

def Account.settle (a : Account) (member_id : String) (standing : Standing) (tokens : ℕ) (spend_usd : ℚ) : Account :=
  { a with charges := a.charges.map (Charge.settle member_id standing tokens spend_usd) }

def book (a : Account) : Act → Account
  | .wait ms => { a with now := a.now + ms }
  | .reserve _ team input_tokens output_tokens spend_usd member_id =>
    { a with charges := a.charges ++ [⟨team, member_id, a.now, input_tokens + output_tokens, spend_usd, .pending⟩] }
  | .refund _ reservation => a.settle reservation.member_id .refunded 0 0
  | .reconcile _ reservation actual_input_tokens actual_output_tokens actual_spend_usd =>
    a.settle reservation.member_id .reconciled (actual_input_tokens + actual_output_tokens) actual_spend_usd

def Account.opened (now : ℤ) : Account := ⟨now, []⟩

/-- The account of some acts. -/
def account (now : ℤ) (acts : List Act) : Account := Runs.run book (.opened now) acts

/-- The charge is that of an open reservation of this day. -/
def Charge.Covers (charge : Charge) (now : ℤ) (reservation : QuotaReservation ℚ) : Prop :=
  charge.standing = .pending ∧ charge.member_id = reservation.member_id ∧ charge.team = reservation.team ∧
    charge.tokens = reservation.reserved_tokens ∧ charge.spend_usd = reservation.reserved_spend_usd ∧
    today charge.time = today now

/-- An act in its time: it reads the date of the day, and a reservation is closed once, on the day on which it was
made. -/
def Timely (a : Account) : Act → Prop
  | .wait _ => True
  | .reserve asked _ _ _ spend_usd member_id =>
    asked = today a.now ∧ (∀ charge ∈ a.charges, charge.member_id ≠ member_id) ∧ 0 ≤ spend_usd
  | .refund asked reservation => asked = today a.now ∧ ∃ charge ∈ a.charges, charge.Covers a.now reservation
  | .reconcile asked reservation _ _ actual_spend_usd =>
    asked = today a.now ∧ (∃ charge ∈ a.charges, charge.Covers a.now reservation) ∧ 0 ≤ actual_spend_usd

/-! What is reported of an account. `recent` tells whether a request of some age is of the last minute. -/

def Charge.counts (recent : ℤ → Bool) (now : ℤ) (team : String) (charge : Charge) : Bool :=
  decide (charge.team = team) && decide (charge.standing ≠ .refunded) && recent (now - charge.time)

def Charge.due (team : String) (day : ℤ) (charge : Charge) : ℤ × ℚ :=
  if charge.team = team ∧ today charge.time = day then (charge.tokens, charge.spend_usd) else 0

def Account.requests (a : Account) (recent : ℤ → Bool) (team : String) : ℕ :=
  a.charges.countP (Charge.counts recent a.now team)

/-- The tokens and the spend of the day. -/
def Account.due (a : Account) (team : String) : ℤ × ℚ := (a.charges.map (Charge.due team (today a.now))).sum

/-- The charge adds nothing to any report. -/
def Charge.Traceless (recent : ℤ → Bool) (now : ℤ) (charge : Charge) : Prop :=
  (charge.standing = .refunded ∨ recent (now - charge.time) = false) ∧
    (today charge.time = today now → charge.tokens = 0 ∧ charge.spend_usd = 0)

/-- What is known of an account whose acts are timely. -/
structure Tidy (a : Account) : Prop where
  ids : (a.charges.map Charge.member_id).Nodup
  past : ∀ charge ∈ a.charges, charge.time ≤ a.now
  spent : ∀ charge ∈ a.charges, 0 ≤ charge.spend_usd

/-- A store which reports its account. -/
structure Reports {σ : Type} (B : TenantAttributionBackend σ ℚ) (recent : ℤ → Bool) (Inv : σ → Account → Prop) :
    Prop where
  empty : ∀ now, Inv B.empty (.opened now)
  acts : ∀ store a e, Tidy a → Inv store a → Timely a e → Inv (act B ⟨store, a.now⟩ e).store (book a e)
  report : ∀ store a team, Tidy a → Inv store a → B.report store a.now team = (a.requests recent team, a.due team)

variable {a : Account} {team member_id : String} {recent : ℤ → Bool}

theorem act_now {σ : Type} (B : TenantAttributionBackend σ ℚ) (store : σ) (a : Account) (e : Act) :
    (act B ⟨store, a.now⟩ e).now = (book a e).now := by
  cases e with
  | wait ms => rfl
  | reserve | refund | reconcile => rfl

/-! Closing a reservation. -/

@[simp] theorem settle_member_id (id : String) (standing : Standing) (tokens : ℕ) (spend_usd : ℚ) (charge : Charge) :
    (charge.settle id standing tokens spend_usd).member_id = charge.member_id := by
  unfold Charge.settle
  split
  · rfl
  · rfl

@[simp] theorem settle_time (id : String) (standing : Standing) (tokens : ℕ) (spend_usd : ℚ) (charge : Charge) :
    (charge.settle id standing tokens spend_usd).time = charge.time := by
  unfold Charge.settle
  split
  · rfl
  · rfl

/-- Only the charge of the reservation changes. -/
theorem settle_split (tidy : Tidy a) {charge : Charge} (member : charge ∈ a.charges) (standing : Standing)
    (tokens : ℕ) (spend_usd : ℚ) : ∃ before after, a.charges = before ++ charge :: after ∧
      (a.settle charge.member_id standing tokens spend_usd).charges =
        before ++ { charge with standing := standing, tokens := tokens, spend_usd := spend_usd } :: after := by
  obtain ⟨before, after, split⟩ := List.append_of_mem member
  have ids := tidy.ids
  rw [split, List.map_append, List.map_cons, List.nodup_middle, List.nodup_cons, List.mem_append] at ids
  have kept : ∀ part : List Charge, charge.member_id ∉ part.map Charge.member_id →
      part.map (Charge.settle charge.member_id standing tokens spend_usd) = part := by
    intro part absent
    refine (List.map_congr_left fun other listed => ?_).trans (List.map_id part)
    exact if_neg fun same => absent (List.mem_map.mpr ⟨other, listed, same⟩)
  refine ⟨before, after, split, ?_⟩
  change a.charges.map _ = _
  rw [split, List.map_append, List.map_cons, kept before fun bad => ids.1 (Or.inl bad),
    kept after fun bad => ids.1 (Or.inr bad)]
  congr 2
  exact if_pos rfl

theorem Tidy.step (tidy : Tidy a) {e : Act} (timely : Timely a e) : Tidy (book a e) := by
  have settled : ∀ id standing tokens spend_usd, 0 ≤ spend_usd → Tidy (a.settle id standing tokens spend_usd) := by
    intro id standing tokens spend_usd positive
    refine ⟨?_, fun charge listed => ?_, fun charge listed => ?_⟩
    · change ((a.charges.map _).map _).Nodup
      rw [List.map_map]
      have same : Charge.member_id ∘ Charge.settle id standing tokens spend_usd = Charge.member_id :=
        funext fun charge => settle_member_id id standing tokens spend_usd charge
      rw [same]
      exact tidy.ids
    · obtain ⟨other, member, rfl⟩ := List.mem_map.mp listed
      rw [settle_time]
      exact tidy.past other member
    · obtain ⟨other, member, rfl⟩ := List.mem_map.mp listed
      unfold Charge.settle
      split
      · exact positive
      · exact tidy.spent other member
  cases e with
  | wait ms =>
      have later : a.now ≤ a.now + (ms : ℤ) := le_add_of_nonneg_right (Int.natCast_nonneg ms)
      exact ⟨tidy.ids, fun charge listed => (tidy.past charge listed).trans later, tidy.spent⟩
  | reserve asked team input_tokens output_tokens spend_usd id =>
      obtain ⟨-, fresh, positive⟩ := timely
      refine ⟨?_, fun charge listed => ?_, fun charge listed => ?_⟩
      · change ((a.charges ++ [_]).map _).Nodup
        rw [List.map_append, List.map_singleton, List.nodup_append]
        refine ⟨tidy.ids, List.nodup_singleton _, fun one listed other new => ?_⟩
        obtain ⟨charge, member, rfl⟩ := List.mem_map.mp listed
        rw [List.mem_singleton.mp new]
        exact fresh charge member
      · rcases List.mem_append.mp listed with old | new
        · exact tidy.past charge old
        · rw [List.mem_singleton.mp new]
          exact le_rfl
      · rcases List.mem_append.mp listed with old | new
        · exact tidy.spent charge old
        · rw [List.mem_singleton.mp new]
          exact positive
  | refund asked reservation => exact settled _ _ _ _ le_rfl
  | reconcile asked reservation _ _ actual_spend_usd => exact settled _ _ _ _ timely.2.2

/-! The account without a request. -/

def Account.without (a : Account) (id : String) : Account :=
  { a with charges := a.charges.filter fun charge => decide (charge.member_id ≠ id) }

theorem without_settle (a : Account) (id other : String) (standing : Standing) (tokens : ℕ) (spend_usd : ℚ) :
    (a.settle other standing tokens spend_usd).without id =
      if other = id then a.without id else (a.without id).settle other standing tokens spend_usd := by
  have kept : (a.settle other standing tokens spend_usd).without id =
      (a.without id).settle other standing tokens spend_usd := by
    unfold Account.without Account.settle
    simp only [List.filter_map, Function.comp_def, settle_member_id]
  rw [kept]
  by_cases same : other = id
  · rw [if_pos same, same]
    unfold Account.without Account.settle
    congr 1
    refine (List.map_congr_left fun charge listed => ?_).trans (List.map_id _)
    exact if_neg (of_decide_eq_true (List.mem_filter.mp listed).2)
  · rw [if_neg same]

/-- The acts on a reservation change nothing of the account without it, and the other acts do not depend on it. -/
theorem without_book (a : Account) (id : String) (e : Act) :
    (book a e).without id = if e.member_id = some id then a.without id else book (a.without id) e := by
  cases e with
  | wait ms => rfl
  | reserve asked team input_tokens output_tokens spend_usd other =>
      have booked : ∀ charge : Charge, ({ a with charges := a.charges ++ [charge] } : Account).without id =
          { a with
            charges := (a.without id).charges ++ [charge].filter fun charge => decide (charge.member_id ≠ id) } :=
        fun charge => congrArg (Account.mk a.now) (List.filter_append _ _)
      refine (booked _).trans ?_
      by_cases mine : (Act.reserve asked team input_tokens output_tokens spend_usd other).member_id = some id
      · rw [if_pos mine, List.filter_cons_of_neg (by simp [Option.some.inj mine])]
        exact congrArg (Account.mk a.now) (List.append_nil _)
      · have kept : other ≠ id := fun same => mine (congrArg some same)
        rw [if_neg mine, List.filter_cons_of_pos (by simp [kept])]
        rfl
  | refund asked reservation =>
      refine (without_settle a id _ _ _ _).trans (if_congr ?_ rfl rfl)
      exact ⟨congrArg some, Option.some.inj⟩
  | reconcile asked reservation actual_input_tokens actual_output_tokens actual_spend_usd =>
      refine (without_settle a id _ _ _ _).trans (if_congr ?_ rfl rfl)
      exact ⟨congrArg some, Option.some.inj⟩

theorem others_mine {id : String} {e : Act} (mine : e.member_id = some id) (acts : List Act) :
    others id (e :: acts) = others id acts := List.filter_cons_of_neg (by simp [mine])

theorem others_other {id : String} {e : Act} (other : e.member_id ≠ some id) (acts : List Act) :
    others id (e :: acts) = e :: others id acts := List.filter_cons_of_pos (decide_eq_true other)

theorem account_others (a : Account) (id : String) (acts : List Act) :
    (Runs.run book a acts).without id = Runs.run book (a.without id) (others id acts) := by
  induction acts generalizing a with
  | nil => rfl
  | cons e acts ih =>
      change (Runs.run book (book a e) acts).without id = _
      rw [ih (book a e), without_book]
      by_cases mine : e.member_id = some id
      · rw [if_pos mine, others_mine mine]
      · rw [if_neg mine, others_other mine]
        rfl

/-- Another act is as timely without the request. -/
theorem Timely.without {id : String} {e : Act} (timely : Timely a e) (other : e.member_id ≠ some id) :
    Timely (a.without id) e := by
  have covered : ∀ reservation : QuotaReservation ℚ, reservation.member_id ≠ id →
      (∃ charge ∈ a.charges, charge.Covers a.now reservation) →
        ∃ charge ∈ (a.without id).charges, charge.Covers a.now reservation := by
    rintro reservation other ⟨charge, member, covers⟩
    refine ⟨charge, List.mem_filter.mpr ⟨member, decide_eq_true ?_⟩, covers⟩
    rw [covers.2.1]
    exact other
  cases e with
  | wait ms => trivial
  | reserve asked team input_tokens output_tokens spend_usd member_id =>
      exact ⟨timely.1, fun charge listed => timely.2.1 charge (List.mem_filter.mp listed).1, timely.2.2⟩
  | refund asked reservation =>
      exact ⟨timely.1, covered reservation (fun bad => other (congrArg some bad)) timely.2⟩
  | reconcile asked reservation _ _ actual_spend_usd =>
      exact ⟨timely.1, covered reservation (fun bad => other (congrArg some bad)) timely.2.1, timely.2.2⟩

theorem timely_others {acts : List Act} (timely : Runs.EveryStep book Timely a acts) (id : String) :
    Runs.EveryStep book Timely (a.without id) (others id acts) := by
  induction acts generalizing a with
  | nil => trivial
  | cons e acts ih =>
      have rest := ih timely.2
      rw [without_book] at rest
      by_cases mine : e.member_id = some id
      · rw [others_mine mine]
        rwa [if_pos mine] at rest
      · rw [others_other mine]
        rw [if_neg mine] at rest
        exact ⟨timely.1.without mine, rest⟩

/-! What a request adds to the reports. -/

theorem due_nonneg (tidy : Tidy a) (team : String) (day : ℤ) {charge : Charge} (member : charge ∈ a.charges) :
    0 ≤ charge.due team day := by
  unfold Charge.due
  split
  · exact ⟨Int.natCast_nonneg _, tidy.spent charge member⟩
  · exact le_rfl

/-- The reports are the same without the charges of a request just when none of them leaves a trace. -/
theorem reports_without_iff (tidy : Tidy a) (id : String) :
    (∀ team, a.requests recent team = (a.without id).requests recent team ∧ a.due team = (a.without id).due team) ↔
      ∀ charge ∈ a.charges, charge.member_id = id → charge.Traceless recent a.now := by
  have mine : ∀ charge, charge ∈ a.charges.filter (fun charge => !decide (charge.member_id ≠ id)) ↔
      charge ∈ a.charges ∧ charge.member_id = id := by
    intro charge
    rw [List.mem_filter, Bool.not_eq_true', decide_eq_false_iff_not, not_not]
  have counted : ∀ team, a.requests recent team = (a.without id).requests recent team ↔
      ∀ charge ∈ a.charges, charge.member_id = id → charge.counts recent a.now team = false := by
    intro team
    have split := List.countP_eq_countP_filter_add a.charges (Charge.counts recent a.now team)
      fun charge => decide (charge.member_id ≠ id)
    change a.requests recent team = (a.without id).requests recent team + _ at split
    rw [split, Nat.add_eq_left, List.countP_eq_zero]
    constructor
    · exact fun none charge member same => Bool.eq_false_of_not_eq_true (none charge ((mine charge).mpr ⟨member, same⟩))
    · intro none charge listed
      rw [none charge ((mine charge).mp listed).1 ((mine charge).mp listed).2]
      exact Bool.false_ne_true
  have owed : ∀ team, a.due team = (a.without id).due team ↔
      ∀ charge ∈ a.charges, charge.member_id = id → charge.due team (today a.now) = 0 := by
    intro team
    have split := ((List.filter_append_perm (fun charge => decide (charge.member_id ≠ id)) a.charges).map
      (Charge.due team (today a.now))).sum_eq
    rw [List.map_append, List.sum_append] at split
    change (a.without id).due team + _ = a.due team at split
    rw [← split, add_eq_left]
    constructor
    · intro none charge member same
      have positive : ∀ due ∈ (a.charges.filter fun charge => !decide (charge.member_id ≠ id)).map
          (Charge.due team (today a.now)), 0 ≤ due := by
        intro due listed
        obtain ⟨other, member, rfl⟩ := List.mem_map.mp listed
        exact due_nonneg tidy team _ ((mine other).mp member).1
      exact List.all_zero_of_le_zero_le_of_sum_eq_zero positive none
        (List.mem_map_of_mem ((mine charge).mpr ⟨member, same⟩))
    · intro none
      refine List.sum_eq_zero fun due listed => ?_
      obtain ⟨charge, member, rfl⟩ := List.mem_map.mp listed
      exact none charge ((mine charge).mp member).1 ((mine charge).mp member).2
  simp only [counted, owed]
  constructor
  · intro none charge member same
    obtain ⟨uncounted, undue⟩ := none charge.team
    have count := uncounted charge member same
    have due := undue charge member same
    refine ⟨?_, fun here => ?_⟩
    · simpa [Charge.counts, or_iff_not_imp_left] using count
    · unfold Charge.due at due
      rw [if_pos ⟨rfl, here⟩] at due
      obtain ⟨tokens, spend⟩ := Prod.mk.inj due
      exact ⟨Int.natCast_eq_zero.mp tokens, spend⟩
  · intro none team
    refine ⟨fun charge member same => ?_, fun charge member same => ?_⟩
    · have count := (none charge member same).1
      unfold Charge.counts
      rcases count with refunded | old
      · simp [refunded]
      · simp [old]
    · unfold Charge.due
      split
      · rename_i here
        obtain ⟨tokens, spend⟩ := (none charge member same).2 here.2
        rw [tokens, spend]
        rfl
      · rfl

/-! The charge of one request. -/

/-- The acts on one reservation. -/
def own (id : String) (acts : List Act) : List Act := acts.filter fun e => decide (e.member_id = some id)

def Account.charged (a : Account) (id : String) : List Charge :=
  a.charges.filter fun charge => decide (charge.member_id = id)

theorem charged_settle (a : Account) (id other : String) (standing : Standing) (tokens : ℕ) (spend_usd : ℚ) :
    (a.settle other standing tokens spend_usd).charged id =
      (a.charged id).map (Charge.settle other standing tokens spend_usd) := by
  unfold Account.charged Account.settle
  simp only [List.filter_map, Function.comp_def, settle_member_id]

theorem charged_settle_other (a : Account) {id other : String} (different : other ≠ id) (standing : Standing)
    (tokens : ℕ) (spend_usd : ℚ) : (a.settle other standing tokens spend_usd).charged id = a.charged id := by
  rw [charged_settle]
  refine (List.map_congr_left fun charge listed => ?_).trans (List.map_id _)
  have same : charge.member_id = id := of_decide_eq_true (List.mem_filter.mp listed).2
  exact if_neg fun bad => different (bad.symm.trans same)

theorem charged_book_other (a : Account) {id : String} {e : Act} (other : e.member_id ≠ some id) :
    (book a e).charged id = a.charged id := by
  cases e with
  | wait ms => rfl
  | reserve asked team input_tokens output_tokens spend_usd member_id =>
      have different : member_id ≠ id := fun bad => other (congrArg some bad)
      refine (List.filter_append _ _).trans ?_
      rw [List.filter_cons_of_neg (by simp [different])]
      exact List.append_nil _
  | refund asked reservation => exact charged_settle_other a (fun bad => other (congrArg some bad)) _ _ _
  | reconcile asked reservation _ _ _ => exact charged_settle_other a (fun bad => other (congrArg some bad)) _ _ _

/-- What there is of a request in the account, from the acts on its reservation. -/
theorem own_charges (now : ℤ) (id : String) (acts : List Act) :
    (own id acts = [] → (account now acts).charged id = []) ∧
    (∀ asked team input_tokens output_tokens spend_usd,
      own id acts = [.reserve asked team input_tokens output_tokens spend_usd id] → ∃ time,
        (account now acts).charged id = [⟨team, id, time, input_tokens + output_tokens, spend_usd, .pending⟩]) ∧
    ∀ first asked reservation, own id acts = [first, .refund asked reservation] →
      ∀ charge ∈ (account now acts).charged id,
        charge.standing = .refunded ∧ charge.tokens = 0 ∧ charge.spend_usd = 0 := by
  induction acts using List.reverseRecOn with
  | nil => exact ⟨fun _ => rfl, fun _ _ _ _ _ bad => (nomatch bad), fun _ _ _ bad => (nomatch bad)⟩
  | append_singleton acts e ih =>
      have last : account now (acts ++ [e]) = book (account now acts) e := Runs.run_append _ _ _
      have parts : own id (acts ++ [e]) = own id acts ++ own id [e] := List.filter_append _ _
      rw [last, parts]
      by_cases mine : e.member_id = some id
      · have single : own id [e] = [e] := List.filter_cons_of_pos (decide_eq_true mine)
        rw [single]
        refine ⟨fun bad => absurd bad (List.append_ne_nil_of_right_ne_nil _ (List.cons_ne_nil _ _)), ?_, ?_⟩
        · intro asked team input_tokens output_tokens spend_usd only
          have parted : own id acts ++ [e] = [] ++ [.reserve asked team input_tokens output_tokens spend_usd id] := only
          obtain ⟨before, same⟩ := List.append_inj' parted rfl
          obtain rfl := List.singleton_injective same
          refine ⟨(account now acts).now, ?_⟩
          refine (List.filter_append _ _).trans ?_
          have none := ih.1 before
          unfold Account.charged at none
          rw [none, List.filter_cons_of_pos (by simp)]
          rfl
        · intro first asked reservation both charge listed
          have parted : own id acts ++ [e] = [first] ++ [.refund asked reservation] := both
          obtain ⟨-, same⟩ := List.append_inj' parted rfl
          obtain rfl := List.singleton_injective same
          change charge ∈ ((account now acts).settle _ _ _ _).charged id at listed
          rw [charged_settle] at listed
          obtain ⟨other, member, rfl⟩ := List.mem_map.mp listed
          have here : other.member_id = reservation.member_id :=
            (of_decide_eq_true (List.mem_filter.mp member).2 : other.member_id = id).trans
              (Option.some.inj mine).symm
          unfold Charge.settle
          rw [if_pos here]
          exact ⟨rfl, rfl, rfl⟩
      · have none : own id [e] = [] := List.filter_cons_of_neg (by simp [mine])
        rw [none, List.append_nil, charged_book_other _ mine]
        exact ih

/-! Stores which report their accounts. -/

variable {σ : Type} {B : TenantAttributionBackend σ ℚ} {Inv : σ → Account → Prop}

theorem tidy_opened (now : ℤ) : Tidy (.opened now) :=
  ⟨List.nodup_nil, fun _ bad => absurd bad List.not_mem_nil, fun _ bad => absurd bad List.not_mem_nil⟩

/-- A store and its account, after timely acts. -/
theorem Reports.run (reports : Reports B recent Inv) {now : ℤ} {acts : List Act}
    (timely : Runs.EveryStep book Timely (.opened now) acts) :
    Tidy (account now acts) ∧ Inv (Runs.run (act B) ⟨B.empty, now⟩ acts).store (account now acts) ∧
      (Runs.run (act B) ⟨B.empty, now⟩ acts).now = (account now acts).now := by
  induction acts using List.reverseRecOn with
  | nil => exact ⟨tidy_opened now, reports.empty now, rfl⟩
  | append_singleton acts e ih =>
      obtain ⟨before, last, -⟩ := Runs.everyStep_append.mp timely
      obtain ⟨tidy, inv, clock⟩ := ih before
      have stepped : Runs.run (act B) ⟨B.empty, now⟩ (acts ++ [e]) =
          act B ⟨(Runs.run (act B) ⟨B.empty, now⟩ acts).store, (account now acts).now⟩ e := by
        rw [Runs.run_append, ← clock]
        rfl
      have booked : account now (acts ++ [e]) = book (account now acts) e := Runs.run_append _ _ _
      rw [stepped, booked]
      exact ⟨tidy.step last, reports.acts _ _ e tidy inv last, act_now B _ _ e⟩

theorem Reports.reports_eq (reports : Reports B recent Inv) {now : ℤ} {acts : List Act}
    (timely : Runs.EveryStep book Timely (.opened now) acts) (team : String) :
    B.reports now acts team = ((account now acts).requests recent team, (account now acts).due team) := by
  obtain ⟨tidy, inv, clock⟩ := reports.run timely
  unfold TenantAttributionBackend.reports
  rw [clock]
  exact reports.report _ _ team tidy inv

/-- After timely acts a store reports as if a reservation had never been made just when its charge leaves no trace. -/
theorem Reports.given_back_iff (reports : Reports B recent Inv) {now : ℤ} {acts : List Act}
    (timely : Runs.EveryStep book Timely (.opened now) acts) (id : String) :
    GivenBack B now acts id ↔ ∀ charge ∈ (account now acts).charged id,
      charge.Traceless recent (account now acts).now := by
  have without : (account now acts).without id = account now (others id acts) := account_others (.opened now) id acts
  have tidy := (reports.run timely).1
  have here := reports.reports_eq timely
  have there := reports.reports_eq (timely_others timely id)
  unfold GivenBack
  rw [funext_iff]
  have each : (∀ team, B.reports now acts team = B.reports now (others id acts) team) ↔
      ∀ team, (account now acts).requests recent team = ((account now acts).without id).requests recent team ∧
        (account now acts).due team = ((account now acts).without id).due team := by
    refine forall_congr' fun team => ?_
    rw [here team, without]
    exact (Eq.congr_right (there team)).trans Prod.mk_inj
  rw [each, reports_without_iff tidy]
  constructor
  · intro every charge listed
    obtain ⟨member, same⟩ := List.mem_filter.mp listed
    exact every charge member (of_decide_eq_true same)
  · intro every charge member same
    exact every charge (List.mem_filter.mpr ⟨member, decide_eq_true same⟩)

end RuntimePlatform.Tenant
