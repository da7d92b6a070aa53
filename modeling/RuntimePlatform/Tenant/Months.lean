import RuntimePlatform.Tenant.Reports

/-!
The month-to-date cost which a reservation is told, beside what the reservations of its calendar month come to. A store
keeps one spend for the day; the books keep for every reservation what it comes to, and the dates on which it was made
and closed.
-/

namespace RuntimePlatform.Tenant

/-- The year and the month of a day in UTC, in days from the first of January 1970. Years are counted here from the
first of March, four centuries of them to an era. -/
def calendarMonth (day : ℤ) : ℤ × ℤ :=
  let era := (day + 719468) / 146097
  let day_of_era := (day + 719468) % 146097
  let year := (day_of_era - day_of_era / 1460 + day_of_era / 36524 - day_of_era / 146096) / 365
  let day_of_year := day_of_era - (365 * year + year / 4 - year / 100)
  let month := (5 * day_of_year + 2) / 153
  if month < 10 then (year + era * 400, month + 3) else (year + era * 400 + 1, month - 9)

example : [-1, 0, 30, 31, 11015, 11016, 11017, 20818].map calendarMonth =
    [(1969, 12), (1970, 1), (1970, 1), (1970, 2), (2000, 2), (2000, 2), (2000, 3), (2026, 12)] := by decide

/-- A reservation: the date on which it was made, what it comes to, and the date on which it was closed. -/
structure Booking where
  reservation : QuotaReservation ℚ
  day : ℤ
  spend_usd : ℚ
  closed : Option ℤ

structure Books (σ : Type) where
  store : σ
  now : ℤ
  bookings : List Booking

section Runs
variable {σ : Type} (B : TenantAttributionBackend σ ℚ)

/-- The reservation `i`, if it can be closed: it is open, and was made before. -/
def Books.closable (w : Books σ) (asked : ℤ) (i : ℕ) : Option Booking :=
  (w.bookings[i]?).filter fun b => b.closed.isNone && decide (b.day ≤ asked) && decide (B.MayAsk asked w.now)

def Books.opened (w : Books σ) (r : σ × QuotaReservation ℚ) (day : ℤ) (spend_usd : ℚ) : Books σ :=
  { w with store := r.1, bookings := w.bookings ++ [⟨r.2, day, spend_usd, none⟩] }

def Books.settled (w : Books σ) (store : σ) (i : ℕ) (b : Booking) (spend_usd : ℚ) (asked : ℤ) : Books σ :=
  { w with store := store, bookings := w.bookings.set i { b with spend_usd := spend_usd, closed := some asked } }

/-- Prices and numbers of tokens are not negative, and so are spends. -/
def Books.step (w : Books σ) : Event ℚ → Books σ
  | .wait ms => { w with now := w.now + ms }
  | .reserve asked team input_tokens output_tokens spend_usd member_id =>
    if B.MayAsk asked w.now ∧ 0 ≤ spend_usd then
      w.opened (B.reserve_request w.store w.now asked team input_tokens output_tokens spend_usd member_id) asked
        spend_usd
    else w
  | .refund asked i =>
    match w.closable B asked i with
    | some b => w.settled (B.refund_reservation w.store w.now asked b.reservation) i b 0 asked
    | none => w
  | .reconcile asked i actual_input_tokens actual_output_tokens actual_spend_usd =>
    match w.closable B asked i with
    | some b =>
      if 0 ≤ actual_spend_usd then
        w.settled (B.reconcile_usage w.store w.now asked b.reservation actual_input_tokens actual_output_tokens
          actual_spend_usd).1 i b actual_spend_usd asked
      else w
    | none => w

def Books.start (now : ℤ) : Books σ := ⟨B.empty, now, []⟩

/-- What is summed up of the reservations of a month. -/
def Books.sum (w : Books σ) (amount : Booking → ℚ) (team : String) (day : ℤ) : ℚ :=
  (w.bookings.map fun b =>
    if b.reservation.team = team ∧ calendarMonth b.day = calendarMonth day then amount b else 0).sum

/-- What the reservations made so far in the month of a day come to. -/
def Books.monthToDate (w : Books σ) (team : String) (day : ℤ) : ℚ := w.sum Booking.spend_usd team day

/-- What was booked of a reservation on one day: all of it if it was made on that day; if it was closed then, what it
came to beyond what had been reserved. -/
def Booking.on (day : ℤ) (b : Booking) : ℚ :=
  if b.day = day then b.spend_usd
  else if b.closed = some day then max 0 (b.spend_usd - b.reservation.reserved_spend_usd)
  else 0

/-- What was booked on a day for the reservations of its month. -/
def Books.booked (w : Books σ) (team : String) (day : ℤ) : ℚ := w.sum (Booking.on day) team day

/-- The reservation is told at least what the month comes to with it. -/
def Covered (w : Books σ) : Event ℚ → Prop
  | .reserve asked team input_tokens output_tokens spend_usd member_id => B.MayAsk asked w.now ∧ 0 ≤ spend_usd →
    w.monthToDate team asked + spend_usd ≤ (B.reserve_request w.store w.now asked team input_tokens output_tokens
      spend_usd member_id).2.month_to_date_cost_usd
  | _ => True

/-- A step with which the spend of the day is that of the month. A reservation is made with the date of the day, when
all of the month's spend has been booked on this day. One is closed on the day on which it was made, or takes nothing
from what has been booked on this day. -/
def MonthKept (w : Books σ) : Event ℚ → Prop
  | .wait _ => True
  | .reserve asked team _ _ spend_usd _ => B.MayAsk asked w.now ∧ 0 ≤ spend_usd →
    asked = today w.now ∧ w.monthToDate team asked ≤ w.booked team asked
  | .refund asked i => ∀ b, w.closable B asked i = some b →
    b.day = today w.now ∨ asked < today w.now ∨ b.reservation.reserved_spend_usd ≤ 0 ∨
      w.booked b.reservation.team (today w.now) ≤ 0
  | .reconcile asked i _ _ actual_spend_usd => ∀ b, w.closable B asked i = some b → 0 ≤ actual_spend_usd →
    b.day = today w.now ∨
      asked = today w.now ∧ b.reservation.reserved_spend_usd ≤ actual_spend_usd ∨
      w.booked b.reservation.team (today w.now) ≤ 0

/-- A store with one spend for every team and day. -/
structure CountsSpend (Inv : σ → ℤ → Prop) : Prop where
  empty : ∀ now team, B.spend_snapshot B.empty now team = 0
  wait : ∀ store now (ms : ℕ), Inv store now → ∀ team, B.spend_snapshot store (now + ms) team =
    if today (now + ms) = today now then B.spend_snapshot store now team else 0
  reserve : ∀ store now team input_tokens output_tokens spend_usd member_id, Inv store now →
    let r := B.reserve_request store now (today now) team input_tokens output_tokens spend_usd member_id
    r.2.reserved_spend_usd = spend_usd ∧
      r.2.month_to_date_cost_usd = B.spend_snapshot store now team + spend_usd ∧
      ∀ other, B.spend_snapshot r.1 now other =
        if other = team then B.spend_snapshot store now team + spend_usd else B.spend_snapshot store now other
  refund : ∀ store now asked reservation, Inv store now → B.MayAsk asked now → 0 ≤ reservation.reserved_spend_usd →
    ∀ other, B.spend_snapshot (B.refund_reservation store now asked reservation) now other =
      if other = reservation.team ∧ asked = today now then
        max 0 (B.spend_snapshot store now other - reservation.reserved_spend_usd)
      else B.spend_snapshot store now other
  reconcile : ∀ store now asked reservation actual_input_tokens actual_output_tokens actual_spend_usd,
    Inv store now → B.MayAsk asked now → ∀ other,
      B.spend_snapshot (B.reconcile_usage store now asked reservation actual_input_tokens actual_output_tokens
        actual_spend_usd).1 now other =
        if other = reservation.team then
          if asked = today now then
            max 0 (B.spend_snapshot store now other + (actual_spend_usd - reservation.reserved_spend_usd))
          else 0
        else B.spend_snapshot store now other

end Runs

variable {σ : Type} {B : TenantAttributionBackend σ ℚ} {Inv : σ → ℤ → Prop} {w : Books σ} {team : String}
  {day asked : ℤ}

/-! The sums of the books. -/

theorem sum_opened (r : σ × QuotaReservation ℚ) (made : ℤ) (spend_usd : ℚ) (amount : Booking → ℚ) :
    (w.opened r made spend_usd).sum amount team day = w.sum amount team day +
      if r.2.team = team ∧ calendarMonth made = calendarMonth day then amount ⟨r.2, made, spend_usd, none⟩ else 0 := by
  unfold Books.sum Books.opened
  rw [List.map_append, List.sum_append, List.map_singleton, List.sum_singleton]

theorem sum_settled {i : ℕ} {b : Booking} (here : w.bookings[i]? = some b) (store : σ) (spend_usd : ℚ)
    (amount : Booking → ℚ) : (w.settled store i b spend_usd asked).sum amount team day = w.sum amount team day +
      if b.reservation.team = team ∧ calendarMonth b.day = calendarMonth day then
        amount { b with spend_usd := spend_usd, closed := some asked } - amount b else 0 := by
  obtain ⟨bound, same⟩ := List.getElem?_eq_some_iff.mp here
  unfold Books.sum Books.settled
  dsimp only
  rw [List.map_set, List.sum_set', dif_pos (by rwa [List.length_map]), List.getElem_map, same]
  by_cases counted : b.reservation.team = team ∧ calendarMonth b.day = calendarMonth day
  · rw [if_pos counted, if_pos counted, if_pos counted, neg_add_eq_sub]
  · rw [if_neg counted, if_neg counted, if_neg counted, neg_zero, add_zero]

theorem booking_closable {i : ℕ} {b : Booking} : w.closable B asked i = some b ↔
    w.bookings[i]? = some b ∧ b.closed = none ∧ b.day ≤ asked ∧ B.MayAsk asked w.now := by
  unfold Books.closable
  rw [Option.filter_eq_some_iff, Bool.and_eq_true, Bool.and_eq_true, Option.isNone_iff_eq_none, decide_eq_true_eq,
    decide_eq_true_eq, and_assoc]

/-- What a closing adds to what was booked on a day. -/
theorem on_closed {b : Booking} (isOpen : b.closed = none)
    (reserved : b.spend_usd = b.reservation.reserved_spend_usd) (spend_usd : ℚ) :
    Booking.on day { b with spend_usd := spend_usd, closed := some asked } - b.on day =
      if b.day = day then spend_usd - b.reservation.reserved_spend_usd
      else if asked = day then max 0 (spend_usd - b.reservation.reserved_spend_usd) else 0 := by
  simp only [Booking.on, isOpen, reserved, Option.some.injEq]
  by_cases made : b.day = day
  · rw [if_pos made, if_pos made, if_pos made]
  · rw [if_neg made, if_neg made, if_neg made, if_neg (Option.some_ne_none day).symm, sub_zero]

theorem booked_opened (r : σ × QuotaReservation ℚ) (spend_usd : ℚ) (team : String) :
    (w.opened r day spend_usd).booked team day =
      w.booked team day + if r.2.team = team then spend_usd else 0 := by
  refine (sum_opened r day spend_usd _).trans ?_
  simp only [and_true, Booking.on, if_true]
  rfl

theorem booked_settled {i : ℕ} {b : Booking} (here : w.bookings[i]? = some b) (isOpen : b.closed = none)
    (reserved : b.spend_usd = b.reservation.reserved_spend_usd) (store : σ) (spend_usd : ℚ) :
    (w.settled store i b spend_usd asked).booked team day = w.booked team day +
      if b.reservation.team = team ∧ calendarMonth b.day = calendarMonth day then
        if b.day = day then spend_usd - b.reservation.reserved_spend_usd
        else if asked = day then max 0 (spend_usd - b.reservation.reserved_spend_usd) else 0
      else 0 := by
  refine (sum_settled here store spend_usd _).trans ?_
  rw [on_closed isOpen reserved]
  rfl

/-! One step. -/

/-- What is known of the books in a run whose steps are kept: nothing booked today is missing from the spend of the
day. -/
structure BooksSound (B : TenantAttributionBackend σ ℚ) (Inv : σ → ℤ → Prop) (w : Books σ) : Prop where
  store : Inv w.store w.now
  dated : ∀ b ∈ w.bookings, b.day ≤ today w.now ∧ ∀ closed ∈ b.closed, closed ≤ today w.now
  reserved : ∀ b ∈ w.bookings, b.closed = none → b.spend_usd = b.reservation.reserved_spend_usd
  positive : ∀ b ∈ w.bookings, 0 ≤ b.reservation.reserved_spend_usd
  spent : ∀ b ∈ w.bookings, 0 ≤ b.spend_usd
  booked : ∀ team, w.booked team (today w.now) ≤ B.spend_snapshot w.store w.now team

/-- Nothing has been booked on a day to come. -/
theorem booked_later (sound : BooksSound B Inv w) (later : today w.now < day) : w.booked team day = 0 := by
  refine List.sum_eq_zero fun amount listed => ?_
  obtain ⟨b, member, rfl⟩ := List.mem_map.mp listed
  obtain ⟨made, closed⟩ := sound.dated b member
  have none : b.on day = 0 := by
    unfold Booking.on
    have unclosed : b.closed ≠ some day := fun same => absurd (closed day same) (not_le.mpr later)
    rw [if_neg (by omega), if_neg unclosed]
  rw [none, ite_self]

theorem BooksSound.wait (counts : Counts B Inv) (spends : CountsSpend B Inv) (sound : BooksSound B Inv w) (ms : ℕ) :
    BooksSound B Inv (w.step B (.wait ms)) := by
  have later : today w.now ≤ today (w.now + ms) := today_mono ms
  refine ⟨(counts.wait _ _ ms sound.store).1, fun b member => ?_, sound.reserved, sound.positive, sound.spent,
    fun team => ?_⟩
  · obtain ⟨made, closed⟩ := sound.dated b member
    exact ⟨made.trans later, fun day same => (closed day same).trans later⟩
  · change w.booked team (today (w.now + ms)) ≤ B.spend_snapshot w.store (w.now + ms) team
    rw [spends.wait _ _ ms sound.store]
    by_cases same : today (w.now + ms) = today w.now
    · rw [if_pos same, same]
      exact sound.booked team
    · rw [if_neg same]
      exact (booked_later sound (lt_of_le_of_ne later (Ne.symm same))).le

theorem BooksSound.reserve (counts : Counts B Inv) (spends : CountsSpend B Inv) (sound : BooksSound B Inv w)
    {asked : ℤ} {team : String} {input_tokens output_tokens : ℕ} {spend_usd : ℚ} {member_id : String}
    (dated : B.MayAsk asked w.now ∧ 0 ≤ spend_usd → asked = today w.now) :
    BooksSound B Inv (w.step B (.reserve asked team input_tokens output_tokens spend_usd member_id)) := by
  simp only [Books.step]
  by_cases may : B.MayAsk asked w.now ∧ 0 ≤ spend_usd
  · obtain rfl := dated may
    rw [if_pos may]
    obtain ⟨inv, ⟨own, -⟩, -⟩ := counts.reserve w.store w.now (today w.now) team input_tokens output_tokens spend_usd
      member_id sound.store may.1
    obtain ⟨reserved, -, spent⟩ := spends.reserve w.store w.now team input_tokens output_tokens spend_usd member_id
      sound.store
    refine ⟨inv, fun b listed => ?_, fun b listed isOpen => ?_, fun b listed => ?_, fun b listed => ?_, fun other => ?_⟩
    · rcases List.mem_append.mp listed with old | new
      · exact sound.dated b old
      · rw [List.mem_singleton.mp new]
        exact ⟨le_rfl, fun _ bad => nomatch bad⟩
    · rcases List.mem_append.mp listed with old | new
      · exact sound.reserved b old isOpen
      · rw [List.mem_singleton.mp new]
        exact reserved.symm
    · rcases List.mem_append.mp listed with old | new
      · exact sound.positive b old
      · rw [List.mem_singleton.mp new]
        exact reserved.symm ▸ may.2
    · rcases List.mem_append.mp listed with old | new
      · exact sound.spent b old
      · rw [List.mem_singleton.mp new]
        exact may.2
    · refine le_of_eq_of_le (booked_opened _ _ _) (le_of_le_of_eq ?_ (spent other).symm)
      rw [own]
      by_cases here : other = team
      · rw [if_pos here, if_pos here.symm, here]
        exact add_le_add (sound.booked team) le_rfl
      · rw [if_neg here, if_neg (Ne.symm here), add_zero]
        exact sound.booked other
  · rw [if_neg may]
    exact sound

/-- A reservation is told of the whole month when all of it was booked today. -/
theorem BooksSound.covers (spends : CountsSpend B Inv) (sound : BooksSound B Inv w) {asked : ℤ} {team : String}
    {input_tokens output_tokens : ℕ} {spend_usd : ℚ} {member_id : String}
    (kept : MonthKept B w (.reserve asked team input_tokens output_tokens spend_usd member_id)) :
    Covered B w (.reserve asked team input_tokens output_tokens spend_usd member_id) := by
  intro may
  obtain ⟨rfl, whole⟩ := kept may
  obtain ⟨-, told, -⟩ := spends.reserve w.store w.now team input_tokens output_tokens spend_usd member_id sound.store
  rw [told]
  exact add_le_add (whole.trans (sound.booked team)) le_rfl

/-- A closing keeps the books when the spend of the day stays above what was booked. -/
theorem BooksSound.settle (sound : BooksSound B Inv w) {i : ℕ} {b : Booking} (found : w.closable B asked i = some b)
    {store : σ} (inv : Inv store w.now) {spend_usd : ℚ} (proper : 0 ≤ spend_usd)
    (spent : ∀ other, other ≠ b.reservation.team → B.spend_snapshot store w.now other =
      B.spend_snapshot w.store w.now other)
    (same_day : b.day = today w.now → B.spend_snapshot w.store w.now b.reservation.team +
      (spend_usd - b.reservation.reserved_spend_usd) ≤ B.spend_snapshot store w.now b.reservation.team)
    (other_day : b.day ≠ today w.now → w.booked b.reservation.team (today w.now) +
      (if asked = today w.now then max 0 (spend_usd - b.reservation.reserved_spend_usd) else 0) ≤
        B.spend_snapshot store w.now b.reservation.team) :
    BooksSound B Inv (w.settled store i b spend_usd asked) := by
  obtain ⟨here, isOpen, -, may⟩ := booking_closable.mp found
  have member := List.mem_of_getElem? here
  have reserved := sound.reserved b member isOpen
  refine ⟨inv, fun c listed => ?_, fun c listed stillOpen => ?_, fun c listed => ?_, fun c listed => ?_,
    fun other => ?_⟩
  · rcases List.mem_or_eq_of_mem_set listed with old | rfl
    · exact sound.dated c old
    · refine ⟨(sound.dated b member).1, fun closed same => ?_⟩
      exact Option.some.inj same ▸ may.1
  · rcases List.mem_or_eq_of_mem_set listed with old | rfl
    · exact sound.reserved c old stillOpen
    · cases stillOpen
  · rcases List.mem_or_eq_of_mem_set listed with old | rfl
    · exact sound.positive c old
    · exact sound.positive b member
  · rcases List.mem_or_eq_of_mem_set listed with old | rfl
    · exact sound.spent c old
    · exact proper
  · change (w.settled store i b spend_usd asked).booked other (today w.now) ≤ B.spend_snapshot store w.now other
    rw [booked_settled here isOpen reserved]
    by_cases own : b.reservation.team = other
    · subst own
      by_cases made : b.day = today w.now
      · rw [if_pos ⟨rfl, congrArg calendarMonth made⟩, if_pos made]
        exact (add_le_add (sound.booked _) le_rfl).trans (same_day made)
      · rw [if_neg made]
        refine le_trans ?_ (other_day made)
        refine add_le_add le_rfl ?_
        split
        · exact le_rfl
        · split
          · exact le_max_left _ _
          · exact le_rfl
    · rw [if_neg fun both => own both.1, add_zero, spent other (Ne.symm own)]
      exact sound.booked other

theorem BooksSound.refund (counts : Counts B Inv) (spends : CountsSpend B Inv) (sound : BooksSound B Inv w)
    {asked : ℤ} {i : ℕ} (kept : MonthKept B w (.refund asked i)) : BooksSound B Inv (w.step B (.refund asked i)) := by
  simp only [Books.step]
  cases found : w.closable B asked i with
  | none => exact sound
  | some b =>
      have kept := kept b found
      obtain ⟨here, isOpen, dated, may⟩ := booking_closable.mp found
      have positive := sound.positive b (List.mem_of_getElem? here)
      have spent := spends.refund w.store w.now asked b.reservation sound.store may positive
      have booked := sound.booked b.reservation.team
      refine sound.settle found (counts.refund _ _ asked b.reservation sound.store may).1 le_rfl
        (fun other different => ?_) (fun made => ?_) fun made => ?_
      · rw [spent, if_neg fun both => different both.1]
      · rw [spent, if_pos ⟨rfl, le_antisymm may.1 (made ▸ dated)⟩, zero_sub, ← sub_eq_add_neg]
        exact le_max_right _ _
      · rw [zero_sub, max_eq_left (neg_nonpos.mpr positive), ite_self, add_zero, spent]
        split
        · rename_i timely
          rcases kept with bad | late | free | none
          · exact absurd bad made
          · exact absurd timely.2 (ne_of_lt late)
          · refine booked.trans (le_trans ?_ (le_max_right _ _))
            linarith
          · exact none.trans (le_max_left _ _)
        · exact booked

theorem BooksSound.reconcile (counts : Counts B Inv) (spends : CountsSpend B Inv) (sound : BooksSound B Inv w)
    {asked : ℤ} {i actual_input_tokens actual_output_tokens : ℕ} {actual_spend_usd : ℚ}
    (kept : MonthKept B w (.reconcile asked i actual_input_tokens actual_output_tokens actual_spend_usd)) :
    BooksSound B Inv (w.step B (.reconcile asked i actual_input_tokens actual_output_tokens actual_spend_usd)) := by
  simp only [Books.step]
  cases found : w.closable B asked i with
  | none => exact sound
  | some b =>
      by_cases proper : 0 ≤ actual_spend_usd
      · have kept := kept b found proper
        obtain ⟨here, isOpen, dated, may⟩ := booking_closable.mp found
        have spent := spends.reconcile w.store w.now asked b.reservation actual_input_tokens actual_output_tokens
          actual_spend_usd sound.store may
        have booked := sound.booked b.reservation.team
        simp only [if_pos proper]
        refine sound.settle found (counts.reconcile _ _ asked b.reservation actual_input_tokens actual_output_tokens
          actual_spend_usd sound.store may).1 proper (fun other different => ?_) (fun made => ?_) fun made => ?_
        · rw [spent, if_neg different]
        · rw [spent, if_pos rfl, if_pos (le_antisymm may.1 (made ▸ dated))]
          exact le_max_right _ _
        · rw [spent, if_pos rfl]
          by_cases timely : asked = today w.now
          · rw [if_pos timely, if_pos timely]
            rcases le_total b.reservation.reserved_spend_usd actual_spend_usd with more | less
            · rw [max_eq_right (sub_nonneg.mpr more)]
              exact (add_le_add booked le_rfl).trans (le_max_right _ _)
            · rw [max_eq_left (sub_nonpos.mpr less), add_zero]
              rcases kept with bad | ⟨-, more⟩ | none
              · exact absurd bad made
              · rw [le_antisymm less more, sub_self, add_zero]
                exact booked.trans (le_max_right _ _)
              · exact none.trans (le_max_left _ _)
          · rw [if_neg timely, if_neg timely, add_zero]
            rcases kept with bad | ⟨bad, -⟩ | none
            · exact absurd bad made
            · exact absurd bad timely
            · exact none
      · simp only [if_neg proper]
        exact sound

theorem BooksSound.step (counts : Counts B Inv) (spends : CountsSpend B Inv) (sound : BooksSound B Inv w)
    {e : Event ℚ} (kept : MonthKept B w e) : BooksSound B Inv (w.step B e) ∧ Covered B w e := by
  cases e with
  | wait ms => exact ⟨sound.wait counts spends ms, trivial⟩
  | reserve asked team input_tokens output_tokens spend_usd member_id =>
      exact ⟨sound.reserve counts spends fun may => (kept may).1, sound.covers spends kept⟩
  | refund asked i => exact ⟨sound.refund counts spends kept, trivial⟩
  | reconcile asked i actual_input_tokens actual_output_tokens actual_spend_usd =>
      exact ⟨sound.reconcile counts spends kept, trivial⟩

theorem sound_start (counts : Counts B Inv) (spends : CountsSpend B Inv) (now : ℤ) :
    BooksSound B Inv (Books.start B now) :=
  ⟨(counts.empty now).1, fun _ bad => absurd bad List.not_mem_nil, fun _ bad => absurd bad List.not_mem_nil,
    fun _ bad => absurd bad List.not_mem_nil, fun _ bad => absurd bad List.not_mem_nil,
    fun team => (spends.empty now team).ge⟩

/-- In a run whose steps are kept every reservation is told at least what its month comes to. -/
theorem covered_of_kept (counts : Counts B Inv) (spends : CountsSpend B Inv) {now : ℤ} {events : List (Event ℚ)}
    (kept : Runs.EveryStep (Books.step B) (MonthKept B) (Books.start B now) events) :
    Runs.EveryStep (Books.step B) (Covered B) (Books.start B now) events := by
  have sound := sound_start counts spends now
  generalize Books.start B now = w at sound kept
  induction events generalizing w with
  | nil => trivial
  | cons e events ih =>
      obtain ⟨next, covered⟩ := sound.step counts spends kept.1
      exact ⟨covered, ih (w.step B e) next kept.2⟩

/-! Runs in which no reservation is closed on another day. -/

def Prompt (B : TenantAttributionBackend σ ℚ) (w : Books σ) : Event ℚ → Prop
  | .wait _ => True
  | .reserve asked _ _ _ spend_usd _ => B.MayAsk asked w.now ∧ 0 ≤ spend_usd → asked = today w.now
  | .refund asked i | .reconcile asked i _ _ _ => ∀ b, w.closable B asked i = some b → b.day = today w.now

theorem booked_nonneg (sound : BooksSound B Inv w) : 0 ≤ w.booked team day := by
  refine List.sum_nonneg fun amount listed => ?_
  obtain ⟨b, member, rfl⟩ := List.mem_map.mp listed
  have here : 0 ≤ b.on day := by
    unfold Booking.on
    split
    · exact sound.spent b member
    · split
      · exact le_max_left _ _
      · exact le_rfl
  split
  · exact here
  · exact le_rfl

/-- Nothing but what was booked today is in the spend of the day. -/
def Tight (B : TenantAttributionBackend σ ℚ) (w : Books σ) : Prop :=
  ∀ team, B.spend_snapshot w.store w.now team ≤ w.booked team (today w.now)

theorem kept_of_prompt {e : Event ℚ} (prompt : Prompt B w e)
    (whole : ∀ asked team input_tokens output_tokens spend_usd member_id,
      e = .reserve asked team input_tokens output_tokens spend_usd member_id →
        B.MayAsk asked w.now ∧ 0 ≤ spend_usd → w.monthToDate team asked ≤ w.booked team asked) : MonthKept B w e := by
  cases e with
  | wait ms => trivial
  | reserve asked team input_tokens output_tokens spend_usd member_id =>
      exact fun may => ⟨prompt may, whole _ _ _ _ _ _ rfl may⟩
  | refund asked i => exact fun b found => Or.inl (prompt b found)
  | reconcile asked i actual_input_tokens actual_output_tokens actual_spend_usd =>
      exact fun b found _ => Or.inl (prompt b found)

/-- A closing on the day of the reservation takes from the spend what it takes from the books. -/
theorem Tight.settle (tight : Tight B w) {i : ℕ} {b : Booking} (found : w.closable B asked i = some b)
    (sound : BooksSound B Inv w) {store : σ} {spend_usd : ℚ}
    (after : BooksSound B Inv (w.settled store i b spend_usd asked)) (made : b.day = today w.now)
    (spent : ∀ other, B.spend_snapshot store w.now other =
      if other = b.reservation.team then
        max 0 (B.spend_snapshot w.store w.now other + (spend_usd - b.reservation.reserved_spend_usd))
      else B.spend_snapshot w.store w.now other) : Tight B (w.settled store i b spend_usd asked) := by
  obtain ⟨here, isOpen, -, -⟩ := booking_closable.mp found
  have reserved := sound.reserved b (List.mem_of_getElem? here) isOpen
  intro other
  have nonneg : 0 ≤ (w.settled store i b spend_usd asked).booked other (today w.now) := booked_nonneg after
  change B.spend_snapshot store w.now other ≤ (w.settled store i b spend_usd asked).booked other (today w.now)
  rw [booked_settled here isOpen reserved] at nonneg ⊢
  rw [spent]
  by_cases own : other = b.reservation.team
  · subst own
    rw [if_pos ⟨rfl, congrArg calendarMonth made⟩, if_pos made] at nonneg
    rw [if_pos rfl, if_pos ⟨rfl, congrArg calendarMonth made⟩, if_pos made]
    exact max_le nonneg (add_le_add (tight _) le_rfl)
  · rw [if_neg own, if_neg fun both => own both.1.symm, add_zero]
    exact tight other

theorem Tight.step (counts : Counts B Inv) (spends : CountsSpend B Inv) (sound : BooksSound B Inv w)
    (tight : Tight B w) {e : Event ℚ} (prompt : Prompt B w e) (kept : MonthKept B w e) : Tight B (w.step B e) := by
  have after := (sound.step counts spends kept).1
  cases e with
  | wait ms =>
      intro team
      change B.spend_snapshot w.store (w.now + ms) team ≤ w.booked team (today (w.now + ms))
      rw [spends.wait _ _ ms sound.store]
      by_cases same : today (w.now + ms) = today w.now
      · rw [if_pos same, same]
        exact tight team
      · rw [if_neg same]
        exact booked_nonneg sound
  | reserve asked team input_tokens output_tokens spend_usd member_id =>
      simp only [Books.step]
      by_cases may : B.MayAsk asked w.now ∧ 0 ≤ spend_usd
      · obtain rfl := prompt may
        rw [if_pos may]
        obtain ⟨-, ⟨own, -⟩, -⟩ := counts.reserve w.store w.now (today w.now) team input_tokens output_tokens
          spend_usd member_id sound.store may.1
        obtain ⟨-, -, spent⟩ := spends.reserve w.store w.now team input_tokens output_tokens spend_usd member_id
          sound.store
        intro other
        refine le_of_eq_of_le (spent other) (le_of_le_of_eq ?_ (booked_opened _ _ _).symm)
        rw [own]
        by_cases here : other = team
        · rw [if_pos here, if_pos here.symm, here]
          exact add_le_add (tight team) le_rfl
        · rw [if_neg here, if_neg (Ne.symm here), add_zero]
          exact tight other
      · rw [if_neg may]
        exact tight
  | refund asked i =>
      simp only [Books.step] at after ⊢
      cases found : w.closable B asked i with
      | none => exact tight
      | some b =>
          simp only [found] at after
          obtain ⟨here, isOpen, dated, may⟩ := booking_closable.mp found
          have made := prompt b found
          refine tight.settle found sound after made fun other => ?_
          rw [spends.refund w.store w.now asked b.reservation sound.store may
            (sound.positive b (List.mem_of_getElem? here)), zero_sub, ← sub_eq_add_neg]
          exact if_congr (and_iff_left (le_antisymm may.1 (made ▸ dated))) rfl rfl
  | reconcile asked i actual_input_tokens actual_output_tokens actual_spend_usd =>
      simp only [Books.step] at after ⊢
      cases found : w.closable B asked i with
      | none => exact tight
      | some b =>
          obtain ⟨-, -, dated, may⟩ := booking_closable.mp found
          have made := prompt b found
          by_cases proper : 0 ≤ actual_spend_usd
          · simp only [found, if_pos proper] at after ⊢
            refine tight.settle found sound after made fun other => ?_
            rw [spends.reconcile w.store w.now asked b.reservation actual_input_tokens actual_output_tokens
              actual_spend_usd sound.store may, if_pos (le_antisymm may.1 (made ▸ dated))]
          · simp only [if_neg proper]
            exact tight

/-- In a prompt run every reservation is told of its month just when every step is kept. -/
theorem covered_iff_kept (counts : Counts B Inv) (spends : CountsSpend B Inv) {now : ℤ} {events : List (Event ℚ)}
    (prompt : Runs.EveryStep (Books.step B) (Prompt B) (Books.start B now) events) :
    Runs.EveryStep (Books.step B) (Covered B) (Books.start B now) events ↔
      Runs.EveryStep (Books.step B) (MonthKept B) (Books.start B now) events := by
  refine ⟨fun covered => ?_, covered_of_kept counts spends⟩
  have sound := sound_start counts spends now
  have tight : Tight B (Books.start B now) := fun team => (spends.empty now team).le
  generalize Books.start B now = w at sound tight prompt covered
  induction events generalizing w with
  | nil => trivial
  | cons e events ih =>
      have kept : MonthKept B w e := by
        refine kept_of_prompt prompt.1 ?_
        rintro asked team input_tokens output_tokens spend_usd member_id rfl may
        obtain rfl := prompt.1 may
        obtain ⟨-, told, -⟩ := spends.reserve w.store w.now team input_tokens output_tokens spend_usd member_id
          sound.store
        have enough := covered.1 may
        rw [told] at enough
        exact (le_of_add_le_add_right enough).trans (tight team)
      exact ⟨kept, ih (w.step B e) (sound.step counts spends kept).1 (tight.step counts spends sound prompt.1 kept)
        prompt.2 covered.2⟩

/-! The spends of the two stores. -/

namespace TenantAttributionStore

variable {store : TenantAttributionStore ℚ} {now : ℤ}

theorem spend_eq (store : TenantAttributionStore ℚ) (now : ℤ) (team : String) :
    (backend exactSpending).spend_snapshot store now team = (dueOn (store.usage team) (today now)).2 :=
  congrArg Prod.snd (get_due store now (today now) team)

/-- What a write of the usage of one team does to the spends of all. -/
theorem spent_write {written : TenantAttributionStore ℚ} {team : String} {usage : TenantUsage ℚ}
    (writes : written.usage = Function.update store.usage team usage)
    (day : usage.tokens_day = some (today now)) (other : String) :
    (backend exactSpending).spend_snapshot written now other =
      if other = team then usage.spend_usd else (backend exactSpending).spend_snapshot store now other := by
  rw [spend_eq, spend_eq, writes]
  by_cases here : other = team
  · rw [here, Function.update_self, if_pos rfl, dueOn, if_pos day]
  · rw [Function.update_of_ne here, if_neg here]

theorem countsSpend : CountsSpend (backend exactSpending) Dated where
  empty _ _ := rfl
  wait store now ms dated team := by
    rw [spend_eq, spend_eq]
    by_cases same : today (now + ms) = today now
    · rw [if_pos same, same]
    · rw [if_neg same, dueOn, if_neg fun later => same (le_antisymm (dated team _ later) (today_mono ms))]
      rfl
  reserve store now team input_tokens output_tokens spend_usd member_id _ := by
    have writes : (reserve_request exactSpending store now (today now) team input_tokens output_tokens spend_usd
        member_id).1.usage = Function.update store.usage team _ := rfl
    exact ⟨rfl, rfl, spent_write writes (get_day store now _ team)⟩
  refund store now asked reservation _ may _ other := by
    obtain rfl := may.2 rfl
    have writes : (refund_reservation exactSpending store now (today now) reservation).usage =
        Function.update store.usage reservation.team _ := rfl
    refine (spent_write writes (get_day store now _ reservation.team) other).trans ?_
    by_cases here : other = reservation.team
    · rw [if_pos here, if_pos ⟨here, rfl⟩, here]
      rfl
    · rw [if_neg here, if_neg fun both => here both.1]
  reconcile store now asked reservation actual_input_tokens actual_output_tokens actual_spend_usd _ may other := by
    obtain rfl := may.2 rfl
    have writes : (reconcile_usage exactSpending store now (today now) reservation actual_input_tokens
        actual_output_tokens actual_spend_usd).1.usage = Function.update store.usage reservation.team _ := rfl
    refine (spent_write writes (get_day store now _ reservation.team) other).trans ?_
    by_cases here : other = reservation.team
    · rw [if_pos here, if_pos here, if_pos rfl, here]
      rfl
    · rw [if_neg here, if_neg here]

end TenantAttributionStore

namespace RedisTenantAttributionStore
open Redis

variable {store : RedisTenantAttributionStore ℚ} {now : ℤ}

theorem spend_eq (live : AllLive store now) (team : String) :
    (backend exactSpending).spend_snapshot store now team =
      (dueOn (store team).usage.value (today now)).2 := by
  rw [← dueOn_evict (live team)]
  change spend_snapshot exactSpending store now team = _
  unfold spend_snapshot dueOn
  cases ((store team).usage.evict now).value with
  | none => rfl
  | some hash =>
      dsimp only
      split
      · rfl
      · rfl

/-- What a write of the keys of one team does to the spends of all. -/
theorem spent_write (live : AllLive store now) {team : String} {keys : TenantKeys ℚ} (lives : Lives keys.usage now)
    (other : String) : (backend exactSpending).spend_snapshot (Function.update store team keys) now other =
      if other = team then (dueOn keys.usage.value (today now)).2
      else (backend exactSpending).spend_snapshot store now other := by
  rw [spend_eq (counted_write (F := exactSpending) live rfl lives).1, spend_eq live]
  by_cases here : other = team
  · rw [here, Function.update_self, if_pos rfl]
  · rw [Function.update_of_ne here, if_neg here]

theorem rolled_spend (live : AllLive store now) (team : String) :
    (rolled exactSpending (today now) ((store team).usage.evict now).value).spend_usd =
      (backend exactSpending).spend_snapshot store now team := by
  rw [spend_eq live, ← dueOn_evict (live team), ← rolled_due]

/-- A refund with an earlier date leaves the hash of the day. -/
theorem refund_due_late {keys : TenantKeys ℚ} (lives : Lives keys.usage now) {asked : ℤ} (late : asked ≠ today now)
    (member : String) (token_delta : ℕ) (spend_delta : ℚ) :
    dueOn (REFUND_LUA exactSpending now member token_delta asked spend_delta keys).usage.value (today now) =
      dueOn keys.usage.value (today now) := by
  rw [← dueOn_evict lives]
  unfold REFUND_LUA
  dsimp only
  cases found : (keys.usage.evict now).value with
  | none =>
      dsimp only
      rw [found]
  | some hash =>
      by_cases here : hash.day = asked
      · have other : hash.day ≠ today now := here ▸ late
        simp only [if_pos here, Key.put_value, dueOn, if_neg other]
      · simp only [if_neg here, found]

theorem countsSpend : CountsSpend (backend exactSpending) AllLive where
  empty _ _ := rfl
  wait store now ms live team := by
    have later : AllLive store (now + ms) := fun team hash found =>
      ⟨(live team hash found).1.trans (today_mono ms), (live team hash found).2⟩
    rw [spend_eq later, spend_eq live]
    by_cases same : today (now + ms) = today now
    · rw [if_pos same, same]
    · rw [if_neg same]
      unfold dueOn
      cases found : (store team).usage.value with
      | none => rfl
      | some hash =>
          have other : hash.day ≠ today (now + ms) := fun here =>
            same (le_antisymm (here ▸ (live team hash found).1) (today_mono ms))
          dsimp only
          rw [if_neg other]
          rfl
  reserve store now team input_tokens output_tokens spend_usd member_id live := by
    have day := rolled_day (F := exactSpending) (today now) ((store team).usage.evict now).value
    have spend := rolled_spend live team
    refine ⟨rfl, congrArg (· + spend_usd) spend, fun other => ?_⟩
    refine (spent_write live (lives_stored _ (by exact day.le)) other).trans ?_
    rw [stored_value, dueOn, if_pos day, ← spend]
    rfl
  refund store now asked reservation live may positive other := by
    refine (spent_write live (refund_usage (live reservation.team) _ _ _).1 other).trans ?_
    by_cases here : other = reservation.team
    · rw [if_pos here, here]
      by_cases timely : asked = today now
      · subst timely
        rw [refund_due (live reservation.team) _ _ positive, if_pos ⟨rfl, rfl⟩, spend_eq live]
      · rw [if_neg fun both => timely both.2, spend_eq live, refund_due_late (live reservation.team) timely]
    · rw [if_neg here, if_neg fun both => here both.1]
  reconcile store now asked reservation actual_input_tokens actual_output_tokens actual_spend_usd live may other := by
    have day := rolled_day (F := exactSpending) asked ((store reservation.team).usage.evict now).value
    refine (spent_write live (lives_stored _ (by exact day.trans_le may.1)) other).trans ?_
    by_cases here : other = reservation.team
    · rw [if_pos here, if_pos here, stored_value, dueOn, day, here]
      by_cases timely : asked = today now
      · subst timely
        rw [if_pos rfl, if_pos rfl, ← rolled_spend live reservation.team]
        rfl
      · rw [if_neg timely, if_neg timely]
        rfl
    · rw [if_neg here, if_neg here]

end RedisTenantAttributionStore

abbrev processStore : TenantAttributionBackend (TenantAttributionStore ℚ) ℚ :=
  TenantAttributionStore.backend exactSpending

abbrev redisStore : TenantAttributionBackend (RedisTenantAttributionStore ℚ) ℚ :=
  RedisTenantAttributionStore.backend exactSpending

/-- The store tells every reservation of the run at least what its month comes to when every step is kept, and in a
prompt run only then. -/
def ToldOfMonth {σ : Type} (B : TenantAttributionBackend σ ℚ) (now : ℤ) (events : List (Event ℚ)) : Prop :=
  (Runs.EveryStep (Books.step B) (MonthKept B) (Books.start B now) events →
      Runs.EveryStep (Books.step B) (Covered B) (Books.start B now) events) ∧
    (Runs.EveryStep (Books.step B) (Prompt B) (Books.start B now) events →
      Runs.EveryStep (Books.step B) (Covered B) (Books.start B now) events →
      Runs.EveryStep (Books.step B) (MonthKept B) (Books.start B now) events)

theorem month_to_date_covered (now : ℤ) (events : List (Event ℚ)) :
    ToldOfMonth processStore now events ∧ ToldOfMonth redisStore now events := by
  have process := TenantAttributionStore.counts exactSpending
  have redis := RedisTenantAttributionStore.counts exactSpending
  refine ⟨⟨covered_of_kept process TenantAttributionStore.countsSpend, fun prompt => ?_⟩,
    covered_of_kept redis RedisTenantAttributionStore.countsSpend, fun prompt => ?_⟩
  · exact (covered_iff_kept process TenantAttributionStore.countsSpend prompt).mp
  · exact (covered_iff_kept redis RedisTenantAttributionStore.countsSpend prompt).mp

/-- A request which is refunded the day after it was made, before another one. -/
def refundedOvernight : List (Event ℚ) :=
  [.reserve 0 "finance" 10 0 1 "first", .wait 86400000, .refund 1 0, .reserve 1 "finance" 10 0 2 "second"]

theorem refundedOvernight_covered :
    Runs.EveryStep (Books.step processStore) (Covered processStore) (Books.start processStore 0) refundedOvernight ∧
      Runs.EveryStep (Books.step redisStore) (Covered redisStore) (Books.start redisStore 0) refundedOvernight := by
  constructor
  · refine (month_to_date_covered 0 refundedOvernight).1.1
      ⟨fun _ => ?_, trivial, fun b found => ?_, fun _ => ?_, trivial⟩
    · exact ⟨rfl, by decide +kernel⟩
    · obtain rfl := Option.some.inj found
      exact Or.inr (Or.inr (Or.inr (by decide +kernel)))
    · exact ⟨by decide +kernel, by decide +kernel⟩
  · refine (month_to_date_covered 0 refundedOvernight).2.1
      ⟨fun _ => ?_, trivial, fun b found => ?_, fun _ => ?_, trivial⟩
    · exact ⟨rfl, by decide +kernel⟩
    · obtain rfl := Option.some.inj found
      exact Or.inr (Or.inr (Or.inr (by decide +kernel)))
    · exact ⟨by decide +kernel, by decide +kernel⟩

/-- Two requests on two days of one month. -/
def twoDays : List (Event ℚ) :=
  [.reserve 0 "finance" 10 0 1 "first", .wait 86400000, .reserve 1 "finance" 10 0 1 "second"]

/-- The second one is told of its own spend only. -/
theorem month_forgotten :
    ¬ Runs.EveryStep (Books.step processStore) (Covered processStore) (Books.start processStore 0) twoDays ∧
      ¬ Runs.EveryStep (Books.step redisStore) (Covered redisStore) (Books.start redisStore 0) twoDays := by
  constructor
  · intro every
    have told := every.2.2.1 ⟨by decide +kernel, by decide +kernel⟩
    exact absurd told (by decide +kernel)
  · intro every
    have told := every.2.2.1 ⟨by decide +kernel, by decide +kernel⟩
    exact absurd told (by decide +kernel)

end RuntimePlatform.Tenant
