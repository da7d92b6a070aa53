import RuntimePlatform.Lib.Runs
import Mathlib.Algebra.BigOperators.Group.List.Basic
import Mathlib.Algebra.Order.BigOperators.Group.List
import Mathlib.Data.Int.Basic
import Mathlib.Tactic.Ring

/-!
The tenant attribution stores behind one interface, and what their runs should come to: on every
day, the tokens of the reservations which were made on it. The ledger beside a store keeps that
account; times are in milliseconds, and days begin at midnight UTC.
-/

namespace RuntimePlatform.Tenant

/-- `_today()` -/
def today (now : ℤ) : ℤ := now / 86400000

/-- A reservation before the request, which is refunded or reconciled after it. -/
structure QuotaReservation (S : Type) where
  team : String
  member_id : String
  reserved_tokens : ℕ
  reserved_spend_usd : S
  requests_last_minute : ℕ
  tokens_today : ℤ
  month_to_date_cost_usd : S

/-- The arithmetic of spends: of floats in the process, of decimal texts in Redis. -/
structure Spending (S : Type) where
  zero : S
  add : S → S → S
  sub : S → S → S
  /-- `max(0.0, spend)` -/
  clamp : S → S
  /-- `actual_spend_usd - reserved_spend_usd` -/
  delta : S → S → S

/-- `TenantAttributionBackend`. An operation is told the time and the date it has read; a store which awaits a server
may come to work on a later day. -/
structure TenantAttributionBackend (σ S : Type) where
  empty : σ
  awaits : Bool
  reserve_request (store : σ) (now asked : ℤ) (team : String) (input_tokens output_tokens : ℕ) (spend_usd : S)
    (member_id : String) : σ × QuotaReservation S
  refund_reservation (store : σ) (now asked : ℤ) (reservation : QuotaReservation S) : σ
  reconcile_usage (store : σ) (now asked : ℤ) (reservation : QuotaReservation S)
    (actual_input_tokens actual_output_tokens : ℕ) (actual_spend_usd : S) : σ × ℤ × S
  /-- The requests of the last minute, and the tokens of the day. -/
  usage_snapshot (store : σ) (now : ℤ) (team : String) : ℕ × ℤ
  spend_snapshot (store : σ) (now : ℤ) (team : String) : S

/-- What is counted of a reservation: what it reserved while it is open, what was used once it is reconciled. -/
structure Entry (S : Type) where
  reservation : QuotaReservation S
  day : ℤ
  tokens : ℕ
  closed : Bool

/-- A store, the time, and the reservations so far. -/
structure World (σ S : Type) where
  store : σ
  now : ℤ
  ledger : List (Entry S)

inductive Event (S : Type) where
  | wait (ms : ℕ)
  | reserve (asked : ℤ) (team : String) (input_tokens output_tokens : ℕ) (spend_usd : S) (member_id : String)
  | refund (asked : ℤ) (i : ℕ)
  | reconcile (asked : ℤ) (i actual_input_tokens actual_output_tokens : ℕ) (actual_spend_usd : S)

/-- The tokens which are brought in. -/
def Event.tokens {S : Type} : Event S → ℕ
  | .reserve _ _ input_tokens output_tokens _ _ => input_tokens + output_tokens
  | .reconcile _ _ actual_input_tokens actual_output_tokens _ => actual_input_tokens + actual_output_tokens
  | .wait _ | .refund _ _ => 0

variable {σ S : Type} (B : TenantAttributionBackend σ S)

/-- The date was read before, and at the same time where nothing is awaited. -/
def TenantAttributionBackend.MayAsk (asked : ℤ) (now : ℤ) : Prop :=
  asked ≤ today now ∧ (B.awaits = false → asked = today now)

instance (asked now : ℤ) : Decidable (B.MayAsk asked now) := inferInstanceAs (Decidable (_ ∧ _))

/-- The reservation `i`, if it can be closed: it is open, and was made before. -/
def closable (w : World σ S) (asked : ℤ) (i : ℕ) : Option (Entry S) :=
  (w.ledger[i]?).filter fun entry => !entry.closed && decide (entry.day ≤ asked) && decide (B.MayAsk asked w.now)

/-- A reservation was made. -/
def World.reserved (w : World σ S) (r : σ × QuotaReservation S) (day : ℤ) (tokens : ℕ) : World σ S :=
  { w with store := r.1, ledger := w.ledger ++ [⟨r.2, day, tokens, false⟩] }

/-- The reservation `i` was closed. -/
def World.settled (w : World σ S) (store : σ) (i : ℕ) (entry : Entry S) (tokens : ℕ) : World σ S :=
  { w with store := store, ledger := w.ledger.set i { entry with tokens := tokens, closed := true } }

def step (w : World σ S) : Event S → World σ S
  | .wait ms => { w with now := w.now + ms }
  | .reserve asked team input_tokens output_tokens spend_usd member_id =>
    if B.MayAsk asked w.now then
      w.reserved (B.reserve_request w.store w.now asked team input_tokens output_tokens spend_usd member_id) asked
        (input_tokens + output_tokens)
    else w
  | .refund asked i =>
    match closable B w asked i with
    | some entry => w.settled (B.refund_reservation w.store w.now asked entry.reservation) i entry 0
    | none => w
  | .reconcile asked i actual_input_tokens actual_output_tokens actual_spend_usd =>
    match closable B w asked i with
    | some entry =>
      w.settled (B.reconcile_usage w.store w.now asked entry.reservation actual_input_tokens actual_output_tokens
        actual_spend_usd).1 i entry (actual_input_tokens + actual_output_tokens)
    | none => w

def World.start (now : ℤ) : World σ S := ⟨B.empty, now, []⟩

/-! What should be counted. -/

/-- What a reservation adds to a day of a team. -/
def Entry.share (team : String) (day : ℤ) (entry : Entry S) : ℤ :=
  if entry.reservation.team = team ∧ entry.day = day then entry.tokens else 0

/-- The tokens of the reservations of one day. -/
def World.tokens (w : World σ S) (team : String) (day : ℤ) : ℤ := (w.ledger.map (Entry.share team day)).sum

/-- The tokens of the current day. -/
def World.due (w : World σ S) (team : String) : ℤ := w.tokens team (today w.now)

def TenantAttributionBackend.count (store : σ) (now : ℤ) (team : String) : ℤ := (B.usage_snapshot store now team).2

/-- The store counts for every team the tokens of the current day. -/
def Exact (w : World σ S) : Prop := ∀ team, B.count w.store w.now team = w.due team

/-- A step which loses nothing. A reservation is made with the date of the day. One is closed on the day on which it
was made; a later closing must have nothing to write, or nothing to lose. -/
def Kept (w : World σ S) : Event S → Prop
  | .wait _ => True
  | .reserve asked team _ _ _ _ => B.MayAsk asked w.now → asked = today w.now ∨ w.due team = 0
  | .refund asked i => ∀ entry, closable B w asked i = some entry →
    entry.day = today w.now ∨ asked < today w.now ∨ entry.tokens = 0 ∨ w.due entry.reservation.team = 0
  | .reconcile asked i actual_input_tokens actual_output_tokens _ => ∀ entry, closable B w asked i = some entry →
    entry.day = today w.now ∨
      asked = today w.now ∧ actual_input_tokens + actual_output_tokens = entry.tokens ∨
      w.due entry.reservation.team = 0 ∧
        (asked < today w.now ∨ actual_input_tokens + actual_output_tokens < entry.tokens)

/-! What a store of the interface has to do. -/

/-- A store which keeps one count for every team and day. What an operation with an earlier date finds is gone. -/
structure Counts (Inv : σ → ℤ → Prop) : Prop where
  empty : ∀ now, Inv B.empty now ∧ ∀ team, B.count B.empty now team = 0
  wait : ∀ store now (ms : ℕ), Inv store now → Inv store (now + ms) ∧ ∀ team,
    B.count store (now + ms) team = if today (now + ms) = today now then B.count store now team else 0
  reserve : ∀ store now asked team input_tokens output_tokens spend_usd member_id, Inv store now →
    B.MayAsk asked now →
      let r := B.reserve_request store now asked team input_tokens output_tokens spend_usd member_id
      Inv r.1 now ∧ (r.2.team = team ∧ r.2.reserved_tokens = input_tokens + output_tokens) ∧ ∀ other,
        B.count r.1 now other =
          if other = team then
            if asked = today now then B.count store now team + (input_tokens + output_tokens : ℕ) else 0
          else B.count store now other
  refund : ∀ store now asked reservation, Inv store now → B.MayAsk asked now →
    Inv (B.refund_reservation store now asked reservation) now ∧ ∀ other,
      B.count (B.refund_reservation store now asked reservation) now other =
        if other = reservation.team ∧ asked = today now then
          max 0 (B.count store now other - reservation.reserved_tokens)
        else B.count store now other
  reconcile : ∀ store now asked reservation (actual_input_tokens actual_output_tokens : ℕ) actual_spend_usd,
    Inv store now → B.MayAsk asked now →
      let r := B.reconcile_usage store now asked reservation actual_input_tokens actual_output_tokens actual_spend_usd
      Inv r.1 now ∧ ∀ other, B.count r.1 now other =
        if other = reservation.team then
          if asked = today now then
            max 0 (B.count store now other +
              ((actual_input_tokens + actual_output_tokens : ℕ) - reservation.reserved_tokens))
          else 0
        else B.count store now other

/-! The account of the ledger. -/

/-- What is known of a world in every run. -/
structure Sound (Inv : σ → ℤ → Prop) (w : World σ S) : Prop where
  store : Inv w.store w.now
  dated : ∀ entry ∈ w.ledger, entry.day ≤ today w.now
  reserved : ∀ entry ∈ w.ledger, entry.closed = false → entry.tokens = entry.reservation.reserved_tokens

variable {B} {w : World σ S} {team : String} {day : ℤ} {Inv : σ → ℤ → Prop}

theorem today_mono {now : ℤ} (ms : ℕ) : today now ≤ today (now + ms) :=
  Int.ediv_le_ediv (by decide) (le_add_of_nonneg_right (Int.natCast_nonneg ms))

theorem Entry.share_nonneg (entry : Entry S) : 0 ≤ entry.share team day := by
  unfold Entry.share
  split
  · exact Int.natCast_nonneg _
  · exact le_rfl

theorem World.tokens_nonneg : 0 ≤ w.tokens team day :=
  List.sum_nonneg fun _ listed => by
    obtain ⟨entry, _, rfl⟩ := List.mem_map.mp listed
    exact entry.share_nonneg

/-- One reservation is part of its day's account. -/
theorem share_le_tokens {entry : Entry S} (member : entry ∈ w.ledger) : entry.share team day ≤ w.tokens team day := by
  refine List.single_le_sum (fun _ listed => ?_) _ (List.mem_map_of_mem member)
  obtain ⟨other, _, rfl⟩ := List.mem_map.mp listed
  exact other.share_nonneg

theorem due_reserved (r : σ × QuotaReservation S) (tokens : ℕ) (other : String) :
    (w.reserved r day tokens).due other =
      w.due other + if r.2.team = other ∧ day = today w.now then (tokens : ℤ) else 0 := by
  change ((w.ledger ++ [_]).map _).sum = _
  rw [List.map_append, List.sum_append, List.map_singleton, List.sum_singleton]
  rfl

/-- Closing a reservation changes its day's account by what it adds to what it had reserved. -/
theorem due_settled {i : ℕ} {entry : Entry S} (here : w.ledger[i]? = some entry) (store : σ) (tokens : ℕ)
    (other : String) : (w.settled store i entry tokens).due other =
      w.due other + if entry.reservation.team = other ∧ entry.day = today w.now then (tokens : ℤ) - entry.tokens
        else 0 := by
  obtain ⟨bound, same⟩ := List.getElem?_eq_some_iff.mp here
  change ((w.ledger.set i _).map (Entry.share other (today w.now))).sum = _
  rw [List.map_set, List.sum_set', dif_pos (by rwa [List.length_map]), List.getElem_map, same]
  unfold Entry.share
  by_cases counted : entry.reservation.team = other ∧ entry.day = today w.now
  · rw [if_pos counted, if_pos counted, if_pos counted, neg_add_eq_sub]
    rfl
  · rw [if_neg counted, if_neg counted, if_neg counted]
    rfl

theorem closable_eq_some {asked : ℤ} {i : ℕ} {entry : Entry S} : closable B w asked i = some entry ↔
    w.ledger[i]? = some entry ∧ entry.closed = false ∧ entry.day ≤ asked ∧ B.MayAsk asked w.now := by
  unfold closable
  rw [Option.filter_eq_some_iff, Bool.and_eq_true, Bool.and_eq_true, Bool.not_eq_true', decide_eq_true_eq,
    decide_eq_true_eq, and_assoc]

/-- After the last reservation's day the account is empty. -/
theorem tokens_later (dated : ∀ entry ∈ w.ledger, entry.day ≤ today w.now) (later : today w.now < day) :
    w.tokens team day = 0 := by
  refine List.sum_eq_zero fun share listed => ?_
  obtain ⟨entry, member, rfl⟩ := List.mem_map.mp listed
  refine if_neg fun both => ?_
  have early := dated entry member
  omega

/-! One step. -/

theorem Sound.reserving (sound : Sound Inv w) {r : σ × QuotaReservation S} (kept : Inv r.1 w.now)
    (dated : day ≤ today w.now) : Sound Inv (w.reserved r day r.2.reserved_tokens) := by
  refine ⟨kept, fun entry listed => ?_, fun entry listed stillOpen => ?_⟩
  · rcases List.mem_append.mp listed with old | new
    · exact sound.dated entry old
    · rw [List.mem_singleton.mp new]
      exact dated
  · rcases List.mem_append.mp listed with old | new
    · exact sound.reserved entry old stillOpen
    · rw [List.mem_singleton.mp new]

theorem Sound.settling (sound : Sound Inv w) {asked : ℤ} {i : ℕ} {entry : Entry S}
    (found : closable B w asked i = some entry) {store : σ} (kept : Inv store w.now) (tokens : ℕ) :
    Sound Inv (w.settled store i entry tokens) := by
  obtain ⟨here, _, _, _⟩ := closable_eq_some.mp found
  refine ⟨kept, fun other listed => ?_, fun other listed stillOpen => ?_⟩
  · rcases List.mem_or_eq_of_mem_set listed with old | rfl
    · exact sound.dated other old
    · exact sound.dated entry (List.mem_of_getElem? here)
  · rcases List.mem_or_eq_of_mem_set listed with old | rfl
    · exact sound.reserved other old stillOpen
    · cases stillOpen

theorem sound_step (counts : Counts B Inv) (sound : Sound Inv w) (e : Event S) : Sound Inv (step B w e) := by
  cases e with
  | wait ms =>
      exact ⟨(counts.wait _ _ ms sound.store).1, fun entry listed => (sound.dated entry listed).trans (today_mono ms),
        sound.reserved⟩
  | reserve asked team input_tokens output_tokens spend_usd member_id =>
      simp only [step]
      by_cases may : B.MayAsk asked w.now
      · obtain ⟨kept, ⟨_, reserved⟩, _⟩ :=
          counts.reserve w.store w.now asked team input_tokens output_tokens spend_usd member_id sound.store may
        rw [if_pos may, ← reserved]
        exact sound.reserving kept may.1
      · rw [if_neg may]
        exact sound
  | refund asked i =>
      simp only [step]
      cases found : closable B w asked i with
      | none => exact sound
      | some entry =>
          obtain ⟨_, _, _, may⟩ := closable_eq_some.mp found
          exact sound.settling found (counts.refund _ _ asked entry.reservation sound.store may).1 0
  | reconcile asked i actual_input_tokens actual_output_tokens actual_spend_usd =>
      simp only [step]
      cases found : closable B w asked i with
      | none => exact sound
      | some entry =>
          obtain ⟨_, _, _, may⟩ := closable_eq_some.mp found
          exact sound.settling found (counts.reconcile _ _ asked entry.reservation actual_input_tokens
            actual_output_tokens actual_spend_usd sound.store may).1 _

theorem exact_wait (counts : Counts B Inv) (sound : Sound Inv w) (exact_ : Exact B w) (ms : ℕ) :
    Exact B (step B w (.wait ms)) := by
  intro team
  have count := (counts.wait w.store w.now ms sound.store).2 team
  change B.count w.store (w.now + ms) team = w.tokens team (today (w.now + ms))
  by_cases same : today (w.now + ms) = today w.now
  · rw [count, if_pos same, same]
    exact exact_ team
  · rw [count, if_neg same]
    exact (tokens_later sound.dated (lt_of_le_of_ne (today_mono ms) (Ne.symm same))).symm

theorem exact_reserve (counts : Counts B Inv) (sound : Sound Inv w) (exact_ : Exact B w) (asked : ℤ)
    (team : String) (input_tokens output_tokens : ℕ) (spend_usd : S) (member_id : String) :
    Exact B (step B w (.reserve asked team input_tokens output_tokens spend_usd member_id)) ↔
      Kept B w (.reserve asked team input_tokens output_tokens spend_usd member_id) := by
  simp only [step, Kept]
  by_cases may : B.MayAsk asked w.now
  · obtain ⟨_, ⟨same, _⟩, counted⟩ :=
      counts.reserve w.store w.now asked team input_tokens output_tokens spend_usd member_id sound.store may
    rw [if_pos may, imp_iff_right may]
    constructor
    · intro after
      have here := after team
      rw [due_reserved, same] at here
      change B.count (B.reserve_request _ _ _ _ _ _ _ _).1 w.now team = _ at here
      rw [counted, if_pos rfl] at here
      by_cases timely : asked = today w.now
      · exact Or.inl timely
      · rw [if_neg timely, if_neg fun both => timely both.2, add_zero] at here
        exact Or.inr here.symm
    · intro kept other
      rw [due_reserved, same]
      change B.count (B.reserve_request _ _ _ _ _ _ _ _).1 w.now other = _
      rw [counted]
      by_cases here : other = team
      · subst here
        rw [if_pos rfl, exact_ other]
        by_cases timely : asked = today w.now
        · rw [if_pos timely, if_pos ⟨rfl, timely⟩]
        · rw [if_neg timely, if_neg fun both => timely both.2, add_zero]
          exact (kept.resolve_left timely).symm
      · rw [if_neg here, if_neg fun both => here both.1.symm, add_zero]
        exact exact_ other
  · rw [if_neg may]
    exact iff_of_true exact_ fun bad => absurd bad may

/-- Only the count of the reservation's team can go wrong. -/
theorem exact_settled {i : ℕ} {entry : Entry S} (here : w.ledger[i]? = some entry) (exact_ : Exact B w) {store : σ}
    {tokens : ℕ} {n : ℤ} (counted : ∀ other, B.count store w.now other =
      if other = entry.reservation.team then n else B.count w.store w.now other) :
    Exact B (w.settled store i entry tokens) ↔ n = w.due entry.reservation.team +
      if entry.day = today w.now then (tokens : ℤ) - entry.tokens else 0 := by
  have team : ∀ other, (w.settled store i entry tokens).due other =
      w.due other + if other = entry.reservation.team then
        if entry.day = today w.now then (tokens : ℤ) - entry.tokens else 0 else 0 := by
    intro other
    rw [due_settled here]
    by_cases same : other = entry.reservation.team
    · simp only [same, true_and, if_true]
    · rw [if_neg same, if_neg fun both => same both.1.symm]
  constructor
  · intro after
    have here := after entry.reservation.team
    rw [team, if_pos rfl] at here
    rw [← here]
    exact ((counted _).trans (if_pos rfl)).symm
  · intro same other
    refine (counted other).trans ?_
    rw [team]
    by_cases here : other = entry.reservation.team
    · rw [if_pos here, if_pos here, here]
      exact same
    · rw [if_neg here, if_neg here, add_zero]
      exact exact_ other

/-- What is known of a reservation which can be closed. -/
theorem closable_facts (sound : Sound Inv w) {asked : ℤ} {i : ℕ} {entry : Entry S}
    (found : closable B w asked i = some entry) : entry.tokens = entry.reservation.reserved_tokens ∧
      entry.day ≤ asked ∧ asked ≤ today w.now ∧ 0 ≤ w.due entry.reservation.team ∧
      (entry.day = today w.now → (entry.tokens : ℤ) ≤ w.due entry.reservation.team) := by
  obtain ⟨here, stillOpen, dated, may⟩ := closable_eq_some.mp found
  have member := List.mem_of_getElem? here
  refine ⟨sound.reserved entry member stillOpen, dated, may.1, World.tokens_nonneg, fun same => ?_⟩
  have share : entry.share entry.reservation.team (today w.now) = entry.tokens := if_pos ⟨rfl, same⟩
  exact share ▸ share_le_tokens member

theorem exact_refund (counts : Counts B Inv) (sound : Sound Inv w) (exact_ : Exact B w) (asked : ℤ) (i : ℕ) :
    Exact B (step B w (.refund asked i)) ↔ Kept B w (.refund asked i) := by
  simp only [step, Kept]
  cases found : closable B w asked i with
  | none => exact iff_of_true exact_ fun _ bad => nomatch bad
  | some entry =>
      obtain ⟨here, _, _, may⟩ := closable_eq_some.mp found
      obtain ⟨reserved, dated, late, nonneg, part⟩ := closable_facts sound found
      have counted := (counts.refund w.store w.now asked entry.reservation sound.store may).2
      have team : ∀ other, B.count (B.refund_reservation w.store w.now asked entry.reservation) w.now other =
          if other = entry.reservation.team then
            if asked = today w.now then max 0 (w.due entry.reservation.team - entry.tokens)
            else w.due entry.reservation.team
          else B.count w.store w.now other := by
        intro other
        rw [counted, ← exact_, reserved]
        by_cases same : other = entry.reservation.team
        · simp only [same, true_and, if_true]
        · rw [if_neg same, if_neg fun both => same both.1]
      dsimp only
      rw [exact_settled here exact_ team]
      constructor
      · intro same other also
        obtain rfl := Option.some.inj also
        split at same <;> omega
      · intro kept
        have kept := kept entry rfl
        split <;> omega

theorem exact_reconcile (counts : Counts B Inv) (sound : Sound Inv w) (exact_ : Exact B w) (asked : ℤ)
    (i actual_input_tokens actual_output_tokens : ℕ) (actual_spend_usd : S) :
    Exact B (step B w (.reconcile asked i actual_input_tokens actual_output_tokens actual_spend_usd)) ↔
      Kept B w (.reconcile asked i actual_input_tokens actual_output_tokens actual_spend_usd) := by
  simp only [step, Kept]
  cases found : closable B w asked i with
  | none => exact iff_of_true exact_ fun _ bad => nomatch bad
  | some entry =>
      obtain ⟨here, _, _, may⟩ := closable_eq_some.mp found
      obtain ⟨reserved, dated, late, nonneg, part⟩ := closable_facts sound found
      have counted := (counts.reconcile w.store w.now asked entry.reservation actual_input_tokens
        actual_output_tokens actual_spend_usd sound.store may).2
      have team : ∀ other, B.count (B.reconcile_usage w.store w.now asked entry.reservation actual_input_tokens
            actual_output_tokens actual_spend_usd).1 w.now other =
          if other = entry.reservation.team then
            if asked = today w.now then max 0 (w.due entry.reservation.team +
              ((actual_input_tokens + actual_output_tokens : ℕ) - entry.tokens))
            else 0
          else B.count w.store w.now other := by
        intro other
        rw [counted, reserved]
        by_cases same : other = entry.reservation.team
        · rw [if_pos same, if_pos same, same, exact_]
        · rw [if_neg same, if_neg same]
      dsimp only
      rw [exact_settled here exact_ team]
      constructor
      · intro same other also
        obtain rfl := Option.some.inj also
        split at same <;> omega
      · intro kept
        have kept := kept entry rfl
        split <;> omega

/-- A store of the interface is exact in every state of a run just when every step of the run loses nothing. -/
theorem exact_iff_kept (counts : Counts B Inv) (now : ℤ) (events : List (Event S)) :
    Runs.EveryState (step B) (Exact B) (World.start B now) events ↔
      Runs.EveryStep (step B) (Kept B) (World.start B now) events := by
  have start : Sound Inv (World.start B now) :=
    ⟨(counts.empty now).1, fun _ bad => absurd bad List.not_mem_nil, fun _ bad => absurd bad List.not_mem_nil⟩
  refine Runs.everyState_iff_everyStep (I := Sound Inv) (fun w e sound => sound_step counts sound e)
    (fun w e sound exact_ => ?_) start (counts.empty now).2
  cases e with
  | wait ms => exact iff_of_true (exact_wait counts sound exact_ ms) trivial
  | reserve asked team input_tokens output_tokens spend_usd member_id =>
      exact exact_reserve counts sound exact_ asked team input_tokens output_tokens spend_usd member_id
  | refund asked i => exact exact_refund counts sound exact_ asked i
  | reconcile asked i actual_input_tokens actual_output_tokens actual_spend_usd =>
      exact exact_reconcile counts sound exact_ asked i actual_input_tokens actual_output_tokens actual_spend_usd

end RuntimePlatform.Tenant
