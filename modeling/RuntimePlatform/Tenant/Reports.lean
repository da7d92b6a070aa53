import RuntimePlatform.Tenant.Accounts
import RuntimePlatform.Tenant.Scripts
import Mathlib.Data.List.Perm.Basic
import Mathlib.Tactic.Abel
import Mathlib.Tactic.Linarith

/-!
Both tenant stores report their accounts.
-/

namespace RuntimePlatform.Tenant

variable {a : Account} {team : String}

/-- The times of the requests which have not been refunded. -/
def Account.live (a : Account) (team : String) : List ℤ :=
  (a.charges.filter fun charge => decide (charge.team = team ∧ charge.standing ≠ .refunded)).map Charge.time

theorem requests_eq_live (a : Account) (recent : ℤ → Bool) (team : String) :
    a.requests recent team = (a.live team).countP fun time => recent (a.now - time) := by
  unfold Account.requests Account.live
  rw [List.countP_map, List.countP_filter]
  refine List.countP_congr fun charge _ => ?_
  simp [Charge.counts, and_comm]

/-- What closing a reservation of the day changes of what is due. -/
theorem due_settle (tidy : Tidy a) {charge : Charge} {reservation : QuotaReservation ℚ} (member : charge ∈ a.charges)
    (covers : charge.Covers a.now reservation) (standing : Standing) (tokens : ℕ) (spend_usd : ℚ) (team : String) :
    (a.settle reservation.member_id standing tokens spend_usd).due team =
        a.due team + (if reservation.team = team then
          ((tokens : ℤ) - reservation.reserved_tokens, spend_usd - reservation.reserved_spend_usd) else 0) ∧
      (reservation.team = team →
        ((reservation.reserved_tokens : ℤ), reservation.reserved_spend_usd) ≤ a.due team) := by
  obtain ⟨-, id, own, reserved, spent, here⟩ := covers
  obtain ⟨before, after, split, settled⟩ := settle_split tidy member standing tokens spend_usd
  have positive : ∀ part : List Charge, (∀ charge ∈ part, charge ∈ a.charges) →
      0 ≤ (part.map (Charge.due team (today a.now))).sum := by
    intro part listed
    refine List.sum_nonneg fun due found => ?_
    obtain ⟨other, inside, rfl⟩ := List.mem_map.mp found
    exact due_nonneg tidy team _ (listed other inside)
  have first := positive before fun other inside => split ▸ List.mem_append_left _ inside
  have rest := positive after fun other inside => split ▸ List.mem_append_right _ (List.mem_cons_of_mem _ inside)
  have due : a.due team = (before.map (Charge.due team (today a.now))).sum +
      (charge.due team (today a.now) + (after.map (Charge.due team (today a.now))).sum) := by
    unfold Account.due
    rw [split, List.map_append, List.map_cons, List.sum_append, List.sum_cons]
  have now_due : (a.settle reservation.member_id standing tokens spend_usd).due team =
      (before.map (Charge.due team (today a.now))).sum +
        (Charge.due team (today a.now) { charge with standing := standing, tokens := tokens, spend_usd := spend_usd } +
          (after.map (Charge.due team (today a.now))).sum) := by
    unfold Account.due
    rw [← id, settled, List.map_append, List.map_cons, List.sum_append, List.sum_cons]
    rfl
  rw [now_due, due]
  by_cases same : reservation.team = team
  · have old : charge.due team (today a.now) =
        ((reservation.reserved_tokens : ℤ), reservation.reserved_spend_usd) := by
      unfold Charge.due
      rw [if_pos ⟨own.trans same, here⟩, reserved, spent]
    have new : Charge.due team (today a.now)
        { charge with standing := standing, tokens := tokens, spend_usd := spend_usd } = ((tokens : ℤ), spend_usd) :=
      if_pos ⟨own.trans same, here⟩
    have changed : ((tokens : ℤ), spend_usd) = ((reservation.reserved_tokens : ℤ), reservation.reserved_spend_usd) +
        ((tokens : ℤ) - reservation.reserved_tokens, spend_usd - reservation.reserved_spend_usd) :=
      Prod.ext (add_sub_cancel _ _).symm (add_sub_cancel _ _).symm
    rw [old, new, if_pos same, changed]
    exact ⟨by abel, fun _ => le_add_of_nonneg_of_le first (le_add_of_nonneg_right rest)⟩
  · have old : charge.due team (today a.now) = 0 := if_neg fun both => same (own.symm.trans both.1)
    have new : Charge.due team (today a.now)
        { charge with standing := standing, tokens := tokens, spend_usd := spend_usd } = 0 :=
      if_neg fun both => same (own.symm.trans both.1)
    rw [old, new, if_neg same, add_zero]
    exact ⟨rfl, fun bad => absurd bad same⟩

theorem live_refund (tidy : Tidy a) {charge : Charge} (member : charge ∈ a.charges)
    (pending : charge.standing = .pending) (team : String) :
    ((a.settle charge.member_id .refunded 0 0).live team).Perm
      (if charge.team = team then (a.live team).erase charge.time else a.live team) := by
  obtain ⟨before, after, split, settled⟩ := settle_split tidy member .refunded 0 0
  unfold Account.live
  rw [settled, split, List.filter_append, List.filter_append, List.filter_cons_of_neg (by simp)]
  by_cases same : charge.team = team
  · rw [if_pos same, List.filter_cons_of_pos (by simp [same, pending]), List.map_append, List.map_append, List.map_cons]
    refine List.Perm.cons_inv (a := charge.time) (List.perm_middle.symm.trans (List.perm_cons_erase ?_))
    exact List.mem_append_right _ List.mem_cons_self
  · rw [if_neg same, List.filter_cons_of_neg (by simp [same])]

theorem live_reconcile (tidy : Tidy a) {charge : Charge} (member : charge ∈ a.charges)
    (pending : charge.standing = .pending) (tokens : ℕ) (spend_usd : ℚ) (team : String) :
    (a.settle charge.member_id .reconciled tokens spend_usd).live team = a.live team := by
  obtain ⟨before, after, split, settled⟩ := settle_split tidy member .reconciled tokens spend_usd
  unfold Account.live
  rw [settled, split, List.filter_append, List.filter_append]
  by_cases same : charge.team = team
  · rw [List.filter_cons_of_pos (by simp [same]), List.filter_cons_of_pos (by simp [same, pending]), List.map_append,
      List.map_append, List.map_cons, List.map_cons]
  · rw [List.filter_cons_of_neg (by simp [same]), List.filter_cons_of_neg (by simp [same])]

theorem due_later (tidy : Tidy a) (ms : ℕ) (other : today (a.now + ms) ≠ today a.now) (team : String) :
    ({ a with now := a.now + ms } : Account).due team = 0 := by
  refine List.sum_eq_zero fun due listed => ?_
  obtain ⟨charge, member, rfl⟩ := List.mem_map.mp listed
  refine if_neg fun both => other (le_antisymm ?_ (today_mono ms))
  rw [← both.2]
  exact Int.ediv_le_ediv (by decide) (tidy.past charge member)

theorem live_reserve (a : Account) (asked : ℤ) (owner : String) (input_tokens output_tokens : ℕ) (spend_usd : ℚ)
    (member_id team : String) :
    (book a (.reserve asked owner input_tokens output_tokens spend_usd member_id)).live team =
      a.live team ++ if owner = team then [a.now] else [] := by
  unfold Account.live
  change ((a.charges ++ [_]).filter _).map _ = _
  rw [List.filter_append, List.map_append]
  congr 1
  by_cases same : owner = team
  · rw [if_pos same, List.filter_cons_of_pos (by simp [same])]
    rfl
  · rw [if_neg same, List.filter_cons_of_neg (by simp [same])]
    rfl

theorem due_reserve (a : Account) (asked : ℤ) (owner : String) (input_tokens output_tokens : ℕ) (spend_usd : ℚ)
    (member_id team : String) :
    (book a (.reserve asked owner input_tokens output_tokens spend_usd member_id)).due team =
      a.due team + if owner = team then (((input_tokens + output_tokens : ℕ) : ℤ), spend_usd) else 0 := by
  unfold Account.due
  change ((a.charges ++ [_]).map _).sum = _
  rw [List.map_append, List.sum_append, List.map_singleton, List.sum_singleton]
  congr 1
  unfold Charge.due
  dsimp only
  by_cases same : owner = team
  · rw [if_pos same]
    exact if_pos ⟨same, rfl⟩
  · rw [if_neg same]
    exact if_neg fun both => same both.1

/-- Nothing is clamped where what was reserved is still due. -/
theorem clamp_due {due : ℤ × ℚ} {reserved : ℤ} {spent : ℚ} (covered : (reserved, spent) ≤ due) {tokens : ℤ}
    {spend_usd : ℚ} (tokens_nonneg : 0 ≤ tokens) (spend_nonneg : 0 ≤ spend_usd) :
    (max 0 (due.1 + (tokens - reserved)), max 0 (due.2 + (spend_usd - spent))) =
      due + (tokens - reserved, spend_usd - spent) := by
  obtain ⟨first, second⟩ := covered
  dsimp only at first second
  refine Prod.ext (max_eq_right ?_) (max_eq_right ?_)
  · omega
  · linarith

theorem clamp_refund {due : ℤ × ℚ} {reserved : ℤ} {spent : ℚ} (covered : (reserved, spent) ≤ due) :
    (max 0 (due.1 - reserved), max 0 (due.2 - spent)) = due + (0 - reserved, 0 - spent) := by
  have clamped := clamp_due covered le_rfl le_rfl
  rw [← clamped, zero_sub, zero_sub, ← sub_eq_add_neg, ← sub_eq_add_neg]

/-- Another reservation's charge is still there after one is closed, as it was. -/
theorem mem_settle {other : Charge} {id : String} {standing : Standing} {tokens : ℕ} {spend_usd : ℚ}
    (listed : other ∈ (a.settle id standing tokens spend_usd).charges) :
    other ∈ a.charges ∧ other.member_id ≠ id ∨ other.standing = standing := by
  obtain ⟨old, member, rfl⟩ := List.mem_map.mp listed
  unfold Charge.settle
  split
  · rename_i same
    exact Or.inr rfl
  · rename_i different
    exact Or.inl ⟨member, different⟩

/-! The store of one process. -/
namespace TenantAttributionStore

/-- A minute ends after its last millisecond. -/
def recent (age : ℤ) : Bool := decide (age ≤ WINDOW_SECONDS * 1000)

/-- The tokens and the spend which a usage has for a day. -/
def dueOn (usage : TenantUsage ℚ) (day : ℤ) : ℤ × ℚ :=
  if usage.tokens_day = some day then (usage.tokens_today, usage.spend_usd) else 0

/-- The stamps of the last minute are those of the requests, in order. -/
structure Stamped (times live : List ℤ) (now : ℤ) : Prop where
  ordered : times.Pairwise (· ≤ ·)
  past : ∀ time ∈ times, time ≤ now
  same : ∀ cutoff, now - WINDOW_SECONDS * 1000 ≤ cutoff →
    (times.filter fun time => decide (cutoff ≤ time)).Perm (live.filter fun time => decide (cutoff ≤ time))

/-- The store has what its account asks for. -/
structure Holds (store : TenantAttributionStore ℚ) (a : Account) : Prop where
  dated : Dated store a.now
  stamped : ∀ team, Stamped (store.usage team).request_times (a.live team) a.now
  due : ∀ team, dueOn (store.usage team) (today a.now) = a.due team
  members : ∀ charge ∈ a.charges, charge.standing ≠ .refunded → store.members charge.member_id = some charge.time

theorem prune_window_eq {times : List ℤ} (ordered : times.Pairwise (· ≤ ·)) (now : ℤ) :
    prune_window times now = times.filter fun time => decide (now - WINDOW_SECONDS * 1000 ≤ time) := by
  unfold prune_window
  induction times with
  | nil => rfl
  | cons first times ih =>
      obtain ⟨least, ordered⟩ := List.pairwise_cons.mp ordered
      by_cases old : first < now - WINDOW_SECONDS * 1000
      · rw [List.dropWhile_cons_of_pos (p := fun time => decide (time < now - WINDOW_SECONDS * 1000))
          (decide_eq_true old), ih ordered]
        exact (List.filter_cons_of_neg (p := fun time => decide (now - WINDOW_SECONDS * 1000 ≤ time))
          fun bad => absurd (of_decide_eq_true bad) (not_le.mpr old)).symm
      · rw [List.dropWhile_cons_of_neg (by simpa using old)]
        refine (List.filter_eq_self.mpr fun time listed => decide_eq_true ?_).symm
        rcases List.mem_cons.mp listed with rfl | later
        · exact not_lt.mp old
        · exact (not_lt.mp old).trans (least time later)

theorem get_due (store : TenantAttributionStore ℚ) (now asked : ℤ) (team : String) :
    ((store.get exactSpending now asked team).tokens_today, (store.get exactSpending now asked team).spend_usd) =
      dueOn (store.usage team) asked := by
  simp only [get, dueOn]
  split
  · rfl
  · rfl

theorem get_times (store : TenantAttributionStore ℚ) (now asked : ℤ) (team : String) :
    (store.get exactSpending now asked team).request_times =
      prune_window (store.usage team).request_times now := by
  simp only [get]
  split
  · rfl
  · rfl

/-- Pruning forgets no stamp of the last minute. -/
theorem Stamped.prune {times live : List ℤ} {now : ℤ} (stamped : Stamped times live now) :
    Stamped (prune_window times now) live now := by
  rw [prune_window_eq stamped.ordered]
  refine ⟨stamped.ordered.filter _, fun time listed => stamped.past time (List.mem_filter.mp listed).1, ?_⟩
  intro cutoff late
  rw [List.filter_filter]
  refine (List.Perm.of_eq (List.filter_congr fun time _ => ?_)).trans (stamped.same cutoff late)
  by_cases kept : cutoff ≤ time
  · simp [kept, late.trans kept]
  · simp [kept]

theorem Stamped.wait {times live : List ℤ} {now : ℤ} (stamped : Stamped times live now) (ms : ℕ) :
    Stamped times live (now + ms) := by
  have later : now ≤ now + (ms : ℤ) := le_add_of_nonneg_right (Int.natCast_nonneg ms)
  exact ⟨stamped.ordered, fun time listed => (stamped.past time listed).trans later,
    fun cutoff late => stamped.same cutoff (by omega)⟩

theorem Stamped.append {times live : List ℤ} {now : ℤ} (stamped : Stamped times live now) :
    Stamped (times ++ [now]) (live ++ [now]) now := by
  refine ⟨?_, fun time listed => ?_, fun cutoff late => ?_⟩
  · refine List.pairwise_append.mpr ⟨stamped.ordered, List.pairwise_singleton _ _, fun time listed last new => ?_⟩
    rw [List.mem_singleton.mp new]
    exact stamped.past time listed
  · rcases List.mem_append.mp listed with old | new
    · exact stamped.past time old
    · rw [List.mem_singleton.mp new]
  · rw [List.filter_append, List.filter_append]
    exact (stamped.same cutoff late).append_right _

theorem Stamped.erase {times live live' : List ℤ} {now : ℤ} (stamped : Stamped times live now) (time : ℤ)
    (without : live'.Perm (live.erase time)) : Stamped (times.erase time) live' now := by
  refine ⟨stamped.ordered.sublist List.erase_sublist,
    fun other listed => stamped.past other (List.mem_of_mem_erase listed), fun cutoff late => ?_⟩
  refine List.Perm.trans ?_ (without.filter _).symm
  rw [← List.erase_filter, ← List.erase_filter]
  exact (stamped.same cutoff late).erase time

theorem Stamped.perm {times live live' : List ℤ} {now : ℤ} (stamped : Stamped times live now) (same : live'.Perm live) :
    Stamped times live' now :=
  ⟨stamped.ordered, stamped.past, fun cutoff late => (stamped.same cutoff late).trans (same.filter _).symm⟩

/-- The requests of the last minute are the stamps which pruning leaves. -/
theorem Stamped.length {times : List ℤ} {now : ℤ} (stamped : Stamped times (a.live team) now) (clock : now = a.now) :
    (prune_window times now).length = a.requests recent team := by
  rw [prune_window_eq stamped.ordered, requests_eq_live, (stamped.same _ le_rfl).length_eq,
    ← List.countP_eq_length_filter, clock]
  refine List.countP_congr fun time _ => ?_
  unfold recent
  rw [decide_eq_true_eq, decide_eq_true_eq]
  omega

/-- What a write of the usage of one team has to keep. -/
theorem Holds.write {store written : TenantAttributionStore ℚ} {a' : Account} (holds : Holds store a)
    (clock : a'.now = a.now) (team : String) (usage : TenantUsage ℚ)
    (writes : written.usage = Function.update store.usage team usage) (day : usage.tokens_day = some (today a.now))
    (stamped : Stamped usage.request_times (a'.live team) a.now)
    (due : (usage.tokens_today, usage.spend_usd) = a'.due team)
    (aside : ∀ other, other ≠ team → (a'.live other).Perm (a.live other) ∧ a'.due other = a.due other)
    (members : ∀ charge ∈ a'.charges, charge.standing ≠ .refunded →
      written.members charge.member_id = some charge.time) : Holds written a' := by
  refine ⟨?_, fun other => ?_, fun other => ?_, members⟩
  · rw [clock]
    exact (counted_write (F := exactSpending) holds.dated writes day).1
  · rw [clock, writes]
    by_cases here : other = team
    · rw [here, Function.update_self]
      exact stamped
    · rw [Function.update_of_ne here]
      exact (holds.stamped other).perm (aside other here).1
  · rw [clock, writes]
    by_cases here : other = team
    · rw [here, Function.update_self]
      exact (if_pos day).trans due
    · rw [Function.update_of_ne here, (aside other here).2]
      exact holds.due other

variable {store : TenantAttributionStore ℚ}

theorem Holds.wait (holds : Holds store a) (tidy : Tidy a) (ms : ℕ) : Holds store { a with now := a.now + ms } := by
  refine ⟨fun team day same => (holds.dated team day same).trans (today_mono ms),
    fun team => (holds.stamped team).wait ms, fun team => ?_, holds.members⟩
  by_cases same : today (a.now + ms) = today a.now
  · unfold Account.due
    dsimp only
    rw [same]
    exact holds.due team
  · have none : ({ a with now := a.now + ms } : Account).due team = 0 := due_later tidy ms same team
    rw [none]
    refine if_neg fun later => same ?_
    exact le_antisymm (holds.dated team _ later) (today_mono ms)

theorem Holds.reserve (holds : Holds store a) {asked : ℤ} {team : String}
    {input_tokens output_tokens : ℕ} {spend_usd : ℚ} {member_id : String}
    (timely : Timely a (.reserve asked team input_tokens output_tokens spend_usd member_id)) :
    Holds (reserve_request exactSpending store a.now asked team input_tokens output_tokens spend_usd member_id).1
      (book a (.reserve asked team input_tokens output_tokens spend_usd member_id)) := by
  obtain ⟨rfl, fresh, -⟩ := timely
  have got := get_due store a.now (today a.now) team
  refine holds.write rfl team _ rfl (get_day store a.now _ team) ?_ ?_ ?_ ?_
  · rw [live_reserve, if_pos rfl]
    dsimp only
    rw [get_times]
    exact (holds.stamped team).prune.append
  · rw [due_reserve, if_pos rfl, ← holds.due team, ← got]
    rfl
  · intro other different
    rw [live_reserve, due_reserve, if_neg (Ne.symm different), if_neg (Ne.symm different), add_zero, List.append_nil]
    exact ⟨List.Perm.refl _, rfl⟩
  · intro charge listed standing
    rcases List.mem_append.mp listed with old | new
    · exact (Function.update_of_ne (fresh charge old) _ _).trans (holds.members charge old standing)
    · rw [List.mem_singleton.mp new]
      exact Function.update_self _ _ _

theorem Holds.refund (holds : Holds store a) (tidy : Tidy a) {asked : ℤ} {reservation : QuotaReservation ℚ}
    (timely : Timely a (.refund asked reservation)) :
    Holds (refund_reservation exactSpending store a.now asked reservation) (book a (.refund asked reservation)) := by
  obtain ⟨rfl, charge, member, covers⟩ := timely
  have got := get_due store a.now (today a.now) reservation.team
  have stamp := holds.members charge member (by rw [covers.1]; exact fun bad => nomatch bad)
  have settled := due_settle tidy member covers .refunded 0 0
  obtain ⟨pending, id, own, -⟩ := covers
  have live := live_refund tidy member pending
  rw [id] at live stamp
  rw [own] at live
  refine holds.write rfl reservation.team _ rfl (get_day store a.now _ reservation.team) ?_ ?_ ?_ ?_
  · have without := live reservation.team
    rw [if_pos rfl] at without
    dsimp only
    rw [stamp, get_times]
    exact (holds.stamped reservation.team).prune.erase charge.time without
  · obtain ⟨changed, covered⟩ := settled reservation.team
    refine Eq.trans ?_ changed.symm
    have clamped := clamp_refund (covered rfl)
    rw [if_pos rfl, Nat.cast_zero, ← clamped, ← holds.due reservation.team, ← got]
    rfl
  · intro other different
    have kept := live other
    rw [if_neg (Ne.symm different)] at kept
    have due := (settled other).1
    rw [if_neg (Ne.symm different), add_zero] at due
    exact ⟨kept, due⟩
  · intro other listed standing
    rcases mem_settle listed with ⟨old, different⟩ | refunded
    · exact (Function.update_of_ne different _ _).trans (holds.members other old standing)
    · exact absurd refunded standing

theorem Holds.reconcile (holds : Holds store a) (tidy : Tidy a) {asked : ℤ} {reservation : QuotaReservation ℚ}
    {actual_input_tokens actual_output_tokens : ℕ} {actual_spend_usd : ℚ}
    (timely : Timely a (.reconcile asked reservation actual_input_tokens actual_output_tokens actual_spend_usd)) :
    Holds (reconcile_usage exactSpending store a.now asked reservation actual_input_tokens actual_output_tokens
      actual_spend_usd).1
      (book a (.reconcile asked reservation actual_input_tokens actual_output_tokens actual_spend_usd)) := by
  obtain ⟨rfl, ⟨charge, member, covers⟩, positive⟩ := timely
  have got := get_due store a.now (today a.now) reservation.team
  have stamp := holds.members charge member (by rw [covers.1]; exact fun bad => nomatch bad)
  have settled := due_settle tidy member covers .reconciled (actual_input_tokens + actual_output_tokens)
    actual_spend_usd
  obtain ⟨pending, id, own, -⟩ := covers
  have live := live_reconcile tidy member pending (actual_input_tokens + actual_output_tokens) actual_spend_usd
  rw [id] at live stamp
  refine holds.write rfl reservation.team _ rfl (get_day store a.now _ reservation.team) ?_ ?_ ?_ ?_
  · change Stamped (get exactSpending store a.now _ reservation.team).request_times
      (Account.live (a.settle _ _ _ _) _) _
    rw [live, get_times]
    exact (holds.stamped reservation.team).prune
  · obtain ⟨changed, covered⟩ := settled reservation.team
    refine Eq.trans ?_ changed.symm
    have clamped := clamp_due (covered rfl) (Int.natCast_nonneg (actual_input_tokens + actual_output_tokens)) positive
    rw [if_pos rfl, ← clamped, ← holds.due reservation.team, ← got]
    rfl
  · intro other different
    have due := (settled other).1
    rw [if_neg (Ne.symm different), add_zero] at due
    exact ⟨List.Perm.of_eq (live other), due⟩
  · intro other listed standing
    obtain ⟨old, inside, rfl⟩ := List.mem_map.mp listed
    rw [settle_member_id, settle_time]
    by_cases same : old.member_id = reservation.member_id
    · rw [List.inj_on_of_nodup_map tidy.ids inside member (same.trans id.symm), id]
      exact stamp
    · refine holds.members old inside ?_
      unfold Charge.settle at standing
      rw [if_neg same] at standing
      exact standing

/-- The store of one process reports its account. -/
theorem reports : Reports (backend exactSpending) recent Holds where
  empty now := by
    refine ⟨fun _ _ bad => (nomatch bad), fun team => ?_, fun _ => rfl, fun _ bad => absurd bad List.not_mem_nil⟩
    exact ⟨List.Pairwise.nil, fun _ bad => absurd bad List.not_mem_nil, fun _ _ => List.Perm.refl _⟩
  acts store a e tidy holds timely := by
    cases e with
    | wait ms => exact holds.wait tidy ms
    | reserve asked team input_tokens output_tokens spend_usd member_id => exact holds.reserve timely
    | refund asked reservation => exact holds.refund tidy timely
    | reconcile asked reservation actual_input_tokens actual_output_tokens actual_spend_usd =>
        exact holds.reconcile tidy timely
  report store a team tidy holds := by
    have counted := (holds.stamped team).length rfl
    have due := (get_due store a.now (today a.now) team).trans (holds.due team)
    refine Prod.ext ?_ due
    change (store.get exactSpending a.now (today a.now) team).request_times.length = _
    rw [get_times]
    exact counted

end TenantAttributionStore

/-! The store in Redis. -/

/-- A request of the team which has not been refunded. -/
def Account.Has (a : Account) (team id : String) (time : ℤ) : Prop :=
  ∃ charge ∈ a.charges, charge.team = team ∧ charge.standing ≠ .refunded ∧ charge.member_id = id ∧ charge.time = time

theorem has_reserve (a : Account) (asked : ℤ) (owner : String) (input_tokens output_tokens : ℕ) (spend_usd : ℚ)
    (member_id team id : String) (time : ℤ) :
    (book a (.reserve asked owner input_tokens output_tokens spend_usd member_id)).Has team id time ↔
      a.Has team id time ∨ owner = team ∧ member_id = id ∧ a.now = time := by
  constructor
  · rintro ⟨charge, listed, facts⟩
    rcases List.mem_append.mp listed with old | new
    · exact Or.inl ⟨charge, old, facts⟩
    · rw [List.mem_singleton.mp new] at facts
      exact Or.inr ⟨facts.1, facts.2.2⟩
  · rintro (⟨charge, old, facts⟩ | facts)
    · exact ⟨charge, List.mem_append_left _ old, facts⟩
    · exact ⟨_, List.mem_append_right _ (List.mem_singleton_self _), facts.1, fun bad => (nomatch bad), facts.2⟩

theorem has_refund (a : Account) (member_id team id : String) (time : ℤ) :
    (a.settle member_id .refunded 0 0).Has team id time ↔ a.Has team id time ∧ id ≠ member_id := by
  constructor
  · rintro ⟨charge, listed, own, standing, same, at_time⟩
    rcases mem_settle listed with ⟨old, different⟩ | refunded
    · exact ⟨⟨charge, old, own, standing, same, at_time⟩, same ▸ different⟩
    · exact absurd refunded standing
  · rintro ⟨⟨charge, old, own, standing, same, at_time⟩, different⟩
    have kept : charge.settle member_id .refunded 0 0 = charge := if_neg fun bad => different (same.symm.trans bad)
    exact ⟨charge, List.mem_map.mpr ⟨charge, old, kept⟩, own, standing, same, at_time⟩

theorem has_reconcile (tidy : Tidy a) {charge : Charge} (member : charge ∈ a.charges)
    (pending : charge.standing = .pending) (tokens : ℕ) (spend_usd : ℚ) (team id : String) (time : ℤ) :
    (a.settle charge.member_id .reconciled tokens spend_usd).Has team id time ↔ a.Has team id time := by
  have facts : ∀ other : Charge, other ∈ a.charges →
      (other.settle charge.member_id .reconciled tokens spend_usd).team = other.team ∧
        ((other.settle charge.member_id .reconciled tokens spend_usd).standing ≠ .refunded ↔
          other.standing ≠ .refunded) := by
    intro other inside
    unfold Charge.settle
    split
    · rename_i same
      refine ⟨rfl, iff_of_true (fun bad => nomatch bad) ?_⟩
      rw [List.inj_on_of_nodup_map tidy.ids inside member same, pending]
      exact fun bad => nomatch bad
    · exact ⟨rfl, Iff.rfl⟩
  constructor
  · rintro ⟨_, listed, own, standing, same, at_time⟩
    obtain ⟨other, inside, rfl⟩ := List.mem_map.mp listed
    obtain ⟨owner, stands⟩ := facts other inside
    rw [settle_member_id] at same
    rw [settle_time] at at_time
    exact ⟨other, inside, owner.symm.trans own, stands.mp standing, same, at_time⟩
  · rintro ⟨other, inside, own, standing, same, at_time⟩
    obtain ⟨owner, stands⟩ := facts other inside
    refine ⟨_, List.mem_map_of_mem inside, owner.trans own, stands.mpr standing, ?_, ?_⟩
    · rw [settle_member_id]
      exact same
    · rw [settle_time]
      exact at_time

namespace RedisTenantAttributionStore
open Redis

/-- A minute ends before its last millisecond. -/
def recent (age : ℤ) : Bool := decide (age < WINDOW_SECONDS * 1000)

/-- The tokens and the spend which a hash has for a day. -/
def dueOn (usage : Option (UsageHash ℚ)) (day : ℤ) : ℤ × ℚ :=
  match usage with
  | some hash => if hash.day = day then (hash.tokens, hash.spend_usd) else 0
  | none => 0

/-- The members of the last minute are the requests, and the window outlives them. -/
structure Scored (rpm : Key (ZSet String)) (has : String → ℤ → Prop) (now : ℤ) : Prop where
  members : ∀ id time, now - WINDOW_SECONDS * 1000 < time → (rpm.value.lookup id = some time ↔ has id time)
  lasts : ∀ deadline, rpm.deadline = some deadline → ∀ id time, rpm.value.lookup id = some time →
    time + (WINDOW_SECONDS + 1) * 1000 ≤ deadline

structure Holds (store : RedisTenantAttributionStore ℚ) (a : Account) : Prop where
  live : AllLive store a.now
  scored : ∀ team, Scored (store team).rpm (a.Has team) a.now
  due : ∀ team, dueOn (store team).usage.value (today a.now) = a.due team

variable {rpm : Key (ZSet String)} {has has' : String → ℤ → Prop} {now : ℤ}

/-- What expires is no longer of the last minute. -/
theorem Scored.evict (scored : Scored rpm has now) : Scored (rpm.evict now) has now := by
  by_cases gone : rpm.expired now
  · rw [Key.evict_of gone]
    refine ⟨fun id time late => iff_of_false (fun bad => nomatch bad) fun held => ?_, fun _ bad => nomatch bad⟩
    obtain ⟨deadline, due, passed⟩ := gone
    have long := scored.lasts deadline due id time ((scored.members id time late).mpr held)
    unfold WINDOW_SECONDS at *
    omega
  · rw [Key.evict_of_not gone]
    exact scored

theorem Scored.wait (scored : Scored rpm has now) (ms : ℕ) : Scored rpm has (now + ms) :=
  ⟨fun id time late => scored.members id time (by omega), scored.lasts⟩

theorem Scored.congr (scored : Scored rpm has now) (same : ∀ id time, has' id time ↔ has id time) :
    Scored rpm has' now :=
  ⟨fun id time late => (scored.members id time late).trans (same id time).symm, scored.lasts⟩

/-- ZREMRANGEBYSCORE, ZADD and PEXPIRE. -/
theorem Scored.add (scored : Scored rpm has now) (past : ∀ id time, has id time → time ≤ now) {member : String}
    (fresh : ∀ time, ¬ has member time)
    (same : ∀ id time, has' id time ↔ has id time ∨ member = id ∧ now = time) :
    Scored (((rpm.put (remRangeByScore (now - WINDOW_SECONDS * 1000) rpm.value)).put
      ((rpm.put (remRangeByScore (now - WINDOW_SECONDS * 1000) rpm.value)).value.insert member now)).pexpire now
        ((WINDOW_SECONDS + 1) * 1000)) has' now := by
  have found : ∀ id time, ((remRangeByScore (now - WINDOW_SECONDS * 1000) rpm.value).insert member now).lookup id =
      some time ↔ (has id time ∧ now - WINDOW_SECONDS * 1000 < time) ∨ member = id ∧ now = time := by
    intro id time
    rw [AList.lookup_insert_if]
    by_cases here : id = member
    · rw [if_pos here, Option.some.injEq]
      constructor
      · exact fun stamp => Or.inr ⟨here.symm, stamp⟩
      · rintro (⟨held, _⟩ | ⟨_, stamp⟩)
        · exact absurd (here ▸ held) (fresh time)
        · exact stamp
    · rw [if_neg here, lookup_remRangeByScore]
      constructor
      · exact fun both => Or.inl ⟨(scored.members id time both.2).mp both.1, both.2⟩
      · rintro (⟨held, late⟩ | ⟨bad, _⟩)
        · exact ⟨(scored.members id time late).mpr held, late⟩
        · exact absurd bad.symm here
  rw [Key.put_value]
  refine ⟨fun id time late => ?_, fun deadline due id time stamp => ?_⟩
  · rw [Key.pexpire_value _ (by decide), Key.put_value, found, same]
    constructor
    · rintro (held | new)
      · exact Or.inl held.1
      · exact Or.inr new
    · rintro (held | new)
      · exact Or.inl ⟨held, late⟩
      · exact Or.inr new
  · rw [Key.pexpire_value _ (by decide), Key.put_value, found] at stamp
    have early : time ≤ now := by
      rcases stamp with held | new
      · exact past id time held.1
      · exact new.2.ge
    rw [Key.pexpire_deadline (by decide)] at due
    · have := Option.some.inj due
      unfold WINDOW_SECONDS at *
      omega
    · rw [Key.put_value]
      exact AList.ne_default_of_mem (AList.mem_of_lookup (AList.lookup_insert _))

/-- ZREM -/
theorem Scored.remove (scored : Scored rpm has now) {member : String}
    (same : ∀ id time, has' id time ↔ has id time ∧ id ≠ member) :
    Scored (rpm.put (rpm.value.erase member)) has' now := by
  have found : ∀ id time, (rpm.value.erase member).lookup id = some time ↔
      rpm.value.lookup id = some time ∧ id ≠ member := by
    intro id time
    rw [AList.lookup_erase_if]
    by_cases here : id = member
    · rw [if_pos here]
      exact iff_of_false (fun bad => nomatch bad) fun bad => bad.2 here
    · rw [if_neg here]
      exact (and_iff_left here).symm
  refine ⟨fun id time late => ?_, fun deadline due id time stamp => ?_⟩
  · rw [Key.put_value, found, same, scored.members id time late]
  · rw [Key.put_value, found] at stamp
    rw [Key.put_deadline _ (AList.ne_default_of_mem (AList.mem_of_lookup ((found id time).mpr stamp)))] at due
    exact scored.lasts deadline due id time stamp.1

/-- ZCARD after ZREMRANGEBYSCORE: the requests of the last minute. -/
theorem Scored.card {team : String} (tidy : Tidy a) (scored : Scored rpm (a.Has team) a.now) :
    card (remRangeByScore (a.now - WINDOW_SECONDS * 1000) rpm.value) = a.requests recent team := by
  have counted : ∀ charge : Charge, charge.counts recent a.now team = true ↔
      charge.team = team ∧ charge.standing ≠ .refunded ∧ a.now - WINDOW_SECONDS * 1000 < charge.time := by
    intro charge
    unfold Charge.counts recent
    simp only [Bool.and_eq_true, decide_eq_true_eq, and_assoc]
    refine and_congr_right fun _ => and_congr_right fun _ => ?_
    omega
  have ids : (remRangeByScore (a.now - WINDOW_SECONDS * 1000) rpm.value).ids =
      ((a.charges.filter (Charge.counts recent a.now team)).map Charge.member_id).toFinset := by
    ext id
    rw [AList.mem_ids, AList.mem_iff_lookup, List.mem_toFinset, List.mem_map]
    constructor
    · rintro ⟨time, stamp⟩
      obtain ⟨held, late⟩ := lookup_remRangeByScore.mp stamp
      obtain ⟨charge, member, own, standing, same, rfl⟩ := (scored.members id time late).mp held
      exact ⟨charge, List.mem_filter.mpr ⟨member, (counted charge).mpr ⟨own, standing, late⟩⟩, same⟩
    · rintro ⟨charge, listed, same⟩
      obtain ⟨member, counts⟩ := List.mem_filter.mp listed
      obtain ⟨own, standing, late⟩ := (counted charge).mp counts
      exact ⟨charge.time, lookup_remRangeByScore.mpr
        ⟨(scored.members id _ late).mpr ⟨charge, member, own, standing, same, rfl⟩, late⟩⟩
  unfold Redis.card
  rw [ids, List.toFinset_card_of_nodup (tidy.ids.sublist (List.filter_sublist.map _)), List.length_map,
    ← List.countP_eq_length_filter]
  rfl

/-! The usage hash. -/

theorem dueOn_evict {usage : Key (Option (UsageHash ℚ))} (lives : Lives usage now) :
    dueOn (usage.evict now).value (today now) = dueOn usage.value (today now) := by
  rcases lives.evict_cases with same | ⟨gone, earlier⟩
  · rw [same]
  · rw [gone]
    cases found : usage.value with
    | none => rfl
    | some hash => exact (if_neg (earlier hash found)).symm

theorem rolled_due (asked : ℤ) (usage : Option (UsageHash ℚ)) :
    ((rolled exactSpending asked usage).tokens, (rolled exactSpending asked usage).spend_usd) = dueOn usage asked := by
  unfold rolled dueOn
  cases usage with
  | none => rfl
  | some hash =>
      dsimp only
      split
      · rfl
      · rfl

theorem refund_due {keys : TenantKeys ℚ} (lives : Lives keys.usage now) (member : String) (token_delta : ℕ)
    {spend_delta : ℚ} (positive : 0 ≤ spend_delta) :
    dueOn (REFUND_LUA exactSpending now member token_delta (today now) spend_delta keys).usage.value (today now) =
      (max 0 ((dueOn keys.usage.value (today now)).1 - token_delta),
        max 0 ((dueOn keys.usage.value (today now)).2 - spend_delta)) := by
  have nothing : ((0 : ℤ × ℚ) = (max 0 ((0 : ℤ × ℚ).1 - token_delta), max 0 ((0 : ℤ × ℚ).2 - spend_delta))) := by
    refine Prod.ext (max_eq_left ?_).symm (max_eq_left ?_).symm
    · change (0 : ℤ) - token_delta ≤ 0
      omega
    · change (0 : ℚ) - spend_delta ≤ 0
      linarith
  rw [← dueOn_evict lives]
  unfold REFUND_LUA
  dsimp only
  cases found : (keys.usage.evict now).value with
  | none =>
      dsimp only
      rw [found]
      exact nothing
  | some hash =>
      by_cases here : hash.day = today now
      · simp only [if_pos here, Key.put_value, dueOn]
        rfl
      · simp only [if_neg here, found, dueOn]
        exact nothing

theorem refund_rpm (now : ℤ) (member : String) (token_delta : ℕ) (asked : ℤ) (spend_delta : ℚ) (k : TenantKeys ℚ) :
    (REFUND_LUA exactSpending now member token_delta asked spend_delta k).rpm =
      (k.rpm.evict now).put ((k.rpm.evict now).value.erase member) := by
  unfold REFUND_LUA
  dsimp only
  split
  · split
    · rfl
    · rfl
  · rfl

/-! The operations. -/

variable {store : RedisTenantAttributionStore ℚ}

/-- What a write of the keys of one team has to keep. -/
theorem Holds.write (holds : Holds store a) (a' : Account) (clock : a'.now = a.now) (team : String)
    (keys : TenantKeys ℚ) (lives : Lives keys.usage a.now) (scored : Scored keys.rpm (a'.Has team) a.now)
    (due : dueOn keys.usage.value (today a.now) = a'.due team)
    (aside : ∀ other, other ≠ team → (∀ id time, a'.Has other id time ↔ a.Has other id time) ∧
      a'.due other = a.due other) : Holds (Function.update store team keys) a' := by
  refine ⟨?_, fun other => ?_, fun other => ?_⟩
  · rw [clock]
    exact (counted_write (F := exactSpending) holds.live rfl lives).1
  · rw [clock]
    by_cases here : other = team
    · rw [here, Function.update_self]
      exact scored
    · rw [Function.update_of_ne here]
      exact (holds.scored other).congr (aside other here).1
  · rw [clock]
    by_cases here : other = team
    · rw [here, Function.update_self]
      exact due
    · rw [Function.update_of_ne here, (aside other here).2]
      exact holds.due other

theorem Holds.wait (holds : Holds store a) (tidy : Tidy a) (ms : ℕ) : Holds store { a with now := a.now + ms } := by
  refine ⟨fun team hash found => ⟨(holds.live team hash found).1.trans (today_mono ms), (holds.live team hash found).2⟩,
    fun team => (holds.scored team).wait ms, fun team => ?_⟩
  by_cases same : today (a.now + ms) = today a.now
  · unfold Account.due
    dsimp only
    rw [same]
    exact holds.due team
  · have none : ({ a with now := a.now + ms } : Account).due team = 0 := due_later tidy ms same team
    rw [none]
    unfold dueOn
    cases found : (store team).usage.value with
    | none => rfl
    | some hash =>
        refine if_neg fun later => same ?_
        exact le_antisymm (later ▸ (holds.live team hash found).1) (today_mono ms)

theorem Holds.reserve (holds : Holds store a) (tidy : Tidy a) {asked : ℤ} {team : String}
    {input_tokens output_tokens : ℕ} {spend_usd : ℚ} {member_id : String}
    (timely : Timely a (.reserve asked team input_tokens output_tokens spend_usd member_id)) :
    Holds (reserve_request exactSpending store a.now asked team input_tokens output_tokens spend_usd member_id).1
      (book a (.reserve asked team input_tokens output_tokens spend_usd member_id)) := by
  obtain ⟨rfl, fresh, -⟩ := timely
  have day := rolled_day (F := exactSpending) (today a.now) ((store team).usage.evict a.now).value
  have rolled := rolled_due (today a.now) ((store team).usage.evict a.now).value
  rw [dueOn_evict (holds.live team), holds.due team] at rolled
  refine holds.write (book a (.reserve (today a.now) team input_tokens output_tokens spend_usd member_id)) rfl team
    (RESERVE_LUA exactSpending a.now member_id (input_tokens + output_tokens) (today a.now) spend_usd (store team)).1
    (lives_stored _ day.le) ?_ ?_ ?_
  · refine (holds.scored team).evict.add ?_ (fun time held => ?_) fun id time => ?_
    · rintro id time ⟨charge, member, -, -, -, rfl⟩
      exact tidy.past charge member
    · obtain ⟨charge, member, -, -, same, -⟩ := held
      exact fresh charge member same
    · rw [has_reserve]
      simp only [true_and]
  · rw [due_reserve, if_pos rfl, ← rolled]
    simp only [RESERVE_LUA, stored_value, dueOn, day, if_true]
    rfl
  · intro other different
    refine ⟨fun id time => ?_, ?_⟩
    · rw [has_reserve]
      exact or_iff_left fun bad => different bad.1.symm
    · rw [due_reserve, if_neg (Ne.symm different), add_zero]

theorem Holds.refund (holds : Holds store a) (tidy : Tidy a) {asked : ℤ} {reservation : QuotaReservation ℚ}
    (timely : Timely a (.refund asked reservation)) :
    Holds (refund_reservation exactSpending store a.now asked reservation) (book a (.refund asked reservation)) := by
  obtain ⟨rfl, charge, member, covers⟩ := timely
  have settled := due_settle tidy member covers .refunded 0 0
  have positive : 0 ≤ reservation.reserved_spend_usd := covers.2.2.2.2.1 ▸ tidy.spent charge member
  have live := holds.live reservation.team
  refine holds.write (book a (.refund (today a.now) reservation)) rfl _ _ (refund_usage live _ _ _).1 ?_ ?_ ?_
  · have kept := (holds.scored reservation.team).evict.remove fun id time =>
      has_refund a reservation.member_id reservation.team id time
    have same : (REFUND_LUA exactSpending a.now reservation.member_id reservation.reserved_tokens (today a.now)
        reservation.reserved_spend_usd (store reservation.team)).rpm = _ := refund_rpm _ _ _ _ _ _
    rw [same]
    exact kept
  · obtain ⟨changed, covered⟩ := settled reservation.team
    rw [refund_due live _ _ positive, holds.due]
    refine Eq.trans ?_ changed.symm
    rw [if_pos rfl, Nat.cast_zero]
    exact clamp_refund (covered rfl)
  · intro other different
    have due := (settled other).1
    rw [if_neg (Ne.symm different), add_zero] at due
    refine ⟨fun id time => (has_refund a _ other id time).trans (and_iff_left_of_imp ?_), due⟩
    rintro ⟨charge', member', own', -, same', -⟩ bad
    have one := List.inj_on_of_nodup_map tidy.ids member' member (same'.trans (bad.trans covers.2.1.symm))
    exact different (own'.symm.trans ((congrArg Charge.team one).trans covers.2.2.1))

theorem Holds.reconcile (holds : Holds store a) (tidy : Tidy a) {asked : ℤ} {reservation : QuotaReservation ℚ}
    {actual_input_tokens actual_output_tokens : ℕ} {actual_spend_usd : ℚ}
    (timely : Timely a (.reconcile asked reservation actual_input_tokens actual_output_tokens actual_spend_usd)) :
    Holds (reconcile_usage exactSpending store a.now asked reservation actual_input_tokens actual_output_tokens
      actual_spend_usd).1
      (book a (.reconcile asked reservation actual_input_tokens actual_output_tokens actual_spend_usd)) := by
  obtain ⟨rfl, ⟨charge, member, covers⟩, positive⟩ := timely
  have settled := due_settle tidy member covers .reconciled (actual_input_tokens + actual_output_tokens)
    actual_spend_usd
  have has := has_reconcile tidy member covers.1 (actual_input_tokens + actual_output_tokens) actual_spend_usd
  rw [covers.2.1] at has
  have day := rolled_day (F := exactSpending) (today a.now) ((store reservation.team).usage.evict a.now).value
  have rolled := rolled_due (today a.now) ((store reservation.team).usage.evict a.now).value
  rw [dueOn_evict (holds.live reservation.team), holds.due reservation.team] at rolled
  refine holds.write (book a (.reconcile (today a.now) reservation actual_input_tokens actual_output_tokens
    actual_spend_usd)) rfl reservation.team (RECONCILE_LUA exactSpending a.now
      ((actual_input_tokens + actual_output_tokens : ℕ) - reservation.reserved_tokens) (today a.now)
      (exactSpending.delta actual_spend_usd reservation.reserved_spend_usd) (store reservation.team)).1
    (lives_stored _ day.le) ((holds.scored reservation.team).congr (has reservation.team)) ?_ ?_
  · obtain ⟨changed, covered⟩ := settled reservation.team
    have clamped := clamp_due (covered rfl) (Int.natCast_nonneg (actual_input_tokens + actual_output_tokens)) positive
    refine Eq.trans ?_ changed.symm
    rw [if_pos rfl, ← clamped, ← rolled]
    simp only [RECONCILE_LUA, stored_value, dueOn, day, if_true]
    rfl
  · intro other different
    have due := (settled other).1
    rw [if_neg (Ne.symm different), add_zero] at due
    exact ⟨has other, due⟩

/-- The store in Redis reports its account. -/
theorem reports : Reports (backend exactSpending) recent Holds where
  empty now := by
    refine ⟨fun _ _ bad => (nomatch bad), fun team => ⟨fun id time _ => ?_, fun _ bad => nomatch bad⟩, fun _ => rfl⟩
    exact iff_of_false (fun bad => nomatch bad) fun ⟨_, bad, _⟩ => absurd bad List.not_mem_nil
  acts store a e tidy holds timely := by
    cases e with
    | wait ms => exact holds.wait tidy ms
    | reserve asked team input_tokens output_tokens spend_usd member_id => exact holds.reserve tidy timely
    | refund asked reservation => exact holds.refund tidy timely
    | reconcile asked reservation actual_input_tokens actual_output_tokens actual_spend_usd =>
        exact holds.reconcile tidy timely
  report store a team tidy holds := by
    have counted := (holds.scored team).evict.card tidy
    have due := (dueOn_evict (holds.live team)).trans (holds.due team)
    rw [← counted, ← due]
    unfold TenantAttributionBackend.report
    change ((usage_snapshot store a.now team).1, (usage_snapshot store a.now team).2,
      spend_snapshot exactSpending store a.now team) = _
    unfold usage_snapshot spend_snapshot dueOn
    cases ((store team).usage.evict a.now).value with
    | none => rfl
    | some hash =>
        dsimp only
        split
        · rfl
        · rfl

end RedisTenantAttributionStore

end RuntimePlatform.Tenant
