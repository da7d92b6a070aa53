import RuntimePlatform.Health.Store

/-!
Scores of a fleet. Updates may be lost between replicas, but whatever they lose, a fleet has the health which one process
makes of some of the requests and of all probes. Its counters agree with each other, and its rate of errors and its
score stay in the bounds which the last failures set.
-/

namespace RuntimePlatform.Health
open Python ReadThenWrite

theorem fleet_overwrites : Cell.Overwrites fleet where
  blind := fleet_blind
  put _ _ _ _ _ := rfl
  touch _ _ _ _ _ _ := rfl

/-- Whatever commands come between each other, the fleet has the signals which one process makes of some of the requests
and of every probe. -/
theorem fleet_in_process (commands : List Command) :
    Runs.EveryState fleet.step
      (fun s => ∃ kept, kept.Sublist s.done ∧ kept.filter Sum.isRight = s.done.filter Sum.isRight ∧
        SameSignals s.value.load (in_process kept)) (start {}) commands := by
  have every := Cell.everyState_someOf fleet_overwrites {} commands
  apply every.mono
  rintro s ⟨kept, stays, value⟩
  refine ⟨kept, stays.sublist, stays.whole, ?_⟩
  rw [value]
  exact serial_in_process kept

theorem SameSignals.counters {health health' : BackendHealth} (same : SameSignals health health') :
    health.ewma_error_rate = health'.ewma_error_rate ∧ health.consecutive_failures = health'.consecutive_failures := by
  unfold SameSignals at same
  have rate := congrArg BackendHealth.ewma_error_rate same
  have failures := congrArg BackendHealth.consecutive_failures same
  exact ⟨rate, failures⟩

namespace BackendHealth

/-- The rate of errors after `n` failures on a rate of zero. -/
def rate_after (n : ℤ) : ℚ := 1 - (7 / 10) ^ n

/-- The counters agree with each other, and bound the rate of errors from both sides. -/
structure Sound (health : BackendHealth) : Prop where
  streak : 0 ≤ health.consecutive_failures ∧ health.consecutive_failures ≤ health.error_count
  errors : health.error_count ≤ health.request_count
  fallbacks : 0 ≤ health.fallback_count ∧ health.fallback_count ≤ health.request_count
  at_least : rate_after health.consecutive_failures ≤ health.ewma_error_rate
  at_most : health.ewma_error_rate ≤ rate_after health.error_count
  latency : ∀ l, health.latency_ms = some l → 0 ≤ l

variable {health : BackendHealth}

theorem rate_after_zero : rate_after 0 = 0 := by
  unfold rate_after
  rw [zpow_zero, sub_self]

theorem rate_after_succ (n : ℤ) : rate_after (n + 1) = 3 / 10 + 7 / 10 * rate_after n := by
  unfold rate_after
  rw [zpow_add_one₀ (by norm_num)]
  ring

theorem rate_after_lt (n : ℤ) : rate_after n < 1 := by
  have left : (0 : ℚ) < (7 / 10) ^ n := zpow_pos (by norm_num) n
  exact sub_lt_self 1 left

theorem rate_after_nonneg {n : ℤ} (counted : 0 ≤ n) : 0 ≤ rate_after n := by
  have part : (7 / 10 : ℚ) ^ n ≤ 1 := zpow_le_one₀ (by norm_num) (by norm_num) counted
  exact sub_nonneg.mpr part

theorem sound_unused : Sound {} where
  streak := ⟨le_rfl, le_rfl⟩
  errors := le_rfl
  fallbacks := ⟨le_rfl, le_rfl⟩
  at_least := rate_after_zero.le
  at_most := rate_after_zero.ge
  latency _ none := nomatch none

theorem Sound.signal (sound : health.Sound) (call : RecordRequest) : (health.apply_request_signal call).Sound := by
  obtain ⟨⟨streak, below⟩, errors, ⟨fallbacks, fewer⟩, at_least, at_most, latency⟩ := sound
  have fallback : 0 ≤ health.fallback_count + (if call.fallback_used then 1 else 0) ∧
      health.fallback_count + (if call.fallback_used then 1 else 0) ≤ health.request_count + 1 := by
    split <;> omega
  have nonneg := (rate_after_nonneg streak).trans at_least
  cases outcome : call.success with
  | true =>
      simp only [apply_request_signal, outcome, if_true, add_zero]
      refine ⟨⟨le_rfl, streak.trans below⟩, Int.le_add_one errors, fallback, ?_, ?_, latency⟩
      · change rate_after 0 ≤ _
        rw [rate_after_zero]
        linarith
      · change _ ≤ rate_after health.error_count
        linarith
  | false =>
      simp only [apply_request_signal, outcome, Bool.false_eq_true, if_false]
      refine ⟨⟨Int.le_add_one streak, Int.add_le_add_right below 1⟩, Int.add_le_add_right errors 1, fallback, ?_, ?_,
        latency⟩
      · change rate_after (health.consecutive_failures + 1) ≤ _
        rw [rate_after_succ]
        linarith
      · change _ ≤ rate_after (health.error_count + 1)
        rw [rate_after_succ]
        linarith

theorem Sound.probe (sound : health.Sound) {probe : StoreProbe} (took : 0 ≤ probe.latency_ms) :
    (health.store_probe probe).Sound :=
  { sound with
    latency := by
      intro l stored
      cases stored
      exact took }

theorem Sound.same {health' : BackendHealth} (same : SameSignals health health') (sound : health'.Sound) :
    health.Sound := by
  have timeless : Sound { health' with updated_at := 0 } := { sound with }
  rw [← same] at timeless
  exact { timeless with }

theorem Sound.rate (sound : health.Sound) : 0 ≤ health.error_rate ∧ health.error_rate ≤ 1 := by
  unfold error_rate
  split
  · have nonneg := (rate_after_nonneg sound.streak.1).trans sound.at_least
    exact ⟨nonneg, sound.at_most.trans (rate_after_lt _).le⟩
  · exact ⟨le_rfl, zero_le_one⟩

theorem Sound.fallback (sound : health.Sound) : 0 ≤ health.fallback_rate ∧ health.fallback_rate ≤ 1 := by
  unfold fallback_rate
  obtain ⟨some, few⟩ := sound.fallbacks
  split
  · have all : (0 : ℚ) ≤ health.request_count := by exact_mod_cast some.trans few
    exact ⟨div_nonneg (by exact_mod_cast some) all, div_le_one_of_le₀ (by exact_mod_cast few) all⟩
  · exact ⟨le_rfl, zero_le_one⟩

/-- What the latency costs. -/
def latency_penalty (health : BackendHealth) : ℚ := min (health.latency_ms.getD 0 / 20) 30

theorem Sound.penalty (sound : health.Sound) : 0 ≤ health.latency_penalty ∧ health.latency_penalty ≤ 30 := by
  refine ⟨le_min ?_ (by norm_num), min_le_right _ _⟩
  cases known : health.latency_ms with
  | none => exact le_of_eq (zero_div 20).symm
  | some l => exact div_nonneg (sound.latency l known) (by norm_num)

/-- The rate of errors is that of the failures, also where it is not asked. -/
theorem Sound.rate_streak (sound : health.Sound) : rate_after health.consecutive_failures ≤ health.error_rate := by
  unfold error_rate
  split
  · exact sound.at_least
  next unused =>
    obtain ⟨⟨streak, below⟩, errors, -⟩ := sound
    have zero : health.consecutive_failures = 0 := by omega
    rw [zero, rate_after_zero]

theorem halfEven_range {q : ℚ} {n m : ℤ} (low : n ≤ q) (high : q ≤ m) : n ≤ halfEven q ∧ halfEven q ≤ m := by
  obtain ⟨under, above⟩ := abs_le.mp (halfEven_error q)
  constructor
  · have : ((n : ℤ) : ℚ) - 1 < halfEven q := by linarith
    exact Int.sub_one_lt_iff.mp (by exact_mod_cast this)
  · have : (halfEven q : ℚ) < m + 1 := by linarith
    exact Int.lt_add_one_iff.mp (by exact_mod_cast this)

/-- What the penalties leave of a score, before it is rounded. -/
def left (health : BackendHealth) : ℚ :=
  100 - health.latency_penalty - 50 * health.error_rate - 20 * health.fallback_rate

/-- The bounds of a score: what the last failures in a row leave of it, and 20 from the third of them on. With fewer of
them it is what the penalties leave, rounded, unless the model is known to be down. -/
structure Scored (health : BackendHealth) : Prop where
  range : 0 ≤ health.score ∧ health.score ≤ 100
  down : health.available = some false → health.score = 0
  failing : (health.score : ℚ) ≤ 50 + 50 * (7 / 10) ^ health.consecutive_failures + 1 / 2
  broken : 3 ≤ health.consecutive_failures → health.score ≤ 20
  healthy : health.available ≠ some false → health.consecutive_failures < 3 → |health.score - health.left| ≤ 1 / 2

/-- The score of a model which is not known to be down. -/
theorem score_up (up : health.available ≠ some false) :
    health.score = if 3 ≤ health.consecutive_failures then min (halfEven (max 0 health.left)) 20
      else halfEven (max 0 health.left) := by
  unfold score left
  rw [if_neg up, mul_comm 50, mul_comm 20]
  rfl

theorem Sound.scored (sound : health.Sound) : health.Scored := by
  obtain ⟨rate_low, rate_high⟩ := sound.rate
  obtain ⟨fallback_low, fallback_high⟩ := sound.fallback
  obtain ⟨penalty_low, penalty_high⟩ := sound.penalty
  have streak := sound.rate_streak
  have power : (0 : ℚ) < (7 / 10) ^ health.consecutive_failures := zpow_pos (by norm_num) _
  unfold rate_after at streak
  by_cases down : health.available = some false
  · have score : health.score = 0 := if_pos down
    constructor
    · rw [score]
      decide
    · exact fun _ => score
    · rw [score]
      push_cast
      linarith
    · intro _
      rw [score]
      decide
    · exact fun up => (up down).elim
  · have score := score_up down
    have whole : health.left = 100 - health.latency_penalty - 50 * health.error_rate - 20 * health.fallback_rate := rfl
    -- The penalties sum to at most 100, so the maximum with zero is the difference itself.
    rw [max_eq_right (by linarith)] at score
    have near := abs_le.mp (halfEven_error health.left)
    have range : 0 ≤ halfEven health.left ∧ halfEven health.left ≤ 100 :=
      halfEven_range (by push_cast; linarith) (by push_cast; linarith)
    have below : health.score ≤ halfEven health.left := by
      rw [score]
      split
      · exact min_le_left _ _
      · exact le_rfl
    constructor
    · refine ⟨?_, below.trans range.2⟩
      rw [score]
      split
      · exact le_min range.1 (by decide)
      · exact range.1
    · exact fun known => absurd known down
    · have below' : (health.score : ℚ) ≤ halfEven health.left := by exact_mod_cast below
      linarith
    · intro broken
      rw [score, if_pos broken]
      exact min_le_right _ _
    · intro _ few
      rw [score, if_neg (by omega)]
      exact halfEven_error health.left

end BackendHealth

/-- A process which has taken no probe for shorter than nothing has sound health. -/
theorem in_process_sound (done : List (RecordRequest ⊕ StoreProbe))
    (took : ∀ probe, .inr probe ∈ done → 0 ≤ probe.latency_ms) : (in_process done).Sound := by
  induction done using List.reverseRecOn with
  | nil => exact BackendHealth.sound_unused
  | append_singleton done last ih =>
      have sound := ih fun probe member => took probe (List.mem_append_left _ member)
      have process : in_process (done ++ [last]) =
          Sum.elim (in_process done).apply_request_signal (in_process done).store_probe last := List.foldl_append
      rw [process]
      cases last with
      | inl call => exact sound.signal call
      | inr probe => exact sound.probe (took probe (List.mem_append_right _ (List.mem_singleton.mpr rfl)))

/-- Under every interleaving of the commands, and whatever updates it loses, the counters of a fleet agree with each
other, its rate of errors is between those of its last failures and of all its failures, and its score is in bounds. -/
theorem fleet_scores (commands : List Command) (took : ∀ probe, .touch probe ∈ commands → 0 ≤ probe.latency_ms) :
    Runs.EveryState fleet.step (fun s => s.value.load.Sound ∧ s.value.load.Scored) (start {}) commands := by
  apply Runs.everyState_iff.mpr
  intro before rest split
  obtain ⟨kept, some_, -, same⟩ := Runs.everyState_iff.mp (fleet_in_process commands) before rest split
  have sound : (in_process kept).Sound := by
    apply in_process_sound
    intro probe member
    rcases Cell.touch_mem fleet (some_.subset member) with none | event
    · exact nomatch none
    · exact took probe (split ▸ List.mem_append_left rest event)
  have fleet_sound := sound.same same
  exact ⟨fleet_sound, fleet_sound.scored⟩

/-- Two replicas record a failure each, and one of them is lost to the other. -/
theorem fleet_scores_lost :
    Runs.EveryState fleet.step (fun s => s.value.load.Sound ∧ s.value.load.Scored) (start {})
      [.touch ⟨true, 40, 1⟩, .read ⟨false, false, 2⟩, .read ⟨false, true, 2⟩, .write 0, .write 0] := by
  apply fleet_scores
  intro probe member
  simp only [List.mem_cons, Event.touch.injEq, reduceCtorEq, List.not_mem_nil, or_false] at member
  rw [member]
  norm_num

/-- Successes in a row divide the rate of errors by a power. -/
theorem in_process_recent (before recent : List (RecordRequest ⊕ StoreProbe))
    (successes : ∀ call, .inl call ∈ recent → call.success = true) :
    (in_process (before ++ recent)).ewma_error_rate =
        (7 / 10) ^ writes recent * (in_process before).ewma_error_rate ∧
      (0 < writes recent → (in_process (before ++ recent)).consecutive_failures = 0) := by
  induction recent using List.reverseRecOn with
  | nil =>
      rw [List.append_nil]
      refine ⟨?_, fun calls => (nomatch calls)⟩
      change _ = (7 / 10) ^ 0 * _
      rw [pow_zero, one_mul]
  | append_singleton recent last ih =>
      obtain ⟨rate, streak⟩ := ih fun call member => successes call (List.mem_append_left _ member)
      have process : in_process (before ++ (recent ++ [last])) =
          Sum.elim (in_process (before ++ recent)).apply_request_signal
            (in_process (before ++ recent)).store_probe last := by
        rw [← List.append_assoc]
        exact List.foldl_append
      rw [process, writes_append]
      cases last with
      | inr probe => exact ⟨rate, streak⟩
      | inl call =>
          have success := successes call (List.mem_append_right _ (List.mem_singleton.mpr rfl))
          simp only [Sum.elim_inl, BackendHealth.apply_request_signal, success, if_true, rate, writes_call]
          refine ⟨?_, fun _ => trivial⟩
          rw [pow_succ]
          ring

/-- After `n` successes in a row a fleet which loses no update has at most a share of `0.7 ^ n` of errors in its rate,
whatever came before, and a model which is not known to be down has its score back but for that share, its latency and
its fallbacks. -/
theorem fleet_recovers (commands : List Command) (took : ∀ probe, .touch probe ∈ commands → 0 ≤ probe.latency_ms)
    (fresh : NoneBetween commands) (before recent : List (RecordRequest ⊕ StoreProbe))
    (split : (after commands).done = before ++ recent) (successes : ∀ call, .inl call ∈ recent → call.success = true) :
    let health := (after commands).value.load
    health.error_rate ≤ (7 / 10) ^ writes recent ∧
      (0 < writes recent → health.available ≠ some false →
        100 - health.latency_penalty - 50 * (7 / 10) ^ writes recent - 20 * health.fallback_rate - 1 / 2 ≤
          (health.score : ℚ)) := by
  intro health
  have serial : (after commands).value = fleet.serial {} (after commands).done :=
    Cell.serial_of_fresh fleet_blind {} fresh
  have same : SameSignals health (in_process (before ++ recent)) := by
    have process := serial_in_process (after commands).done
    rw [← serial, split] at process
    exact process
  have scores := Runs.everyState_iff.mp (fleet_scores commands took) commands [] (List.append_nil _).symm
  obtain ⟨sound, scored⟩ : health.Sound ∧ health.Scored := scores
  have probes : ∀ probe, .inr probe ∈ before → 0 ≤ probe.latency_ms := by
    intro probe member
    have done : .inr probe ∈ (after commands).done := split ▸ List.mem_append_left recent member
    rcases Cell.touch_mem fleet done with none | event
    · exact nomatch none
    · exact took probe event
  obtain ⟨rate, streak⟩ := in_process_recent before recent successes
  have ewma : health.ewma_error_rate = (in_process (before ++ recent)).ewma_error_rate := same.counters.1
  have failures : health.consecutive_failures = (in_process (before ++ recent)).consecutive_failures := same.counters.2
  have share : (0 : ℚ) ≤ (7 / 10) ^ writes recent := by positivity
  have old := (in_process_sound before probes).at_most.trans (BackendHealth.rate_after_lt _).le
  have low : health.error_rate ≤ (7 / 10) ^ writes recent := by
    unfold BackendHealth.error_rate
    split
    · rw [ewma, rate]
      exact mul_le_of_le_one_right share old
    · exact share
  refine ⟨low, fun calls up => ?_⟩
  have none : health.consecutive_failures = 0 := failures.trans (streak calls)
  have back := (abs_le.mp (scored.healthy up (by omega))).1
  have whole : health.left = 100 - health.latency_penalty - 50 * health.error_rate - 20 * health.fallback_rate := rfl
  linarith

/-- A failure and a probe, and a success after them. -/
theorem fleet_recovers_success :
    let health := (after [.read ⟨false, false, 1⟩, .write 0, .touch ⟨true, 40, 2⟩, .read ⟨true, false, 3⟩,
      .write 0]).value.load
    health.error_rate ≤ (7 / 10) ^ 1 ∧
      (0 < 1 → health.available ≠ some false →
        100 - health.latency_penalty - 50 * (7 / 10) ^ 1 - 20 * health.fallback_rate - 1 / 2 ≤ (health.score : ℚ)) := by
  refine fleet_recovers _ ?_ ?_ [.inl ⟨false, false, 1⟩, .inr ⟨true, 40, 2⟩] [.inl ⟨true, false, 3⟩] rfl ?_
  · intro probe member
    simp only [List.mem_cons, Event.touch.injEq, reduceCtorEq, List.not_mem_nil, or_false, false_or] at member
    rw [member]
    norm_num
  · refine ⟨trivial, ?_, trivial, trivial, ?_, trivial⟩
    · rintro p found
      cases found
      rfl
    · rintro p found
      cases found
      rfl
  · intro call member
    cases List.mem_singleton.mp member
    rfl

end RuntimePlatform.Health
