import Mathlib.Order.Interval.Finset.Nat
import Mathlib.Algebra.Order.Field.Basic
import Mathlib.Order.WithBot
import Mathlib.Tactic.Linarith
import Mathlib.Tactic.Ring
import RuntimePlatform.Chat.Routing

/-!
What the two routing policies choose: the entry of a weighted route for each bucket, and the
backend of a cost-aware route, which is to be one that the other does not dominate.
-/

namespace RuntimePlatform.Chat

/-! Weighted targets. -/

/-- The loop of `select_route_target`, with the position of the entry at which it returns. -/
def weightedEntry (bucket : ℕ) : ℕ → List RouteTarget → Option ℕ
  | _, [] => none
  | upper_bound, target :: rest =>
    if bucket < upper_bound + target.weight then some 0
    else (weightedEntry bucket (upper_bound + target.weight) rest).map (· + 1)

theorem weightedTarget_eq (bucket upper_bound : ℕ) (targets : List RouteTarget) :
    weightedTarget bucket upper_bound targets = ((weightedEntry bucket upper_bound targets).bind (targets[·]?)).elim
      (.error .raised) fun target => .ok target.model := by
  induction targets generalizing upper_bound with
  | nil => rfl
  | cons target rest ih =>
      unfold weightedTarget weightedEntry
      by_cases here : bucket < upper_bound + target.weight
      · rw [if_pos here, if_pos here]
        rfl
      · rw [if_neg here, if_neg here, ih]
        cases weightedEntry bucket (upper_bound + target.weight) rest with
        | none => rfl
        | some i => rfl

/-- The loop returns at an entry for the buckets between the weights up to it and the weights through it. -/
theorem weightedEntry_eq_some {bucket upper_bound i : ℕ} {targets : List RouteTarget} (beyond : upper_bound ≤ bucket)
    (entry : i < targets.length) : weightedEntry bucket upper_bound targets = some i ↔
      upper_bound + ((targets.take i).map RouteTarget.weight).sum ≤ bucket ∧
        bucket < upper_bound + ((targets.take i).map RouteTarget.weight).sum + targets[i].weight := by
  induction targets generalizing upper_bound i with
  | nil => cases entry
  | cons target rest ih =>
      unfold weightedEntry
      by_cases here : bucket < upper_bound + target.weight
      · rw [if_pos here]
        cases i with
        | zero => simpa using ⟨beyond, here⟩
        | succ i =>
            simp only [Option.some.injEq, List.take_succ_cons, List.map_cons, List.sum_cons]
            omega
      · rw [if_neg here]
        cases i with
        | zero => simpa using fun _ => not_lt.mp here
        | succ i =>
            have found := ih (not_lt.mp here) (Nat.lt_of_succ_lt_succ entry)
            simp only [Option.map_eq_some_iff, Nat.add_right_cancel_iff, exists_eq_right, found, List.take_succ_cons,
              List.map_cons, List.sum_cons, List.getElem_cons_succ, add_assoc]

theorem sum_take_add_le (weights : List ℕ) {i : ℕ} (entry : i < weights.length) :
    (weights.take i).sum + weights[i] ≤ weights.sum := by
  calc (weights.take i).sum + weights[i] = (weights.take (i + 1)).sum := (List.sum_take_succ weights i entry).symm
    _ ≤ (weights.take (i + 1)).sum + (weights.drop (i + 1)).sum := Nat.le_add_right _ _
    _ = weights.sum := List.sum_take_add_sum_drop weights (i + 1)

/-- A valid weighted route always selects one of its entries, and of the 100 buckets each entry has as many as its
weight. -/
theorem weights_honoured (sha256 : String → ℕ) (route : ModelRoute) (weighted : route.targets ≠ []) :
    (∀ request_id route_name, ∃ i, ∃ entry : i < route.targets.length,
      weightedEntry (sha256 (route_name ++ ":" ++ request_id) % 100) 0 route.targets = some i ∧
        select_route_target sha256 route request_id route_name = .ok route.targets[i].model) ∧
      ∀ i, ∀ entry : i < route.targets.length,
        ((Finset.range 100).filter fun bucket => weightedEntry bucket 0 route.targets = some i).card =
          route.targets[i].weight := by
  have total : (route.targets.map RouteTarget.weight).sum = 100 := route.weights_total weighted
  constructor
  · intro request_id route_name
    have inside : sha256 (route_name ++ ":" ++ request_id) % 100 < 0 + (route.targets.map RouteTarget.weight).sum := by
      omega
    obtain ⟨target, _, selected⟩ := weightedTarget_ok inside (Nat.zero_le _)
    rw [select_route_target, if_neg weighted]
    rw [weightedTarget_eq] at selected ⊢
    cases found : weightedEntry (sha256 (route_name ++ ":" ++ request_id) % 100) 0 route.targets with
    | none =>
        rw [found] at selected
        cases selected
    | some i =>
        rw [found] at selected
        by_cases entry : i < route.targets.length
        · exact ⟨i, entry, rfl, by simp [List.getElem?_eq_getElem entry]⟩
        · rw [Option.bind_some, List.getElem?_eq_none (not_lt.mp entry)] at selected
          cases selected
  · intro i entry
    have room : ((route.targets.take i).map RouteTarget.weight).sum + route.targets[i].weight ≤ 100 := by
      have bound := sum_take_add_le (route.targets.map RouteTarget.weight) (i := i) (by simpa using entry)
      rw [total] at bound
      simpa [List.map_take] using bound
    have buckets : (Finset.range 100).filter (fun bucket => weightedEntry bucket 0 route.targets = some i) =
        Finset.Ico ((route.targets.take i).map RouteTarget.weight).sum
          (((route.targets.take i).map RouteTarget.weight).sum + route.targets[i].weight) := by
      ext bucket
      simp only [Finset.mem_filter, Finset.mem_range, Finset.mem_Ico, weightedEntry_eq_some (Nat.zero_le _) entry,
        Nat.zero_add]
      omega
    rw [buckets, Nat.card_Ico, Nat.add_sub_cancel_left]
/-- A canary route of 90 to 10. -/
def canaryRoute : ModelRoute where
  targets := [⟨"qwen", 90, by decide⟩, ⟨"llama", 10, by decide⟩]
  primary := none
  fallback := none
  min_health_score := none
  routing_policy := none
  shadow := none
  canary_or_failover := by decide
  weights_total _ := rfl
  canary_fallback _ := rfl
  failover_fallback bad := absurd rfl bad
  fallback_differs bad := absurd rfl bad
  health_needs_failover bad := absurd rfl bad
  policy_needs_failover bad := absurd rfl bad
  score_le := unscored
  shadow_named _ bad := by cases bad

theorem weights_honoured_canary :
    canaryRoute.targets ≠ [] ∧
      ((Finset.range 100).filter fun bucket => weightedEntry bucket 0 canaryRoute.targets = some 1).card = 10 :=
  ⟨List.cons_ne_nil _ _, (weights_honoured (fun _ => 7) canaryRoute (List.cons_ne_nil _ _)).2 1 (by decide)⟩

/-! Cost-aware routes. -/

/-- Latencies in their order, an unknown one being the worst. -/
def latencyRank (latency : Option ℚ) : WithTop ℚ := latency.elim ⊤ fun ms => ms

theorem latencyRank_injective : Function.Injective latencyRank := by
  intro x y same
  cases x with
  | none =>
      cases y with
      | none => rfl
      | some y => cases same
  | some x =>
      cases y with
      | none => cases same
      | some y => exact congrArg some (WithTop.coe_injective same)

namespace Candidate

/-- Health, latency and unit cost, none of them worse. -/
structure AtLeastAsGood (a b : Candidate) : Prop where
  health : b.signal.health_score ≤ a.signal.health_score
  latency : latencyRank a.signal.latency_ms ≤ latencyRank b.signal.latency_ms
  cost : a.cost ≤ b.cost

/-- At least as good in all three and better in one. -/
structure Dominates (a b : Candidate) : Prop extends AtLeastAsGood a b where
  better : b.signal.health_score < a.signal.health_score ∨
    latencyRank a.signal.latency_ms < latencyRank b.signal.latency_ms ∨ a.cost < b.cost

end Candidate

/-- The lowest latency and cost of two candidates, and the score of one of them by these. -/
def scoreOfTwo (weights : RoutingWeights) (a b c : Candidate) : ℚ :=
  score weights (minLatency [a.signal.latency, b.signal.latency]) (min a.cost b.cost) c

theorem scoreOfTwo_comm (weights : RoutingWeights) (a b c : Candidate) :
    scoreOfTwo weights a b c = scoreOfTwo weights b a c := by
  have least : minLatency [a.signal.latency, b.signal.latency] = minLatency [b.signal.latency, a.signal.latency] := by
    cases a.signal.latency with
    | none =>
        cases b.signal.latency with
        | none => rfl
        | some y => rfl
    | some x =>
        cases b.signal.latency with
        | none => rfl
        | some y => exact congrArg some (min_comm x y)
  rw [scoreOfTwo, scoreOfTwo, least, min_comm]

/-- Of two candidates `max` takes the second only for a greater score. -/
theorem bestCandidate_of_two (weights : RoutingWeights) {primary fallback : Candidate}
    (different : fallback.model ≠ primary.model) :
    bestCandidate weights primary.model primary [fallback] =
      if scoreOfTwo weights primary fallback primary < scoreOfTwo weights primary fallback fallback then fallback
      else primary := by
  have least : toLex (scoreOfTwo weights primary fallback primary, decide (primary.model = primary.model)) <
      toLex (scoreOfTwo weights primary fallback fallback, decide (fallback.model = primary.model)) ↔
      scoreOfTwo weights primary fallback primary < scoreOfTwo weights primary fallback fallback := by
    rw [Prod.Lex.toLex_lt_toLex]
    simp [different]
  exact if_congr least rfl rfl

theorem latencyComponent_lt {x y : Option ℚ} (positive : ∀ ms ∈ x, 0 < ms) (positive' : ∀ ms ∈ y, 0 < ms)
    (faster : latencyRank x < latencyRank y) :
    latencyComponent (minLatency [x, y]) y < latencyComponent (minLatency [x, y]) x := by
  cases x with
  | none => cases not_top_lt faster
  | some x =>
      have x_pos : 0 < x := positive x rfl
      cases y with
      | none =>
          change 0 < x / x
          exact div_pos x_pos x_pos
      | some y =>
          have y_pos : 0 < y := positive' y rfl
          have less : x < y := WithTop.coe_lt_coe.mp faster
          change min x y / y < min x y / x
          rw [min_eq_left less.le, div_self x_pos.ne']
          exact (div_lt_one y_pos).mpr less

theorem latencyComponent_le {x y : Option ℚ} (positive : ∀ ms ∈ x, 0 < ms) (positive' : ∀ ms ∈ y, 0 < ms)
    (fast : latencyRank x ≤ latencyRank y) :
    latencyComponent (minLatency [x, y]) y ≤ latencyComponent (minLatency [x, y]) x := by
  rcases fast.lt_or_eq with faster | same
  · exact (latencyComponent_lt positive positive' faster).le
  · rw [latencyRank_injective same]

/-- The ratio of the lower cost to the higher, 1 where both are free. -/
theorem costComponent_of_le {a b : ℚ} (cheap : a ≤ b) :
    costComponent (min a b) a = 1 ∧ costComponent (min a b) b = if b = 0 then 1 else a / b := by
  rw [min_eq_left cheap]
  constructor
  · unfold costComponent
    split
    · exact div_self ‹_›
    · rfl
  · unfold costComponent
    by_cases free : b = 0
    · rw [if_pos free, if_neg (not_not.mpr free)]
    · rw [if_neg free, if_pos free]

theorem costComponent_lt {a b : ℚ} (nonneg : 0 ≤ a) (cheaper : a < b) :
    costComponent (min a b) b < costComponent (min a b) a := by
  obtain ⟨low, high⟩ := costComponent_of_le cheaper.le
  have b_pos : 0 < b := nonneg.trans_lt cheaper
  rw [low, high, if_neg b_pos.ne']
  exact (div_lt_one b_pos).mpr cheaper

theorem costComponent_le {a b : ℚ} (nonneg : 0 ≤ a) (cheap : a ≤ b) :
    costComponent (min a b) b ≤ costComponent (min a b) a := by
  rcases cheap.lt_or_eq with cheaper | same
  · exact (costComponent_lt nonneg cheaper).le
  · rw [same]

structure RoutingWeights.Positive (weights : RoutingWeights) : Prop where
  health : 0 < weights.health
  latency : 0 < weights.latency
  cost : 0 < weights.cost

/-- What the stores and the configuration give: no price and no latency is negative. -/
structure Candidate.Measured (c : Candidate) : Prop where
  cost : 0 ≤ c.cost
  latency : ∀ ms ∈ c.signal.latency_ms, 0 ≤ ms

theorem Candidate.Measured.latency_pos {c : Candidate} (measured : c.Measured) : ∀ ms ∈ c.signal.latency, 0 < ms := by
  intro ms member
  obtain ⟨known, nonzero⟩ := Option.mem_filter_iff.mp member
  exact lt_of_le_of_ne (measured.latency ms known) (Ne.symm (of_decide_eq_true nonzero))

section Scores
variable {weights : RoutingWeights} {a b : Candidate}

/-- The score respects the order of health, cost and the latencies as the code reads them. -/
theorem scoreOfTwo_lt (positive : weights.Positive) (measured : a.Measured) (measured' : b.Measured)
    (health : b.signal.health_score ≤ a.signal.health_score)
    (latency : latencyRank a.signal.latency ≤ latencyRank b.signal.latency) (cost : a.cost ≤ b.cost)
    (better : b.signal.health_score < a.signal.health_score ∨
      latencyRank a.signal.latency < latencyRank b.signal.latency ∨ a.cost < b.cost) :
    scoreOfTwo weights a b b < scoreOfTwo weights a b a := by
  have health' : (b.signal.health_score : ℚ) ≤ a.signal.health_score := Nat.cast_le.mpr health
  have by_health := mul_le_mul_of_nonneg_left health' positive.health.le
  have by_latency := mul_le_mul_of_nonneg_left
    (latencyComponent_le measured.latency_pos measured'.latency_pos latency) positive.latency.le
  have by_cost := mul_le_mul_of_nonneg_left (costComponent_le measured.cost cost) positive.cost.le
  unfold scoreOfTwo score
  rcases better with healthier | faster | cheaper
  · have strictly := mul_lt_mul_of_pos_left (Nat.cast_lt (α := ℚ).mpr healthier) positive.health
    linarith
  · have strictly := mul_lt_mul_of_pos_left
      (latencyComponent_lt measured.latency_pos measured'.latency_pos faster) positive.latency
    linarith
  · have strictly := mul_lt_mul_of_pos_left (costComponent_lt measured.cost cheaper) positive.cost
    linarith

/-- A latency which is not 0 is read as it is. -/
theorem latency_of_ne {s : Signal} (nonzero : s.latency_ms ≠ some 0) : s.latency = s.latency_ms := by
  unfold Signal.latency
  cases known : s.latency_ms with
  | none => rfl
  | some ms =>
      have nonzero' : ms ≠ 0 := fun zero => nonzero (known.trans (congrArg some zero))
      rw [Option.filter_some, if_pos (decide_eq_true nonzero')]

/-- 0 is read as no latency at all. -/
theorem latency_of_zero {s : Signal} (zero : s.latency_ms = some 0) : s.latency = none := by
  rw [Signal.latency, zero]
  rfl

/-- Unless 0 is compared with another latency, the code reads latencies in their order. -/
theorem latencyRank_of_le (measured : a.Measured)
    (unmixed : a.signal.latency_ms = some 0 → b.signal.latency_ms = some 0)
    (le : latencyRank a.signal.latency_ms ≤ latencyRank b.signal.latency_ms) :
    latencyRank a.signal.latency ≤ latencyRank b.signal.latency ∧
      (latencyRank a.signal.latency_ms < latencyRank b.signal.latency_ms →
        latencyRank a.signal.latency < latencyRank b.signal.latency) := by
  by_cases zero : b.signal.latency_ms = some 0
  · have both : a.signal.latency_ms = some 0 := by
      cases known : a.signal.latency_ms with
      | none =>
          rw [known, zero] at le
          cases WithTop.not_top_le_coe _ le
      | some ms =>
          rw [known, zero] at le
          exact congrArg some (le_antisymm (WithTop.coe_le_coe.mp le) (measured.latency ms known))
    rw [latency_of_zero zero, latency_of_zero both, both, zero]
    exact ⟨le_rfl, fun bad => absurd bad (lt_irrefl _)⟩
  · have nonzero : a.signal.latency_ms ≠ some 0 := fun bad => zero (unmixed bad)
    rw [latency_of_ne zero, latency_of_ne nonzero]
    exact ⟨le, id⟩

end Scores

/-- How much better the score is made by the health and cost of `z`. -/
def advantage (weights : RoutingWeights) (z o : Candidate) : ℚ :=
  weights.health * (z.signal.health_score - o.signal.health_score) / 100 +
    weights.cost * (1 - if o.cost = 0 then 1 else z.cost / o.cost)

/-- The latency of `z` is 0, which is read as unknown, and its advantage does not make up for it. -/
structure Misread (weights : RoutingWeights) (primary_model : String) (z o : Candidate) : Prop where
  zero : z.signal.latency_ms = some 0
  nonzero : o.signal.latency_ms ≠ some 0
  health : o.signal.health_score ≤ z.signal.health_score
  cost : z.cost ≤ o.cost
  outweighed : advantage weights z o < (if o.signal.latency_ms.isSome then weights.latency else 0) ∨
    advantage weights z o = (if o.signal.latency_ms.isSome then weights.latency else 0) ∧ o.model = primary_model

/-- What the two scores differ by when the latency of `z` is 0 and that of `o` is not. -/
theorem scoreOfTwo_sub (weights : RoutingWeights) {z o : Candidate}
    (zero : z.signal.latency_ms = some 0) (nonzero : o.signal.latency_ms ≠ some 0) (cost : z.cost ≤ o.cost) :
    scoreOfTwo weights z o z - scoreOfTwo weights z o o =
      advantage weights z o - if o.signal.latency_ms.isSome then weights.latency else 0 := by
  obtain ⟨low, high⟩ := costComponent_of_le cost
  have latency : latencyComponent (minLatency [z.signal.latency, o.signal.latency]) o.signal.latency -
      latencyComponent (minLatency [z.signal.latency, o.signal.latency]) z.signal.latency =
      if o.signal.latency_ms.isSome then 1 else 0 := by
    rw [latency_of_zero zero, latency_of_ne nonzero]
    cases known : o.signal.latency_ms with
    | none => exact sub_self _
    | some ms =>
        have ms_pos : ms ≠ 0 := fun bad => nonzero (known.trans (congrArg some bad))
        change ms / ms - 0 = 1
        rw [div_self ms_pos, sub_zero]
  have weighted := congrArg (fun difference => weights.latency * difference) latency
  simp only [mul_sub, mul_ite, mul_one, mul_zero] at weighted
  unfold scoreOfTwo score advantage
  rw [low, high, ← weighted]
  ring

/-- A failover route with its policy and the two backends it chooses from, as the configuration's validators leave
them; the weights are all in use. -/
structure Failover (targets : List (String × ModelTarget)) (route : ModelRoute) (weights : RoutingWeights)
    (primary fallback : Candidate) : Prop where
  policy : route.routing_policy = some weights
  positive : weights.Positive
  primary_model : route.primary = some primary.model
  fallback_model : route.fallback = some fallback.model
  priced : ∀ c ∈ [primary, fallback], ∃ target, targets.lookup c.model = some target ∧
    c.cost = target.input_cost_per_million + target.output_cost_per_million
  latency : ∀ c ∈ [primary, fallback], ∀ ms ∈ c.signal.latency_ms, 0 ≤ ms

/-- What `select_cost_aware_backend` asks `costAwareChoice` for this route. -/
def failoverChoice (targets : List (String × ModelTarget)) (route : ModelRoute) (weights : RoutingWeights)
    (primary fallback : Candidate) : Except Exc (String × Bool) :=
  costAwareChoice targets weights (route.min_health_score.getD 0) primary.model
    [(primary.model, primary.signal), (fallback.model, fallback.signal)]

/-- Neither candidate is better: they are equally good, or score the same. -/
def Tied (weights : RoutingWeights) (a b : Candidate) : Prop :=
  (a.AtLeastAsGood b ∧ b.AtLeastAsGood a) ∨ scoreOfTwo weights a b a = scoreOfTwo weights a b b

/-- The choice is an eligible candidate which no other one dominates, the primary in a tie. -/
structure WellChosen (threshold : ℕ) (weights : RoutingWeights) (primary fallback : Candidate)
    (choice : Except Exc (String × Bool)) : Prop where
  raises : choice = .error .noHealthyBackend ↔ ∀ c ∈ [primary, fallback], ¬ c.signal.Eligible threshold
  returns : (∃ c ∈ [primary, fallback], c.signal.Eligible threshold) →
    ∃ selected ∈ [primary, fallback], choice = .ok (selected.model, decide (selected.model ≠ primary.model)) ∧
      selected.signal.Eligible threshold ∧
      (∀ c ∈ [primary, fallback], c.signal.Eligible threshold → ¬ c.Dominates selected) ∧
      ((∀ c ∈ [primary, fallback], c.signal.Eligible threshold) → Tied weights primary fallback → selected = primary)

theorem Candidate.not_dominates_self (c : Candidate) : ¬ c.Dominates c := by
  intro dominates
  rcases dominates.better with bad | bad | bad
  · exact lt_irrefl _ bad
  · exact lt_irrefl _ bad
  · exact lt_irrefl _ bad

section Failover
variable {targets : List (String × ModelTarget)} {route : ModelRoute} {weights : RoutingWeights}
  {primary fallback : Candidate}

namespace Failover

theorem different (failover : Failover targets route weights primary fallback) : fallback.model ≠ primary.model := by
  intro same
  refine route.fallback_differs ?_ ?_
  · rw [failover.primary_model]
    exact Option.some_ne_none _
  · rw [failover.primary_model, failover.fallback_model, same]

theorem measured (failover : Failover targets route weights primary fallback) {c : Candidate}
    (member : c ∈ [primary, fallback]) : c.Measured := by
  obtain ⟨target, _, price⟩ := failover.priced c member
  exact ⟨price ▸ add_nonneg target.input_nonneg target.output_nonneg, failover.latency c member⟩

/-- With both eligible the better score wins. -/
theorem choice_of_both (failover : Failover targets route weights primary fallback)
    (first : primary.signal.Eligible (route.min_health_score.getD 0))
    (second : fallback.signal.Eligible (route.min_health_score.getD 0)) :
    failoverChoice targets route weights primary fallback =
      if scoreOfTwo weights primary fallback primary < scoreOfTwo weights primary fallback fallback then
        .ok (fallback.model, true)
      else .ok (primary.model, false) := by
  obtain ⟨target, known, price⟩ := failover.priced primary (by simp)
  obtain ⟨target', known', price'⟩ := failover.priced fallback (by simp)
  have chosen := bestCandidate_of_two weights failover.different
  simp only [failoverChoice, costAwareChoice, List.filter_cons, List.filter_nil, first, second, decide_true, if_true,
    List.mapM_cons, List.mapM_nil, known, known', Option.elim, ← price, ← price', Except.bind_ok, pure_bind]
  change Except.ok ((bestCandidate weights primary.model primary [fallback]).model,
    decide ((bestCandidate weights primary.model primary [fallback]).model ≠ primary.model)) = _
  rw [chosen]
  split
  · rw [decide_eq_true failover.different]
  · rw [decide_eq_false (not_not.mpr rfl)]

/-- The better score goes to a candidate which the other does not dominate, unless a latency of 0 is misread. -/
theorem score_of_dominates (positive : weights.Positive) {z o : Candidate} (measured : z.Measured)
    (measured' : o.Measured) (dominates : z.Dominates o) (fair : ¬ Misread weights primary.model z o) :
    scoreOfTwo weights z o o < scoreOfTwo weights z o z ∨
      (scoreOfTwo weights z o o = scoreOfTwo weights z o z ∧ o.model ≠ primary.model) := by
  by_cases zero : z.signal.latency_ms = some 0 ∧ o.signal.latency_ms ≠ some 0
  · have gap := scoreOfTwo_sub weights zero.1 zero.2 dominates.cost
    rcases lt_trichotomy (advantage weights z o) (if o.signal.latency_ms.isSome then weights.latency else 0)
      with less | same | more
    · exact absurd ⟨zero.1, zero.2, dominates.health, dominates.cost, Or.inl less⟩ fair
    · refine Or.inr ⟨by linarith, fun mine => fair ?_⟩
      exact ⟨zero.1, zero.2, dominates.health, dominates.cost, Or.inr ⟨same, mine⟩⟩
    · exact Or.inl (by linarith)
  · have unmixed : z.signal.latency_ms = some 0 → o.signal.latency_ms = some 0 := by
      intro here
      by_contra there
      exact zero ⟨here, there⟩
    obtain ⟨ordered, strictly⟩ := latencyRank_of_le measured unmixed dominates.latency
    refine Or.inl (scoreOfTwo_lt positive measured measured' dominates.health ordered dominates.cost ?_)
    exact dominates.better.imp_right (Or.imp_left strictly)

/-- A misread latency of 0 makes a dominated candidate win. -/
theorem dominates_of_misread {z o : Candidate} (measured : o.Measured) (misread : Misread weights primary.model z o) :
    z.Dominates o ∧ (scoreOfTwo weights z o z < scoreOfTwo weights z o o ∨
      (scoreOfTwo weights z o z = scoreOfTwo weights z o o ∧ o.model = primary.model)) := by
  have faster : latencyRank z.signal.latency_ms < latencyRank o.signal.latency_ms := by
    rw [misread.zero]
    cases known : o.signal.latency_ms with
    | none => exact WithTop.coe_lt_top _
    | some ms =>
        refine WithTop.coe_lt_coe.mpr (lt_of_le_of_ne (measured.latency ms known) fun zero => misread.nonzero ?_)
        rw [known, ← zero]
  refine ⟨⟨⟨misread.health, faster.le, misread.cost⟩, Or.inr (Or.inl faster)⟩, ?_⟩
  have gap := scoreOfTwo_sub weights misread.zero misread.nonzero misread.cost
  rcases misread.outweighed with less | ⟨same, mine⟩
  · exact Or.inl (by linarith)
  · exact Or.inr ⟨by linarith, mine⟩

theorem score_of_tied (tied : Tied weights primary fallback) :
    scoreOfTwo weights primary fallback primary = scoreOfTwo weights primary fallback fallback := by
  rcases tied with ⟨good, good'⟩ | same
  · have latency := latencyRank_injective (le_antisymm good.latency good'.latency)
    have signal : primary.signal.latency = fallback.signal.latency := by rw [Signal.latency, latency, Signal.latency]
    unfold scoreOfTwo score
    rw [le_antisymm good'.health good.health, signal, le_antisymm good.cost good'.cost]
  · exact same

/-- With one candidate eligible the choice is that one. -/
theorem wellChosen_of_one (failover : Failover targets route weights primary fallback)
    (one : ¬ (primary.signal.Eligible (route.min_health_score.getD 0) ∧
      fallback.signal.Eligible (route.min_health_score.getD 0))) :
    WellChosen (route.min_health_score.getD 0) weights primary fallback
      (failoverChoice targets route weights primary fallback) := by
  have different := failover.different
  by_cases first : primary.signal.Eligible (route.min_health_score.getD 0)
  · have second : ¬ fallback.signal.Eligible (route.min_health_score.getD 0) := fun second => one ⟨first, second⟩
    have chosen : failoverChoice targets route weights primary fallback = .ok (primary.model, false) := by
      simp [failoverChoice, costAwareChoice, first, second]
    constructor
    · simp [chosen, first]
    · intro _
      refine ⟨primary, by simp, by simp [chosen], first, ?_, fun _ _ => rfl⟩
      simp [second, primary.not_dominates_self]
  · by_cases second : fallback.signal.Eligible (route.min_health_score.getD 0)
    · have chosen : failoverChoice targets route weights primary fallback = .ok (fallback.model, true) := by
        simp [failoverChoice, costAwareChoice, first, second, different]
      constructor
      · simp [chosen, second]
      · intro _
        refine ⟨fallback, by simp, by simp [chosen, different], second, ?_, ?_⟩
        · simp [first, fallback.not_dominates_self]
        · exact fun both => absurd (both primary (by simp)) first
    · have chosen : failoverChoice targets route weights primary fallback = .error .noHealthyBackend := by
        simp [failoverChoice, costAwareChoice, first, second]
      constructor
      · simp [chosen, first, second]
      · simp [first, second]

/-- The cost-aware choice is as it should be exactly when no latency of 0 is misread to the disadvantage of the
candidate which has it. -/
theorem wellChosen_iff (failover : Failover targets route weights primary fallback) :
    WellChosen (route.min_health_score.getD 0) weights primary fallback
        (failoverChoice targets route weights primary fallback) ↔
      ¬ (primary.signal.Eligible (route.min_health_score.getD 0) ∧
        fallback.signal.Eligible (route.min_health_score.getD 0) ∧
        (Misread weights primary.model primary fallback ∨ Misread weights primary.model fallback primary)) := by
  have different := failover.different
  have measured := failover.measured (c := primary) (by simp)
  have measured' := failover.measured (c := fallback) (by simp)
  by_cases one : primary.signal.Eligible (route.min_health_score.getD 0) ∧
      fallback.signal.Eligible (route.min_health_score.getD 0)
  · obtain ⟨first, second⟩ := one
    have chosen := failover.choice_of_both first second
    constructor
    · rintro well ⟨_, _, misread⟩
      obtain ⟨selected, member, choice, _, undominated, _⟩ := well.returns ⟨primary, by simp, first⟩
      rw [chosen] at choice
      rcases misread with misread | misread
      · obtain ⟨dominates, worse⟩ := dominates_of_misread measured' misread
        rcases worse with less | ⟨_, mine⟩
        · rw [if_pos less] at choice
          obtain rfl : selected = fallback := by
            rcases List.mem_pair.mp member with rfl | rfl
            · exact absurd (congrArg Prod.fst (Except.ok.inj choice)) different
            · rfl
          exact undominated primary (by simp) first dominates
        · exact different mine
      · obtain ⟨dominates, worse⟩ := dominates_of_misread measured misread
        simp only [scoreOfTwo_comm weights fallback primary] at worse
        have kept : ¬ scoreOfTwo weights primary fallback primary < scoreOfTwo weights primary fallback fallback := by
          rcases worse with less | ⟨same, _⟩
          · exact less.asymm
          · exact same.le.not_gt
        rw [if_neg kept] at choice
        obtain rfl : selected = primary := by
          rcases List.mem_pair.mp member with rfl | rfl
          · rfl
          · exact absurd (congrArg Prod.fst (Except.ok.inj choice)).symm different
        exact undominated fallback (by simp) second dominates
    · intro fair
      have fair_first : ¬ Misread weights primary.model primary fallback := fun bad => fair ⟨first, second, Or.inl bad⟩
      have fair_second : ¬ Misread weights primary.model fallback primary := fun bad => fair ⟨first, second, Or.inr bad⟩
      by_cases less : scoreOfTwo weights primary fallback primary < scoreOfTwo weights primary fallback fallback
      · rw [if_pos less] at chosen
        constructor
        · simp [chosen, first]
        · intro _
          refine ⟨fallback, by simp, by simp [chosen, different], second, ?_, ?_⟩
          · intro c member _ dominates
            rcases List.mem_pair.mp member with rfl | rfl
            · rcases score_of_dominates failover.positive measured measured' dominates fair_first with more | ⟨same, _⟩
              · exact less.asymm more
              · exact less.ne same.symm
            · exact Candidate.not_dominates_self _ dominates
          · exact fun _ tied => absurd (score_of_tied tied) less.ne
      · rw [if_neg less] at chosen
        constructor
        · simp [chosen, first]
        · intro _
          refine ⟨primary, by simp, by simp [chosen], first, ?_, fun _ _ => rfl⟩
          intro c member _ dominates
          rcases List.mem_pair.mp member with rfl | rfl
          · exact Candidate.not_dominates_self _ dominates
          · have better := score_of_dominates failover.positive measured' measured dominates fair_second
            simp only [scoreOfTwo_comm weights _ primary] at better
            rcases better with more | ⟨_, bad⟩
            · exact less more
            · exact bad rfl
  · exact iff_of_true (failover.wellChosen_of_one one) fun both => one ⟨both.1, both.2.1⟩

end Failover

end Failover

/-- The weights of the defaults. -/
def balancedWeights : RoutingWeights :=
  ⟨1 / 2, 3 / 10, 1 / 5, by norm_num, by norm_num, by norm_num, by norm_num⟩

/-- A failover route from `qwen` to `llama`. -/
def balancedRoute : ModelRoute where
  targets := []
  primary := some "qwen"
  fallback := some "llama"
  min_health_score := none
  routing_policy := some balancedWeights
  shadow := none
  canary_or_failover := by simp
  weights_total := untargeted
  canary_fallback bad := absurd rfl bad
  failover_fallback _ := by simp
  fallback_differs _ := by simp
  health_needs_failover bad := absurd rfl bad
  policy_needs_failover _ := by simp
  score_le := unscored
  shadow_named _ bad := by cases bad

theorem unit_price : (0 : ℚ) ≤ 1 := by norm_num

def balancedTargets : List (String × ModelTarget) :=
  [("qwen", ⟨"http://primary", 1, 1, unit_price, unit_price⟩),
    ("llama", ⟨"http://fallback", 1, 1, unit_price, unit_price⟩)]

/-- Two healthy backends at the same price, by their latencies. -/
def qwen (latency_ms : ℚ) : Candidate := ⟨"qwen", ⟨100, some latency_ms, some true⟩, 2⟩

def llama (latency_ms : ℚ) : Candidate := ⟨"llama", ⟨100, some latency_ms, some true⟩, 2⟩

theorem balanced_failover {x y : ℚ} (x_nonneg : 0 ≤ x) (y_nonneg : 0 ≤ y) :
    Failover balancedTargets balancedRoute balancedWeights (qwen x) (llama y) where
  policy := rfl
  positive := ⟨by norm_num [balancedWeights], by norm_num [balancedWeights], by norm_num [balancedWeights]⟩
  primary_model := rfl
  fallback_model := rfl
  priced c member := by
    rcases List.mem_pair.mp member with rfl | rfl
    · exact ⟨_, rfl, by norm_num [qwen]⟩
    · exact ⟨_, rfl, by norm_num [llama]⟩
  latency c member ms known := by
    rcases List.mem_pair.mp member with rfl | rfl
    · cases known
      exact x_nonneg
    · cases known
      exact y_nonneg

theorem wellChosen_balanced :
    Failover balancedTargets balancedRoute balancedWeights (qwen 500) (llama 1000) ∧
      WellChosen 0 balancedWeights (qwen 500) (llama 1000)
        (failoverChoice balancedTargets balancedRoute balancedWeights (qwen 500) (llama 1000)) := by
  have failover := balanced_failover (x := 500) (y := 1000) (by norm_num) (by norm_num)
  refine ⟨failover, failover.wellChosen_iff.mpr ?_⟩
  rintro ⟨_, _, misread | misread⟩
  · exact absurd (Option.some.inj misread.zero) (by norm_num)
  · exact absurd (Option.some.inj misread.zero) (by norm_num)

/-- A primary which answers in no time loses to a fallback which takes a second. -/
theorem instant_primary_loses :
    failoverChoice balancedTargets balancedRoute balancedWeights (qwen 0) (llama 1000) = .ok ("llama", true) ∧
      ¬ WellChosen 0 balancedWeights (qwen 0) (llama 1000)
        (failoverChoice balancedTargets balancedRoute balancedWeights (qwen 0) (llama 1000)) := by
  have chosen : failoverChoice balancedTargets balancedRoute balancedWeights (qwen 0) (llama 1000) =
      .ok ("llama", true) := by decide +kernel
  have eligible : (qwen 0).signal.Eligible 0 := by decide
  refine ⟨chosen, fun well => ?_⟩
  obtain ⟨selected, member, choice, _, undominated, _⟩ := well.returns ⟨qwen 0, by simp, eligible⟩
  rw [chosen] at choice
  rcases List.mem_pair.mp member with rfl | rfl
  · exact absurd (congrArg Prod.fst (Except.ok.inj choice)) (by decide)
  · refine undominated (qwen 0) (by simp) eligible ⟨⟨le_rfl, ?_, le_rfl⟩, Or.inr (Or.inl ?_)⟩
    · exact WithTop.coe_le_coe.mpr (by norm_num)
    · exact WithTop.coe_lt_coe.mpr (by norm_num)

end RuntimePlatform.Chat
