import RuntimePlatform.Fleet.Accounts
import RuntimePlatform.Budget.Enforcement
import RuntimePlatform.Budget.Overspend
import RuntimePlatform.Tenant.Accounts

/-!
The budgets of all tenants on the server of the fleet. Each scope of the policy has a ledger of its own, whatever the
other scopes and the other components do, and what the guard lets by is booked on the ledger of its caller.
-/

namespace RuntimePlatform.Fleet
open Python Except Redis Keyspace Budget

/-! The scopes of a policy. -/

/-- The fingerprints are the sixteen digits of `hexdigest()[:16]`, and tell the keys of a tenant apart. -/
structure Fingerprinted (policy : InferenceBudgetPolicy) : Prop where
  long : ∀ key, (policy.api_key_fingerprint key).length = 16
  distinct : ∀ tenant_id tenant, policy.tenants.lookup tenant_id = some tenant → ∀ key key' budget budget',
    tenant.api_keys.lookup key = some budget → tenant.api_keys.lookup key' = some budget' →
      policy.api_key_fingerprint key = policy.api_key_fingerprint key' → key = key'

section Scopes
variable {policy : InferenceBudgetPolicy} {tenant_id tenant_id' : String} {api_key api_key' : Option String}

variable (policy tenant_id api_key) in
/-- A caller spends from the budget of an API key of its tenant, or from the one of the tenant. -/
theorem scope_cases :
    policy.scope_for tenant_id api_key = ("tenant:" ++ tenant_id,
      (policy.tenants.lookup tenant_id).elim policy.default TenantBudgetPolicy.toScopeBudget) ∨
    ∃ tenant key budget, policy.tenants.lookup tenant_id = some tenant ∧ tenant.api_keys.lookup key = some budget ∧
      policy.scope_for tenant_id api_key =
        ("key:" ++ tenant_id ++ ":" ++ policy.api_key_fingerprint key, budget) := by
  unfold InferenceBudgetPolicy.scope_for
  cases known : policy.tenants.lookup tenant_id with
  | none => exact .inl rfl
  | some tenant =>
      dsimp only
      cases listed : (api_key.filter fun key => decide (key ≠ "")).bind fun key =>
          (tenant.api_keys.lookup key).map fun budget => (key, budget) with
      | none => exact .inl rfl
      | some entry =>
          obtain ⟨key, _, found⟩ := Option.bind_eq_some_iff.mp listed
          obtain ⟨budget, held, rfl⟩ := Option.map_eq_some_iff.mp found
          exact .inr ⟨tenant, key, budget, rfl, held, rfl⟩

/-- Callers of one scope have one budget. -/
theorem scope_budget (fingerprinted : Fingerprinted policy)
    (same : (policy.scope_for tenant_id api_key).1 = (policy.scope_for tenant_id' api_key').1) :
    (policy.scope_for tenant_id api_key).2 = (policy.scope_for tenant_id' api_key').2 := by
  have apart : ∀ a b c, "tenant:" ++ a ≠ "key:" ++ b ++ ":" ++ c := by
    intro a b c equal
    have chars := congrArg (fun text => text.toList.head?) equal
    simp at chars
  rcases scope_cases policy tenant_id api_key with own | ⟨tenant, key, budget, known, held, own⟩
  · rcases scope_cases policy tenant_id' api_key' with other | ⟨tenant', key', budget', known', held', other⟩
    · rw [own, other] at same ⊢
      have equal := String.toList_inj.mpr same
      simp only [String.toList_append, List.append_cancel_left_eq] at equal
      cases String.toList_inj.mp equal
      rfl
    · rw [own, other] at same
      exact absurd same (apart _ _ _)
  · rcases scope_cases policy tenant_id' api_key' with other | ⟨tenant', key', budget', known', held', other⟩
    · rw [own, other] at same
      exact absurd same.symm (apart _ _ _)
    · rw [own, other] at same ⊢
      have equal := String.toList_inj.mpr same
      simp only [String.toList_append] at equal
      obtain ⟨tenants, prints⟩ := List.append_inj' equal (by
        rw [String.length_toList, String.length_toList, fingerprinted.long, fingerprinted.long])
      simp only [List.append_cancel_left_eq, List.append_cancel_right_eq] at tenants
      cases String.toList_inj.mp tenants
      cases Option.some.inj (known.symm.trans known')
      cases fingerprinted.distinct tenant_id tenant known key key' budget budget' held held'
        (String.toList_inj.mp prints)
      exact Option.some.inj (held.symm.trans held')

end Scopes

/-! The calls for one scope. -/

variable {S : Type} (A : Settings S)

/-- The script which a call runs on the keys of a scope, if it is for the scope and gets that far. -/
def script_of (scope : String) : Call S → Option (RedisCall String)
  | .budget (.reserve call clock_ms uuid _) =>
    if (A.policy.scope_for call.tenant_id call.api_key).1 = scope then
      (BudgetCall.script_args A.policy call clock_ms uuid).toOption.map fun args =>
        .reserve args.now_ms args.now_ms args.window_ms args.estimate_micros.toNat args.res_id args.ttl_ms
    else none
  | .budget (.settle reservation actual_micros clock_ms) =>
    if reservation.scope = scope then
      some (.settle reservation.reservation_id actual_micros.toNat clock_ms (BudgetCall.settle_window reservation))
    else none
  | .budget (.purge scope' clock_ms) => if scope' = scope then some (.purge clock_ms) else none
  | .budget (.keys_expire scope') => if scope' = scope then some .keysExpire else none
  | _ => none

/-- The keys of a scope. -/
def keys_of (scope : String) (s : Server S) : Except Python.Error (Keys String) :=
  (budget_slot (budget_account scope).stem).load s

/-- The ids which are drawn for reservations. -/
def drawn : Call S → Option String
  | .budget (.reserve _ _ uuid _) => some uuid
  | _ => none

theorem script_args_ok {policy : InferenceBudgetPolicy} {call : ReserveCall} {clock_ms : ℤ} {uuid : String}
    {args : ReserveArgs} (made : BudgetCall.script_args policy call clock_ms uuid = .ok args) :
    policy.estimate call = .ok args.estimate_micros ∧ 0 ≤ args.estimate_micros ∧
      budget_to_micros (policy.budget call).budget_usd = .ok args.budget_micros ∧ args.res_id = uuid ∧
        args.now_ms = clock_ms ∧ args.window_ms = (policy.budget call).window_seconds * 1000 := by
  obtain ⟨estimate, estimated, made⟩ := bind_eq_ok.mp made
  obtain ⟨_, nonneg, made⟩ := bind_eq_ok.mp made
  obtain ⟨budget, converted, made⟩ := bind_eq_ok.mp made
  obtain ⟨ttl, _, made⟩ := bind_eq_ok.mp made
  cases made
  exact ⟨estimated, not_lt.mp (raiseIf_eq_ok.mp nonneg), converted, rfl, rfl, rfl⟩

variable {A} {scope : String} {budget : ℤ}

/-- A call works on the keys of a scope as its script does, if it has one there. -/
theorem work_of_script (fixed : ∀ call : ReserveCall, (A.policy.scope_for call.tenant_id call.api_key).1 = scope →
      budget_to_micros (A.policy.budget call).budget_usd = .ok budget) (k : Keys String) (call : BudgetCall)
    (mine : call.scope A.policy = scope) :
    (call.work A.policy A.text S k).2 = ((script_of A scope (.budget call)).map (RedisCall.exec budget k)).getD k := by
  cases call with
  | reserve call clock_ms uuid lost =>
      have named : (A.policy.scope_for call.tenant_id call.api_key).1 = scope := mine
      simp only [script_of, BudgetCall.work]
      rw [if_pos named]
      cases made : BudgetCall.script_args A.policy call clock_ms uuid with
      | error e => rfl
      | ok args =>
          obtain ⟨_, nonneg, converted, _⟩ := script_args_ok made
          cases converted.symm.trans (fixed call mine)
          simp only [Except.toOption, Option.map_some, Option.getD_some, RedisCall.exec, BudgetCall.reserve_script,
            Int.toNat_of_nonneg nonneg]
  | settle reservation actual_micros clock_ms =>
      have named : reservation.scope = scope := mine
      simp only [script_of, BudgetCall.work]
      rw [if_pos named]
      simp only [Option.map_some, Option.getD_some, RedisCall.exec, Int.ofNat_toNat, max_comm]
  | purge scope' clock_ms =>
      have named : scope' = scope := mine
      simp only [script_of, BudgetCall.work]
      rw [if_pos named]
      rfl
  | keys_expire scope' =>
      have named : scope' = scope := mine
      simp only [script_of, BudgetCall.work]
      rw [if_pos named]
      rfl

theorem script_of_other {call : BudgetCall} (other : call.scope A.policy ≠ scope) :
    script_of A scope (.budget call) = none := by
  cases call with
  | reserve call clock_ms uuid lost => exact if_neg other
  | settle reservation actual_micros clock_ms => exact if_neg other
  | purge scope' clock_ms => exact if_neg other
  | keys_expire scope' => exact if_neg other

/-- Only the scripts for a scope move its keys. -/
theorem keys_perform (fixed : ∀ call : ReserveCall, (A.policy.scope_for call.tenant_id call.api_key).1 = scope →
      budget_to_micros (A.policy.budget call).budget_usd = .ok budget) (s : Server S) (call : Call S) :
    keys_of scope (perform A s call).2 =
      (keys_of scope s).map fun k => ((script_of A scope call).map (RedisCall.exec budget k)).getD k := by
  have unchanged : budget_account scope ≠ call.account A → keys_of scope (perform A s call).2 = keys_of scope s :=
    fun differ => (budget_slot _).load_congr _ _ (perform_other differ)
  have same : (keys_of scope s).map (fun k => k) = keys_of scope s := by
    cases keys_of scope s <;> rfl
  cases call with
  | budget call =>
      by_cases mine : call.scope A.policy = scope
      · have account : (budget_account scope).stem = (budget_account (call.scope A.policy)).stem := by rw [mine]
        cases loaded : keys_of scope s with
        | error e =>
            have stuck : perform A s (.budget call) = (.error e, s) :=
              Slot.apply_of_error _ _ (account ▸ loaded)
            rw [stuck]
            exact loaded
        | ok k =>
            have left := Slot.load_apply _ (fun k => call.work A.policy A.text S k) loaded
            simp only [Except.map]
            rw [← work_of_script fixed k call mine, ← left]
            unfold perform
            simp only [Call.account, mine]
            rfl
      · rw [unchanged fun equal => mine (budget_account_inj equal).symm, script_of_other mine]
        exact same.symm
  | quota call =>
      rw [unchanged fun equal => Component.noConfusion (congrArg Account.component equal)]
      exact same.symm
  | admission request script =>
      rw [unchanged fun equal => Component.noConfusion (congrArg Account.component equal)]
      exact same.symm

/-- The scripts for a scope, picked from a run, leave its keys as they are after the run. -/
theorem keys_after (fixed : ∀ call : ReserveCall, (A.policy.scope_for call.tenant_id call.api_key).1 = scope →
      budget_to_micros (A.policy.budget call).budget_usd = .ok budget) (calls : List (Call S)) :
    keys_of scope (after A .empty calls) = .ok ((redis budget).run (calls.filterMap (script_of A scope))) := by
  have moves : Runs.Moves (fun s call => (perform A s call).2) (keys_of scope) (script_of A scope)
      fun keys script => keys.map fun k => RedisCall.exec budget k script := by
    constructor
    · intro s call script picked
      rw [keys_perform fixed s call, picked]
      rfl
    · intro s call picked
      rw [keys_perform fixed s call, picked]
      cases keys_of scope s <;> rfl
  have lifted : ∀ (scripts : List (RedisCall String)) (k : Keys String),
      Runs.run (fun (keys : Except Python.Error (Keys String)) script =>
        keys.map fun k => RedisCall.exec budget k script) (.ok k) scripts =
          .ok (scripts.foldl (RedisCall.exec budget) k) := by
    intro scripts
    induction scripts with
    | nil => intro k; rfl
    | cons script scripts ih => exact fun k => ih _
  exact (moves.run _ calls).trans (lifted _ Keys.empty)

variable (budget) in
/-- A script draws the id which its call has drawn. -/
theorem draws_script {call : Call S} {script : RedisCall String} (picked : script_of A scope call = some script) :
    (redis budget).draws script = (drawn call).toList := by
  cases call with
  | quota call => cases picked
  | admission request script => cases picked
  | budget call =>
      cases call with
      | reserve call clock_ms uuid lost =>
          obtain ⟨_, picked⟩ := Option.ite_none_right_eq_some.mp picked
          cases made : BudgetCall.script_args A.policy call clock_ms uuid with
          | error e =>
              rw [made] at picked
              cases picked
          | ok args =>
              rw [made] at picked
              cases picked
              exact congrArg (fun id => [id]) (script_args_ok made).2.2.2.1
      | settle reservation actual_micros clock_ms =>
          obtain ⟨_, same⟩ := Option.ite_none_right_eq_some.mp picked
          cases same
          rfl
      | purge scope' clock_ms =>
          obtain ⟨_, same⟩ := Option.ite_none_right_eq_some.mp picked
          cases same
          rfl
      | keys_expire scope' =>
          obtain ⟨_, same⟩ := Option.ite_none_right_eq_some.mp picked
          cases same
          rfl

variable (A scope budget) in
theorem drawnIds_sublist (calls : List (Call S)) :
    ((redis budget).drawnIds (calls.filterMap (script_of A scope))).Sublist (calls.filterMap drawn) := by
  induction calls with
  | nil => exact List.Sublist.refl _
  | cons call calls ih =>
      have ids : (call :: calls).filterMap drawn = (drawn call).toList ++ calls.filterMap drawn := by
        cases drew : drawn call with
        | none => exact List.filterMap_cons_none drew
        | some id => exact List.filterMap_cons_some drew
      rw [ids]
      cases picked : script_of A scope call with
      | none =>
          rw [List.filterMap_cons_none picked]
          exact ih.trans (List.sublist_append_right _ _)
      | some script =>
          rw [List.filterMap_cons_some picked, ← draws_script budget picked]
          exact (List.Sublist.refl _).append ih

/-! What the guard lets by. -/
section Granted
variable {guard : InferenceBudgetGuard} {policy : InferenceBudgetPolicy} {call : ReserveCall} {d : BudgetDecision}
  {reservation : BudgetReservation}

/-- A reservation is made out of a reply of the script which reads as a grant. -/
theorem reserve_granted {eval : ReserveArgs → Except Python.Error Value} (configured : guard.policy = some policy)
    (store : guard.store = .redis eval) (granted : guard.reserve call = .ok (d, some reservation)) :
    ∃ args reply committed reserved,
      BudgetCall.script_args policy call guard.clock_ms guard.uuid = .ok args ∧ eval args = .ok reply ∧
        readNumbers guard.text reply = .ok ⟨1, committed, reserved⟩ ∧
          reservation.scope = (policy.scope_for call.tenant_id call.api_key).1 ∧
            reservation.reservation_id = guard.uuid ∧ reservation.reserved_micros = args.estimate_micros := by
  rcases reserve_ok configured granted with ⟨nothing, _⟩ |
    ⟨estimate, result, res_id, committed, reserved, estimated, nonneg, answered, read, admitted⟩
  · cases nothing
  · unfold InferenceBudgetGuard.answer at answered
    rw [store] at answered
    obtain ⟨budget, converted, answered⟩ := bind_eq_ok.mp answered
    obtain ⟨ttl, timed, answered⟩ := bind_eq_ok.mp answered
    obtain ⟨reply, replied, answered⟩ := bind_eq_ok.mp answered
    cases answered
    obtain ⟨_, _, entered, owner, id, amount⟩ := admission_ok admitted
    cases entered
    refine ⟨_, result, committed, reserved, ?_, replied, read, owner, id, amount⟩
    exact bind_eq_ok.mpr ⟨estimate, estimated, bind_eq_ok.mpr ⟨(), raiseIf_eq_ok.mpr (not_lt.mpr nonneg),
      bind_eq_ok.mpr ⟨budget, converted, bind_eq_ok.mpr ⟨ttl, timed, rfl⟩⟩⟩⟩

end Granted

/-- The log of a run has the events of each of its calls. -/
theorem mem_log {ι State Call : Type} (B : Backend ι State Call) (before rest : List Call) (c : Call) {event : Event ι}
    (member : event ∈ B.events (B.run before) c) : event ∈ B.log (before ++ c :: rest) := by
  have from_state : ∀ before s, event ∈ B.events (before.foldl B.exec s) c →
      event ∈ B.logFrom s (before ++ c :: rest) := by
    intro before
    induction before with
    | nil => exact fun s here => List.mem_append_left _ here
    | cons first before ih => exact fun s here => List.mem_append_right _ (ih _ here)
  exact from_state before _ member

/-- The script of a reservation which the guard hands out has entered it. -/
theorem admitted_of_granted (fixed : ∀ call : ReserveCall, (A.policy.scope_for call.tenant_id call.api_key).1 = scope →
      budget_to_micros (A.policy.budget call).budget_usd = .ok budget) {k : Keys String} {call : ReserveCall}
    {clock_ms : ℤ} {uuid : String} {lost : Option Python.Error} {d : BudgetDecision} {reservation : BudgetReservation}
    (mine : (A.policy.scope_for call.tenant_id call.api_key).1 = scope)
    (granted : (BudgetCall.work A.policy A.text S k (.reserve call clock_ms uuid lost)).1 =
      .reserved (.ok (d, some reservation))) :
    ∃ script, script_of A scope (.budget (.reserve call clock_ms uuid lost)) = some script ∧
      reservation.scope = scope ∧
        .admitted reservation.reservation_id reservation.reserved_micros ∈ (redis budget).events k script := by
  obtain ⟨args, reply, committed, reserved, made, replied, numbers, owner, id, amount⟩ :=
    reserve_granted rfl rfl (Answer.reserved.inj granted)
  obtain ⟨_, nonneg, converted, drew, _⟩ := script_args_ok made
  cases converted.symm.trans (fixed call mine)
  refine ⟨_, (if_pos mine).trans (congrArg _ (congrArg Except.toOption made)), owner.trans mine, ?_⟩
  cases lost with
  | some e => cases replied
  | none =>
      cases replied
      have entered := congrArg ReserveResult.code (Except.ok.inj numbers)
      simp only [redis, RedisCall.events, Int.toNat_of_nonneg nonneg, id, amount, drew]
      rw [drew] at entered
      rw [if_pos entered]
      exact List.mem_append_right _ List.mem_cons_self

/-- On the server of all tenants, each scope stays within its own budget and the overrun of the settles of its current
window, whatever is done for the others. A reservation which the guard has handed out stands in the log of the scope of
its caller, with its id and its amount. -/
theorem fleet_within_budgets (fingerprinted : Fingerprinted A.policy) (calls : List (Call S))
    (fresh : (calls.filterMap drawn).Nodup) (tenant_id : String) (api_key : Option String)
    (named : (A.policy.scope_for tenant_id api_key).1 = scope)
    (converted : budget_to_micros (A.policy.scope_for tenant_id api_key).2.budget_usd = .ok budget)
    (nonneg : 0 ≤ budget) :
    (∃ k w, keys_of scope (after A .empty calls) = .ok k ∧ loadWindow k = some w ∧
      OverspendBound budget w.committed w.reserved ((redis budget).log (calls.filterMap (script_of A scope)))) ∧
    ∀ before call clock_ms uuid lost rest d reservation,
      calls = before ++ .budget (.reserve call clock_ms uuid lost) :: rest →
      (A.policy.scope_for call.tenant_id call.api_key).1 = scope →
      (perform A (after A .empty before) (.budget (.reserve call clock_ms uuid lost))).1 =
        .ok (.reserved (.ok (d, some reservation))) →
      reservation.scope = scope ∧ .admitted reservation.reservation_id reservation.reserved_micros ∈
        (redis budget).log (calls.filterMap (script_of A scope)) := by
  have fixed : ∀ call : ReserveCall, (A.policy.scope_for call.tenant_id call.api_key).1 = scope →
      budget_to_micros (A.policy.budget call).budget_usd = .ok budget := by
    intro call mine
    rw [InferenceBudgetPolicy.budget, scope_budget fingerprinted (mine.trans named.symm)]
    exact converted
  constructor
  · have ids := (drawnIds_sublist A scope budget calls).nodup fresh
    obtain ⟨legal, represents⟩ := (redis_refines le_rfl).legal nonneg ids
    obtain ⟨windowStart, loaded⟩ := represents.window
    exact ⟨_, _, keys_after fixed calls, loaded, overspendBound_replay nonneg _ legal⟩
  · rintro before call clock_ms uuid lost rest d reservation rfl mine answered
    have keys := keys_after fixed before
    rw [← mine] at keys
    have worked := congrArg Prod.fst ((budget_slot _).apply_of_ok
      (fun k => BudgetCall.work A.policy A.text S k (.reserve call clock_ms uuid lost)) keys)
    have granted := Except.ok.inj (worked.symm.trans answered)
    rw [mine] at granted
    obtain ⟨script, picked, owner, entered⟩ := admitted_of_granted fixed mine granted
    rw [List.filterMap_append, List.filterMap_cons_some picked]
    exact ⟨owner, mem_log _ _ _ _ entered⟩

/-! A tenant with an API key which has a budget of its own, on the server of the fleet. -/

def acmePolicy : InferenceBudgetPolicy where
  version := "1"
  default := dollarBudget
  tenants := [("acme", { dollarBudget with api_keys := [("k1", dollarBudget)] })]
  prices := [("*", ⟨dollar, dollar⟩)]
  sha256 := "sha256:0"
  api_key_fingerprint _ := "0123456789abcdef"

theorem acme_limits (tenant_id : String) :
    1 ≤ ((fun _ => ⟨1, 1, .fail_closed⟩ : String → Admission.TenantRuntimePolicy) tenant_id).max_concurrent_requests :=
  le_rfl

theorem acme_ttl : (0 : ℤ) < 30000 := by
  decide

def acmeSettings : Settings ℚ where
  text := asciiText
  policy := acmePolicy
  bundle := ⟨fun _ => ⟨1, 1, .fail_closed⟩, acme_limits⟩
  leases := ⟨30000, toString, acme_ttl⟩
  spending := Tenant.exactSpending

def acmeCall (api_key : Option String) : ReserveCall := ⟨"acme", "m", 0, 0, api_key, some dollar⟩

/-- The key and the tenant both spend a dollar, and the quota of the team is asked for. -/
def acmeCalls : List (Call ℚ) :=
  [.budget (.reserve (acmeCall (some "k1")) 1000 "r1" none), .quota (.usage_snapshot 1000 "acme"),
    .budget (.reserve (acmeCall none) 1001 "r2" none), .budget (.purge "tenant:acme" 1002)]

theorem acme_fingerprinted : Fingerprinted acmePolicy where
  long _ := show "0123456789abcdef".length = 16 by decide
  distinct tenant_id tenant known key key' budget budget' held held' _ := by
    have only : ∀ {k : String} {b : ScopeBudget}, tenant.api_keys.lookup k = some b → k = "k1" := by
      intro k b found
      simp only [acmePolicy, List.lookup_cons, List.lookup_nil] at known
      split at known
      · cases known
        simp only [List.lookup_cons, List.lookup_nil] at found
        split at found
        · next same => exact eq_of_beq same
        · cases found
      · cases known
    rw [only held, only held']

/-- The reserve script grants a dollar on keys which hold nothing. -/
theorem empty_granted (ttl : ℤ) :
    (BudgetCall.reserve_script Keys.empty ⟨1000, 3600 * 1000, 10 ^ 6, 10 ^ 6, "r1", max 1 ttl⟩).1 =
      .list [.int 1, .int 0, .int (10 ^ 6), .int (10 ^ 6), .int 0] := by
  unfold BudgetCall.reserve_script reserveLua
  dsimp only
  rw [if_neg (by omega)]
  rfl

/-- The first call is granted. -/
theorem acme_granted : ∃ d reservation,
    (perform acmeSettings .empty (.budget (.reserve (acmeCall (some "k1")) 1000 "r1" none))).1 =
      .ok (.reserved (.ok (d, some reservation))) := by
  obtain ⟨ttl, lifetime⟩ := lifetime_dollar
  let guard : InferenceBudgetGuard := ⟨asciiText, some acmePolicy,
    .redis fun args => .ok (BudgetCall.reserve_script Keys.empty args).1, 1000, "r1"⟩
  have estimated : acmePolicy.estimate (acmeCall (some "k1")) = .ok (10 ^ 6) := estimate_dollarCall
  have answered : guard.answer dollarBudget (10 ^ 6) =
      .ok (.list [.int 1, .int 0, .int (10 ^ 6), .int (10 ^ 6), .int 0], "r1") := by
    rw [← empty_granted ttl]
    change (budget_to_micros dollar >>= fun b => intTimes dollarBudget.reservation_ttl_seconds 1000 >>= fun t => _) = _
    rw [budget_dollar, bind_ok, lifetime, bind_ok]
    rfl
  have fits : FitsDouble (10 ^ 6) := charge_fits estimated
  obtain ⟨d, reservation, admitted, _⟩ := reserve_admits (show guard.policy = some acmePolicy from rfl) estimated
    (by norm_num) fits answered ⟨0, 10 ^ 6, rfl, le_rfl, by norm_num, fitsDouble_zero, fits⟩ (by rintro ⟨⟩)
  exact ⟨d, reservation, congrArg (fun outcome => Except.ok (Answer.reserved outcome)) admitted⟩

/-- The key stays within its dollar, and has what it was granted on its ledger. -/
theorem fleet_within_budgets_acme :
    (∃ k w, keys_of "key:acme:0123456789abcdef" (after acmeSettings .empty acmeCalls) = .ok k ∧ loadWindow k = some w ∧
      OverspendBound (10 ^ 6) w.committed w.reserved
        ((redis (10 ^ 6)).log (acmeCalls.filterMap (script_of acmeSettings "key:acme:0123456789abcdef")))) ∧
    ∃ d reservation, (perform acmeSettings .empty (.budget (.reserve (acmeCall (some "k1")) 1000 "r1" none))).1 =
        .ok (.reserved (.ok (d, some reservation))) ∧
      .admitted reservation.reservation_id reservation.reserved_micros ∈
        (redis (10 ^ 6)).log (acmeCalls.filterMap (script_of acmeSettings "key:acme:0123456789abcdef")) := by
  obtain ⟨within, granted⟩ := fleet_within_budgets (A := acmeSettings) acme_fingerprinted acmeCalls (by decide) "acme"
    (some "k1") rfl budget_dollar (by norm_num)
  obtain ⟨d, reservation, first⟩ := acme_granted
  exact ⟨within, d, reservation, first, (granted [] _ _ _ _ _ d reservation rfl rfl first).2⟩

end RuntimePlatform.Fleet
