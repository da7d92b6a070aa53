import RuntimePlatform.Lib.Keyspace
import RuntimePlatform.Admission.Scopes
import RuntimePlatform.Budget.Guard
import RuntimePlatform.Budget.Scripts
import RuntimePlatform.Decisions.Store
import RuntimePlatform.Tenant.Scripts

/-!
The accounts of all tenants in the one Redis of the fleet: the budgets of `budget_guard.py`, the quotas of `tenant.py`
and the leases of `admission.py`. The scripts of all replicas run one after another, each on the keys of one account.
Numbers are exact, as they are in Redis and Lua while the amounts of the budgets stay below `2 ^ 53` and the counts of
the quotas below `10 ^ 14`.
-/

namespace RuntimePlatform.Fleet
open Python Except Redis Keyspace Decisions

/-! The names of the keys. -/

/-- `_keys` of the budget guard. -/
def budget_keys (scope : String) : List String :=
  ["arp:budget:" ++ scope ++ ":window", "arp:budget:" ++ scope ++ ":reservations", "arp:budget:" ++ scope ++ ":amounts"]

def rpm_key (team : String) : String := "arp:" ++ team ++ ":rpm"

def usage_key (team : String) : String := "arp:" ++ team ++ ":usage"

def quota_keys (team : String) : List String := [rpm_key team, usage_key team]

def lease_keys (tenant_id model : String) : List String :=
  [Admission.leases_key tenant_id model, Admission.tokens_key tenant_id model, Admission.fence_key tenant_id model]

/-- A name of an account, and what the key is for. -/
def named (stem kind : String) : String := stem ++ (":" ++ kind)

/-- The three components, with the kinds of their keys. -/
inductive Component where
  | budget
  | quota
  | admission
  deriving DecidableEq

def Component.kinds : Component → List String
  | budget => ["window", "reservations", "amounts"]
  | quota => ["rpm", "usage"]
  | admission => ["leases", "tokens", "fence"]

/-- An account: a component, and what all names of its keys begin with. -/
structure Account where
  component : Component
  stem : String
  deriving DecidableEq

def Account.names (account : Account) : List String := account.component.kinds.map (named account.stem)

def budget_account (scope : String) : Account := ⟨.budget, "arp:budget:" ++ scope⟩

def quota_account (team : String) : Account := ⟨.quota, "arp:" ++ team⟩

/-- Two tenants with models of the same stem have one account for their leases. -/
def lease_account (tenant_id model : String) : Account := ⟨.admission, "arp:" ++ tenant_id ++ ":admission:" ++ model⟩

theorem budget_names (scope : String) : (budget_account scope).names = budget_keys scope := rfl

theorem quota_names (team : String) : (quota_account team).names = quota_keys team := rfl

theorem lease_names (tenant_id model : String) : (lease_account tenant_id model).names = lease_keys tenant_id model := rfl

/-- No kind has a colon. -/
theorem kind_plain (component : Component) : ∀ kind ∈ component.kinds, ':' ∉ kind.toList := by
  cases component with
  | budget => decide
  | quota => decide
  | admission => decide

/-- The components have no kind of keys in common. -/
theorem kinds_apart {component component' : Component} (differ : component ≠ component') :
    ∀ kind ∈ component.kinds, kind ∉ component'.kinds := by
  cases component with
  | budget => cases component' with
    | budget => exact absurd rfl differ
    | quota => decide
    | admission => decide
  | quota => cases component' with
    | budget => decide
    | quota => exact absurd rfl differ
    | admission => decide
  | admission => cases component' with
    | budget => decide
    | quota => decide
    | admission => exact absurd rfl differ

theorem named_inj {stem stem' kind kind' : String} (plain : ':' ∉ kind.toList) (plain' : ':' ∉ kind'.toList)
    (same : named stem kind = named stem' kind') : stem = stem' ∧ kind = kind' := by
  have chars := congrArg String.toList same
  simp only [named, String.toList_append] at chars
  have back := congrArg List.reverse chars
  simp only [List.reverse_append, List.append_assoc] at back
  obtain ⟨kinds, stems⟩ := Admission.split_at_sign (mt List.mem_reverse.mp plain) (mt List.mem_reverse.mp plain') back
  exact ⟨String.toList_inj.mp (List.reverse_inj.mp stems), String.toList_inj.mp (List.reverse_inj.mp kinds)⟩

/-- A key belongs to one account. -/
theorem account_of_name {account account' : Account} {name : String} (member : name ∈ account.names)
    (member' : name ∈ account'.names) : account = account' := by
  obtain ⟨kind, listed, rfl⟩ := List.mem_map.mp member
  obtain ⟨kind', listed', same⟩ := List.mem_map.mp member'
  obtain ⟨stem, rfl⟩ := named_inj (kind_plain _ kind' listed') (kind_plain _ kind listed) same
  have component : account.component = account'.component := by
    by_contra differ
    exact kinds_apart differ kind' listed listed'
  obtain ⟨_, _⟩ := account
  cases component
  cases stem
  rfl

theorem names_apart {account account' : Account} (differ : account ≠ account') :
    account.names.Disjoint account'.names :=
  fun _ mine theirs => differ (account_of_name mine theirs)

/-! What the keys hold. -/

/-- An entry of the keyspace, by what wrote it. -/
inductive Entry (S : Type) where
  | missing
  | window (k : Key Budget.WindowHash)
  | reservations (k : Key (ZSet String))
  | amounts (k : Key (Dict String Budget.Stored))
  | rpm (k : Key (ZSet String))
  | usage (k : Key (Option (Tenant.UsageHash S)))
  | leases (k : Key (ZSet String))
  | tokens (k : Key (Dict String String))
  | fence (k : Key ℕ)

abbrev Server (S : Type) := String → Entry S

variable {S : Type}

namespace Entry

/-- A missing key reads as an empty one, a key of another kind as an error. -/
def windows : Kind (Entry S) Python.Error (Key Budget.WindowHash) where
  wrap := window
  read
    | .missing => .ok Key.missing
    | .window k => .ok k
    | _ => .error wrongType
  read_wrap _ := rfl

def reservation_sets : Kind (Entry S) Python.Error (Key (ZSet String)) where
  wrap := reservations
  read
    | .missing => .ok Key.missing
    | .reservations k => .ok k
    | _ => .error wrongType
  read_wrap _ := rfl

def amount_hashes : Kind (Entry S) Python.Error (Key (Dict String Budget.Stored)) where
  wrap := amounts
  read
    | .missing => .ok Key.missing
    | .amounts k => .ok k
    | _ => .error wrongType
  read_wrap _ := rfl

def rpm_sets : Kind (Entry S) Python.Error (Key (ZSet String)) where
  wrap := rpm
  read
    | .missing => .ok Key.missing
    | .rpm k => .ok k
    | _ => .error wrongType
  read_wrap _ := rfl

def usage_hashes : Kind (Entry S) Python.Error (Key (Option (Tenant.UsageHash S))) where
  wrap := usage
  read
    | .missing => .ok Key.missing
    | .usage k => .ok k
    | _ => .error wrongType
  read_wrap _ := rfl

def lease_sets : Kind (Entry S) Python.Error (Key (ZSet String)) where
  wrap := leases
  read
    | .missing => .ok Key.missing
    | .leases k => .ok k
    | _ => .error wrongType
  read_wrap _ := rfl

def token_hashes : Kind (Entry S) Python.Error (Key (Dict String String)) where
  wrap := tokens
  read
    | .missing => .ok Key.missing
    | .tokens k => .ok k
    | _ => .error wrongType
  read_wrap _ := rfl

def fence_counters : Kind (Entry S) Python.Error (Key ℕ) where
  wrap := fence
  read
    | .missing => .ok Key.missing
    | .fence k => .ok k
    | _ => .error wrongType
  read_wrap _ := rfl

end Entry

/-- Two names of an account for different kinds are different. -/
theorem single_apart (stem : String) {kind kind' : String} (differ : kind ≠ kind') :
    [named stem kind].Disjoint [named stem kind'] := by
  intro name first second
  rw [List.mem_singleton] at first second
  apply differ
  have same := String.toList_inj.mpr (first.symm.trans second)
  simp only [named, String.toList_append, List.append_cancel_left_eq] at same
  exact String.toList_inj.mp same

def budget_slot (stem : String) : Slot String (Entry S) Python.Error (Budget.Keys String) :=
  ((Entry.windows.slot (named stem "window")).prod
    ((Entry.reservation_sets.slot (named stem "reservations")).prod (Entry.amount_hashes.slot (named stem "amounts"))
      (single_apart stem (by decide)))
    (List.disjoint_append_right.mpr ⟨single_apart stem (by decide), single_apart stem (by decide)⟩)).map
  { toFun := fun v => ⟨v.1, v.2.1, v.2.2⟩
    invFun := fun k => (k.window, k.reservations, k.amounts)
    left_inv := fun _ => rfl
    right_inv := fun _ => rfl }

def quota_slot (stem : String) : Slot String (Entry S) Python.Error (Tenant.TenantKeys S) :=
  ((Entry.rpm_sets.slot (named stem "rpm")).prod (Entry.usage_hashes.slot (named stem "usage"))
    (single_apart stem (by decide))).map
  { toFun := fun v => ⟨v.1, v.2⟩
    invFun := fun k => (k.rpm, k.usage)
    left_inv := fun _ => rfl
    right_inv := fun _ => rfl }

def lease_slot (stem : String) : Slot String (Entry S) Python.Error (Admission.Keys String String) :=
  ((Entry.lease_sets.slot (named stem "leases")).prod
    ((Entry.token_hashes.slot (named stem "tokens")).prod (Entry.fence_counters.slot (named stem "fence"))
      (single_apart stem (by decide)))
    (List.disjoint_append_right.mpr ⟨single_apart stem (by decide), single_apart stem (by decide)⟩)).map
  { toFun := fun v => ⟨v.1, v.2.1, v.2.2⟩
    invFun := fun k => (k.leases, k.tokens, k.fence)
    left_inv := fun _ => rfl
    right_inv := fun _ => rfl }

/-! The calls of the replicas. -/

/-- What all replicas are configured with. -/
structure Settings (S : Type) where
  text : Text
  policy : Budget.InferenceBudgetPolicy
  bundle : Admission.TenantPolicyBundle
  leases : Admission.LeaseSettings String
  spending : Tenant.Spending S

/-- A call of the budget guard. The reply to a reserve may be lost when the script has run, and the server may drop the
keys of a scope at their common deadline. -/
inductive BudgetCall where
  | reserve (call : Budget.ReserveCall) (clock_ms : ℤ) (uuid : String) (lost : Option Python.Error)
  | settle (reservation : Budget.BudgetReservation) (actual_micros clock_ms : ℤ)
  | purge (scope : String) (clock_ms : ℤ)
  | keys_expire (scope : String)

/-- A call of the tenant store, with the time and the date which it has read. -/
inductive QuotaCall (S : Type) where
  | reserve (now asked : ℤ) (team : String) (input_tokens output_tokens : ℕ) (spend_usd : S) (member_id : String)
  | refund (now asked : ℤ) (reservation : Tenant.QuotaReservation S)
  | reconcile (now asked : ℤ) (reservation : Tenant.QuotaReservation S) (input_tokens output_tokens : ℕ) (spend_usd : S)
  | usage_snapshot (now : ℤ) (team : String)
  | spend_snapshot (now : ℤ) (team : String)

inductive Call (S : Type) where
  | budget (call : BudgetCall)
  | quota (call : QuotaCall S)
  | admission (request : Admission.TenantModel) (script : Admission.Call String String)

inductive Answer (S : Type) where
  | none
  | reserved (outcome : Except Python.Error Budget.Outcome)
  | purged (reply : Budget.PurgeReply)
  | quota (reservation : Tenant.QuotaReservation S)
  | usage (tokens_today : ℤ) (spend_usd : S)
  | snapshot (requests : ℕ) (tokens_today : ℤ)
  | spend (spend_usd : S)
  | lease (answer : Admission.SectionAnswer)

namespace BudgetCall
variable (policy : Budget.InferenceBudgetPolicy)

def scope : BudgetCall → String
  | reserve call _ _ _ => (policy.scope_for call.tenant_id call.api_key).1
  | settle reservation _ _ => reservation.scope
  | purge scope _ | keys_expire scope => scope

/-- The arguments of the reserve script, where the call gets to it. -/
def script_args (call : Budget.ReserveCall) (clock_ms : ℤ) (uuid : String) : Except Python.Error Budget.ReserveArgs := do
  let estimate_micros ← policy.estimate call
  raiseIf (estimate_micros < 0) ⟨.valueError, "negative estimate"⟩
  let budget_micros ← Budget.budget_to_micros (policy.budget call).budget_usd
  let ttl ← intTimes (policy.budget call).reservation_ttl_seconds 1000
  .ok ⟨clock_ms, (policy.budget call).window_seconds * 1000, budget_micros, estimate_micros, uuid, max 1 ttl⟩

/-- The reserve script, with its reply as the client reads it. -/
def reserve_script (k : Budget.Keys String) (args : Budget.ReserveArgs) : Value × Budget.Keys String :=
  let r := Budget.reserveLua args.now_ms args.now_ms args.window_ms args.budget_micros args.estimate_micros args.res_id
    args.ttl_ms k
  (.list [.int r.1.code, .int r.1.committed, .int r.1.reserved, .int r.1.total, .int r.1.expired], r.2)

/-- `reservation.window_ms or 3_600_000` -/
def settle_window (reservation : Budget.BudgetReservation) : ℤ :=
  if reservation.window_ms = 0 then 3600000 else reservation.window_ms

/-- What a call does to the keys of its scope. -/
def work (text : Text) (S : Type) (k : Budget.Keys String) : BudgetCall → Answer S × Budget.Keys String
  | reserve call clock_ms uuid lost =>
    let eval := fun args => lost.elim (.ok (reserve_script k args).1) .error
    let guard : Budget.InferenceBudgetGuard := ⟨text, some policy, .redis eval, clock_ms, uuid⟩
    (.reserved (guard.reserve call),
      match script_args policy call clock_ms uuid with
      | .ok args => (reserve_script k args).2
      | .error _ => k)
  | settle reservation actual_micros clock_ms =>
    (.none, (Budget.settleLua reservation.reservation_id (max 0 actual_micros) clock_ms (settle_window reservation) k).2)
  | purge _ clock_ms =>
    let r := Budget.purgeLua clock_ms k
    (.purged r.1, r.2)
  | keys_expire _ => (.none, Budget.Keys.empty)

end BudgetCall

namespace QuotaCall
variable (F : Tenant.Spending S)

def team : QuotaCall S → String
  | reserve _ _ team _ _ _ _ | usage_snapshot _ team | spend_snapshot _ team => team
  | refund _ _ reservation | reconcile _ _ reservation _ _ _ => reservation.team

/-- What a call does to the keys of its team. -/
def work (k : Tenant.TenantKeys S) : QuotaCall S → Answer S × Tenant.TenantKeys S
  | reserve now asked team input_tokens output_tokens spend_usd member_id =>
    let r := Tenant.RedisTenantAttributionStore.reserve_request F (fun _ => k) now asked team input_tokens output_tokens
      spend_usd member_id
    (.quota r.2, r.1 team)
  | refund now asked reservation =>
    (.none, Tenant.RedisTenantAttributionStore.refund_reservation F (fun _ => k) now asked reservation reservation.team)
  | reconcile now asked reservation input_tokens output_tokens spend_usd =>
    let r := Tenant.RedisTenantAttributionStore.reconcile_usage F (fun _ => k) now asked reservation input_tokens
      output_tokens spend_usd
    (.usage r.2.1 r.2.2, r.1 reservation.team)
  | usage_snapshot now team =>
    let r := Tenant.RedisTenantAttributionStore.usage_snapshot (fun _ => k) now team
    (.snapshot r.1 r.2, k)
  | spend_snapshot now team => (.spend (Tenant.RedisTenantAttributionStore.spend_snapshot F (fun _ => k) now team), k)

end QuotaCall

variable (A : Settings S)

/-- The lease scripts of a tenant and a model. -/
def Settings.lease_settings (request : Admission.TenantModel) : Admission.Settings String :=
  ⟨A.leases.ttl_ms, (A.bundle.for_tenant request.tenant_id).max_concurrent_requests, A.leases.tostring⟩

def Call.account : Call S → Account
  | budget call => budget_account (call.scope A.policy)
  | quota call => quota_account call.team
  | admission request _ => lease_account request.tenant_id request.model_key

def perform (s : Server S) (call : Call S) : Except Python.Error (Answer S) × Server S :=
  let stem := (call.account A).stem
  match call with
  | .budget call => (budget_slot stem).apply (fun k => call.work A.policy A.text S k) s
  | .quota call => (quota_slot stem).apply (fun k => call.work A.spending k) s
  | .admission request script => (lease_slot stem).apply (fun k =>
      let r := (A.lease_settings request).answer k script
      (.lease r.1, r.2)) s

/-- The state after a run of calls. -/
def after (s : Server S) (calls : List (Call S)) : Server S := Runs.run (fun s call => (perform A s call).2) s calls

def Server.empty : Server S := fun _ => .missing

/-! The calls on one account. -/

theorem confined : Confined (perform A) fun call => (call.account A).names where
  answer s s' call same := by
    cases call with
    | budget call => exact ((budget_slot _).apply_congr _ same).1
    | quota call => exact ((quota_slot _).apply_congr _ same).1
    | admission request script => exact ((lease_slot _).apply_congr _ same).1
  writes s s' call same := by
    cases call with
    | budget call => exact ((budget_slot _).apply_congr _ same).2
    | quota call => exact ((quota_slot _).apply_congr _ same).2
    | admission request script => exact ((lease_slot _).apply_congr _ same).2
  frame s call name other := by
    cases call with
    | budget call => exact (budget_slot _).apply_other _ other
    | quota call => exact (quota_slot _).apply_other _ other
    | admission request script => exact (lease_slot _).apply_other _ other

/-- The keys of an account hold nothing of another kind. -/
def Loads (s : Server S) (account : Account) : Prop :=
  match account.component with
  | .budget => ∃ k, (budget_slot account.stem).load s = .ok k
  | .quota => ∃ k, (quota_slot account.stem).load s = .ok k
  | .admission => ∃ k, (lease_slot account.stem).load s = .ok k

theorem loads_empty (account : Account) : Loads (Server.empty : Server S) account := by
  obtain ⟨component, stem⟩ := account
  cases component <;> exact ⟨_, rfl⟩

theorem Loads.congr {s s' : Server S} {account : Account} (loads : Loads s account)
    (same : ∀ name ∈ account.names, s' name = s name) : Loads s' account := by
  obtain ⟨component, stem⟩ := account
  cases component with
  | budget =>
      obtain ⟨k, loaded⟩ := loads
      exact ⟨k, ((budget_slot stem).load_congr s' s same).trans loaded⟩
  | quota =>
      obtain ⟨k, loaded⟩ := loads
      exact ⟨k, ((quota_slot stem).load_congr s' s same).trans loaded⟩
  | admission =>
      obtain ⟨k, loaded⟩ := loads
      exact ⟨k, ((lease_slot stem).load_congr s' s same).trans loaded⟩

variable {A} {s : Server S}

/-- A call leaves the keys of all accounts but its own. -/
theorem perform_other {account : Account} {call : Call S} (differ : account ≠ call.account A) :
    ∀ name ∈ account.names, (perform A s call).2 name = s name := by
  intro name mine
  apply (confined A).frame
  intro theirs
  exact differ (account_of_name mine theirs)

/-- Where the keys of its account can be loaded, a call answers, and they can be loaded again. -/
theorem perform_self (call : Call S) (loads : Loads s (call.account A)) :
    (∃ answer, (perform A s call).1 = .ok answer) ∧ Loads (perform A s call).2 (call.account A) := by
  cases call with
  | budget call =>
      obtain ⟨k, loaded⟩ := loads
      exact ⟨⟨_, congrArg Prod.fst (Slot.apply_of_ok _ _ loaded)⟩, _, Slot.load_apply _ _ loaded⟩
  | quota call =>
      obtain ⟨k, loaded⟩ := loads
      exact ⟨⟨_, congrArg Prod.fst (Slot.apply_of_ok _ _ loaded)⟩, _, Slot.load_apply _ _ loaded⟩
  | admission request script =>
      obtain ⟨k, loaded⟩ := loads
      exact ⟨⟨_, congrArg Prod.fst (Slot.apply_of_ok _ _ loaded)⟩, _, Slot.load_apply _ _ loaded⟩

theorem loads_perform (call : Call S) (loads : ∀ account, Loads s account) (account : Account) :
    Loads (perform A s call).2 account := by
  by_cases mine : account = call.account A
  · rw [mine]
    exact (perform_self call (loads _)).2
  · exact (loads account).congr (perform_other mine)

/-- However the calls come, none finds a key of another kind. -/
theorem all_answered (calls : List (Call S)) (loads : ∀ account, Loads s account) :
    ∀ reply ∈ Runs.answers (perform A) (fun _ => true) s calls, ∃ answer, reply = .ok answer := by
  induction calls generalizing s with
  | nil => simp [Runs.answers]
  | cons call calls ih =>
      intro reply member
      rcases List.mem_cons.mp member with rfl | later
      · exact (perform_self call (loads _)).1
      · exact ih (loads_perform call loads) reply later

theorem budget_account_inj {scope scope' : String} (same : budget_account scope = budget_account scope') :
    scope = scope' := by
  have chars := congrArg String.toList (congrArg Account.stem same)
  simp only [budget_account, String.toList_append, List.append_cancel_left_eq] at chars
  exact String.toList_inj.mp chars

theorem quota_account_inj {team team' : String} (same : quota_account team = quota_account team') : team = team' := by
  have chars := congrArg String.toList (congrArg Account.stem same)
  simp only [quota_account, String.toList_append, List.append_cancel_left_eq] at chars
  exact String.toList_inj.mp chars

/-- The keys of different scopes, of different teams and of leases with different stems are different, and no component
has a key of another's. -/
theorem keys_apart (scope scope' team team' tenant_id model tenant_id' model' : String) :
    (scope ≠ scope' → (budget_keys scope).Disjoint (budget_keys scope')) ∧
      (team ≠ team' → (quota_keys team).Disjoint (quota_keys team')) ∧
      ((lease_account tenant_id model).stem ≠ (lease_account tenant_id' model').stem →
        (lease_keys tenant_id model).Disjoint (lease_keys tenant_id' model')) ∧
      (budget_keys scope).Disjoint (quota_keys team) ∧
      (lease_keys tenant_id model).Disjoint (budget_keys scope ++ quota_keys team) := by
  have kinds : ∀ {account account' : Account}, account.component ≠ account'.component →
      account.names.Disjoint account'.names := fun differ =>
    names_apart fun same => differ (congrArg Account.component same)
  rw [← budget_names, ← budget_names, ← quota_names, ← quota_names, ← lease_names, ← lease_names]
  constructor
  · exact fun differ => names_apart fun same => differ (budget_account_inj same)
  constructor
  · exact fun differ => names_apart fun same => differ (quota_account_inj same)
  constructor
  · exact fun differ => names_apart fun same => differ (congrArg Account.stem same)
  constructor
  · exact kinds Component.noConfusion
  · exact List.disjoint_append_right.mpr ⟨kinds Component.noConfusion, kinds Component.noConfusion⟩

variable (A) in
/-- The accounts share a server, but nothing on it. The calls for one account are answered as if those for all others
were left out, and no script ever finds a key which another component has written; the scopes of the budgets, the teams
of the quotas and the stems of the leases have their keys for themselves. -/
theorem accounts_isolated (own : Account) (calls : List (Call S)) :
    Runs.answers (perform A) (fun call => decide (call.account A = own)) Server.empty calls =
        Runs.answers (perform A) (fun call => decide (call.account A = own)) Server.empty
          (calls.filter fun call => decide (call.account A = own)) ∧
      (∀ reply ∈ Runs.answers (perform A) (fun _ => true) Server.empty calls, ∃ answer, reply = .ok answer) ∧
      ∀ scope scope' team team' tenant_id model tenant_id' model' : String,
        (scope ≠ scope' → (budget_keys scope).Disjoint (budget_keys scope')) ∧
          (team ≠ team' → (quota_keys team).Disjoint (quota_keys team')) ∧
          ((lease_account tenant_id model).stem ≠ (lease_account tenant_id' model').stem →
            (lease_keys tenant_id model).Disjoint (lease_keys tenant_id' model')) ∧
          (budget_keys scope).Disjoint (quota_keys team) ∧
          (lease_keys tenant_id model).Disjoint (budget_keys scope ++ quota_keys team) := by
  refine ⟨?_, all_answered calls loads_empty, keys_apart⟩
  exact Confined.answers_alone Account.names (fun call => call.account A) (confined A) (fun _ _ => names_apart) own
    Server.empty calls

end RuntimePlatform.Fleet
