import RuntimePlatform.Fleet.Accounts

/-!
The server of the fleet refines the stores of its components: the budgets by scope, the tenant store by team, and the
leases by what their keys begin with. Each of the stores is as if it had a server of its own, on which there is no key
of another kind.
-/

namespace RuntimePlatform.Fleet
open Python Except Redis Keyspace

variable {S : Type}

/-- The stores of the components. -/
structure Stores (S : Type) where
  budgets : String → Budget.Keys String
  tenants : Tenant.RedisTenantAttributionStore S
  leases : String → Admission.Keys String String

namespace Stores

def empty : Stores S := ⟨fun _ => Budget.Keys.empty, Tenant.RedisTenantAttributionStore.empty, fun _ => .empty⟩

/-- A call of the tenant store. -/
def quota (F : Tenant.Spending S) (store : Tenant.RedisTenantAttributionStore S) :
    QuotaCall S → Answer S × Tenant.RedisTenantAttributionStore S
  | .reserve now asked team input_tokens output_tokens spend_usd member_id =>
    let r := Tenant.RedisTenantAttributionStore.reserve_request F store now asked team input_tokens output_tokens
      spend_usd member_id
    (.quota r.2, r.1)
  | .refund now asked reservation =>
    (.none, Tenant.RedisTenantAttributionStore.refund_reservation F store now asked reservation)
  | .reconcile now asked reservation input_tokens output_tokens spend_usd =>
    let r := Tenant.RedisTenantAttributionStore.reconcile_usage F store now asked reservation input_tokens output_tokens
      spend_usd
    (.usage r.2.1 r.2.2, r.1)
  | .usage_snapshot now team =>
    let r := Tenant.RedisTenantAttributionStore.usage_snapshot store now team
    (.snapshot r.1 r.2, store)
  | .spend_snapshot now team => (.spend (Tenant.RedisTenantAttributionStore.spend_snapshot F store now team), store)

variable (A : Settings S)

def perform (stores : Stores S) : Call S → Answer S × Stores S
  | .budget call =>
    let r := call.work A.policy A.text S (stores.budgets (call.scope A.policy))
    (r.1, { stores with budgets := Function.update stores.budgets (call.scope A.policy) r.2 })
  | .quota call =>
    let r := quota A.spending stores.tenants call
    (r.1, { stores with tenants := r.2 })
  | .admission request script =>
    let stem := (lease_account request.tenant_id request.model_key).stem
    let r := (A.lease_settings request).answer (stores.leases stem) script
    (.lease r.1, { stores with leases := Function.update stores.leases stem r.2 })

end Stores

/-- A call of the tenant store works on the keys of its team alone. -/
theorem quota_local (F : Tenant.Spending S) (store : Tenant.RedisTenantAttributionStore S) (call : QuotaCall S) :
    (Stores.quota F store call).1 = (call.work F (store call.team)).1 ∧
      (Stores.quota F store call).2 = Function.update store call.team (call.work F (store call.team)).2 := by
  cases call with
  | reserve now asked team input_tokens output_tokens spend_usd member_id =>
      refine ⟨rfl, ?_⟩
      simp only [Stores.quota, QuotaCall.work, Tenant.RedisTenantAttributionStore.reserve_request, Function.update_self,
        QuotaCall.team]
  | refund now asked reservation =>
      refine ⟨rfl, ?_⟩
      simp only [Stores.quota, QuotaCall.work, Tenant.RedisTenantAttributionStore.refund_reservation,
        Function.update_self, QuotaCall.team]
  | reconcile now asked reservation input_tokens output_tokens spend_usd =>
      refine ⟨rfl, ?_⟩
      simp only [Stores.quota, QuotaCall.work, Tenant.RedisTenantAttributionStore.reconcile_usage,
        Function.update_self, QuotaCall.team]
  | usage_snapshot now team => exact ⟨rfl, (Function.update_eq_self team store).symm⟩
  | spend_snapshot now team => exact ⟨rfl, (Function.update_eq_self team store).symm⟩

/-- The server holds what the stores hold. -/
structure Serves (s : Server S) (stores : Stores S) : Prop where
  budgets : ∀ scope, (budget_slot (budget_account scope).stem).load s = .ok (stores.budgets scope)
  tenants : ∀ team, (quota_slot (quota_account team).stem).load s = .ok (stores.tenants team)
  leases : ∀ stem, (lease_slot stem).load s = .ok (stores.leases stem)

theorem serves_empty : Serves (Server.empty : Server S) Stores.empty := ⟨fun _ => rfl, fun _ => rfl, fun _ => rfl⟩

section Steps
variable {A : Settings S} {s : Server S} {stores : Stores S}

/-- The keys of the accounts which a call is not for are as they were. -/
theorem Serves.others (serves : Serves s stores) (call : Call S) :
    (∀ scope, budget_account scope ≠ call.account A →
      (budget_slot (budget_account scope).stem).load (perform A s call).2 = .ok (stores.budgets scope)) ∧
    (∀ team, quota_account team ≠ call.account A →
      (quota_slot (quota_account team).stem).load (perform A s call).2 = .ok (stores.tenants team)) ∧
    ∀ stem, (⟨.admission, stem⟩ : Account) ≠ call.account A →
      (lease_slot stem).load (perform A s call).2 = .ok (stores.leases stem) := by
  refine ⟨fun scope differ => ?_, fun team differ => ?_, fun stem differ => ?_⟩
  · exact ((budget_slot _).load_congr _ _ (perform_other differ)).trans (serves.budgets scope)
  · exact ((quota_slot _).load_congr _ _ (perform_other differ)).trans (serves.tenants team)
  · have same : ∀ name ∈ (lease_slot stem : Slot String (Entry S) Python.Error _).names,
        (perform A s call).2 name = s name := perform_other differ
    exact ((lease_slot stem).load_congr _ _ same).trans (serves.leases stem)

/-- A call answers as its store does, and the server goes on holding what the stores hold. -/
theorem Serves.perform (serves : Serves s stores) (call : Call S) :
    (perform A s call).1 = .ok (stores.perform A call).1 ∧ Serves (perform A s call).2 (stores.perform A call).2 := by
  obtain ⟨budgets, tenants, leases⟩ := serves.others (A := A) call
  have components : ∀ {account account' : Account}, account.component ≠ account'.component → account ≠ account' :=
    fun differ same => differ (congrArg Account.component same)
  cases call with
  | budget call =>
      have loaded := serves.budgets (call.scope A.policy)
      refine ⟨congrArg Prod.fst (Slot.apply_of_ok _ _ loaded), fun scope => ?_, fun team => ?_, fun stem => ?_⟩
      · by_cases own : scope = call.scope A.policy
        · rw [own]
          refine (Slot.load_apply _ _ loaded).trans (congrArg Except.ok ?_)
          exact (Function.update_self _ _ stores.budgets).symm
        · rw [budgets scope fun same => own (budget_account_inj same)]
          exact congrArg Except.ok (Function.update_of_ne own _ _).symm
      · exact tenants team (components Component.noConfusion)
      · exact leases stem (components Component.noConfusion)
  | quota call =>
      have loaded := serves.tenants call.team
      obtain ⟨same_answer, same_store⟩ := quota_local A.spending stores.tenants call
      refine ⟨?_, fun scope => ?_, fun team => ?_, fun stem => ?_⟩
      · exact (congrArg Prod.fst (Slot.apply_of_ok _ _ loaded)).trans (congrArg Except.ok same_answer.symm)
      · exact budgets scope (components Component.noConfusion)
      · change _ = Except.ok ((Stores.quota A.spending stores.tenants call).2 team)
        rw [same_store]
        by_cases own : team = call.team
        · rw [own, Function.update_self]
          exact Slot.load_apply _ _ loaded
        · rw [Function.update_of_ne own]
          exact tenants team fun same => own (quota_account_inj same)
      · exact leases stem (components Component.noConfusion)
  | admission request script =>
      have loaded := serves.leases (lease_account request.tenant_id request.model_key).stem
      refine ⟨congrArg Prod.fst (Slot.apply_of_ok _ _ loaded), fun scope => ?_, fun team => ?_, fun stem => ?_⟩
      · exact budgets scope (components Component.noConfusion)
      · exact tenants team (components Component.noConfusion)
      · by_cases own : stem = (lease_account request.tenant_id request.model_key).stem
        · rw [own]
          refine (Slot.load_apply _ _ loaded).trans (congrArg Except.ok ?_)
          exact (Function.update_self _ _ stores.leases).symm
        · rw [leases stem fun same => own (congrArg Account.stem same)]
          exact congrArg Except.ok (Function.update_of_ne own _ _).symm

end Steps

/-- Whatever the replicas call in whatever order, the server answers as the stores do, each on its own, and holds what
they hold; no call finds a key of another kind. -/
theorem fleet_refines (A : Settings S) (calls : List (Call S)) :
    Runs.answers (perform A) (fun _ => true) Server.empty calls =
        (Runs.answers (Stores.perform A) (fun _ => true) Stores.empty calls).map .ok ∧
      Serves (after A .empty calls) (Runs.run (fun stores call => (stores.perform A call).2) Stores.empty calls) :=
  Runs.answers_simulated Except.ok (fun _ _ call serves => serves.perform call) serves_empty calls

end RuntimePlatform.Fleet
