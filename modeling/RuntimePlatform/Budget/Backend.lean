import RuntimePlatform.Budget.Ledger

/-!
A backend of the budget guard: a state, the calls made on it, and the ledger events
each call causes. A backend which refines the ledger call by call refines it over
whole runs, whatever the interleaving of the callers.
-/

namespace RuntimePlatform.Budget
open Ledger

structure Backend (ι State Call : Type) where
  init : State
  exec : State → Call → State
  events : State → Call → List (Event ι)
  /-- The reservation id a call draws, whether it is then admitted or not. -/
  draws : Call → List ι

namespace Backend
variable {ι State Call : Type} (B : Backend ι State Call)

/-- The state after a run of calls. -/
def run (calls : List Call) : State := calls.foldl B.exec B.init

def logFrom : State → List Call → List (Event ι)
  | _, [] => []
  | s, c :: calls => B.events s c ++ logFrom (B.exec s c) calls

/-- All events of a run, oldest first. -/
def log (calls : List Call) : List (Event ι) := B.logFrom B.init calls

def drawnIds (calls : List Call) : List ι := calls.flatMap B.draws

variable [DecidableEq ι]

/-- The ledger of a run. -/
def ledger (calls : List Call) : Ledger ι := Ledger.empty.replay (B.log calls)

/-- What one call must do to the ledger its state represents. -/
def Keeps (cap : ℤ) (Represents : State → Ledger ι → Prop) (s : State) (L : Ledger ι)
    (c : Call) : Prop :=
  LegalLog cap L (B.events s c) ∧ Represents (B.exec s c) (L.replay (B.events s c))

structure Refines (cap : ℤ) (Represents : State → Ledger ι → Prop) : Prop where
  init : Represents B.init Ledger.empty
  keeps : ∀ s L c, L.Sound cap → Represents s L → (∀ id ∈ B.draws c, id ∉ L.issued) →
    B.Keeps cap Represents s L c
  admits : ∀ s c id estimate, .admitted id estimate ∈ B.events s c → id ∈ B.draws c

variable {B} {cap : ℤ} {Represents : State → Ledger ι → Prop}

theorem Refines.runFrom (refines : B.Refines cap Represents) (calls : List Call) {s : State}
    {L : Ledger ι} (sound : L.Sound cap) (rep : Represents s L) (nodup : (B.drawnIds calls).Nodup)
    (fresh : ∀ id ∈ B.drawnIds calls, id ∉ L.issued) :
    LegalLog cap L (B.logFrom s calls) ∧
      Represents (calls.foldl B.exec s) (L.replay (B.logFrom s calls)) := by
  induction calls generalizing s L with
  | nil => exact ⟨trivial, rep⟩
  | cons c calls ih =>
      simp only [drawnIds, List.flatMap_cons] at nodup fresh
      obtain ⟨_, rest, apart⟩ := List.nodup_append.mp nodup
      obtain ⟨legal, rep'⟩ := refines.keeps s L c sound rep
        fun id member => fresh id (List.mem_append_left _ member)
      have fresh' : ∀ id ∈ B.drawnIds calls, id ∉ (L.replay (B.events s c)).issued := by
        intro id member issued
        rcases issued_replay L _ issued with old | ⟨estimate, admitted⟩
        · exact fresh id (List.mem_append_right _ member) old
        · exact apart id (refines.admits s c id estimate admitted) id member rfl
      obtain ⟨legal', rep''⟩ := ih (sound.replay legal) rep' rest fresh'
      simp only [logFrom, List.foldl_cons]
      rw [replay_append]
      exact ⟨legalLog_append.mpr ⟨legal, legal'⟩, rep''⟩

/-- Every run whose ids are drawn once keeps a legal log, and its state represents the ledger. -/
theorem Refines.legal (refines : B.Refines cap Represents) (nonneg : 0 ≤ cap) {calls : List Call}
    (fresh : (B.drawnIds calls).Nodup) :
    LegalLog cap Ledger.empty (B.log calls) ∧ Represents (B.run calls) (B.ledger calls) :=
  refines.runFrom calls (sound_empty nonneg) refines.init fresh fun _ _ => Finset.notMem_empty _

theorem Refines.run (refines : B.Refines cap Represents) (nonneg : 0 ≤ cap) {calls : List Call}
    (fresh : (B.drawnIds calls).Nodup) :
    (B.ledger calls).Sound cap ∧ Represents (B.run calls) (B.ledger calls) := by
  obtain ⟨legal, rep⟩ := refines.legal nonneg fresh
  exact ⟨(sound_empty nonneg).replay legal, rep⟩

/-- No reservation id is charged twice in a run. -/
theorem Refines.charged_once (refines : B.Refines cap Represents) (nonneg : 0 ≤ cap)
    {calls : List Call} (fresh : (B.drawnIds calls).Nodup) :
    (((B.log calls).filterMap Event.charge?).map Prod.fst).Nodup := by
  rw [← List.nodup_reverse, ← List.map_reverse, ← List.filterMap_reverse, ← settled_replay]
  exact (refines.run nonneg fresh).1.settled_once

end Backend
end RuntimePlatform.Budget
