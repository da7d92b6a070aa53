import Mathlib.Data.List.Basic

/-!
Programs which perform operations and go on with their answers, and what can be said of
every run of one. A protocol is a history kept beside a program, with what the program
owes before an operation and which answers are considered; a program which is safe for a
protocol can be run among any number of others on a shared state.
-/

namespace Coroutine

inductive Prog (Op : Type) (Ans : Op → Type) (α : Type) where
  | ret (a : α)
  | call (op : Op) (k : Ans op → Prog Op Ans α)

variable {Op : Type} {Ans : Op → Type} {α β : Type}

namespace Prog

def bind : Prog Op Ans α → (α → Prog Op Ans β) → Prog Op Ans β
  | ret a, f => f a
  | call op k, f => call op fun ans => (k ans).bind f

/-- One operation with its answer. -/
abbrev Event (Op : Type) (Ans : Op → Type) := (op : Op) × Ans op

/-- The complete runs of a program. -/
inductive Run : Prog Op Ans α → List (Event Op Ans) → α → Prop
  | ret (a : α) : Run (ret a) [] a
  | call (op : Op) (k : Ans op → Prog Op Ans α) (ans : Ans op) {trace : List (Event Op Ans)} {a : α}
      (rest : Run (k ans) trace a) : Run (call op k) (⟨op, ans⟩ :: trace) a

/-- The run in which every operation is answered by the same function. -/
def play (answer : (op : Op) → Ans op) : Prog Op Ans α → List (Event Op Ans) × α
  | ret a => ([], a)
  | call op k =>
    let rest := (k (answer op)).play answer
    (⟨op, answer op⟩ :: rest.1, rest.2)

theorem run_play (answer : (op : Op) → Ans op) (program : Prog Op Ans α) :
    Run program (program.play answer).1 (program.play answer).2 := by
  induction program with
  | ret a => exact .ret a
  | call op k ih => exact .call op k (answer op) (ih (answer op))

end Prog

open Prog

/-- A history `G` which every event extends, seen with the shared state `σ` before the event. -/
structure Protocol (σ : Type) (Op : Type) (Ans : Op → Type) (G : Type) where
  start : G
  next : σ → G → (op : Op) → Ans op → G
  /-- What is known of the shared state. -/
  known : σ → Prop
  /-- What the program has to ensure to perform the operation. -/
  must : G → Op → Prop
  /-- The answers which are considered. -/
  may : σ → G → (op : Op) → Ans op → Prop

variable {σ G L E : Type}

/-- Whatever the operations answer, the program keeps to the protocol and ends in `Q`. -/
def Safe (P : Protocol σ Op Ans G) : Prog Op Ans α → G → (α → G → Prop) → Prop
  | ret a, g, Q => Q a g
  | call op k, g, Q => P.must g op ∧
      ∀ s ans, P.known s → P.may s g op ans → Safe P (k ans) (P.next s g op ans) Q

section Safe
variable {P : Protocol σ Op Ans G}

theorem Safe.mono {program : Prog Op Ans α} {g : G} {Q R : α → G → Prop} (safe : Safe P program g Q)
    (weaker : ∀ a g', Q a g' → R a g') : Safe P program g R := by
  induction program generalizing g with
  | ret a => exact weaker a g safe
  | call op k ih => exact ⟨safe.1, fun s ans known may => ih ans (safe.2 s ans known may)⟩

theorem safe_bind {program : Prog Op Ans α} {f : α → Prog Op Ans β} {g : G} {Q : β → G → Prop} :
    Safe P (program.bind f) g Q ↔ Safe P program g fun a g' => Safe P (f a) g' Q := by
  induction program generalizing g with
  | ret a => exact Iff.rfl
  | call op k ih =>
      exact and_congr_right fun _ => forall_congr' fun s => forall_congr' fun ans =>
        forall_congr' fun _ => forall_congr' fun _ => ih ans

end Safe

/-! Programs with a local state and exceptions. The local state survives an exception. -/

/-- A handler over locals `L` which raises `E`; an operation may answer with an exception. -/
def Session (L E Op : Type) (Res : Op → Type) (α : Type) : Type :=
  L → Prog Op (fun op => Except E (Res op)) (Except E α × L)

namespace Session
variable {Res : Op → Type}

def result (a : α) : Session L E Op Res α := fun l => .ret (.ok a, l)

def raise (e : E) : Session L E Op Res α := fun l => .ret (.error e, l)

/-- A computation which performs nothing. -/
def lift (x : Except E α) : Session L E Op Res α := fun l => .ret (x, l)

/-- The continuation of a result: an exception skips the rest. -/
def continueWith (f : α → Session L E Op Res β) :
    Except E α × L → Prog Op (fun op => Except E (Res op)) (Except E β × L)
  | (.ok a, l) => f a l
  | (.error e, l) => .ret (.error e, l)

instance : Monad (Session L E Op Res) where
  pure := result
  bind m f := fun l => (m l).bind (continueWith f)

def when (c : Bool) (body : Session L E Op Res Unit) : Session L E Op Res Unit := if c then body else result ()

/-- Runs the body and hands on how it ended. -/
def attempt (body : Session L E Op Res α) : Session L E Op Res (Except E α) :=
  fun l => (body l).bind fun r => .ret (.ok r.1, r.2)

/-- `except` for the exceptions the test accepts. -/
def catching (test : E → Bool) (body : Session L E Op Res α) (handler : E → Session L E Op Res α) :
    Session L E Op Res α := do
  match ← attempt body with
  | .ok a => result a
  | .error e => if test e then handler e else raise e

/-- `finally`: an exception of the last part replaces the one of the body. -/
def finishing (body : Session L E Op Res α) (last : Session L E Op Res Unit) : Session L E Op Res α := do
  let r ← attempt body
  last
  match r with
  | .ok a => result a
  | .error e => raise e

def locals : Session L E Op Res L := fun l => .ret (.ok l, l)

def change (f : L → L) : Session L E Op Res Unit := fun l => .ret (.ok (), f l)

def perform (op : Op) : Session L E Op Res (Res op) := fun l => .call op fun ans => .ret (ans, l)

/-- What a protocol says of a handler started with given locals. -/
def Meets (P : Protocol σ Op (fun op => Except E (Res op)) G) (m : Session L E Op Res α) (l : L) (g : G)
    (Q : Except E α → L → G → Prop) : Prop := Safe P (m l) g fun r g' => Q r.1 r.2 g'

section Meets
variable {P : Protocol σ Op (fun op => Except E (Res op)) G} {l : L} {g : G}

theorem Meets.mono {m : Session L E Op Res α} {Q R : Except E α → L → G → Prop} (meets : m.Meets P l g Q)
    (weaker : ∀ r l' g', Q r l' g' → R r l' g') : m.Meets P l g R :=
  Safe.mono meets fun r g' => weaker r.1 r.2 g'

@[simp] theorem meets_pure {a : α} {Q : Except E α → L → G → Prop} :
    (pure a : Session L E Op Res α).Meets P l g Q ↔ Q (.ok a) l g := Iff.rfl

@[simp] theorem meets_result {a : α} {Q : Except E α → L → G → Prop} :
    (result a : Session L E Op Res α).Meets P l g Q ↔ Q (.ok a) l g := Iff.rfl

@[simp] theorem meets_raise {e : E} {Q : Except E α → L → G → Prop} :
    (raise e : Session L E Op Res α).Meets P l g Q ↔ Q (.error e) l g := Iff.rfl

@[simp] theorem meets_lift {x : Except E α} {Q : Except E α → L → G → Prop} :
    (lift x : Session L E Op Res α).Meets P l g Q ↔ Q x l g := Iff.rfl

@[simp] theorem meets_when {c : Bool} {body : Session L E Op Res Unit} {Q : Except E Unit → L → G → Prop} :
    (when c body).Meets P l g Q ↔ if c = true then body.Meets P l g Q else Q (.ok ()) l g := by
  cases c with
  | true => exact Iff.rfl
  | false => exact Iff.rfl

@[simp] theorem meets_locals {Q : Except E L → L → G → Prop} :
    (locals : Session L E Op Res L).Meets P l g Q ↔ Q (.ok l) l g := Iff.rfl

@[simp] theorem meets_change {f : L → L} {Q : Except E Unit → L → G → Prop} :
    (change f : Session L E Op Res Unit).Meets P l g Q ↔ Q (.ok ()) (f l) g := Iff.rfl

@[simp] theorem meets_perform {op : Op} {Q : Except E (Res op) → L → G → Prop} :
    (perform op : Session L E Op Res (Res op)).Meets P l g Q ↔ P.must g op ∧
      ∀ s ans, P.known s → P.may s g op ans → Q ans l (P.next s g op ans) := Iff.rfl

/-- What is left to show after the first part of a handler. -/
def After (P : Protocol σ Op (fun op => Except E (Res op)) G) (f : α → Session L E Op Res β)
    (Q : Except E β → L → G → Prop) : Except E α → L → G → Prop
  | .ok a, l, g => (f a).Meets P l g Q
  | .error e, l, g => Q (.error e) l g

@[simp] theorem after_ok {f : α → Session L E Op Res β} {Q : Except E β → L → G → Prop} {a : α} :
    After P f Q (.ok a) l g ↔ (f a).Meets P l g Q := Iff.rfl

@[simp] theorem after_error {f : α → Session L E Op Res β} {Q : Except E β → L → G → Prop} {e : E} :
    After P f Q (.error e) l g ↔ Q (.error e) l g := Iff.rfl

@[simp] theorem meets_bind {m : Session L E Op Res α} {f : α → Session L E Op Res β}
    {Q : Except E β → L → G → Prop} : (m >>= f).Meets P l g Q ↔ m.Meets P l g (After P f Q) := by
  change Safe P ((m l).bind (continueWith f)) g _ ↔ _
  rw [safe_bind]
  have same : ∀ (r : Except E α × L) (g' : G),
      Safe P (continueWith f r) g' (fun r g' => Q r.1 r.2 g') ↔ After P f Q r.1 r.2 g' := by
    rintro ⟨r, l'⟩ g'
    cases r with
    | ok a => exact Iff.rfl
    | error e => exact Iff.rfl
  exact ⟨fun h => Safe.mono h fun r g' => (same r g').mp, fun h => Safe.mono h fun r g' => (same r g').mpr⟩

@[simp] theorem meets_attempt {m : Session L E Op Res α} {Q : Except E (Except E α) → L → G → Prop} :
    m.attempt.Meets P l g Q ↔ m.Meets P l g fun r l' g' => Q (.ok r) l' g' := by
  change Safe P ((m l).bind _) g _ ↔ _
  rw [safe_bind]
  exact Iff.rfl

theorem meets_catching {test : E → Bool} {body : Session L E Op Res α} {handler : E → Session L E Op Res α}
    {Q : Except E α → L → G → Prop} :
    (body.catching test handler).Meets P l g Q ↔ body.Meets P l g fun r l' g' =>
      match r with
      | .ok a => Q (.ok a) l' g'
      | .error e => if test e = true then (handler e).Meets P l' g' Q else Q (.error e) l' g' := by
  unfold catching
  rw [meets_bind, meets_attempt]
  have same : ∀ (r : Except E α) (l' : L) (g' : G), After P (fun r => match r with
      | .ok a => result a
      | .error e => if test e = true then handler e else raise e) Q (.ok r) l' g' ↔
      match r with
      | .ok a => Q (.ok a) l' g'
      | .error e => if test e = true then (handler e).Meets P l' g' Q else Q (.error e) l' g' := by
    intro r l' g'
    cases r with
    | ok a => exact Iff.rfl
    | error e =>
        rw [after_ok]
        by_cases caught : test e = true
        · simp only [caught, if_true]
        · simp only [caught, if_false, meets_raise, Bool.false_eq_true]
  exact ⟨fun h => h.mono fun r l' g' => (same r l' g').mp, fun h => h.mono fun r l' g' => (same r l' g').mpr⟩

theorem meets_finishing {body : Session L E Op Res α} {last : Session L E Op Res Unit}
    {Q : Except E α → L → G → Prop} :
    (body.finishing last).Meets P l g Q ↔ body.Meets P l g fun r l' g' =>
      last.Meets P l' g' fun r' l'' g'' =>
        match r' with
        | .ok _ => Q r l'' g''
        | .error e => Q (.error e) l'' g'' := by
  unfold finishing
  rw [meets_bind, meets_attempt]
  have same : ∀ (r : Except E α) (l' : L) (g' : G), After P (fun r => do
      last
      match r with
      | .ok a => result a
      | .error e => raise e) Q (.ok r) l' g' ↔
      last.Meets P l' g' fun r' l'' g'' =>
        match r' with
        | .ok _ => Q r l'' g''
        | .error e => Q (.error e) l'' g'' := by
    intro r l' g'
    rw [after_ok, meets_bind]
    have inner : ∀ (r' : Except E Unit) (l'' : L) (g'' : G),
        After P (fun _ => match r with
          | .ok a => result a
          | .error e => raise e) Q r' l'' g'' ↔
        match r' with
        | .ok _ => Q r l'' g''
        | .error e => Q (.error e) l'' g'' := by
      intro r' l'' g''
      cases r' with
      | ok u => cases r <;> exact Iff.rfl
      | error e => exact Iff.rfl
    exact ⟨fun h => h.mono fun r l' g' => (inner r l' g').mp, fun h => h.mono fun r l' g' => (inner r l' g').mpr⟩
  exact ⟨fun h => h.mono fun r l' g' => (same r l' g').mp, fun h => h.mono fun r l' g' => (same r l' g').mpr⟩

/-- The handler keeps an assertion on locals and history, and raises only what is listed. -/
def Keeps (P : Protocol σ Op (fun op => Except E (Res op)) G) (R : L → G → Prop) (X : E → Prop)
    (m : Session L E Op Res α) : Prop :=
  ∀ l g, R l g → m.Meets P l g fun r l' g' => R l' g' ∧ ∀ e, r = .error e → X e

variable {R : L → G → Prop} {X : E → Prop}

theorem keeps_pure {a : α} : (pure a : Session L E Op Res α).Keeps P R X :=
  fun _ _ kept => ⟨kept, fun _ h => (nomatch h)⟩

theorem keeps_result {a : α} : (result a : Session L E Op Res α).Keeps P R X := keeps_pure

theorem keeps_raise {e : E} (listed : X e) : (raise e : Session L E Op Res α).Keeps P R X := by
  intro l g kept
  refine ⟨kept, fun e' h => ?_⟩
  cases h
  exact listed

theorem keeps_lift {x : Except E α} (listed : ∀ e, x = .error e → X e) :
    (lift x : Session L E Op Res α).Keeps P R X := fun _ _ kept => ⟨kept, listed⟩

theorem keeps_locals : (locals : Session L E Op Res L).Keeps P R X :=
  fun _ _ kept => ⟨kept, fun _ h => (nomatch h)⟩

theorem keeps_change {f : L → L} (stable : ∀ l g, R l g → R (f l) g) :
    (change f : Session L E Op Res Unit).Keeps P R X :=
  fun l g kept => ⟨stable l g kept, fun _ h => (nomatch h)⟩

theorem keeps_perform {op : Op}
    (stable : ∀ l g, R l g → P.must g op ∧ ∀ s ans, P.known s → P.may s g op ans →
      R l (P.next s g op ans) ∧ ∀ e, ans = .error e → X e) :
    (perform op : Session L E Op Res (Res op)).Keeps P R X := stable

theorem Keeps.bind {m : Session L E Op Res α} {f : α → Session L E Op Res β} (first : m.Keeps P R X)
    (second : ∀ a, (f a).Keeps P R X) : (m >>= f).Keeps P R X := by
  intro l g kept
  rw [meets_bind]
  refine (first l g kept).mono fun r l' g' h => ?_
  cases r with
  | ok a => exact second a l' g' h.1
  | error e => exact ⟨h.1, fun e' same => by cases same; exact h.2 e rfl⟩

/-- After a first part which keeps an assertion, the second is met from it. -/
theorem Keeps.bindMeets {m : Session L E Op Res α} {f : α → Session L E Op Res β}
    {Q : Except E β → L → G → Prop} (first : m.Keeps P R X) (kept : R l g)
    (raised : ∀ e l' g', R l' g' → X e → Q (.error e) l' g')
    (second : ∀ a l' g', R l' g' → (f a).Meets P l' g' Q) : (m >>= f).Meets P l g Q := by
  rw [meets_bind]
  refine (first l g kept).mono fun r l' g' h => ?_
  cases r with
  | ok a => exact second a l' g' h.1
  | error e => exact raised e l' g' h.1 (h.2 e rfl)

/-- The exception of an attempt, handed on as a value, is one of those listed. -/
theorem Keeps.attemptBind {m : Session L E Op Res α} {f : Except E α → Session L E Op Res β} (body : m.Keeps P R X)
    (rest : ∀ r, (∀ e, r = .error e → X e) → (f r).Keeps P R X) : (m.attempt >>= f).Keeps P R X := by
  intro l g kept
  rw [meets_bind, meets_attempt]
  exact (body l g kept).mono fun r l' g' h => rest r h.2 l' g' h.1

theorem Keeps.ite {c : Prop} [Decidable c] {m n : Session L E Op Res α} (yes : c → m.Keeps P R X)
    (no : ¬ c → n.Keeps P R X) : (if c then m else n).Keeps P R X := by
  by_cases h : c
  · rw [if_pos h]
    exact yes h
  · rw [if_neg h]
    exact no h

theorem Keeps.when {c : Bool} {m : Session L E Op Res Unit} (yes : c = true → m.Keeps P R X) :
    (when c m).Keeps P R X := Keeps.ite yes fun _ => keeps_result

theorem Keeps.catching {test : E → Bool} {body : Session L E Op Res α} {handler : E → Session L E Op Res α}
    {Y : E → Prop} (first : body.Keeps P R Y) (caught : ∀ e, test e = true → Y e → (handler e).Keeps P R X)
    (passed : ∀ e, test e = false → Y e → X e) : (body.catching test handler).Keeps P R X := by
  intro l g kept
  rw [meets_catching]
  refine (first l g kept).mono fun r l' g' h => ?_
  cases r with
  | ok a => exact ⟨h.1, fun _ same => (nomatch same)⟩
  | error e =>
      dsimp only
      by_cases tested : test e = true
      · rw [if_pos tested]
        exact caught e tested (h.2 e rfl) l' g' h.1
      · rw [if_neg tested]
        refine ⟨h.1, fun e' same => ?_⟩
        cases same
        exact passed e (Bool.eq_false_iff.mpr tested) (h.2 e rfl)

theorem Keeps.finishing {body : Session L E Op Res α} {last : Session L E Op Res Unit} (first : body.Keeps P R X)
    (second : last.Keeps P R X) : (body.finishing last).Keeps P R X := by
  intro l g kept
  refine meets_finishing.mpr ((first l g kept).mono fun r l' g' h => ?_)
  refine (second l' g' h.1).mono fun r' l'' g'' h' => ?_
  cases r' with
  | ok u => exact ⟨h'.1, h.2⟩
  | error e => exact ⟨h'.1, fun e' same => h'.2 e' (congrArg Except.error (Except.error.inj same))⟩

/-- A handler which keeps an assertion meets whatever follows from it. -/
theorem Keeps.meets {m : Session L E Op Res α} (keeps : m.Keeps P R X) (kept : R l g)
    {Q : Except E α → L → G → Prop} (weaker : ∀ r l' g', R l' g' → (∀ e, r = .error e → X e) → Q r l' g') :
    m.Meets P l g Q := (keeps l g kept).mono fun r l' g' h => weaker r l' g' h.1 h.2

/-- The handler keeps an assertion and ends with an exception. -/
def Raises (P : Protocol σ Op (fun op => Except E (Res op)) G) (R : L → G → Prop) (m : Session L E Op Res α) : Prop :=
  ∀ l g, R l g → m.Meets P l g fun r l' g' => R l' g' ∧ ∃ e, r = .error e

theorem raises_raise {e : E} : (raise e : Session L E Op Res α).Raises P R := fun _ _ kept => ⟨kept, e, rfl⟩

theorem Raises.bind {m : Session L E Op Res α} {f : α → Session L E Op Res β} (first : m.Raises P R) :
    (m >>= f).Raises P R := by
  intro l g kept
  rw [meets_bind]
  refine (first l g kept).mono fun r l' g' ends => ?_
  obtain ⟨after, e, rfl⟩ := ends
  exact ⟨after, e, rfl⟩

theorem Keeps.bindRaises {m : Session L E Op Res α} {f : α → Session L E Op Res β} (first : m.Keeps P R X)
    (second : ∀ a, (f a).Raises P R) : (m >>= f).Raises P R := fun _ _ kept =>
  first.bindMeets kept (fun e _ _ after _ => ⟨after, e, rfl⟩) fun a l' g' after => second a l' g' after

theorem Raises.ite {c : Prop} [Decidable c] {m n : Session L E Op Res α} (yes : c → m.Raises P R)
    (no : ¬ c → n.Raises P R) : (if c then m else n).Raises P R := by
  by_cases h : c
  · rw [if_pos h]
    exact yes h
  · rw [if_neg h]
    exact no h

theorem Raises.catching {test : E → Bool} {body : Session L E Op Res α} {handler : E → Session L E Op Res α}
    (first : body.Raises P R) (second : ∀ e, (handler e).Raises P R) : (body.catching test handler).Raises P R := by
  intro l g kept
  rw [meets_catching]
  refine (first l g kept).mono fun r l' g' ends => ?_
  obtain ⟨after, e, rfl⟩ := ends
  dsimp only
  by_cases tested : test e = true
  · rw [if_pos tested]
    exact second e l' g' after
  · rw [if_neg tested]
    exact ⟨after, e, rfl⟩

/-! Where only a handler which returns is of interest. -/

/-- What holds when a handler returns. -/
def Gives (Q : α → L → G → Prop) : Except E α → L → G → Prop
  | .ok a, l, g => Q a l g
  | .error _, _, _ => True

theorem Meets.gives {m : Session L E Op Res α} {Q : Except E α → L → G → Prop} {S : α → L → G → Prop}
    (meets : m.Meets P l g Q) (returned : ∀ a l' g', Q (.ok a) l' g' → S a l' g') : m.Meets P l g (Gives S) := by
  apply meets.mono
  intro r l' g' here
  cases r with
  | ok a => exact returned a l' g' here
  | error e => trivial

theorem Keeps.gives {m : Session L E Op Res α} (keeps : m.Keeps P R X) (kept : R l g) :
    m.Meets P l g (Gives fun _ => R) := Meets.gives (keeps l g kept) fun _ _ _ ends => ends.1

theorem gives_bind {m : Session L E Op Res α} {f : α → Session L E Op Res β} {Q : α → L → G → Prop}
    {S : β → L → G → Prop} (first : m.Meets P l g (Gives Q))
    (second : ∀ a l' g', Q a l' g' → (f a).Meets P l' g' (Gives S)) : (m >>= f).Meets P l g (Gives S) := by
  rw [meets_bind]
  apply first.mono
  intro r l' g' here
  cases r with
  | ok a => exact second a l' g' here
  | error e => trivial

/-- An exception handler which always raises. -/
theorem gives_catching {test : E → Bool} {body : Session L E Op Res α} {handler : E → Session L E Op Res α}
    {Q : α → L → G → Prop} (first : body.Meets P l g (Gives Q)) (always : ∀ l g, R l g)
    (raises : ∀ e, (handler e).Raises P R) : (body.catching test handler).Meets P l g (Gives Q) := by
  rw [meets_catching]
  apply first.mono
  intro r l' g' here
  cases r with
  | ok a => exact here
  | error e =>
      dsimp only
      split
      · apply Meets.mono (raises e l' g' (always l' g'))
        rintro r l'' g'' ⟨_, e', rfl⟩
        trivial
      · trivial

end Meets
end Session

/-! One program alone. -/
section Alone
variable {P : Protocol Unit Op Ans G}

/-- The history after a trace. -/
def Protocol.replay (P : Protocol Unit Op Ans G) : G → List (Event Op Ans) → G
  | g, [] => g
  | g, e :: trace => P.replay (P.next () g e.1 e.2) trace

/-- All answers of the trace are considered. -/
def Protocol.Considers (P : Protocol Unit Op Ans G) : G → List (Event Op Ans) → Prop
  | _, [] => True
  | g, e :: trace => P.may () g e.1 e.2 ∧ P.Considers (P.next () g e.1 e.2) trace

instance decidableConsiders [∀ s g op ans, Decidable (P.may s g op ans)] :
    (g : G) → (trace : List (Event Op Ans)) → Decidable (P.Considers g trace)
  | _, [] => .isTrue trivial
  | g, e :: trace =>
    have := decidableConsiders (P.next () g e.1 e.2) trace
    inferInstanceAs (Decidable (_ ∧ _))

theorem Safe.run {program : Prog Op Ans α} {g : G} {Q : α → G → Prop} (safe : Safe P program g Q)
    (known : P.known ()) {trace : List (Event Op Ans)} {a : α} (run : program.Run trace a)
    (considered : P.Considers g trace) : Q a (P.replay g trace) := by
  induction run generalizing g with
  | ret a => exact safe
  | call op k ans rest ih => exact ih (safe.2 () ans known considered.1) considered.2

/-- What the operations which keep to the protocol preserve holds of the history of every run. -/
theorem Safe.history {program : Prog Op Ans α} {g : G} {Q : α → G → Prop} (safe : Safe P program g Q)
    (known : P.known ()) {trace : List (Event Op Ans)} {a : α} (run : program.Run trace a)
    (considered : P.Considers g trace) {I : G → Prop} (first : I g)
    (next : ∀ g op ans, I g → P.must g op → I (P.next () g op ans)) : I (P.replay g trace) := by
  induction run generalizing g with
  | ret a => exact first
  | call op k ans rest ih => exact ih (safe.2 () ans known considered.1) considered.2 (next g op ans first safe.1)

end Alone

/-! Many programs on one shared state. -/

/-- What an operation with its answer does to the shared state, if it can have that answer. -/
abbrev Exec (Env σ Op : Type) (Ans : Op → Type) := Env → σ → (op : Op) → Ans op → Option σ

structure Task (Op : Type) (Ans : Op → Type) (α G : Type) where
  todo : Prog Op Ans α
  history : G

structure Pool (σ Op : Type) (Ans : Op → Type) (α G : Type) where
  shared : σ
  tasks : List (Task Op Ans α G)

variable {Env : Type}

/-- A new task starts, or one task performs its next operation. -/
inductive Step (exec : Exec Env σ Op Ans) (P : Protocol σ Op Ans G) (starts : Prog Op Ans α → Prop) :
    Pool σ Op Ans α G → Pool σ Op Ans α G → Prop
  | start {s : σ} {tasks : List (Task Op Ans α G)} {program : Prog Op Ans α} (new : starts program) :
      Step exec P starts ⟨s, tasks⟩ ⟨s, tasks ++ [⟨program, P.start⟩]⟩
  | perform {s s' : σ} {before after : List (Task Op Ans α G)} {op : Op} {k : Ans op → Prog Op Ans α} {g : G}
      (env : Env) (ans : Ans op) (may : P.may s g op ans) (done : exec env s op ans = some s') :
      Step exec P starts ⟨s, before ++ ⟨.call op k, g⟩ :: after⟩
        ⟨s', before ++ ⟨k ans, P.next s g op ans⟩ :: after⟩

inductive Reach (exec : Exec Env σ Op Ans) (P : Protocol σ Op Ans G) (starts : Prog Op Ans α → Prop) (s₀ : σ) :
    Pool σ Op Ans α G → Prop
  | init : Reach exec P starts s₀ ⟨s₀, []⟩
  | step {p q : Pool σ Op Ans α G} (reached : Reach exec P starts s₀ p) (step : Step exec P starts p q) :
      Reach exec P starts s₀ q

/-- The task has come to its end. -/
def Task.Ended (t : Task Op Ans α G) : Prop := ∃ a, t.todo = .ret a

section Pool
variable {exec : Exec Env σ Op Ans} {P : Protocol σ Op Ans G} {starts : Prog Op Ans α → Prop} {s₀ : σ}
  {Q : α → G → Prop}

/-- Every operation which keeps to the protocol preserves what is known. -/
def Stable (exec : Exec Env σ Op Ans) (P : Protocol σ Op Ans G) : Prop :=
  ∀ env s s' g op ans, P.known s → P.must g op → P.may s g op ans → exec env s op ans = some s' → P.known s'

/-- In every reachable pool each task is safe for what is left of it. -/
theorem Reach.safe (known : P.known s₀) (stable : Stable exec P)
    (begin_ : ∀ program, starts program → Safe P program P.start Q)
    {p : Pool σ Op Ans α G} (reached : Reach exec P starts s₀ p) :
    P.known p.shared ∧ ∀ t ∈ p.tasks, Safe P t.todo t.history Q := by
  induction reached with
  | init => exact ⟨known, fun t member => absurd member List.not_mem_nil⟩
  | step reached step ih =>
      obtain ⟨known, safe⟩ := ih
      cases step with
      | start new =>
          refine ⟨known, fun t member => ?_⟩
          rcases List.mem_append.mp member with old | fresh
          · exact safe t old
          · rw [List.mem_singleton.mp fresh]
            exact begin_ _ new
      | perform env ans may done =>
          have this := safe _ (List.mem_append_right _ List.mem_cons_self)
          refine ⟨stable _ _ _ _ _ _ known this.1 may done, fun t member => ?_⟩
          rcases List.mem_append.mp member with left | right
          · exact safe t (List.mem_append_left _ left)
          · rcases List.mem_cons.mp right with rfl | rest
            · exact this.2 _ ans known may
            · exact safe t (List.mem_append_right _ (List.mem_cons_of_mem _ rest))

/-- A relation between the shared state and the histories of all tasks, from its
preservation by the operations of one task. -/
theorem Reach.linked (known : P.known s₀) (stable : Stable exec P)
    (begin_ : ∀ program, starts program → Safe P program P.start Q) {J : σ → List G → Prop} (empty : J s₀ [])
    (fresh : ∀ s gs, J s gs → J s (gs ++ [P.start]))
    (next : ∀ env s s' before after g op ans, P.known s → P.must g op → P.may s g op ans →
      exec env s op ans = some s' → J s (before ++ g :: after) → J s' (before ++ P.next s g op ans :: after))
    {p : Pool σ Op Ans α G} (reached : Reach exec P starts s₀ p) :
    J p.shared (p.tasks.map Task.history) := by
  induction reached with
  | init => exact empty
  | step reached step ih =>
      obtain ⟨known, safe⟩ := reached.safe known stable begin_
      cases step with
      | start new =>
          rw [List.map_append]
          exact fresh _ _ ih
      | perform env ans may done =>
          have this := safe _ (List.mem_append_right _ List.mem_cons_self)
          rw [List.map_append, List.map_cons] at ih ⊢
          exact next env _ _ _ _ _ _ ans known this.1 may done ih

/-- Runs a trace of one task against the shared state, with one environment. -/
def drive (exec : Exec Env σ Op Ans) (P : Protocol σ Op Ans G) [∀ s g op ans, Decidable (P.may s g op ans)]
    (env : Env) : σ → G → List (Event Op Ans) → Option (σ × G)
  | s, g, [] => some (s, g)
  | s, g, e :: trace =>
    if P.may s g e.1 e.2 then
      (exec env s e.1 e.2).bind fun s' => drive exec P env s' (P.next s g e.1 e.2) trace
    else none

/-- A task which runs alone to its end stays in the reachable pools. -/
theorem Reach.driven [∀ s g op ans, Decidable (P.may s g op ans)] {env : Env} {program : Prog Op Ans α}
    {trace : List (Event Op Ans)} {a : α} (before after : List (Task Op Ans α G)) (run : program.Run trace a)
    {s s' : σ} {g g' : G} (driven : drive exec P env s g trace = some (s', g'))
    (reached : Reach exec P starts s₀ ⟨s, before ++ ⟨program, g⟩ :: after⟩) :
    Reach exec P starts s₀ ⟨s', before ++ ⟨.ret a, g'⟩ :: after⟩ := by
  induction run generalizing s g with
  | ret a =>
      cases driven
      exact reached
  | call op k ans rest ih =>
      unfold drive at driven
      by_cases may : P.may s g op ans
      · rw [if_pos may, Option.bind_eq_some_iff] at driven
        obtain ⟨s₁, done, driven⟩ := driven
        exact ih driven (reached.step (.perform env ans may done))
      · rw [if_neg may] at driven
        cases driven

/-- A task which has run a part of a trace stands before the next operation of it. -/
theorem Reach.paused [∀ s g op ans, Decidable (P.may s g op ans)] {env : Env} {program : Prog Op Ans α}
    {done rest : List (Event Op Ans)} {e : Event Op Ans} {a : α} (before after : List (Task Op Ans α G))
    (run : program.Run (done ++ e :: rest) a) {s s' : σ} {g g' : G} (driven : drive exec P env s g done = some (s', g'))
    (reached : Reach exec P starts s₀ ⟨s, before ++ ⟨program, g⟩ :: after⟩) :
    ∃ k, Reach exec P starts s₀ ⟨s', before ++ ⟨.call e.1 k, g'⟩ :: after⟩ := by
  induction done generalizing program s g with
  | nil =>
      cases driven
      cases run with
      | call op k ans rest => exact ⟨k, reached⟩
  | cons first later ih =>
      unfold drive at driven
      cases run with
      | call op k ans rest =>
          by_cases may : P.may s g op ans
          · rw [if_pos may, Option.bind_eq_some_iff] at driven
            obtain ⟨s₁, step, driven⟩ := driven
            exact ih rest driven (reached.step (.perform env ans may step))
          · rw [if_neg may] at driven
            cases driven

/-- A single task, run to its end with fixed answers. -/
theorem Reach.alone [∀ s g op ans, Decidable (P.may s g op ans)] {env : Env} {program : Prog Op Ans α}
    (new : starts program) (answer : (op : Op) → Ans op) {s' : σ} {g' : G}
    (driven : drive exec P env s₀ P.start (program.play answer).1 = some (s', g')) :
    Reach exec P starts s₀ ⟨s', [⟨.ret (program.play answer).2, g'⟩]⟩ :=
  Reach.driven [] [] (run_play answer program) driven (Reach.init.step (.start new))

end Pool
end Coroutine
