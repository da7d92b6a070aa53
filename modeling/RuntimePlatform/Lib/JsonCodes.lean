import RuntimePlatform.Lib.JsonReading

/-!
Where the code points of a value come from: from the characters of its text and from escapes.
-/

namespace Json

/-! The code points of the strings. -/

section Codes
variable (P : ℕ → Prop)

mutual
/-- All code points of all strings in the value, the keys among them, are such. -/
def EveryCode : Json → Prop
  | .atom _ => True
  | .str codes => ∀ n ∈ codes, P n
  | .arr items => AllEveryCode items
  | .obj members => MembersEveryCode members
def AllEveryCode : List Json → Prop
  | [] => True
  | v :: rest => EveryCode v ∧ AllEveryCode rest
def MembersEveryCode : List (List ℕ × Json) → Prop
  | [] => True
  | (key, v) :: rest => (∀ n ∈ key, P n) ∧ EveryCode v ∧ MembersEveryCode rest
end

def Frame.EveryCode : Frame → Prop
  | .items done => AllEveryCode P done
  | .member done key => MembersEveryCode P done ∧ ∀ n ∈ key, P n

def Mode.EveryCode : Mode → Prop
  | .value _ => True
  | .key _ done => MembersEveryCode P done
  | .colon done codes => MembersEveryCode P done ∧ ∀ n ∈ codes, P n
  | .text s => ∀ n ∈ s.units, P n
  | .keyText done s => MembersEveryCode P done ∧ ∀ n ∈ s.units, P n
  | .atom _ => True
  | .after v => Json.EveryCode P v
  | .failed => True

/-- The code points which lie in the role of a string: those of the members before its key. -/
def Role.EveryCode : Role → Prop
  | .value => True
  | .key done => MembersEveryCode P done

structure Reader.EveryCode (r : Reader) : Prop where
  stack : ∀ frame ∈ r.stack, frame.EveryCode P
  mode : r.mode.EveryCode P

variable {P}

theorem allEveryCode_iff {items : List Json} : AllEveryCode P items ↔ ∀ v ∈ items, v.EveryCode P := by
  induction items with
  | nil => simp [AllEveryCode]
  | cons v rest ih => rw [AllEveryCode, ih, List.forall_mem_cons]

theorem membersEveryCode_iff {members : Members} : MembersEveryCode P members ↔
    ∀ member ∈ members, (∀ n ∈ member.1, P n) ∧ member.2.EveryCode P := by
  induction members with
  | nil => simp [MembersEveryCode]
  | cons member rest ih => rw [MembersEveryCode, ih, List.forall_mem_cons, and_assoc]

theorem allEveryCode_concat {items : List Json} {v : Json} :
    AllEveryCode P (items ++ [v]) ↔ AllEveryCode P items ∧ v.EveryCode P := by
  rw [allEveryCode_iff, allEveryCode_iff, List.forall_mem_append, List.forall_mem_singleton]

theorem membersEveryCode_concat {members : Members} {key : List ℕ} {v : Json} :
    MembersEveryCode P (members ++ [(key, v)]) ↔
      MembersEveryCode P members ∧ (∀ n ∈ key, P n) ∧ v.EveryCode P := by
  rw [membersEveryCode_iff, membersEveryCode_iff, List.forall_mem_append, List.forall_mem_singleton]

/-- Halves of characters are such, and so are the characters put together from two. -/
structure KeepsPairs (P : ℕ → Prop) : Prop where
  half : ∀ n, isHigh n = true ∨ isLow n = true → P n
  joined : ∀ n, 0x10000 ≤ n → P n

theorem KeepsPairs.joinPairs_iff (pairs : KeepsPairs P) (units : List ℕ) :
    (∀ n ∈ joinPairs units, P n) ↔ ∀ n ∈ units, P n := by
  fun_induction joinPairs units with
  | case1 high low rest both ih =>
      have whole := pairs.joined (0x10000 + (high - 0xd800) * 1024 + (low - 0xdc00)) (by omega)
      simp only [List.forall_mem_cons, ih, whole, pairs.half high (Or.inl both.1), pairs.half low (Or.inr both.2),
        true_and]
  | case2 high low rest other ih => rw [List.forall_mem_cons, ih, List.forall_mem_cons (l := low :: rest)]
  | case3 codes short => rfl

namespace Reader
variable {stack : List Frame} {c : Char}

theorem everyCode_fail : fail.EveryCode P := ⟨fun _ impossible => absurd impossible List.not_mem_nil, trivial⟩

theorem everyCode_mk {mode : Mode} : (Reader.mk stack mode).EveryCode P ↔
    (∀ frame ∈ stack, frame.EveryCode P) ∧ mode.EveryCode P :=
  ⟨fun h => ⟨h.stack, h.mode⟩, fun h => ⟨h.1, h.2⟩⟩

theorem everyCode_inside {role : Role} {s : Partial} : (Reader.mk stack (role.inside s)).EveryCode P ↔
    (∀ frame ∈ stack, frame.EveryCode P) ∧ role.EveryCode P ∧ ∀ n ∈ s.units, P n := by
  rw [everyCode_mk]
  cases role with
  | value => exact and_congr_right fun _ => (and_iff_right trivial).symm
  | key done => exact Iff.rfl

theorem everyCode_ended {role : Role} {codes : List ℕ} : (Reader.mk stack (role.ended codes)).EveryCode P ↔
    (∀ frame ∈ stack, frame.EveryCode P) ∧ role.EveryCode P ∧ ∀ n ∈ codes, P n := by
  rw [everyCode_mk]
  cases role with
  | value => exact and_congr_right fun _ => (and_iff_right trivial).symm
  | key done => exact Iff.rfl

/-- A comma or a bracket puts the value where it belongs. -/
theorem everyCode_continue (v : Json) : continue_ stack v c = fail ∨
    ((continue_ stack v c).EveryCode P ↔ (∀ frame ∈ stack, frame.EveryCode P) ∧ v.EveryCode P) := by
  cases stack with
  | nil =>
      simp only [continue_]
      split_ifs
      · exact Or.inr everyCode_mk
      · exact Or.inl rfl
  | cons frame outer =>
      cases frame with
      | items done =>
          simp only [continue_]
          split_ifs
          · exact Or.inr everyCode_mk
          · refine Or.inr (everyCode_mk.trans ?_)
            simp only [List.forall_mem_cons, Frame.EveryCode, Mode.EveryCode, allEveryCode_concat]
            tauto
          · refine Or.inr (everyCode_mk.trans ?_)
            simp only [List.forall_mem_cons, Frame.EveryCode, Mode.EveryCode, Json.EveryCode, allEveryCode_concat]
            tauto
          · exact Or.inl rfl
      | member done key =>
          simp only [continue_]
          split_ifs
          · exact Or.inr everyCode_mk
          · refine Or.inr (everyCode_mk.trans ?_)
            simp only [List.forall_mem_cons, Frame.EveryCode, Mode.EveryCode, membersEveryCode_concat]
            tauto
          · refine Or.inr (everyCode_mk.trans ?_)
            simp only [List.forall_mem_cons, Frame.EveryCode, Mode.EveryCode, Json.EveryCode, membersEveryCode_concat]
            tauto
          · exact Or.inl rfl

theorem everyCode_beginValue (fresh : Bool) : beginValue stack fresh c = fail ∨
    ((beginValue stack fresh c).EveryCode P ↔ ∀ frame ∈ stack, frame.EveryCode P) := by
  have opened : ∀ mode : Mode, mode.EveryCode P → ((Reader.mk stack mode).EveryCode P ↔
      ∀ frame ∈ stack, frame.EveryCode P) :=
    fun mode empty => everyCode_mk.trans (and_iff_left empty)
  have array : (Reader.mk (.items [] :: stack) (.value true)).EveryCode P ↔ ∀ frame ∈ stack, frame.EveryCode P := by
    refine everyCode_mk.trans ?_
    simp only [List.forall_mem_cons, Frame.EveryCode, Mode.EveryCode, AllEveryCode, true_and, and_true]
  have no_units : ∀ n ∈ ([] : List ℕ), P n := fun _ impossible => absurd impossible List.not_mem_nil
  unfold beginValue
  by_cases blank : isBlank c = true
  · rw [if_pos blank]
    exact Or.inr (opened _ trivial)
  rw [if_neg blank]
  by_cases quoted : c = quote
  · rw [if_pos quoted]
    exact Or.inr (opened _ no_units)
  rw [if_neg quoted]
  by_cases bracket : c = '['
  · rw [if_pos bracket]
    exact Or.inr array
  rw [if_neg bracket]
  by_cases brace : c = openBrace
  · rw [if_pos brace]
    exact Or.inr (opened _ trivial)
  rw [if_neg brace]
  by_cases literal : isLiteralChar c = true
  · rw [if_pos literal]
    exact Or.inr (opened _ trivial)
  rw [if_neg literal]
  cases stack with
  | nil => exact Or.inl rfl
  | cons frame outer =>
      cases frame with
      | items done =>
          dsimp only
          split_ifs
          · refine Or.inr (everyCode_mk.trans ?_)
            simp only [List.forall_mem_cons, Frame.EveryCode, Mode.EveryCode, Json.EveryCode]
            exact and_comm
          · exact Or.inl rfl
      | member done key => exact Or.inl rfl

/-- Outside of strings a character adds no code point, and none is forgotten. -/
theorem everyCode_outside {r : Reader} (outside : r.mode.string = none) :
    r.step c = fail ∨ ((r.step c).EveryCode P ↔ r.EveryCode P) := by
  obtain ⟨stack, mode⟩ := r
  have parts : ∀ mode : Mode, (Reader.mk stack mode).EveryCode P ↔
      (∀ frame ∈ stack, frame.EveryCode P) ∧ mode.EveryCode P := fun mode => everyCode_mk
  cases mode with
  | value fresh =>
      refine (everyCode_beginValue fresh).imp_right fun same => same.trans ?_
      exact ((parts (.value fresh)).trans (and_iff_left trivial)).symm
  | key fresh done =>
      simp only [step_key, beginKey]
      split_ifs
      · exact Or.inr Iff.rfl
      · refine Or.inr (everyCode_mk.trans (Iff.trans ?_ everyCode_mk.symm))
        simp only [Mode.EveryCode, List.not_mem_nil, IsEmpty.forall_iff, implies_true, and_true]
      · exact Or.inr ((parts (.after (.obj done))).trans (parts (.key fresh done)).symm)
      · exact Or.inl rfl
  | colon done codes =>
      simp only [step]
      split_ifs
      · exact Or.inr Iff.rfl
      · refine Or.inr (everyCode_mk.trans (Iff.trans ?_ everyCode_mk.symm))
        simp only [List.forall_mem_cons, Frame.EveryCode, Mode.EveryCode]
        tauto
      · exact Or.inl rfl
  | text s => cases outside
  | keyText done s => cases outside
  | atom literal =>
      rw [step_atom]
      split_ifs
      · exact Or.inr ((parts (.atom (literal ++ [c]))).trans (parts (.atom literal)).symm)
      · exact (everyCode_continue _).imp_right fun same => same.trans (parts (.atom literal)).symm
      · exact Or.inl rfl
  | after v => exact (everyCode_continue v).imp_right fun same => same.trans (parts (.after v)).symm
  | failed => exact Or.inl rfl

/-- The units of a string grow by what its characters stand for. -/
theorem next_units {s s' : Partial} (next : s.next c = some s') : ∃ more, s'.units = s.units ++ more ∧
    (s.scan = .plain → ∀ n ∈ more, n = c.toNat) := by
  have none : ∀ n ∈ ([] : List ℕ), n = c.toNat := fun _ impossible => absurd impossible List.not_mem_nil
  obtain ⟨scan, units⟩ := s
  cases scan with
  | plain =>
      simp only [Partial.next] at next
      split_ifs at next
      · exact ⟨[], by rw [← Option.some.inj next, List.append_nil], fun _ => none⟩
      · exact ⟨[c.toNat], by rw [← Option.some.inj next], fun _ n member => List.mem_singleton.mp member⟩
  | escaped =>
      simp only [Partial.next] at next
      split_ifs at next
      · exact ⟨[], by rw [← Option.some.inj next, List.append_nil], fun _ => none⟩
      · obtain ⟨n, -, rfl⟩ := Option.map_eq_some_iff.mp next
        exact ⟨[n], rfl, fun impossible => by cases impossible⟩
  | hex left value =>
      obtain ⟨digit, -, rfl⟩ := Option.map_eq_some_iff.mp next
      by_cases last : left = 0
      · rw [if_pos last]
        exact ⟨[value * 16 + digit], rfl, fun impossible => by cases impossible⟩
      · rw [if_neg last]
        exact ⟨[], (List.append_nil _).symm, fun impossible => by cases impossible⟩

/-- Nothing is forgotten. -/
theorem EveryCode.of_step (pairs : KeepsPairs P) {r : Reader} (accepts : r.Accepts c) (every : (r.step c).EveryCode P) :
    r.EveryCode P := by
  by_cases outside : r.mode.string = none
  · exact ((everyCode_outside outside).resolve_left accepts).mp every
  obtain ⟨stack, mode⟩ := r
  obtain ⟨scan, known⟩ := Option.ne_none_iff_exists'.mp outside
  obtain ⟨role, s, rfl, -⟩ := inside_of_string known
  rw [Accepts, step_inside] at accepts
  rw [step_inside] at every
  rw [everyCode_inside]
  by_cases closed : s.scan = .plain ∧ c = quote
  · rw [if_pos closed, everyCode_ended, pairs.joinPairs_iff] at every
    exact every
  rw [if_neg closed] at every accepts
  cases next : s.next c with
  | none =>
      rw [next] at accepts
      exact absurd rfl accepts
  | some s' =>
      rw [next, Option.elim_some] at every
      obtain ⟨more, grown, -⟩ := next_units next
      rw [everyCode_inside, grown, List.forall_mem_append] at every
      exact ⟨every.1, every.2.1, every.2.2.1⟩

/-- Within a string, between its characters, a character adds its own code point. -/
theorem EveryCode.step_plain (pairs : KeepsPairs P) {r : Reader} (every : r.EveryCode P)
    (plain : r.mode.string = some .plain) (such : P c.toNat) : (r.step c).EveryCode P := by
  obtain ⟨stack, mode⟩ := r
  obtain ⟨role, s, rfl, scan⟩ := inside_of_string plain
  rw [everyCode_inside] at every
  rw [step_inside]
  by_cases closed : s.scan = .plain ∧ c = quote
  · rw [if_pos closed, everyCode_ended, pairs.joinPairs_iff]
    exact every
  rw [if_neg closed]
  cases next : s.next c with
  | none => exact everyCode_fail
  | some s' =>
      obtain ⟨more, grown, own⟩ := next_units next
      have such' : ∀ n ∈ more, P n := fun n member => (own scan n member).symm ▸ such
      rw [Option.elim_some, everyCode_inside, grown, List.forall_mem_append]
      exact ⟨every.1, every.2.1, every.2.2, such'⟩

/-- A character which is none of them leaves its mark. -/
theorem not_everyCode_step {r : Reader} (plain : r.mode.string = some .plain)
    (plain' : (r.step c).mode.string = some .plain) (other : ¬ P c.toNat) : ¬ (r.step c).EveryCode P := by
  obtain ⟨stack, mode⟩ := r
  obtain ⟨role, s, rfl, scan⟩ := inside_of_string plain
  intro every
  rw [step_inside] at plain' every
  by_cases closed : s.scan = .plain ∧ c = quote
  · rw [if_pos closed, string_ended] at plain'
    cases plain'
  rw [if_neg closed] at plain' every
  cases next : s.next c with
  | none =>
      rw [next] at plain'
      cases plain'
  | some s' =>
      rw [next, Option.elim_some, string_inside] at plain'
      rw [next, Option.elim_some, everyCode_inside] at every
      have ordinary : c ≠ backslash := by
        rintro rfl
        simp only [Partial.next, scan, if_true] at next
        rw [← Option.some.inj next] at plain'
        cases plain'
      have added : c.toNat ∈ s'.units := by
        rw [next_plain scan ordinary next]
        exact List.mem_append_right s.units List.mem_cons_self
      exact other (every.2.2 _ added)

theorem everyCode_finish {r : Reader} {v : Json} (done : r.finish = some v) : v.EveryCode P ↔ r.EveryCode P := by
  obtain ⟨stack, mode⟩ := r
  have bottom : ∀ frame ∈ ([] : List Frame), frame.EveryCode P := fun _ impossible => absurd impossible List.not_mem_nil
  cases stack with
  | nil =>
      cases mode with
      | after w =>
          obtain rfl := Option.some.inj done
          exact ⟨fun every => ⟨bottom, every⟩, fun every => every.mode⟩
      | atom literal =>
          simp only [finish] at done
          split_ifs at done
          obtain rfl := Option.some.inj done
          exact ⟨fun _ => ⟨bottom, trivial⟩, fun _ => trivial⟩
      | _ => cases done
  | cons frame outer => cases done

theorem EveryCode.of_run (pairs : KeepsPairs P) {r : Reader} {text : List Char} (unfailed : r.run text ≠ fail)
    (every : (r.run text).EveryCode P) : r.EveryCode P := by
  induction text generalizing r with
  | nil => exact every
  | cons c text ih => exact (ih unfailed every).of_step pairs (accepts_of_run unfailed)

/-- The second reader has failed, or it is outside of strings just where the first one is within one, and has found no
other code points. -/
def Shadows (P : ℕ → Prop) (m b : Reader) : Prop :=
  b = fail ∨ b.EveryCode P ∧ (m.mode.string = some .plain ∧ b.mode.string = none ∨
    m.mode.string = none ∧ b.mode.string = some .plain)

/-- It fails at a backslash: where a string of its own would need one, the first reader would not take it. -/
theorem Shadows.step (pairs : KeepsPairs P) {m b : Reader} (shadows : Shadows P m b) (accepts : m.Accepts c)
    (such : P c.toNat) : Shadows P (m.step c) (b.step c) := by
  have unmarked : isMark backslash = false := by decide
  rcases shadows with rfl | ⟨every, ⟨plain, outside⟩ | ⟨outside, plain⟩⟩
  · exact Or.inl rfl
  · by_cases failed : b.step c = fail
    · exact Or.inl failed
    have every' : (b.step c).EveryCode P := ((everyCode_outside outside).resolve_left failed).mpr every
    refine Or.inr ⟨every', ?_⟩
    by_cases quoted : c = quote
    · subst quoted
      exact Or.inr ⟨step_plain_quote plain, (step_outside_quote outside).resolve_left failed⟩
    · have ordinary : c ≠ backslash := by
        rintro rfl
        exact failed (fail_of_unmarked outside unmarked)
      exact Or.inl ⟨(Reader.step_plain plain quoted ordinary).resolve_left accepts, step_outside outside quoted⟩
  · by_cases failed : b.step c = fail
    · exact Or.inl failed
    refine Or.inr ⟨every.step_plain pairs plain such, ?_⟩
    by_cases quoted : c = quote
    · subst quoted
      exact Or.inl ⟨(step_outside_quote outside).resolve_left accepts, step_plain_quote plain⟩
    · have ordinary : c ≠ backslash := by
        rintro rfl
        exact accepts (fail_of_unmarked outside unmarked)
      exact Or.inr ⟨step_outside outside quoted, (Reader.step_plain plain quoted ordinary).resolve_left failed⟩

theorem Shadows.run (pairs : KeepsPairs P) {m b : Reader} (shadows : Shadows P m b) {text : List Char}
    (unfailed : m.run text ≠ fail) (such : ∀ c ∈ text, P c.toNat) : Shadows P (m.run text) (b.run text) := by
  induction text generalizing m b with
  | nil => exact shadows
  | cons c text ih =>
      obtain ⟨here, later⟩ := List.forall_mem_cons.mp such
      exact ih (shadows.step pairs (accepts_of_run unfailed) here) unfailed later

theorem Shadows.value {m b : Reader} (shadows : Shadows P m b) {v : Json} (done : b.finish = some v) :
    v.EveryCode P := by
  rcases shadows with rfl | ⟨every, -⟩
  · cases done
  · exact (everyCode_finish done).mpr every

end Reader

/-! Dicts. -/

theorem everyCode_setMember {members : Members} {key : List ℕ} {v : Json} (every : MembersEveryCode P members)
    (codes : ∀ n ∈ key, P n) (value : v.EveryCode P) : MembersEveryCode P (setMember members key v) := by
  rw [membersEveryCode_iff] at every
  unfold setMember
  split_ifs
  · refine membersEveryCode_iff.mpr fun member listed => ?_
    obtain ⟨old, member', rfl⟩ := List.mem_map.mp listed
    split_ifs
    · exact ⟨codes, value⟩
    · exact every old member'
  · exact membersEveryCode_concat.mpr ⟨membersEveryCode_iff.mpr every, codes, value⟩

mutual
theorem everyCode_dict : ∀ v : Json, v.EveryCode P → v.dict.EveryCode P
  | .atom _, _ => trivial
  | .str _, every => every
  | .arr items, every => everyCode_dicts items every
  | .obj members, every => everyCode_setMembers members [] every trivial
theorem everyCode_dicts : ∀ items : List Json, AllEveryCode P items → AllEveryCode P (dicts items)
  | [], _ => trivial
  | v :: rest, every => ⟨everyCode_dict v every.1, everyCode_dicts rest every.2⟩
theorem everyCode_setMembers : ∀ members done : List (List ℕ × Json), MembersEveryCode P members →
    MembersEveryCode P done → MembersEveryCode P (setMembers members done)
  | [], _, _, every => every
  | (_, v) :: rest, _, members, every =>
      everyCode_setMembers rest _ members.2.2 (everyCode_setMember every members.1 (everyCode_dict v members.2.1))
end

end Codes

end Json
