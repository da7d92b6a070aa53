import RuntimePlatform.Lib.Json

/-!
JSON objects as Python has them: dicts, in which a repeated key has its last value. The limits of CPython on the depth
of a value and on the digits of an integer are left out.
-/

namespace Json

/-- The members of an object, by their keys. -/
abbrev Members := List (List ℕ × Json)

/-- `d[key] = v` -/
def setMember (members : Members) (key : List ℕ) (v : Json) : Members :=
  if members.any fun member => decide (member.1 = key) then
    members.map fun member => if member.1 = key then (key, v) else member
  else members ++ [(key, v)]

mutual
/-- The value with every object made a dict. -/
def dict : Json → Json
  | .atom literal => .atom literal
  | .str codes => .str codes
  | .arr items => .arr (dicts items)
  | .obj members => .obj (setMembers members [])
def dicts : List Json → List Json
  | [] => []
  | v :: rest => dict v :: dicts rest
def setMembers : List (List ℕ × Json) → List (List ℕ × Json) → List (List ℕ × Json)
  | [], done => done
  | (key, v) :: rest, done => setMembers rest (setMember done key (dict v))
end

/-- `json.loads(text)`, if there is no `JSONDecodeError`. -/
def loads (text : List Char) : Option Json := (read text).map dict

/-- `d.get(key)` -/
def get (members : Members) (key : String) : Option Json :=
  (members.find? fun member => decide (member.1 = key.toList.map Char.toNat)).map Prod.snd

mutual
/-- No object in the value repeats a key. -/
def DistinctKeys : Json → Prop
  | .atom _ => True
  | .str _ => True
  | .arr items => AllDistinctKeys items
  | .obj members => (members.map Prod.fst).Nodup ∧ MembersDistinctKeys members
def AllDistinctKeys : List Json → Prop
  | [] => True
  | v :: rest => DistinctKeys v ∧ AllDistinctKeys rest
def MembersDistinctKeys : List (List ℕ × Json) → Prop
  | [] => True
  | (_, v) :: rest => DistinctKeys v ∧ MembersDistinctKeys rest
end

theorem setMember_new {members : Members} {key : List ℕ} (new : key ∉ members.map Prod.fst) (v : Json) :
    setMember members key v = members ++ [(key, v)] := by
  refine if_neg fun found => ?_
  obtain ⟨member, listed, same⟩ := List.any_eq_true.mp found
  exact new (of_decide_eq_true same ▸ List.mem_map_of_mem listed)

mutual
/-- Such a value is a dict as it stands. -/
theorem dict_of_distinct : ∀ v : Json, v.DistinctKeys → v.dict = v
  | .atom _, _ => rfl
  | .str _, _ => rfl
  | .arr items, distinct => congrArg Json.arr (dicts_of_distinct items distinct)
  | .obj members, distinct => by
      have fresh : (([] ++ members).map Prod.fst).Nodup := distinct.1
      exact congrArg Json.obj (setMembers_of_distinct members [] fresh distinct.2)
theorem dicts_of_distinct : ∀ items : List Json, AllDistinctKeys items → dicts items = items
  | [], _ => rfl
  | v :: rest, distinct => congrArg₂ List.cons (dict_of_distinct v distinct.1) (dicts_of_distinct rest distinct.2)
theorem setMembers_of_distinct : ∀ members done : List (List ℕ × Json), ((done ++ members).map Prod.fst).Nodup →
    MembersDistinctKeys members → setMembers members done = done ++ members
  | [], done, _, _ => (List.append_nil done).symm
  | (key, v) :: rest, done, nodup, distinct => by
      have order : done ++ (key, v) :: rest = done ++ [(key, v)] ++ rest := by simp
      have new : key ∉ done.map Prod.fst := by
        intro old
        rw [List.map_append] at nodup
        exact (List.nodup_append.mp nodup).2.2 key old key List.mem_cons_self rfl
      rw [setMembers, dict_of_distinct v distinct.1, setMember_new new, order]
      exact setMembers_of_distinct rest (done ++ [(key, v)]) (order ▸ nodup) distinct.2
end

/-- The text is one of the object's. -/
structure Serialises (text : List Char) (members : Members) : Prop where
  reads : read text = some (.obj members)
  distinct : (Json.obj members).DistinctKeys

theorem Serialises.loads {text : List Char} {members : Members} (serialises : Serialises text members) :
    loads text = some (.obj members) := by
  rw [Json.loads, serialises.reads, Option.map_some, dict_of_distinct _ serialises.distinct]

end Json
