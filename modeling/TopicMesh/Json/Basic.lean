import TopicMesh.Decimal.Binary64
import TopicMesh.Keyed

/-!
# TopicMesh.Json.Basic

JSON values. Integers and floating-point numbers are different kinds of number and never equal to
each other. The members of an object are ordered by key, each key once;
`Json.IsWellFormed` says so of a whole value.
-/

namespace TopicMesh

inductive Json where
  | null
  | bool (b : Bool)
  | int (n : Int)
  | float (x : Binary64)
  | str (s : String)
  | arr (items : List Json)
  | obj (members : List (String × Json))
deriving Repr, Inhabited

namespace Json

/-! ## Equality -/

mutual
def decEq : (a b : Json) → Decidable (a = b)
  | .null, .null => isTrue rfl
  | .bool a, .bool b => if h : a = b then isTrue (by rw [h]) else isFalse (by simp [h])
  | .int a, .int b => if h : a = b then isTrue (by rw [h]) else isFalse (by simp [h])
  | .float a, .float b => if h : a = b then isTrue (by rw [h]) else isFalse (by simp [h])
  | .str a, .str b => if h : a = b then isTrue (by rw [h]) else isFalse (by simp [h])
  | .arr a, .arr b =>
    match decEqItems a b with
    | isTrue h => isTrue (by rw [h])
    | isFalse h => isFalse (by simp [h])
  | .obj a, .obj b =>
    match decEqMembers a b with
    | isTrue h => isTrue (by rw [h])
    | isFalse h => isFalse (by simp [h])
  | .null, .bool _ | .null, .int _ | .null, .float _ | .null, .str _ | .null, .arr _
  | .null, .obj _ | .bool _, .null | .bool _, .int _ | .bool _, .float _ | .bool _, .str _
  | .bool _, .arr _ | .bool _, .obj _ | .int _, .null | .int _, .bool _ | .int _, .float _
  | .int _, .str _ | .int _, .arr _ | .int _, .obj _ | .float _, .null | .float _, .bool _
  | .float _, .int _ | .float _, .str _ | .float _, .arr _ | .float _, .obj _ | .str _, .null
  | .str _, .bool _ | .str _, .int _ | .str _, .float _ | .str _, .arr _ | .str _, .obj _
  | .arr _, .null | .arr _, .bool _ | .arr _, .int _ | .arr _, .float _ | .arr _, .str _
  | .arr _, .obj _ | .obj _, .null | .obj _, .bool _ | .obj _, .int _ | .obj _, .float _
  | .obj _, .str _ | .obj _, .arr _ => isFalse (by simp)

def decEqItems : (a b : List Json) → Decidable (a = b)
  | [], [] => isTrue rfl
  | [], _ :: _ => isFalse (by simp)
  | _ :: _, [] => isFalse (by simp)
  | a :: as, b :: bs =>
    match decEq a b, decEqItems as bs with
    | isTrue h, isTrue hs => isTrue (by rw [h, hs])
    | isFalse h, _ => isFalse (by simp [h])
    | _, isFalse h => isFalse (by simp [h])

def decEqMembers : (a b : List (String × Json)) → Decidable (a = b)
  | [], [] => isTrue rfl
  | [], _ :: _ => isFalse (by simp)
  | _ :: _, [] => isFalse (by simp)
  | (k, a) :: as, (l, b) :: bs =>
    if hk : k = l then
      match decEq a b, decEqMembers as bs with
      | isTrue h, isTrue hs => isTrue (by rw [hk, h, hs])
      | isFalse h, _ => isFalse (by simp [h])
      | _, isFalse h => isFalse (by simp [h])
    else isFalse (by simp [hk])
end

instance : DecidableEq Json := decEq

/-! ## Objects -/

/-- The object with these members, a later one replacing an earlier one of the same key. -/
def ofMembers (members : List (String × Json)) : Json :=
  .obj (members.foldl (fun acc (k, v) => Keyed.insert k v acc) [])

/-! ## Values that a text can hold -/

/-- The integers that are kept as such. -/
def minInt : Int := -Int.pow 2 63
def maxInt : Int := Int.pow 2 64 - 1

mutual
/-- Integers within range, canonical floating-point numbers, and keys in order. -/
def IsWellFormed : Json → Prop
  | .null | .bool _ | .str _ => True
  | .int n => minInt ≤ n ∧ n ≤ maxInt
  | .float x => x.IsCanonical
  | .arr items => itemsWellFormed items
  | .obj members => Keyed.Ascending members ∧ membersWellFormed members

def itemsWellFormed : List Json → Prop
  | [] => True
  | a :: r => a.IsWellFormed ∧ itemsWellFormed r

def membersWellFormed : List (String × Json) → Prop
  | [] => True
  | (_, a) :: r => a.IsWellFormed ∧ membersWellFormed r
end

mutual
/-- The number of brackets around the most deeply nested value; zero for a scalar. -/
def depth : Json → Nat
  | .null | .bool _ | .int _ | .float _ | .str _ => 0
  | .arr items => itemsDepth items + 1
  | .obj members => membersDepth members + 1

def itemsDepth : List Json → Nat
  | [] => 0
  | a :: r => max a.depth (itemsDepth r)

def membersDepth : List (String × Json) → Nat
  | [] => 0
  | (_, a) :: r => max a.depth (membersDepth r)
end

mutual
/-- No floating-point number occurs in the value. -/
def IsFloatFree : Json → Prop
  | .null | .bool _ | .int _ | .str _ => True
  | .float _ => False
  | .arr items => itemsFloatFree items
  | .obj members => membersFloatFree members

def itemsFloatFree : List Json → Prop
  | [] => True
  | a :: r => a.IsFloatFree ∧ itemsFloatFree r

def membersFloatFree : List (String × Json) → Prop
  | [] => True
  | (_, a) :: r => a.IsFloatFree ∧ membersFloatFree r
end

end Json

end TopicMesh
