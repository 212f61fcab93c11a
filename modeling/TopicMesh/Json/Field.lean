import TopicMesh.Json.Skip

/-!
# TopicMesh.Json.Field

Reading a value of a known shape. Where something else stands, the fault names what was found and
what was wanted; a scalar is blamed at its end, a list or an object at its bracket.
-/

namespace TopicMesh.Json

/-- The fault for a value that is not what was wanted, or for text that is no value. -/
def mismatch (wanted : String) (s : List Char) : Fault :=
  match s with
  | [] => ⟨.eofInValue, [], 0⟩
  | c :: r =>
    if c = 'n' then constant .null ['u', 'l', 'l'] r
    else if c = 't' then constant (.bool true) ['r', 'u', 'e'] r
    else if c = 'f' then constant (.bool false) ['a', 'l', 's', 'e'] r
    else if c = '-' then number true r
    else if isDigit c then number false (c :: r)
    else if c = '"' then
      match stringBody r with
      | .error e => e
      | .ok (cs, r) => ⟨.invalidType (.str (String.ofList cs)) wanted, r, 0⟩
    else if c = '[' then ⟨.invalidType .sequence wanted, c :: r, 0⟩
    else if c = '{' then ⟨.invalidType .map wanted, c :: r, 0⟩
    else ⟨.expectedValue, c :: r, 1⟩
where
  constant (found : Found) (letters r : List Char) : Fault :=
    match word letters r with
    | .error e => e
    | .ok r => ⟨.invalidType found wanted, r, 0⟩
  number (negative : Bool) (s : List Char) : Fault :=
    match unsignedNumber negative s with
    | .error e => e
    | .ok (n, r) => ⟨.invalidType n.found wanted, r, 0⟩

def stringAs (wanted : String) : Reader String := fun s =>
  match skipBlank s with
  | [] => .error ⟨.eofInValue, [], 0⟩
  | c :: r =>
    if c = '"' then
      match stringBody r with
      | .error e => .error e
      | .ok (cs, r) => .ok (String.ofList cs, r)
    else .error (mismatch wanted (c :: r))

def string : Reader String := stringAs "a string"

def strings : Reader (List String) := fun s =>
  match skipBlank s with
  | [] => .error ⟨.eofInValue, [], 0⟩
  | c :: r =>
    if c = '[' then items string (r.length + 1) true r
    else .error (mismatch "a sequence" (c :: r))

def field {α : Type} (read : Reader α) : Reader α := fun s =>
  match colon s with
  | .error e => .error e
  | .ok r => read r

/-- Passes over the value of a member with an unknown key. -/
def unknownField (s : List Char) : Except Fault (List Char) :=
  match colon s with
  | .error e => .error e
  | .ok r => skipValue r.length r

/-- The fault for a key that occurs twice: blanks and a closing brace after it count as read. -/
def duplicateKey (key : String) (s : List Char) : Fault :=
  match skipBlank s with
  | [] => ⟨.duplicateField key, [], 0⟩
  | c :: r => ⟨.duplicateField key, if c = '}' then r else c :: r, 0⟩

/-- Reads the value of a member into an empty place; a place that is taken is a repeated key. -/
def place {α σ : Type} (taken : Option α) (key : String) (read : Reader α) (put : α → σ) :
    Reader σ := fun s =>
  match taken with
  | some _ => .error (duplicateKey key s)
  | none =>
    match field read s with
    | .error e => .error e
    | .ok (a, r) => .ok (put a, r)

/-- The next element of a list that has a fixed number of them. -/
def element {α : Type} (read : Reader α) (first : Bool) : Reader (Option α) := fun s =>
  match nextItem first s with
  | .error e => .error e
  | .ok (none, r) => .ok (none, r)
  | .ok (some (), r) =>
    match read r with
    | .error e => .error e
    | .ok (a, r) => .ok (some a, r)

/-- An element that must not be missing; `index` elements came before it. -/
def requiredElement {α : Type} (read : Reader α) (index : Nat) (wanted : String) : Reader α :=
  fun s =>
    match element read (index == 0) s with
    | .error e => .error e
    | .ok (some a, r) => .ok (a, r)
    | .ok (none, r) => .error ⟨.invalidLength index wanted, r, 0⟩

/-- The closing bracket after the last element that is wanted. -/
def closeList (s : List Char) : Except Fault (List Char) :=
  match skipBlank s with
  | [] => .error ⟨.eofInList, [], 0⟩
  | c :: r =>
    if c = ']' then .ok r
    else if c = ',' then
      match skipBlank r with
      | [] => .error ⟨.trailingCharacters, [], 0⟩
      | d :: r => .error ⟨if d = ']' then .trailingComma else .trailingCharacters, d :: r, 1⟩
    else .error ⟨.trailingCharacters, c :: r, 1⟩

end TopicMesh.Json
