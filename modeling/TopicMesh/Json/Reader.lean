import TopicMesh.Json.Scalar

/-!
# TopicMesh.Json.Reader

Reading a JSON document:

* `nextItem`, `nextKey`  — the step from one element or member to the next, or to the closing bracket.
* `items`, `members`     — whole lists and objects, given a reader for what stands in them.
* `value`                — a value with a bound on the nesting of brackets.
* `parse`                — a document: one value with blanks around it.

The loops take the length of the text as their bound: each round reads at least one character.
-/

namespace TopicMesh.Json

/-! ## Lists -/

/-- Looks for the next element: `none` and the text after `]`, or the text at the element. -/
def nextItem (first : Bool) (s : List Char) : Except Fault (Option Unit × List Char) :=
  match skipBlank s with
  | [] => .error ⟨.eofInList, [], 0⟩
  | c :: r =>
    if c = ']' then .ok (none, r)
    else if first then .ok (some (), c :: r)
    else if c = ',' then
      match skipBlank r with
      | [] => .error ⟨.eofInValue, [], 0⟩
      | d :: r =>
        if d = ']' then .error ⟨.trailingComma, d :: r, 1⟩ else .ok (some (), d :: r)
    else .error ⟨.expectedCommaOrBracket, c :: r, 1⟩

/-- The elements of a list, up to and including the closing bracket. -/
def items {α : Type} (item : Reader α) : (bound : Nat) → (first : Bool) → Reader (List α)
  | 0, _, s => .error ⟨.eofInList, s, 0⟩
  | bound + 1, first, s =>
    match nextItem first s with
    | .error e => .error e
    | .ok (none, r) => .ok ([], r)
    | .ok (some (), r) =>
      match item r with
      | .error e => .error e
      | .ok (a, r) =>
        match items item bound false r with
        | .error e => .error e
        | .ok (as, r) => .ok (a :: as, r)

/-! ## Objects -/

/-- Looks for the next key: `none` and the text after the closing brace, or the key and the text
after it. -/
def nextKey (first : Bool) (s : List Char) : Except Fault (Option String × List Char) :=
  match skipBlank s with
  | [] => .error ⟨.eofInObject, [], 0⟩
  | c :: r =>
    if c = '}' then .ok (none, r)
    else if first then key c r
    else if c = ',' then
      match skipBlank r with
      | [] => .error ⟨.eofInValue, [], 0⟩
      | d :: r => if d = '}' then .error ⟨.trailingComma, d :: r, 1⟩ else key d r
    else .error ⟨.expectedCommaOrBrace, c :: r, 1⟩
where
  key (c : Char) (r : List Char) : Except Fault (Option String × List Char) :=
    if c = '"' then
      match stringBody r with
      | .error e => .error e
      | .ok (k, r) => .ok (some (String.ofList k), r)
    else .error ⟨.keyMustBeString, c :: r, 1⟩

def colon (s : List Char) : Except Fault (List Char) :=
  match skipBlank s with
  | [] => .error ⟨.eofInObject, [], 0⟩
  | c :: r => if c = ':' then .ok r else .error ⟨.expectedColon, c :: r, 1⟩

/-- The members of an object, up to and including the closing brace. `member` is given what was
gathered so far, the key, and the text after the key. -/
def members {σ : Type} (member : σ → String → Reader σ) :
    (bound : Nat) → (first : Bool) → σ → Reader σ
  | 0, _, _, s => .error ⟨.eofInObject, s, 0⟩
  | bound + 1, first, acc, s =>
    match nextKey first s with
    | .error e => .error e
    | .ok (none, r) => .ok (acc, r)
    | .ok (some k, r) =>
      match member acc k r with
      | .error e => .error e
      | .ok (acc, r) => members member bound false acc r

/-! ## Values -/

/-- Brackets may be nested this deep. -/
def maxDepth : Nat := 127

/-- Any value. `depth` is the number of brackets that may still be opened. -/
def value : (depth : Nat) → Reader Json
  | depth, s =>
    match skipBlank s with
    | [] => .error ⟨.eofInValue, [], 0⟩
    | c :: r =>
      if c = 'n' then constant .null ['u', 'l', 'l'] r
      else if c = 't' then constant (.bool true) ['r', 'u', 'e'] r
      else if c = 'f' then constant (.bool false) ['a', 'l', 's', 'e'] r
      else if c = '-' then number true r
      else if isDigit c then number false (c :: r)
      else if c = '"' then
        match stringBody r with
        | .error e => .error e
        | .ok (cs, r) => .ok (.str (String.ofList cs), r)
      else if c = '[' then
        match depth with
        | 0 => .error ⟨.recursionLimit, c :: r, 1⟩
        | depth + 1 =>
          match items (value depth) (r.length + 1) true r with
          | .error e => .error e
          | .ok (as, r) => .ok (.arr as, r)
      else if c = '{' then
        match depth with
        | 0 => .error ⟨.recursionLimit, c :: r, 1⟩
        | depth + 1 =>
          match members (member (value depth)) (r.length + 1) true [] r with
          | .error e => .error e
          | .ok (ms, r) => .ok (.obj ms, r)
      else .error ⟨.expectedValue, c :: r, 1⟩
where
  constant (j : Json) (letters r : List Char) : Except Fault (Json × List Char) :=
    match word letters r with
    | .error e => .error e
    | .ok r => .ok (j, r)
  number (negative : Bool) (s : List Char) : Except Fault (Json × List Char) :=
    match unsignedNumber negative s with
    | .error e => .error e
    | .ok (n, r) => .ok (n.toJson, r)
  member (value : Reader Json) (ms : List (String × Json)) (key : String) (s : List Char) :
      Except Fault (List (String × Json) × List Char) :=
    match colon s with
    | .error e => .error e
    | .ok r =>
      match value r with
      | .error e => .error e
      | .ok (j, r) => .ok (Keyed.insert key j ms, r)

/-- Only blanks may follow a document. -/
def finish (s : List Char) : Except Fault Unit :=
  match skipBlank s with
  | [] => .ok ()
  | c :: r => .error ⟨.trailingCharacters, c :: r, 1⟩

def document {α : Type} (read : Reader α) (s : List Char) : Except Refusal α :=
  match read s with
  | .error e => .error (e.locate s)
  | .ok (a, r) =>
    match finish r with
    | .error e => .error (e.locate s)
    | .ok () => .ok a

def parse (text : String) : Except Refusal Json := document (value maxDepth) text.toList

end TopicMesh.Json
