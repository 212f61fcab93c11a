import TopicMesh.Json.Reader

/-!
# TopicMesh.Json.Skip

Passing over a value that nobody asked for. Its grammar is checked, but nesting is not bounded, a
number may be out of range, and escapes need not spell characters. A comma before a closing bracket
is reported where the next value or key should have been.
-/

namespace TopicMesh.Json

def skipString : List Char → Except Fault (List Char)
  | [] => .error ⟨.eofInString, [], 0⟩
  | c :: r =>
    if c = '"' then .ok r
    else if c = '\\' then
      match r with
      | [] => .error ⟨.eofInString, [], 0⟩
      | e :: r =>
        if (shortEscape e).isSome then skipString r
        else if e = 'u' then
          match r with
          | h₁ :: h₂ :: h₃ :: h₄ :: r₁ =>
            match hexUnit h₁ h₂ h₃ h₄ with
            | none => .error (badHex r)
            | some _ => skipString r₁
          | _ => .error (badHex r)
        else .error ⟨.invalidEscape, e :: r, 1⟩
    else if c.toNat < 0x20 then .error ⟨.controlCharacter, c :: r, 0⟩
    else skipString r

def skipExponent (s : List Char) : Except Fault (List Char) :=
  let s := match s with
    | c :: r => if c = '+' ∨ c = '-' then r else c :: r
    | [] => []
  match s with
  | [] => .error ⟨.invalidNumber, [], 0⟩
  | c :: r => if isDigit c then .ok (r.dropWhile isDigit) else .error ⟨.invalidNumber, c :: r, 1⟩

def skipFraction (s : List Char) : Except Fault (List Char) :=
  match s with
  | [] => .ok []
  | c :: r =>
    if c = '.' then
      match r with
      | [] => .error ⟨.invalidNumber, [], 0⟩
      | d :: _ =>
        if isDigit d then
          let s := r.dropWhile isDigit
          match exponentLetter s with
          | some r => skipExponent r
          | none => .ok s
        else .error ⟨.invalidNumber, r, 1⟩
    else
      match exponentLetter s with
      | some r => skipExponent r
      | none => .ok s

def skipNumber : List Char → Except Fault (List Char)
  | [] => .error ⟨.invalidNumber, [], 0⟩
  | c :: r =>
    if c = '0' then
      match r with
      | d :: _ => if isDigit d then .error ⟨.invalidNumber, r, 1⟩ else skipFraction r
      | [] => .ok []
    else if isDigit c then skipFraction (r.dropWhile isDigit)
    else .error ⟨.invalidNumber, c :: r, 1⟩

/-- What stands between one element or member and the next: `none` and the text after the closing
bracket, or the text after the comma. -/
def skipComma (first : Bool) (closing : Char) (eof wanted : Cause) (s : List Char) :
    Except Fault (Option Unit × List Char) :=
  match skipBlank s with
  | [] => .error ⟨eof, [], 0⟩
  | c :: r =>
    if c = closing then .ok (none, r)
    else if first then .ok (some (), c :: r)
    else if c = ',' then .ok (some (), r)
    else .error ⟨wanted, c :: r, 1⟩

def skipItems (skip : List Char → Except Fault (List Char)) :
    (bound : Nat) → (first : Bool) → List Char → Except Fault (List Char)
  | 0, _, s => .error ⟨.eofInList, s, 0⟩
  | bound + 1, first, s =>
    match skipComma first ']' .eofInList .expectedCommaOrBracket s with
    | .error e => .error e
    | .ok (none, r) => .ok r
    | .ok (some (), r) =>
      match skip r with
      | .error e => .error e
      | .ok r => skipItems skip bound false r

def skipKey (s : List Char) : Except Fault (List Char) :=
  match skipBlank s with
  | [] => .error ⟨.eofInObject, [], 0⟩
  | c :: r =>
    if c = '"' then
      match skipString r with
      | .error e => .error e
      | .ok r => colon r
    else .error ⟨.keyMustBeString, c :: r, 1⟩

def skipMembers (skip : List Char → Except Fault (List Char)) :
    (bound : Nat) → (first : Bool) → List Char → Except Fault (List Char)
  | 0, _, s => .error ⟨.eofInObject, s, 0⟩
  | bound + 1, first, s =>
    match skipComma first '}' .eofInObject .expectedCommaOrBrace s with
    | .error e => .error e
    | .ok (none, r) => .ok r
    | .ok (some (), r) =>
      match skipKey r with
      | .error e => .error e
      | .ok r =>
        match skip r with
        | .error e => .error e
        | .ok r => skipMembers skip bound false r

/-- Passes over a value. Each bracket uses up a character, so the length of the text bounds the
nesting. -/
def skipValue : (bound : Nat) → List Char → Except Fault (List Char)
  | bound, s =>
    match skipBlank s with
    | [] => .error ⟨.eofInValue, [], 0⟩
    | c :: r =>
      if c = 'n' then word ['u', 'l', 'l'] r
      else if c = 't' then word ['r', 'u', 'e'] r
      else if c = 'f' then word ['a', 'l', 's', 'e'] r
      else if c = '-' then skipNumber r
      else if isDigit c then skipNumber (c :: r)
      else if c = '"' then skipString r
      else if c = '[' then
        match bound with
        | 0 => .error ⟨.eofInList, [], 0⟩
        | bound + 1 => skipItems (skipValue bound) (r.length + 1) true r
      else if c = '{' then
        match bound with
        | 0 => .error ⟨.eofInObject, [], 0⟩
        | bound + 1 => skipMembers (skipValue bound) (r.length + 1) true r
      else .error ⟨.expectedValue, c :: r, 1⟩

end TopicMesh.Json
