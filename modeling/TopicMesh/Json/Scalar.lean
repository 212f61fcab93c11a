import TopicMesh.Json.Fault

/-!
# TopicMesh.Json.Scalar

Readers of the parts of a JSON text without inner structure: blanks, the three words, the inside of
a string, and numbers.
-/

namespace TopicMesh.Json

/-- The four blank characters of JSON. -/
def isBlank (c : Char) : Bool := c == ' ' || c == '\n' || c == '\t' || c == '\r'

def skipBlank (s : List Char) : List Char := s.dropWhile isBlank

/-- Reads the remaining letters of a word. -/
def word : List Char → List Char → Except Fault (List Char)
  | [], s => .ok s
  | _ :: _, [] => .error ⟨.eofInValue, [], 0⟩
  | c :: cs, d :: r => if d = c then word cs r else .error ⟨.expectedIdent, d :: r, 1⟩

/-! ## Strings -/

def hexValue (c : Char) : Option Nat :=
  if '0' ≤ c ∧ c ≤ '9' then some (c.toNat - '0'.toNat)
  else if 'a' ≤ c ∧ c ≤ 'f' then some (c.toNat - 'a'.toNat + 10)
  else if 'A' ≤ c ∧ c ≤ 'F' then some (c.toNat - 'A'.toNat + 10)
  else none

def hexUnit (a b c d : Char) : Option Nat :=
  match hexValue a, hexValue b, hexValue c, hexValue d with
  | some a, some b, some c, some d => some (((a * 16 + b) * 16 + c) * 16 + d)
  | _, _, _, _ => none

/-- The fault for text that should have been four hexadecimal digits. -/
def badHex (s : List Char) : Fault :=
  if byteLength s < 4 then ⟨.eofInString, [], 0⟩ else ⟨.invalidEscape, s, 4⟩

/-- The character of an escape of one letter. -/
def shortEscape (c : Char) : Option Char :=
  if c = '"' then some '"'
  else if c = '\\' then some '\\'
  else if c = '/' then some '/'
  else if c = 'b' then some '\x08'
  else if c = 'f' then some '\x0c'
  else if c = 'n' then some '\n'
  else if c = 'r' then some '\r'
  else if c = 't' then some '\t'
  else none

def isLeadingSurrogate (n : Nat) : Bool := 0xd800 ≤ n && n ≤ 0xdbff

def isTrailingSurrogate (n : Nat) : Bool := 0xdc00 ≤ n && n ≤ 0xdfff

/-- The character of a surrogate pair. -/
def pairedChar (leading trailing : Nat) : Char :=
  Char.ofNat (0x10000 + (leading - 0xd800) * 0x400 + (trailing - 0xdc00))

/-- Puts a character in front of what was read. -/
def prepend (c : Char) : Except Fault (List Char × List Char) → Except Fault (List Char × List Char)
  | .error e => .error e
  | .ok (cs, r) => .ok (c :: cs, r)

/-- The inside of a string, up to and including the closing quote. -/
def stringBody : Reader (List Char)
  | [] => .error ⟨.eofInString, [], 0⟩
  | c :: r =>
    if c = '"' then .ok ([], r)
    else if c = '\\' then
      match r with
      | [] => .error ⟨.eofInString, [], 0⟩
      | e :: r =>
        match shortEscape e with
        | some d => prepend d (stringBody r)
        | none =>
          if e = 'u' then
            match r with
            | h₁ :: h₂ :: h₃ :: h₄ :: r₁ =>
              match hexUnit h₁ h₂ h₃ h₄ with
              | none => .error (badHex r)
              | some n =>
                if isTrailingSurrogate n then .error ⟨.loneSurrogate, r₁, 0⟩
                else if isLeadingSurrogate n then
                  match r₁ with
                  | [] => .error ⟨.eofInString, [], 0⟩
                  | b :: r₂ =>
                    if b = '\\' then
                      match r₂ with
                      | [] => .error ⟨.eofInString, [], 0⟩
                      | u :: r₃ =>
                        if u = 'u' then
                          match r₃ with
                          | h₅ :: h₆ :: h₇ :: h₈ :: r₄ =>
                            match hexUnit h₅ h₆ h₇ h₈ with
                            | none => .error (badHex r₃)
                            | some m =>
                              if isTrailingSurrogate m then prepend (pairedChar n m) (stringBody r₄)
                              else .error ⟨.loneSurrogate, r₄, 0⟩
                          | _ => .error (badHex r₃)
                        else .error ⟨.unexpectedEndOfHexEscape, r₂, 1⟩
                    else .error ⟨.unexpectedEndOfHexEscape, r₁, 1⟩
                else prepend (Char.ofNat n) (stringBody r₁)
            | _ => .error (badHex r)
          else .error ⟨.invalidEscape, e :: r, 1⟩
    else if c.toNat < 0x20 then .error ⟨.controlCharacter, c :: r, 1⟩
    else prepend c (stringBody r)

/-! ## Numbers -/

def isDigit (c : Char) : Bool := '0' ≤ c && c ≤ '9'

def digitValue (c : Char) : Nat := c.toNat - '0'.toNat

/-- Extends a number by digits as long as it stays below `2 ^ 64`; returns the digits left over. -/
def absorb (n : Nat) : List Char → Nat × List Char
  | [] => (n, [])
  | c :: r =>
    let m := n * 10 + digitValue c
    if m < Nat.pow 2 64 then absorb m r else (n, c :: r)

inductive Number where
  | int (n : Int)
  | float (x : Binary64)

def Number.toJson : Number → Json
  | .int n => .int n
  | .float x => .float x

def Number.found : Number → Found
  | .int n => .int n
  | .float x => .float x

/-- A number with a point or an exponent, or with too many digits for an integer. -/
def scientific (negative : Bool) (significand : Nat) (exponent : Int) : Reader Number := fun s =>
  match Binary64.ofScientific negative significand exponent with
  | none => .error ⟨.numberOutOfRange, s, 0⟩
  | some x => .ok (.float x, s)

/-- The largest exponent that is read as a number. -/
def maxExponent : Nat := Nat.pow 2 31 - 1

/-- Digits of an exponent after the first ones, worth `n`; `none` with the text after the digit
that makes it too large. -/
def exponentDigits (n : Nat) : List Char → Option Nat × List Char
  | [] => (some n, [])
  | c :: r =>
    if isDigit c then
      let m := n * 10 + digitValue c
      if m ≤ maxExponent then exponentDigits m r else (none, r)
    else (some n, c :: r)

/-- The text after the letter `e`. -/
def exponentPart (negative : Bool) (significand : Nat) (shift : Int) : Reader Number := fun s =>
  let (down, s) : Bool × List Char := match s with
    | c :: r => if c = '+' then (false, r) else if c = '-' then (true, r) else (false, c :: r)
    | [] => (false, [])
  match s with
  | [] => .error ⟨.eofInValue, [], 0⟩
  | c :: r =>
    if isDigit c then
      match exponentDigits (digitValue c) r with
      | (some n, r) =>
        scientific negative significand (if down then shift - n else shift + n) r
      | (none, r) =>
        if significand ≠ 0 ∧ down = false then .error ⟨.numberOutOfRange, r, 0⟩
        else .ok (.float (Binary64.zero negative), r.dropWhile isDigit)
    else .error ⟨.invalidNumber, c :: r, 1⟩

/-- Whether a text starts with the letter of an exponent. -/
def exponentLetter : List Char → Option (List Char)
  | c :: r => if c = 'e' ∨ c = 'E' then some r else none
  | [] => none

/-- The text after the point. Digits beyond the precision kept are read and dropped. -/
def fraction (negative : Bool) (significand : Nat) (shift : Int) : Reader Number := fun s =>
  let digits := s.takeWhile isDigit
  let s := s.dropWhile isDigit
  match digits, s with
  | [], [] => .error ⟨.eofInValue, [], 0⟩
  | [], c :: r => .error ⟨.invalidNumber, c :: r, 1⟩
  | _ :: _, s =>
    let (n, dropped) := absorb significand digits
    let shift := shift - (digits.length - dropped.length)
    match exponentLetter s with
    | some r => exponentPart negative n shift r
    | none => scientific negative n shift s

/-- What follows the digits of the integer part; `dropped` of them did not fit. -/
def afterInteger (negative : Bool) (significand dropped : Nat) : Reader Number := fun s =>
  match s with
  | c :: r =>
    if c = '.' then fraction negative significand dropped r
    else
      match exponentLetter s with
      | some r => exponentPart negative significand dropped r
      | none => whole s
  | [] => whole s
where
  /-- An integer if all digits fit and, below zero, if it is not too low. Minus zero is no
  integer. -/
  whole : Reader Number := fun s =>
    if dropped ≠ 0 then scientific negative significand dropped s
    else if negative = false then .ok (.int significand, s)
    else if 1 ≤ significand ∧ significand ≤ Nat.pow 2 63 then .ok (.int (-significand), s)
    else scientific true significand 0 s

def unsignedNumber (negative : Bool) : Reader Number
  | [] => .error ⟨.eofInValue, [], 0⟩
  | c :: r =>
    if c = '0' then
      match r with
      | d :: _ =>
        if isDigit d then .error ⟨.invalidNumber, r, 1⟩ else afterInteger negative 0 0 r
      | [] => afterInteger negative 0 0 r
    else if isDigit c then
      let digits := c :: r.takeWhile isDigit
      let (n, dropped) := absorb 0 digits
      afterInteger negative n dropped.length (r.dropWhile isDigit)
    else .error ⟨.invalidNumber, c :: r, 1⟩

end TopicMesh.Json
