import Mathlib.Data.List.Forall2
import TopicMesh.Json.Field

/-!
# TopicMesh.Proofs.Json.Grammar

The grammar of JSON, without a reader. A document is spelled as a tree, which keeps of its text what
matters for its meaning; what the tree means as a value is said apart from that, and so is what it
means as something else.

* `Tree`            — a document as it is spelled.
* `Grammar.Value`   — the trees that stand at the beginning of a text, with brackets nested up to a bound.
* `IsDocument`      — a whole text is one tree, with blanks around it.
* `Tree.value?`     — the value of a tree: none if a number is out of range or a surrogate is alone.
-/

namespace TopicMesh.Json

/-! ## Trees -/

/-- A part of a string literal: a character, or the four digits of a unit of UTF-16. -/
inductive Piece where
  | char (c : Char)
  | unit (n : Nat)

/-- The parts of a number after its sign: all digits are kept, and whether the exponent is negative. -/
structure Numeral where
  whole : List Char
  fraction : List Char
  exponent : Option (Bool × List Char)

inductive Tree where
  | null
  | bool (b : Bool)
  | number (negative : Bool) (n : Numeral)
  | str (ps : List Piece)
  | arr (items : List Tree)
  | obj (members : List (List Piece × Tree))

/-! ## What stands at the beginning of a text -/

/-- Says of a text, a thing and another text that the first text is the thing's, followed by the other
one. -/
abbrev Grammar (α : Type) := List Char → α → List Char → Prop

namespace Grammar

/-- The inside of a string, up to and including the closing quote. -/
inductive Pieces : List Char → List Piece → List Char → Prop
  | close {r : List Char} : Pieces ('"' :: r) [] r
  | plain {c : Char} {s r : List Char} {ps : List Piece} (hquote : c ≠ '"') (hescape : c ≠ '\\')
    (hcontrol : ¬c.toNat < 0x20) (h : Pieces s ps r) : Pieces (c :: s) (.char c :: ps) r
  | short {e c : Char} {s r : List Char} {ps : List Piece} (he : shortEscape e = some c)
    (h : Pieces s ps r) : Pieces ('\\' :: e :: s) (.char c :: ps) r
  | unit {h₁ h₂ h₃ h₄ : Char} {n : Nat} {s r : List Char} {ps : List Piece}
    (hn : hexUnit h₁ h₂ h₃ h₄ = some n) (h : Pieces s ps r) :
    Pieces ('\\' :: 'u' :: h₁ :: h₂ :: h₃ :: h₄ :: s) (.unit n :: ps) r

/-- All digits that there are, at least one. -/
def Digits : Grammar (List Char) := fun s ds r =>
  ds ≠ [] ∧ s.takeWhile isDigit = ds ∧ s.dropWhile isDigit = r

/-- No digit follows a zero that begins a number. -/
def Whole : Grammar (List Char) := fun s ds r => Digits s ds r ∧ (ds.head? = some '0' → ds = ['0'])

def Fraction : Grammar (List Char) := fun s ds r =>
  (∃ t, s = '.' :: t ∧ Digits t ds r) ∨ (s.head? ≠ some '.' ∧ ds = [] ∧ r = s)

/-- Whether an exponent begins with a minus, and the text after the sign. -/
def exponentSign : List Char → Bool × List Char
  | c :: r => if c = '+' then (false, r) else if c = '-' then (true, r) else (false, c :: r)
  | [] => (false, [])

def Exponent : Grammar (Option (Bool × List Char)) := fun s e r =>
  match e with
  | some (down, ds) =>
    ∃ t, exponentLetter s = some t ∧ (exponentSign t).1 = down ∧ Digits (exponentSign t).2 ds r
  | none => exponentLetter s = none ∧ r = s

def Decimal : Grammar Numeral := fun s n r =>
  ∃ t u, Whole s n.whole t ∧ Fraction t n.fraction u ∧ Exponent u n.exponent r

/-- What stands without brackets around it. -/
inductive Scalar : List Char → Tree → List Char → Prop
  | null {r : List Char} : Scalar ('n' :: 'u' :: 'l' :: 'l' :: r) .null r
  | true {r : List Char} : Scalar ('t' :: 'r' :: 'u' :: 'e' :: r) (.bool true) r
  | false {r : List Char} : Scalar ('f' :: 'a' :: 'l' :: 's' :: 'e' :: r) (.bool false) r
  | negative {s r : List Char} {n : Numeral} (h : Decimal s n r) :
    Scalar ('-' :: s) (.number .true n) r
  | number {s r : List Char} {n : Numeral} (h : Decimal s n r) : Scalar s (.number .false n) r
  | str {s r : List Char} {ps : List Piece} (h : Pieces s ps r) : Scalar ('"' :: s) (.str ps) r

section Sequences

variable {α : Type}

/-- The elements after the first one, each after a comma, up to and including the closing bracket. -/
def Further (closing : Char) (p : Grammar α) : List Char → List α → List Char → Prop
  | s, [], r => skipBlank s = closing :: r
  | s, a :: l, r => ∃ t u, skipBlank s = ',' :: t ∧ p t a u ∧ Further closing p u l r

/-- Elements with commas between them, up to and including the closing bracket. -/
def Elements (closing : Char) (p : Grammar α) : List Char → List α → List Char → Prop
  | s, [], r => skipBlank s = closing :: r
  | s, a :: l, r => ∃ u, p s a u ∧ Further closing p u l r

/-- A key, a colon and what the key is for. -/
def Member (p : Grammar α) : Grammar (List Piece × α) := fun s m r =>
  ∃ t u v, skipBlank s = '"' :: t ∧ Pieces t m.1 u ∧ skipBlank u = ':' :: v ∧ p v m.2 r

end Sequences

inductive Bracketed (p : Grammar Tree) : List Char → Tree → List Char → Prop
  | arr {s r : List Char} {l : List Tree} (h : Elements ']' p s l r) :
    Bracketed p ('[' :: s) (.arr l) r
  | obj {s r : List Char} {l : List (List Piece × Tree)} (h : Elements '}' (Member p) s l r) :
    Bracketed p ('{' :: s) (.obj l) r

/-- Any value, after blanks, with brackets nested at most so deep. -/
def Value : Nat → List Char → Tree → List Char → Prop
  | 0, s, x, r => Scalar (skipBlank s) x r
  | d + 1, s, x, r => Scalar (skipBlank s) x r ∨ Bracketed (Value d) (skipBlank s) x r

/-- Any value, after blanks, with brackets nested as deep as they may be. -/
def Any : List Char → Tree → List Char → Prop := fun s x r => ∃ d, Value d s x r

end Grammar

/-- The text is one value with blanks around it, and brackets nested at most so deep. -/
def IsDocument (depth : Nat) (s : List Char) (x : Tree) : Prop :=
  ∃ r, Grammar.Value depth s x r ∧ skipBlank r = []

/-! ## What a tree means -/

/-- The characters of a string. Units of UTF-16 that are surrogates must come in pairs. -/
def spell : List Piece → Option (List Char)
  | [] => some []
  | .char c :: ps => (spell ps).map (c :: ·)
  | .unit n :: ps =>
    if isTrailingSurrogate n then none
    else if isLeadingSurrogate n then
      match ps with
      | .unit m :: ps =>
        if isTrailingSurrogate m then (spell ps).map (pairedChar n m :: ·) else none
      | _ => none
    else (spell ps).map (Char.ofNat n :: ·)

/-- A significand times a power of ten and another one that is written out. An exponent that is too large
itself leaves only zero. -/
def scaled? (negative : Bool) (significand : Nat) (shift : Int) :
    Option (Bool × List Char) → Option Number
  | none => (Binary64.ofScientific negative significand shift).map .float
  | some (down, ds) =>
    match (exponentDigits 0 ds).1 with
    | some e =>
      let shift := if down then shift - e else shift + e
      (Binary64.ofScientific negative significand shift).map .float
    | none => if significand ≠ 0 ∧ down = false then none else some (.float (.zero negative))

/-- The number with these digits before the point, of which so many did not fit into the significand: an
integer if it is written as one and is not too large. -/
def completed? (negative : Bool) (significand dropped : Nat) :
    List Char → Option (Bool × List Char) → Option Number
  | [], none =>
    if dropped ≠ 0 then scaled? negative significand dropped none
    else if negative = false then some (.int significand)
    else if 1 ≤ significand ∧ significand ≤ Nat.pow 2 63 then some (.int (-significand))
    else scaled? true significand 0 none
  | fraction, exponent =>
    let (n, left) := absorb significand fraction
    scaled? negative n (dropped - (fraction.length - left.length)) exponent

/-- The number, if it is not too large. -/
def Numeral.value? (negative : Bool) (n : Numeral) : Option Number :=
  let (significand, left) := absorb 0 n.whole
  completed? negative significand left.length n.fraction n.exponent

mutual
def Tree.value? : Tree → Option Json
  | .null => some .null
  | .bool b => some (.bool b)
  | .number negative n => (n.value? negative).map Number.toJson
  | .str ps => (spell ps).map fun cs => .str (String.ofList cs)
  | .arr items => (itemsValue? items).map .arr
  | .obj members => (membersValue? members).map ofMembers

def itemsValue? : List Tree → Option (List Json)
  | [] => some []
  | x :: l => x.value?.bind fun j => (itemsValue? l).map (j :: ·)

/-- The members with their keys as text. -/
def membersValue? : List (List Piece × Tree) → Option (List (String × Json))
  | [] => some []
  | (k, x) :: l =>
    (spell k).bind fun cs => x.value?.bind fun j =>
      (membersValue? l).map ((String.ofList cs, j) :: ·)
end

end TopicMesh.Json
