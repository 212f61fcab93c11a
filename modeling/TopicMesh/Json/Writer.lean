import TopicMesh.Json.Basic
import TopicMesh.Decimal.Shortest

/-!
# TopicMesh.Json.Writer

The compact text of a JSON value: no blanks, members in the order of their keys, and escapes only
for `"`, `\` and the controls below U+0020.
-/

namespace TopicMesh.Json

/-- A hexadecimal digit, in lower case. -/
def hexDigit (n : Nat) : Char := Nat.digitChar (n % 16)

def escapeChar (c : Char) : List Char :=
  if c = '"' then ['\\', '"']
  else if c = '\\' then ['\\', '\\']
  else if c = '\x08' then ['\\', 'b']
  else if c = '\t' then ['\\', 't']
  else if c = '\n' then ['\\', 'n']
  else if c = '\x0c' then ['\\', 'f']
  else if c = '\r' then ['\\', 'r']
  else if c.toNat < 0x20 then
    ['\\', 'u', '0', '0', hexDigit (c.toNat / 16), hexDigit c.toNat]
  else [c]

def stringChars (s : List Char) : List Char := '"' :: s.flatMap escapeChar ++ ['"']

def intChars (n : Int) : List Char :=
  if n < 0 then '-' :: Nat.toDigits 10 n.natAbs else Nat.toDigits 10 n.natAbs

mutual
def chars : Json → List Char
  | .null => ['n', 'u', 'l', 'l']
  | .bool true => ['t', 'r', 'u', 'e']
  | .bool false => ['f', 'a', 'l', 's', 'e']
  | .int n => intChars n
  | .float x => x.render.toList
  | .str s => stringChars s.toList
  | .arr items => '[' :: itemsChars items ++ [']']
  | .obj members => '{' :: membersChars members ++ ['}']

def itemsChars : List Json → List Char
  | [] => []
  | [a] => a.chars
  | a :: b :: r => a.chars ++ ',' :: itemsChars (b :: r)

def membersChars : List (String × Json) → List Char
  | [] => []
  | [(k, a)] => stringChars k.toList ++ ':' :: a.chars
  | (k, a) :: b :: r => stringChars k.toList ++ ':' :: a.chars ++ ',' :: membersChars (b :: r)
end

/-- The text of a value, as a string. -/
def write (j : Json) : String := String.ofList j.chars

end TopicMesh.Json
