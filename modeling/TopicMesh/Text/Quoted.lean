import TopicMesh.Text.Unprintable

/-!
# TopicMesh.Text.Quoted

Text as it is quoted inside messages: between double quotes, with a backslash before `"` and `\`,
short escapes for newline, carriage return, tab and NUL, and the code point in lower-case
hexadecimal for every other character that cannot be shown as itself.
-/

namespace TopicMesh.Text

/-- One character inside a quotation. -/
def quotedChar (c : Char) : List Char :=
  if c = '"' then ['\\', '"']
  else if c = '\\' then ['\\', '\\']
  else if c = '\n' then ['\\', 'n']
  else if c = '\r' then ['\\', 'r']
  else if c = '\t' then ['\\', 't']
  else if c = '\x00' then ['\\', '0']
  else if ' ' ≤ c ∧ c ≤ '~' then [c]
  else if isUnprintable c then '\\' :: 'u' :: '{' :: Nat.toDigits 16 c.toNat ++ ['}']
  else [c]

def quoted (s : String) : String :=
  String.ofList ('"' :: s.toList.flatMap quotedChar ++ ['"'])

end TopicMesh.Text
