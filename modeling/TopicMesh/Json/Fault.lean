import TopicMesh.Json.Writer
import TopicMesh.Text.Quoted

/-!
# TopicMesh.Json.Fault

Why a text was refused, and where:

* `Cause`         — the reason, with its wording in `Cause.message`.
* `Fault`         — a cause, the text that was still unread, and how much of it counts as read.
* `Fault.locate`  — a cause with its line and column in the whole text: lines count from one, columns
  are the bytes since the last line break.

A reader only ever returns what is left of its input, so the position of a fault is the length of
the text minus the length of that rest, worked out once, when reading has ended.
-/

namespace TopicMesh.Json

/-- What stood where something else was wanted. -/
inductive Found where
  | null
  | bool (b : Bool)
  | int (n : Int)
  | float (x : Binary64)
  | str (s : String)
  | sequence
  | map
deriving DecidableEq, Repr

namespace Found

def describe : Found → String
  | .null => "null"
  | .bool true => "boolean `true`"
  | .bool false => "boolean `false`"
  | .int n => "integer `" ++ toString n ++ "`"
  | .float x => "floating point `" ++ x.render ++ "`"
  | .str s => "string " ++ Text.quoted s
  | .sequence => "sequence"
  | .map => "map"

end Found

inductive Cause where
  | expectedValue
  | expectedIdent
  | expectedColon
  | expectedCommaOrBracket
  | expectedCommaOrBrace
  | keyMustBeString
  | trailingComma
  | trailingCharacters
  | eofInValue
  | eofInList
  | eofInObject
  | eofInString
  | recursionLimit
  | invalidNumber
  | numberOutOfRange
  | invalidEscape
  | controlCharacter
  | unexpectedEndOfHexEscape
  | loneSurrogate
  | invalidType (found : Found) (wanted : String)
  | invalidLength (length : Nat) (wanted : String)
  | duplicateField (name : String)
  | missingField (name : String)
  | refusedContent (reason : String)
deriving DecidableEq, Repr

namespace Cause

def message : Cause → String
  | .expectedValue => "expected value"
  | .expectedIdent => "expected ident"
  | .expectedColon => "expected `:`"
  | .expectedCommaOrBracket => "expected `,` or `]`"
  | .expectedCommaOrBrace => "expected `,` or `\x7d`"
  | .keyMustBeString => "key must be a string"
  | .trailingComma => "trailing comma"
  | .trailingCharacters => "trailing characters"
  | .eofInValue => "EOF while parsing a value"
  | .eofInList => "EOF while parsing a list"
  | .eofInObject => "EOF while parsing an object"
  | .eofInString => "EOF while parsing a string"
  | .recursionLimit => "recursion limit exceeded"
  | .invalidNumber => "invalid number"
  | .numberOutOfRange => "number out of range"
  | .invalidEscape => "invalid escape"
  | .controlCharacter =>
    "control character (\\u0000-\\u001F) found while parsing a string"
  | .unexpectedEndOfHexEscape => "unexpected end of hex escape"
  | .loneSurrogate => "lone leading surrogate in hex escape"
  | .invalidType found wanted => "invalid type: " ++ found.describe ++ ", expected " ++ wanted
  | .invalidLength n wanted => "invalid length " ++ toString n ++ ", expected " ++ wanted
  | .duplicateField name => "duplicate field `" ++ name ++ "`"
  | .missingField name => "missing field `" ++ name ++ "`"
  | .refusedContent reason => reason

end Cause

/-- A refusal: its cause, the unread text, and the bytes of that text counted as read. -/
structure Fault where
  cause : Cause
  rest : List Char
  ahead : Nat
deriving DecidableEq, Repr

def byteLength : List Char → Nat
  | [] => 0
  | c :: r => c.utf8Size + byteLength r

/-- Line and column after the first `bytes` bytes, starting from a given line and column. -/
def advance : (bytes line column : Nat) → List Char → Nat × Nat
  | _, line, column, [] => (line, column)
  | bytes, line, column, c :: r =>
    if bytes < c.utf8Size then (line, column + bytes)
    else if c = '\n' then advance (bytes - 1) (line + 1) 0 r
    else advance (bytes - c.utf8Size) line (column + c.utf8Size) r

/-- A cause with the line and column where it was noticed. -/
structure Refusal where
  cause : Cause
  line : Nat
  column : Nat
deriving DecidableEq, Repr

/-- The position of a fault in the whole text; never past its end. -/
def Fault.locate (fault : Fault) (text : List Char) : Refusal :=
  let read := byteLength text - byteLength fault.rest
  let (line, column) := advance (min (byteLength text) (read + fault.ahead)) 1 0 text
  ⟨fault.cause, line, column⟩

def Refusal.message (r : Refusal) : String :=
  r.cause.message ++ " at line " ++ toString r.line ++ " column " ++ toString r.column

/-- A reader takes a value off the front of a text and returns the rest. -/
abbrev Reader (α : Type) := List Char → Except Fault (α × List Char)

end TopicMesh.Json
