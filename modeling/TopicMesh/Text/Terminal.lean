/-!
# TopicMesh.Text.Terminal

What a terminal shows of a text. Escape sequences set colours and the like and are not shown
themselves, nor is what they hold:

* `Mode`     — where the terminal is with respect to escape sequences.
* `visible`  — the characters that are shown: the printable ones and line layout.
* `bold`, `highlighted` — a text between the sequences that set it off and end that again.
-/

namespace TopicMesh.Text.Terminal

/-- Where a terminal is after some characters. -/
inductive Mode where
  /-- Outside of escape sequences. -/
  | plain
  /-- After the escape character. -/
  | escape
  /-- Inside a sequence that selects something, such as a character set. -/
  | selection
  /-- Inside a control sequence, such as one for a colour. -/
  | control
  /-- Inside a command to the terminal, such as one for its title. -/
  | command
  /-- Inside a string that is meant for a device or an application. -/
  | message
deriving DecidableEq, Repr

/-- The controls that lay out lines. -/
def isLayout (c : Char) : Bool := c = '\t' || c = '\n' || c = '\x0c' || c = '\r'

namespace Mode

/-- The mode after the escape character and another one. -/
def introduced (c : Char) : Mode :=
  if c = '[' then .control
  else if c = ']' then .command
  else if c = 'P' ∨ c = 'X' ∨ c = '^' ∨ c = '_' then .message
  else if ' ' ≤ c ∧ c ≤ '/' then .selection
  else if isLayout c ∨ '0' ≤ c ∧ c ≤ '~' then .plain
  else .escape

/-- The mode after one more character. An escape character begins a new sequence wherever it stands,
and U+0018 and U+001A break one off, as line layout does except in commands and messages. -/
def next (m : Mode) (c : Char) : Mode :=
  if c = '\x1b' then .escape
  else if c = '\x18' ∨ c = '\x1a' then .plain
  else
    match m with
    | .plain => .plain
    | .escape => introduced c
    | .selection => if isLayout c ∨ '0' ≤ c ∧ c ≤ '~' then .plain else .selection
    | .control => if isLayout c ∨ '@' ≤ c ∧ c ≤ '~' then .plain else .control
    | .command => if c = '\x07' then .plain else .command
    | .message => .message

def shows (m : Mode) (c : Char) : Bool :=
  match m with
  | .plain => isLayout c || (' ' ≤ c && c ≠ '\x7f')
  | .escape | .selection | .control => isLayout c
  | .command | .message => false

/-- The characters that are shown from a mode on. -/
def shown (m : Mode) : List Char → List Char
  | [] => []
  | c :: r => if m.shows c then c :: (m.next c).shown r else (m.next c).shown r

end Mode

/-- What a terminal shows of a text. -/
def visible (s : String) : String := String.ofList (Mode.plain.shown s.toList)

/-- The sequence that ends every setting-off. -/
def reset : String := "\x1b[0m"

def bold (s : String) : String := "\x1b[1m" ++ s ++ reset

def highlighted (s : String) : String := "\x1b[33m" ++ s ++ reset

end TopicMesh.Text.Terminal
