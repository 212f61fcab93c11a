import TopicMesh.Instant
import TopicMesh.Text.Blank

/-!
# TopicMesh.Rfc3339

Dates and times as text. `read` is lenient: blanks may stand around the numbers, months, days, hours,
minutes and seconds may have one digit, a year may have a sign and then any number of digits, and a
fraction is cut after nine digits. `write` gives the canonical form in UTC, with as many groups of
three fraction digits as the time needs.
-/

namespace TopicMesh.Rfc3339

inductive Refusal where
  | outOfRange
  | impossible
  | invalid
  | tooShort
  | tooLong
deriving DecidableEq, Repr

def Refusal.message : Refusal → String
  | .outOfRange => "input is out of range"
  | .impossible => "no possible date and time matching input"
  | .invalid => "input contains invalid characters"
  | .tooShort => "premature end of input"
  | .tooLong => "trailing input"

/-- A part taken off the front of a text, and the rest. -/
abbrev Part (α : Type) := List Char → Except Refusal (α × List Char)

def isDigit (c : Char) : Bool := '0' ≤ c && c ≤ '9'

def digitValue (c : Char) : Nat := c.toNat - '0'.toNat

/-- Numbers above this are refused as they are read. -/
def maxNumber : Nat := Nat.pow 2 63 - 1

/-- Digits after `n`, at most `width` of them. -/
def digits (n : Nat) : (width : Nat) → Part Nat
  | 0, s => .ok (n, s)
  | _ + 1, [] => .ok (n, [])
  | width + 1, c :: r =>
    if isDigit c then
      let m := n * 10 + digitValue c
      if m ≤ maxNumber then digits m width r else .error .outOfRange
    else .ok (n, c :: r)

/-- A number of one to `width` digits. -/
def number (width : Nat) : Part Nat
  | [] => .error .tooShort
  | c :: r => if isDigit c then digits 0 width (c :: r) else .error .invalid

/-- A number between two bounds, after blanks. -/
def bounded (width low high : Nat) : Part Nat := fun s =>
  match number width (Text.trimStart s) with
  | .error e => .error e
  | .ok (n, r) => if low ≤ n ∧ n ≤ high then .ok (n, r) else .error .outOfRange

/-- A year of up to four digits, or of any number of digits after a sign. -/
def year : Part Int := fun s =>
  let inRange (n : Int) (r : List Char) : Except Refusal (Int × List Char) :=
    if -Int.pow 2 31 ≤ n ∧ n < Int.pow 2 31 then .ok (n, r) else .error .outOfRange
  match Text.trimStart s with
  | [] => .error .tooShort
  | c :: r =>
    if c = '-' then
      match number r.length r with
      | .error e => .error e
      | .ok (n, r) => inRange (-n) r
    else if c = '+' then
      match number r.length r with
      | .error e => .error e
      | .ok (n, r) => inRange n r
    else
      match number 4 (c :: r) with
      | .error e => .error e
      | .ok (n, r) => inRange n r

/-- One fixed character, after blanks. -/
def literal (d : Char) (s : List Char) : Except Refusal (List Char) :=
  match Text.trimStart s with
  | [] => .error .tooShort
  | c :: r => if c = d then .ok r else .error .invalid

/-- The character between date and time. -/
def separator : List Char → Except Refusal (List Char)
  | [] => .error .tooShort
  | c :: r => if c = 'T' ∨ c = 't' ∨ c = ' ' then .ok r else .error .invalid

/-- The fraction of a second in nanoseconds, if a point follows. -/
def fraction : Part Nat
  | [] => .ok (0, [])
  | c :: r =>
    if c = '.' then
      match number 9 r with
      | .error e => .error e
      | .ok (n, s) => .ok (n * Nat.pow 10 (9 - (r.length - s.length)), s.dropWhile isDigit)
    else .ok (0, c :: r)

/-- The first two characters, if there are two bytes at all. -/
def twoDigits (high : Char) : Part Nat
  | [] => .error .tooShort
  | [c] => if c.utf8Size < 2 then .error .tooShort else .error .invalid
  | c :: d :: r =>
    if isDigit c && isDigit d then
      if c ≤ high then .ok (digitValue c * 10 + digitValue d, r) else .error .outOfRange
    else .error .invalid

/-- Hours and minutes of an offset, with colons and blanks between them. -/
def hoursAndMinutes (negative : Bool) : Part Int := fun s =>
  match twoDigits '9' s with
  | .error e => .error e
  | .ok (hours, r) =>
    match twoDigits '5' (r.dropWhile fun c => c == ':' || Text.isBlank c) with
    | .error e => .error e
    | .ok (minutes, r) =>
      let seconds : Int := hours * 3600 + minutes * 60
      .ok (if negative then -seconds else seconds, r)

def offset : Part Int
  | [] => .error .tooShort
  | c :: r =>
    if isUtc (c :: r) then .ok (0, r.drop 2)
    else if c = 'Z' ∨ c = 'z' then .ok (0, r)
    else if c = '+' then hoursAndMinutes false r
    else if c = '-' ∨ c = '−' then hoursAndMinutes true r
    else .error .invalid
where
  /-- The three letters `UTC`, in any case. -/
  isUtc (s : List Char) : Bool := (s.take 3).map Char.toUpper == ['U', 'T', 'C']

/-- A date, and the text after it. -/
def date : Part Civil := fun s =>
  match year s with
  | .error e => .error e
  | .ok (y, s) =>
    match literal '-' s with
    | .error e => .error e
    | .ok s =>
      match bounded 2 1 12 s with
      | .error e => .error e
      | .ok (m, s) =>
        match literal '-' s with
        | .error e => .error e
        | .ok s =>
          match bounded 2 1 31 s with
          | .error e => .error e
          | .ok (d, s) => .ok (⟨y, m, d⟩, s)

/-- A time of the day in seconds and nanoseconds, and the text after it. Second 60 is second 59
with a further billion of nanoseconds. -/
def time : Part (Nat × Nat) := fun s =>
  match bounded 2 0 23 s with
  | .error e => .error e
  | .ok (hour, s) =>
    match literal ':' s with
    | .error e => .error e
    | .ok s =>
      match bounded 2 0 59 s with
      | .error e => .error e
      | .ok (minute, s) =>
        match literal ':' s with
        | .error e => .error e
        | .ok s =>
          match bounded 2 0 60 s with
          | .error e => .error e
          | .ok (second, s) =>
            match fraction s with
            | .error e => .error e
            | .ok (nanos, s) =>
              let start := hour * 3600 + minute * 60
              let whole := if second = 60 then start + 59 else start + second
              let part := if second = 60 then nanos + Duration.perSecond else nanos
              .ok ((whole, part), Text.trimStart s)

/-- The instant of a date and a time of the day at an offset from UTC. -/
def resolve (c : Civil) (second nanos : Nat) (offset : Int) : Except Refusal Instant :=
  if c.year < Instant.minYear ∨ Instant.maxYear < c.year then .error .outOfRange
  else if Instant.daysInMonth c.year c.month < c.day then .error .outOfRange
  else if 86400 ≤ offset.natAbs then .error .outOfRange
  else
    let utc := Instant.daysOfCivil c * 86400 + second - offset
    if utc < Instant.minSecond ∨ Instant.maxSecond < utc then .error .impossible
    else .ok ⟨utc, nanos⟩

/-- Reads a date and time with an offset; blanks may follow. -/
def read (text : String) : Except Refusal Instant :=
  match date text.toList with
  | .error e => .error e
  | .ok (c, s) =>
    match separator s with
    | .error e => .error e
    | .ok s =>
      match time s with
      | .error e => .error e
      | .ok ((second, nanos), s) =>
        match offset s with
        | .error e => .error e
        | .ok (o, s) =>
          if Text.trimStart s = [] then resolve c second nanos o else .error .tooLong

/-- At least `width` digits, with zeros in front. -/
def padded (width n : Nat) : String :=
  let d := Nat.toDigits 10 n
  String.ofList (List.replicate (width - d.length) '0' ++ d)

/-- Four digits, or a sign and at least four digits outside the years 0 to 9999. -/
def yearText (y : Int) : String :=
  if 0 ≤ y ∧ y ≤ 9999 then padded 4 y.natAbs
  else (if y < 0 then "-" else "+") ++ padded 4 y.natAbs

/-- A point and three, six or nine digits, as few as possible, or nothing. -/
def fractionText (nanos : Nat) : String :=
  if nanos = 0 then ""
  else if nanos % 1000000 = 0 then "." ++ padded 3 (nanos / 1000000)
  else if nanos % 1000 = 0 then "." ++ padded 6 (nanos / 1000)
  else "." ++ padded 9 nanos

/-- The canonical text of an instant, in UTC. -/
def write (t : Instant) : String :=
  let c := Instant.civilOfDays (t.second / 86400)
  let second := (t.second % 86400).toNat
  let leap := Duration.perSecond ≤ t.nanosecond
  let shown := second % 60 + if leap then 1 else 0
  let nanos := if leap then t.nanosecond - Duration.perSecond else t.nanosecond
  yearText c.year ++ "-" ++ padded 2 c.month ++ "-" ++ padded 2 c.day ++ "T"
    ++ padded 2 (second / 3600) ++ ":" ++ padded 2 (second / 60 % 60) ++ ":" ++ padded 2 shown
    ++ fractionText nanos ++ "Z"

end TopicMesh.Rfc3339
