import TopicMesh.Duration

/-!
# TopicMesh.Instant

Points in time, as seconds since 1970-01-01 UTC and nanoseconds, with the proleptic Gregorian
calendar: `Instant.ofCivil` and `Instant.civil` convert from and to years, months and days. A leap
second is the second before it with a billion or more nanoseconds. Years run from -262143 to 262142.
-/

namespace TopicMesh

structure Instant where
  second : Int
  nanosecond : Nat
deriving DecidableEq, Repr, Inhabited

structure Civil where
  year : Int
  month : Nat
  day : Nat
deriving DecidableEq, Repr

namespace Instant

instance : LT Instant :=
  ⟨fun a b => a.second < b.second ∨ (a.second = b.second ∧ a.nanosecond < b.nanosecond)⟩

instance (a b : Instant) : Decidable (a < b) :=
  inferInstanceAs (Decidable (_ ∨ (_ ∧ _)))

theorem lt_def {a b : Instant} :
    a < b ↔ a.second < b.second ∨ (a.second = b.second ∧ a.nanosecond < b.nanosecond) := Iff.rfl

def isLeapYear (year : Int) : Bool :=
  year % 4 = 0 && (year % 100 ≠ 0 || year % 400 = 0)

def daysInMonth (year : Int) (month : Nat) : Nat :=
  if month = 2 then (if isLeapYear year then 29 else 28)
  else if month = 4 ∨ month = 6 ∨ month = 9 ∨ month = 11 then 30
  else 31

/-- Days from 1970-01-01 to a date. Years are counted from March, so that a leap day is the last
day of its year; 400 years have 146097 days. -/
def daysOfCivil (c : Civil) : Int :=
  let year := if c.month ≤ 2 then c.year - 1 else c.year
  let era := year / 400
  let yearOfEra := year % 400
  let monthFromMarch : Int := ((c.month + 9) % 12 : Nat)
  let dayOfYear := (153 * monthFromMarch + 2) / 5 + c.day - 1
  let dayOfEra := yearOfEra * 365 + yearOfEra / 4 - yearOfEra / 100 + dayOfYear
  era * 146097 + dayOfEra - 719468

def civilOfDays (days : Int) : Civil :=
  let z := days + 719468
  let era := z / 146097
  let dayOfEra := z % 146097
  let yearOfEra := (dayOfEra - dayOfEra / 1460 + dayOfEra / 36524 - dayOfEra / 146096) / 365
  let dayOfYear := dayOfEra - (365 * yearOfEra + yearOfEra / 4 - yearOfEra / 100)
  let monthFromMarch := (5 * dayOfYear + 2) / 153
  let day := dayOfYear - (153 * monthFromMarch + 2) / 5 + 1
  let month := if monthFromMarch < 10 then monthFromMarch + 3 else monthFromMarch - 9
  let year := yearOfEra + era * 400
  ⟨if month ≤ 2 then year + 1 else year, month.toNat, day.toNat⟩

def minYear : Int := -262143
def maxYear : Int := 262142

/-- The last second of the last year. -/
def maxSecond : Int := 8210266876799

/-- The first second of the first year. -/
def minSecond : Int := -8334601228800

/-- The instant a duration later, or `none` after the last second. -/
def add (t : Instant) (d : Duration) : Option Instant :=
  let n := t.nanosecond + d.nanoseconds
  let later : Instant := ⟨t.second + (n / Duration.perSecond : Nat), n % Duration.perSecond⟩
  if later.second ≤ maxSecond then some later else none

end Instant

end TopicMesh
