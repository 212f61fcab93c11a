/-!
# TopicMesh.Duration

Lengths of time, exact to the nanosecond. `Duration.render` writes one in the largest of the units
`s`, `ms`, `µs` and `ns` of which it holds at least one, with as many decimals as it needs.
-/

namespace TopicMesh

/-- A length of time as a number of nanoseconds. -/
structure Duration where
  nanoseconds : Nat
deriving DecidableEq, Repr, Inhabited

namespace Duration

def perSecond : Nat := 1000000000

def ofParts (seconds nanoseconds : Nat) : Duration := ⟨seconds * perSecond + nanoseconds⟩

def ofSeconds (n : Nat) : Duration := ofParts n 0

def ofMilliseconds (n : Nat) : Duration := ⟨n * 1000000⟩

def seconds (d : Duration) : Nat := d.nanoseconds / perSecond

def subsecond (d : Duration) : Nat := d.nanoseconds % perSecond

def milliseconds (d : Duration) : Nat := d.nanoseconds / 1000000

/-- Milliseconds, counting a begun one as a whole one. -/
def millisecondsCeil (d : Duration) : Nat := (d.nanoseconds + 999999) / 1000000

/-- The longest wait in milliseconds: thirty years of 365 days. -/
def longestWait : Nat := 30 * 365 * 24 * 60 * 60 * 1000

/-- How many milliseconds a wait of that length takes; no wait is longer than the longest. -/
def wait (d : Duration) : Nat := min d.millisecondsCeil longestWait

/-- The difference, or zero where it would be negative. -/
def sub (a b : Duration) : Duration := ⟨a.nanoseconds - b.nanoseconds⟩

instance : LE Duration := ⟨fun a b => a.nanoseconds ≤ b.nanoseconds⟩
instance : LT Duration := ⟨fun a b => a.nanoseconds < b.nanoseconds⟩

instance (a b : Duration) : Decidable (a ≤ b) := Nat.decLe a.nanoseconds b.nanoseconds
instance (a b : Duration) : Decidable (a < b) := Nat.decLt a.nanoseconds b.nanoseconds

@[simp] theorem le_def {a b : Duration} : a ≤ b ↔ a.nanoseconds ≤ b.nanoseconds := Iff.rfl
@[simp] theorem lt_def {a b : Duration} : a < b ↔ a.nanoseconds < b.nanoseconds := Iff.rfl

/-- `whole` units and `part` of `size` parts of a unit, without trailing zeros. -/
def decimal (whole part size : Nat) (unit : String) : String :=
  let digits := Nat.toDigits 10 (size + part) |>.drop 1
  let shown := (digits.reverse.dropWhile (· = '0')).reverse
  if shown = [] then toString whole ++ unit
  else toString whole ++ "." ++ String.ofList shown ++ unit

/-- The text of a duration in messages, such as `1.5s`, `20ms` or `0ns`. -/
def render (d : Duration) : String :=
  let n := d.nanoseconds
  if perSecond ≤ n then decimal d.seconds d.subsecond perSecond "s"
  else if 1000000 ≤ n then decimal (n / 1000000) (n % 1000000) 1000000 "ms"
  else if 1000 ≤ n then decimal (n / 1000) (n % 1000) 1000 "µs"
  else toString n ++ "ns"

end Duration

end TopicMesh
