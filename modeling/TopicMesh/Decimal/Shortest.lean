import TopicMesh.Decimal.Binary64

/-!
# TopicMesh.Decimal.Shortest

The shortest decimal that reads back as a given floating-point number, and its notation.

A decimal reads back as `x` when it lies in the interval of numbers that round to `x`; the ends of
the interval belong to it when the significand is even. `shortest` looks for the coarsest grid of
multiples of a power of ten that has a point in this interval. If a grid has one, then one of the
two neighbours of `x` on it is one, so only these two are tried, the nearer one first.
-/

namespace TopicMesh.Binary64

/-- The decimal `digits * 10 ^ power`. -/
structure Decimal where
  digits : Nat
  power : Int
deriving DecidableEq, Repr

/-- A magnitude between the halfway points to its neighbours, all over one denominator. -/
structure Rounding where
  low : Nat
  value : Nat
  high : Nat
  denominator : Nat
  closed : Bool

/-- The numbers that round to `x`; below a power of two the neighbour is half as far away. -/
def rounding (x : Binary64) : Rounding :=
  let e := x.exponent - 2
  let below := if x.significand = Nat.pow 2 52 ∧ minExponent < x.exponent then 1 else 2
  let m := 4 * x.significand
  let scale := Nat.pow 2 e.toNat
  { low := (m - below) * scale
    value := m * scale
    high := (m + 2) * scale
    denominator := Nat.pow 2 (-e).toNat
    closed := x.significand % 2 == 0 }

/-- Whether `n * unit / den`, with the interval over `den`, rounds to the value. -/
def Rounding.admits (i : Rounding) (n : Nat) : Bool :=
  if i.closed then i.low ≤ n && n ≤ i.high else i.low < n && n < i.high

/-- The nearest multiple of `10 ^ p` in the interval, if it holds one. -/
def Rounding.onGrid (i : Rounding) (p : Int) : Option Decimal :=
  let scale := Nat.pow 10 (-p).toNat
  let unit := Nat.pow 10 p.toNat * i.denominator
  let i : Rounding :=
    { i with low := i.low * scale, value := i.value * scale, high := i.high * scale }
  let down := i.value / unit
  let up := down + 1
  let toDown := i.value - down * unit
  let toUp := up * unit - i.value
  let downFirst := toDown < toUp || (toDown == toUp && down % 2 == 0)
  let near := if downFirst then down else up
  let far := if downFirst then up else down
  if i.admits (near * unit) then some ⟨near, p⟩
  else if i.admits (far * unit) then some ⟨far, p⟩
  else none

/-- A power of ten above the magnitude, by at most two decades: `log10 2` is close to `0.30103`. -/
def ceilingPower (x : Binary64) : Int :=
  let (num, den) := x.ratio
  (floorLog2 num den + 1) * 30103 / 100000 + 2

/-- The decimal with the fewest digits that reads back as `x`; zero for zero. Seventeen digits
always suffice, so the search ends within twenty grids below the ceiling. -/
def shortest (x : Binary64) : Decimal :=
  if x.isZero then ⟨0, 0⟩
  else
    let top := x.ceilingPower
    ((List.range 24).findSome? fun (i : Nat) => x.rounding.onGrid (top - i)).getD ⟨0, 0⟩

/-- Positional between `10 ^ -5` and `10 ^ 16`, always with a point; otherwise one digit before
the point and a signed exponent. -/
def render (x : Binary64) : String :=
  let d := x.shortest
  let digits := Nat.toDigits 10 d.digits
  let count : Int := digits.length
  let lead := count - 1 + d.power
  let zeros (n : Int) : List Char := List.replicate n.toNat '0'
  let body : List Char :=
    if x.isZero then ['0', '.', '0']
    else if -5 ≤ lead ∧ lead ≤ 15 then
      if 0 ≤ d.power then digits ++ zeros d.power ++ ['.', '0']
      else if 0 ≤ lead then
        digits.take (lead + 1).toNat ++ '.' :: digits.drop (lead + 1).toNat
      else '0' :: '.' :: zeros (-lead - 1) ++ digits
    else
      let mantissa := match digits with
        | [] => []
        | [c] => [c]
        | c :: r => c :: '.' :: r
      let sign := if 0 ≤ lead then '+' else '-'
      mantissa ++ 'e' :: sign :: Nat.toDigits 10 lead.natAbs
  String.ofList (if x.negative then '-' :: body else body)

end TopicMesh.Binary64
