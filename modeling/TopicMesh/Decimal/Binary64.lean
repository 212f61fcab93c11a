/-!
# TopicMesh.Decimal.Binary64

Finite binary floating-point numbers with 53 bits of precision, in exact integer arithmetic:

* `Binary64`       — a sign, a significand and a power of two.
* `ofRatio`        — the number nearest to a quotient, a tie going to the even significand.
* `mul`, `div`     — products and quotients, rounded once.
* `ofScientific`   — the value read for a decimal significand and a power of ten.

`ofScientific` rounds the significand, and then once more for each power of ten it multiplies or
divides by, so that it may give a neighbour of the number nearest to the decimal.
-/

namespace TopicMesh

/-- The number `significand * 2 ^ exponent`, negated if `negative`. Zero has both signs. -/
structure Binary64 where
  negative : Bool
  significand : Nat
  exponent : Int
deriving DecidableEq, Repr, Inhabited

namespace Binary64

/-- The smallest power of two in use. -/
def minExponent : Int := -1074

/-- The largest power of two in use. -/
def maxExponent : Int := 971

def zero (negative : Bool) : Binary64 := ⟨negative, 0, minExponent⟩

/-- Each number has one representation: all 53 bits are in use unless the power is the least. -/
def IsCanonical (x : Binary64) : Prop :=
  x.significand < Nat.pow 2 53 ∧ minExponent ≤ x.exponent ∧ x.exponent ≤ maxExponent ∧
    (Nat.pow 2 52 ≤ x.significand ∨ x.exponent = minExponent)

instance (x : Binary64) : Decidable x.IsCanonical := inferInstanceAs (Decidable (_ ∧ _))

/-- The quotient rounded to the nearest integer, a half to the even one. -/
def roundDiv (num den : Nat) : Nat :=
  let q := num / den
  let r := num % den
  if 2 * r < den then q
  else if den < 2 * r then q + 1
  else if q % 2 = 0 then q
  else q + 1

/-- The quotient of `num` and `den * 2 ^ e` rounded to an integer. -/
def roundScaled (num den : Nat) (e : Int) : Nat :=
  if 0 ≤ e then roundDiv num (den * Nat.pow 2 e.toNat)
  else roundDiv (num * Nat.pow 2 (-e).toNat) den

/-- The largest `k` with `2 ^ k * den ≤ num`, for positive `num` and `den`. -/
def floorLog2 (num den : Nat) : Int :=
  let k : Int := (num.log2 : Int) - (den.log2 : Int)
  let fits :=
    if 0 ≤ k then den * Nat.pow 2 k.toNat ≤ num else den ≤ num * Nat.pow 2 (-k).toNat
  if fits then k else k - 1

/-- The number nearest to `num / den`, or `none` if it is too large for the format. -/
def ofRatio (negative : Bool) (num den : Nat) : Option Binary64 :=
  if num = 0 then some (zero negative)
  else
    let e := max minExponent (floorLog2 num den - 52)
    let m := roundScaled num den e
    let x : Binary64 :=
      if m < Nat.pow 2 53 then ⟨negative, m, e⟩ else ⟨negative, Nat.pow 2 52, e + 1⟩
    if maxExponent < x.exponent then none else some x

def isZero (x : Binary64) : Bool := x.significand == 0

def ratio (x : Binary64) : Nat × Nat :=
  if 0 ≤ x.exponent then (x.significand * Nat.pow 2 x.exponent.toNat, 1)
  else (x.significand, Nat.pow 2 (-x.exponent).toNat)

/-- The product with a positive number, or `none` if it is too large. -/
def mul (x y : Binary64) : Option Binary64 :=
  let (a, b) := x.ratio
  let (c, d) := y.ratio
  ofRatio x.negative (a * c) (b * d)

/-- The quotient by a positive number, or `none` if it is too large. -/
def div (x y : Binary64) : Option Binary64 :=
  let (a, b) := x.ratio
  let (c, d) := y.ratio
  ofRatio x.negative (a * d) (b * c)

def maxPowerOfTen : Nat := 308

/-- The number nearest to `10 ^ k`, for `k` up to `maxPowerOfTen`. -/
def powerOfTen (k : Nat) : Binary64 := (ofRatio false (Nat.pow 10 k) 1).getD (zero false)

/-- Divides `n` times by the largest power of ten, rounding each time; zero stays zero. -/
def descend (x : Binary64) : Nat → Option Binary64
  | 0 => some x
  | n + 1 =>
    if x.isZero then some x
    else
      match x.div (powerOfTen maxPowerOfTen) with
      | none => none
      | some y => y.descend n

/-- Divides by `10 ^ k` in steps of at most the largest power, the smaller step last. -/
def scaleDown (x : Binary64) (k : Nat) : Option Binary64 :=
  let steps := (k - 1) / maxPowerOfTen
  match x.descend steps with
  | none => none
  | some y => y.div (powerOfTen (k - maxPowerOfTen * steps))

/-- The value read for `significand * 10 ^ exponent`, or `none` if it is too large. -/
def ofScientific (negative : Bool) (significand : Nat) (exponent : Int) : Option Binary64 :=
  match ofRatio negative significand 1 with
  | none => none
  | some x =>
    if exponent < 0 then x.scaleDown (-exponent).toNat
    else if exponent ≤ maxPowerOfTen then x.mul (powerOfTen exponent.toNat)
    else if x.isZero then some x
    else none

end Binary64

end TopicMesh
