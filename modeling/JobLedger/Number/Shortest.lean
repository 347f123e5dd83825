import JobLedger.Number.Binary64

/-!
# The fewest decimal digits that name a double precision number

Every real number near a double is rounded to it; these reals form an interval.
`Binary64.shortest` looks at the decimal grids of one digit, two digits and so
on.  The first grid with a point in the interval gives the digits; of two such
points the nearer one, of two equally near the even one.
-/

namespace JobLedger.Number

/-- A decimal `0.d₁d₂d₃… · 10 ^ point`: the digits as one number, and the place
of the point. -/
structure Digits where
  digits : Nat
  point : Int
  deriving DecidableEq

namespace Binary64

/-- How many decimal digits a number has. -/
def decimalLength (n : Nat) : Nat :=
  (Nat.toDigits 10 n).length

/-- The place of the point: the magnitude is below `10 ^ point` and not below
a tenth of that. -/
def point (x : Binary64) : Int :=
  if oneUnits ≤ x.units then
    decimalLength (x.units / oneUnits)
  else
    1 - (decimalLength ((oneUnits + x.units - 1) / x.units - 1) : Int)

/-- Whether a real, `num / den` units, rounds to `x`. -/
def rounds (x : Binary64) (num den : Nat) : Bool :=
  let step := spacing x.units
  let below := if x.units = 1 <<< (bitLength x.units - 1) ∧ 1 < step then step else 2 * step
  let low := (4 * x.units - below) * den
  let high := (4 * x.units + 2 * step) * den
  if x.units / step % 2 = 0 then low ≤ 4 * num && 4 * num ≤ high
  else low < 4 * num && 4 * num < high

/-- The best point of the grid of `count` digits, if one rounds to `x`. -/
def onGrid (x : Binary64) (count : Nat) : Option Nat :=
  let shift := x.point - count
  let up := Nat.pow 10 shift.toNat * oneUnits
  let down := Nat.pow 10 (-shift).toNat
  let lower := x.units * down / up
  let upper := lower + 1
  let toLower := x.units * down - lower * up
  let toUpper := upper * up - x.units * down
  match x.rounds (lower * up) down, x.rounds (upper * up) down with
  | true, true =>
    if toLower < toUpper then some lower
    else if toUpper < toLower then some upper
    else some (lower + lower % 2)
  | true, false => some lower
  | false, true => some upper
  | false, false => none

/-- The fewest digits that name `x`, which is not zero.  Seventeen always do. -/
def shortest (x : Binary64) : Digits :=
  let found := (List.range 17).findSome? fun fewer =>
    (x.onGrid (fewer + 1)).map fun digits => (fewer + 1, digits)
  match found with
  | none => ⟨0, 0⟩
  | some (count, digits) =>
    if digits = Nat.pow 10 count then ⟨1, x.point + 1⟩ else ⟨digits, x.point⟩

end Binary64

end JobLedger.Number
