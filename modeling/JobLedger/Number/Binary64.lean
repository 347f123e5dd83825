/-!
# Double precision numbers in exact arithmetic

A finite double precision number of either sign has a magnitude that is a
multiple of `2 ^ -1074`, so the magnitude is kept as that multiple, a natural
number, and nothing is ever lost.  Rounding goes to the nearest number of 53
significant bits, a half to the even one.
-/

namespace JobLedger.Number

/-- `num / den` rounded to the nearest natural number, a half to the even one. -/
def roundDiv (num den : Nat) : Nat :=
  let quotient := num / den
  let remainder := num % den
  if 2 * remainder < den then quotient
  else if den < 2 * remainder then quotient + 1
  else quotient + quotient % 2

/-- How many binary digits a number has; zero has none. -/
def bitLength (n : Nat) : Nat :=
  if n = 0 then 0 else n.log2 + 1

/-- The magnitude of a finite double precision number. -/
structure Binary64 where
  /-- The magnitude in units of `2 ^ -1074`. -/
  units : Nat
  deriving DecidableEq

namespace Binary64

/-- One, in units. -/
def oneUnits : Nat := 1 <<< 1074

/-- The first magnitude that is too large, in units. -/
def limitUnits : Nat := oneUnits <<< 1024

def zero : Binary64 := ⟨0⟩

/-- The distance, in units, of neighbouring numbers as large as `units`. -/
def spacing (units : Nat) : Nat :=
  1 <<< (bitLength units - 53)

/-- The number nearest to `num / den`, or nothing if that is too large. -/
def ofRatio (num den : Nat) : Option Binary64 :=
  let scaled := num * oneUnits
  let step := spacing (scaled / den)
  let units := roundDiv scaled (den * step) * step
  if units < limitUnits then some ⟨units⟩ else none

/-- The number nearest to a product. -/
def mul (a b : Binary64) : Option Binary64 :=
  ofRatio (a.units * b.units) (oneUnits * oneUnits)

/-- The number nearest to a quotient. -/
def div (a b : Binary64) : Option Binary64 :=
  ofRatio a.units b.units

/-- The number nearest to a power of ten; the exponent is at most 308. -/
def powerOfTen (exponent : Nat) : Option Binary64 :=
  ofRatio (Nat.pow 10 exponent) 1

/-- A decimal `significand · 10 ^ exponent`, computed in two rounded steps: the
significand first, then its product with, or quotient by, the power of ten.
Nothing if the result is too large.  A quotient by more than `10 ^ 308` is
taken by `10 ^ 308` first. -/
def ofDecimal (significand : Nat) (exponent : Int) : Option Binary64 := do
  if significand = 0 then
    return zero
  let start ← ofRatio significand 1
  match exponent with
  | .ofNat up =>
    if up ≤ 308 then start.mul (← powerOfTen up) else none
  | .negSucc below =>
    let down := below + 1
    if down ≤ 308 then
      start.div (← powerOfTen down)
    else if down ≤ 616 then
      (← start.div (← powerOfTen 308)).div (← powerOfTen (down - 308))
    else
      return zero

end Binary64

end JobLedger.Number
