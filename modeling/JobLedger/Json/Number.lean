import JobLedger.Json.Failure

/-!
# Numbers in JSON

A number is read whole, as a `Literal`, before anything is made of it.  An
integer that fits 64 bits is kept exactly.  Everything else, the literal `-0`
included, is a real: as many leading digits as stay below `2 ^ 64` are kept,
later ones only move the point.  A real that is too large breaks the grammar.
-/

namespace JobLedger.Json

/-- A number as it is written. -/
structure Literal where
  negative : Bool
  whole : List Char
  fraction : Option (List Char)
  /-- Whether the exponent has a minus sign, and its digits. -/
  exponent : Option (Bool × List Char)
  deriving DecidableEq

/-- A run of digits and what follows it. -/
def splitDigits (text : List Char) : List Char × List Char :=
  (text.takeWhile Char.isDigit, text.dropWhile Char.isDigit)

/-- Reads digits, at least one. -/
def readDigits (text : List Char) : Except Failure (List Char × List Char) :=
  match splitDigits text with
  | ([], []) => .error .cutShort
  | ([], _ :: _) => .error .malformed
  | digits => .ok digits

/-- Reads the digits before the point, of which only a single one may be zero
at the front. -/
def readWhole (text : List Char) : Except Failure (List Char × List Char) := do
  let (digits, rest) ← readDigits text
  if digits.head? = some '0' ∧ 1 < digits.length then .error .malformed
  else .ok (digits, rest)

/-- Reads a fraction if there is one. -/
def readFraction : List Char → Except Failure (Option (List Char) × List Char)
  | '.' :: rest => do
    let (digits, after) ← readDigits rest
    return (some digits, after)
  | text => .ok (none, text)

/-- Reads an exponent if there is one. -/
def readExponent : List Char → Except Failure (Option (Bool × List Char) × List Char)
  | c :: rest =>
    if c = 'e' ∨ c = 'E' then do
      let (negative, unsigned) := match rest with
        | '+' :: after => (false, after)
        | '-' :: after => (true, after)
        | after => (false, after)
      let (digits, after) ← readDigits unsigned
      return (some (negative, digits), after)
    else .ok (none, c :: rest)
  | [] => .ok (none, [])

/-- Reads a number after its sign. -/
def readLiteral (negative : Bool) (text : List Char) : Except Failure (Literal × List Char) := do
  let (whole, rest) ← readWhole text
  let (fraction, rest) ← readFraction rest
  let (exponent, rest) ← readExponent rest
  return ({ negative, whole, fraction, exponent }, rest)

/-! ## The value of a number -/

/-- Appends digits to a significand as long as it stays below `2 ^ 64`; the
digits that are left over are returned. -/
def gather (significand : Nat) : List Char → Nat × List Char
  | [] => (significand, [])
  | digit :: rest =>
    let next := significand * 10 + (digit.toNat - '0'.toNat)
    if next < UInt64.size then gather next rest else (significand, digit :: rest)

namespace Literal

/-- The digits of the exponent as a number with its sign. -/
def power (literal : Literal) : Int :=
  match literal.exponent with
  | none => 0
  | some (negative, digits) =>
    let size : Int := (Nat.ofDigitChars 10 digits 0 : Nat)
    if negative then -size else size

/-- A significand below `2 ^ 64` and a power of ten. -/
def decimal (literal : Literal) : Nat × Int :=
  let (whole, left) := gather 0 literal.whole
  let fraction := literal.fraction.getD []
  let (significand, ignored) := gather whole fraction
  (significand, left.length - (fraction.length - ignored.length : Nat) + literal.power)

/-- The literal as a real, unless it is too large. -/
def real (literal : Literal) : Except Failure Numeral :=
  let (significand, power) := literal.decimal
  match Number.Binary64.ofDecimal significand power with
  | none => .error .malformed
  | some magnitude => .ok (.real literal.negative magnitude)

/-- Whether the literal has neither a fraction nor an exponent. -/
def isIntegral (literal : Literal) : Bool :=
  literal.fraction.isNone && literal.exponent.isNone

/-- What the literal stands for. -/
def value (literal : Literal) : Except Failure Numeral :=
  let size := Nat.ofDigitChars 10 literal.whole 0
  if literal.isIntegral then
    if literal.negative then
      if 0 < size ∧ size ≤ 1 <<< 63 then .ok (.integer (-size)) else literal.real
    else if size < UInt64.size then .ok (.integer size)
    else literal.real
  else literal.real

end Literal

/-- Reads a number and says what it stands for. -/
def readNumeral (negative : Bool) (text : List Char) : Except Failure (Numeral × List Char) := do
  let (literal, rest) ← readLiteral negative text
  let value ← literal.value
  return (value, rest)

/-! ## Writing integers -/

/-- A natural number in decimal digits. -/
def writeNat (n : Nat) : List Char :=
  Nat.toDigits 10 n

/-- An integer in decimal digits, with a minus sign if it is negative. -/
def writeInt : Int → List Char
  | .ofNat n => writeNat n
  | .negSucc n => '-' :: writeNat (n + 1)

end JobLedger.Json
