import JobLedger.Attempt
import JobLedger.Identity

/-!
# Sources of identifiers

An `IdSource` numbers the identifiers it hands out, those of jobs and those of
attempts in one sequence from 1.  A `Uuid` is made from 128 random bits, six of
which are overwritten to say that they are random.
-/

namespace JobLedger

/-- Hands out numbered identifiers; `drawn` counts those handed out. -/
structure IdSource where
  drawn : UInt64
  deriving DecidableEq

namespace IdSource

/-- A source that has handed out nothing. -/
def fresh : IdSource := ⟨0⟩

/-- The number of the next identifier, and the source after it is taken. -/
def draw (source : IdSource) : UInt64 × IdSource :=
  (source.drawn + 1, ⟨source.drawn + 1⟩)

/-- Takes an identifier for a job. -/
def nextJobId (source : IdSource) : JobId × IdSource :=
  let (number, rest) := source.draw
  (⟨"job-" ++ number.toNat.repr⟩, rest)

/-- Takes an identifier for an attempt. -/
def nextAttemptId (source : IdSource) : AttemptId × IdSource :=
  let (number, rest) := source.draw
  (⟨"attempt-" ++ number.toNat.repr⟩, rest)

end IdSource

/-! ## Random identifiers -/

namespace Uuid

/-- The digit of a number below 16, in lower case. -/
def hexDigit (n : Nat) : Char :=
  Nat.digitChar (n % 16)

/-- The last `count` hexadecimal digits of a number, the highest one first. -/
def hexDigits : Nat → Nat → List Char
  | 0, _ => []
  | count + 1, n => hexDigits count (n / 16) ++ [hexDigit n]

/-- The text of a random identifier, version 4 and variant 1, from random bits. -/
def ofBits (bits : Nat) : String :=
  let group (drop count : Nat) := hexDigits count (bits >>> (4 * drop))
  let version := '4' :: group 16 3
  let variant := hexDigit (8 + (bits >>> 60) % 4) :: group 12 3
  String.ofList <| (group 24 8) ++ '-' :: (group 20 4) ++ '-' :: version ++
    '-' :: variant ++ '-' :: (group 0 12)

/-- A digit of an identifier: hexadecimal, in lower case. -/
def isDigit (c : Char) : Bool :=
  c.isDigit || ('a' ≤ c && c ≤ 'f')

/-- Whether a text has the form of a random identifier. -/
def isRandom (text : String) : Bool :=
  let cs := text.toList
  cs.length == 36 &&
    cs.zipIdx.all fun (c, index) =>
      if index ∈ [8, 13, 18, 23] then c = '-'
      else if index = 14 then c = '4'
      else if index = 19 then c ∈ ['8', '9', 'a', 'b']
      else isDigit c

end Uuid

end JobLedger
