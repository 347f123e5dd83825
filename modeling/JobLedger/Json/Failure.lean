import JobLedger.Number.Shortest
import JobLedger.Text.Quoted

/-!
# Why a JSON text cannot be read

A text is read from left to right and the first failure is reported.  Either
the text stops too early, or it breaks the grammar of JSON, or it is well
formed so far and does not fit what is to be read.  Only the last kind says
more, and `Mismatch.message` gives its wording.
-/

namespace JobLedger.Json

/-- A number as it is understood: an integer of at most 64 bits exactly,
everything else as a double precision number. -/
inductive Numeral where
  | integer (value : Int)
  | real (negative : Bool) (magnitude : Number.Binary64)
  deriving DecidableEq

/-- What was met in a text. -/
inductive Found where
  | null
  | boolean (value : Bool)
  | number (value : Numeral)
  | text (value : List Char)
  | array
  | object
  deriving DecidableEq

/-- Bounds of an integer, with the name under which they are known. -/
structure IntegerRange where
  name : String
  least : Int
  greatest : Int
  deriving DecidableEq

namespace IntegerRange

def unsigned32 : IntegerRange := ⟨"u32", 0, UInt32.size - 1⟩

def unsigned64 : IntegerRange := ⟨"usize", 0, UInt64.size - 1⟩

def signed64 : IntegerRange := ⟨"i64", Int64.minValue.toInt, Int64.maxValue.toInt⟩

/-- Whether an integer lies within the bounds. -/
def contains (range : IntegerRange) (value : Int) : Bool :=
  range.least ≤ value && value ≤ range.greatest

end IntegerRange

/-- What was to be read. -/
inductive Wanted where
  | text
  | boolean
  | unit
  | map
  | integer (range : IntegerRange)
  | record (name : String)
  deriving DecidableEq

/-- How a well formed text does not fit. -/
inductive Mismatch where
  | kind (found : Found) (wanted : Wanted)
  | outOfRange (value : Int) (range : IntegerRange)
  | unknownCase (name : List Char) (known : List String)
  | duplicateField (name : String)
  | missingField (name : String)
  | tooShort (count : Nat) (record : String) (fields : Nat)
  deriving DecidableEq

/-- Why a text cannot be read. -/
inductive Failure where
  /-- The text ended before the value did. -/
  | cutShort
  /-- The text is not JSON. -/
  | malformed
  | mismatch (mismatch : Mismatch)
  deriving DecidableEq

/-! ## Wording -/

/-- A real in the text of a message.  Magnitudes from `10 ^ -5` up to below
`10 ^ 16` are written in place, with a point; all others with one digit before
the point and a signed exponent. -/
def realText (negative : Bool) (magnitude : Number.Binary64) : List Char :=
  let sign := if negative then ['-'] else []
  let unsigned :=
    if magnitude.units = 0 then ['0', '.', '0']
    else
      let shortest := magnitude.shortest
      let digits := Nat.toDigits 10 shortest.digits
      let exponent := shortest.point - 1
      if -5 ≤ exponent ∧ exponent ≤ 15 then
        match shortest.point with
        | .ofNat (before + 1) =>
          if digits.length ≤ before + 1 then
            digits ++ List.replicate (before + 1 - digits.length) '0' ++ ['.', '0']
          else digits.take (before + 1) ++ '.' :: digits.drop (before + 1)
        | .ofNat 0 => '0' :: '.' :: digits
        | .negSucc more => '0' :: '.' :: List.replicate (more + 1) '0' ++ digits
      else
        let mantissa := match digits with
          | [] => []
          | [digit] => [digit]
          | digit :: rest => digit :: '.' :: rest
        let power := match exponent with
          | .ofNat up => '+' :: Nat.toDigits 10 up
          | .negSucc down => '-' :: Nat.toDigits 10 (down + 1)
        mantissa ++ 'e' :: power
  sign ++ unsigned

/-- A text between two marks, as names are shown in messages. -/
def marked (text : String) : String :=
  "\x60" ++ text ++ "\x60"

def Numeral.describe : Numeral → String
  | integer value => "integer " ++ marked (toString value)
  | real negative magnitude =>
    "floating point " ++ marked (String.ofList (realText negative magnitude))

def Found.describe : Found → String
  | null => "null"
  | boolean value => "boolean " ++ marked (if value then "true" else "false")
  | number value => value.describe
  | text value => "string " ++ String.ofList (Text.quoted value)
  | array => "sequence"
  | object => "map"

def Wanted.describe : Wanted → String
  | text => "a string"
  | boolean => "a boolean"
  | unit => "unit"
  | map => "a map"
  | integer range => range.name
  | record name => "struct " ++ name

/-- The names that would have been understood. -/
def choices : List String → String
  | [] => "there are no variants"
  | [only] => "expected " ++ marked only
  | [first, second] => "expected " ++ marked first ++ " or " ++ marked second
  | names => "expected one of " ++ ", ".intercalate (names.map marked)

def Mismatch.message : Mismatch → String
  | kind found wanted =>
    "invalid type: " ++ found.describe ++ ", expected " ++ wanted.describe
  | outOfRange value range =>
    "invalid value: " ++ (Numeral.integer value).describe ++ ", expected " ++ range.name
  | unknownCase name known =>
    "unknown variant " ++ marked (String.ofList name) ++ ", " ++ choices known
  | duplicateField name => "duplicate field " ++ marked name
  | missingField name => "missing field " ++ marked name
  | tooShort count record fields =>
    "invalid length " ++ toString count ++ ", expected struct " ++ record ++ " with " ++
      toString fields ++ (if fields = 1 then " element" else " elements")

end JobLedger.Json
