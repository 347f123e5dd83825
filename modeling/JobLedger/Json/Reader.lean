import JobLedger.Json.Number
import JobLedger.Json.Skip

/-!
# Readers

A reader takes a value from the front of a text and returns what is left.  It
passes over the blanks before the value.  A value of the wrong kind is read
whole if it is a word, a number or a string, so that a fault inside it is
reported first; an array or an object is refused at its bracket.
-/

namespace JobLedger.Json

/-- Takes a value of type `α` from the front of a text. -/
abbrev Reader (α : Type) := List Char → Except Failure (α × List Char)

/-- A text without the blanks at its front. -/
def skipBlanks (text : List Char) : List Char :=
  text.dropWhile isBlank

/-- Reads the letters of a word. -/
def readWord : List Char → List Char → Except Failure (List Char)
  | [], text => .ok text
  | _ :: _, [] => .error .cutShort
  | letter :: letters, c :: rest =>
    if c = letter then readWord letters rest else .error .malformed

/-- The failure at a value that is not of the wanted kind. -/
def wrongKind (wanted : Wanted) (text : List Char) : Failure :=
  let mismatch (found : Except Failure Found) : Failure :=
    match found with
    | .ok found => .mismatch (.kind found wanted)
    | .error failure => failure
  match text with
  | [] => .cutShort
  | '[' :: _ => mismatch (.ok .array)
  | '{' :: _ => mismatch (.ok .object)
  | '"' :: rest => mismatch ((readText .plain rest).map fun (text, _) => .text text)
  | 'n' :: rest => mismatch ((readWord ['u', 'l', 'l'] rest).map fun _ => .null)
  | 't' :: rest => mismatch ((readWord ['r', 'u', 'e'] rest).map fun _ => .boolean true)
  | 'f' :: rest => mismatch ((readWord ['a', 'l', 's', 'e'] rest).map fun _ => .boolean false)
  | '-' :: rest => mismatch ((readNumeral true rest).map fun (value, _) => .number value)
  | c :: rest =>
    if c.isDigit then
      mismatch ((readNumeral false (c :: rest)).map fun (value, _) => .number value)
    else .malformed

/-! ## Scalars -/

/-- Reads a string, for whatever it is wanted. -/
def readString (wanted : Wanted) : Reader (List Char) := fun text =>
  match skipBlanks text with
  | '"' :: rest => readText .plain rest
  | other => .error (wrongKind wanted other)

/-- Reads a text. -/
def readName : Reader String := fun text => do
  let (name, rest) ← readString .text text
  return (String.ofList name, rest)

/-- Reads a boolean. -/
def readBoolean : Reader Bool := fun text =>
  match skipBlanks text with
  | 't' :: rest => (readWord ['r', 'u', 'e'] rest).map fun rest => (true, rest)
  | 'f' :: rest => (readWord ['a', 'l', 's', 'e'] rest).map fun rest => (false, rest)
  | other => .error (wrongKind .boolean other)

/-- Reads `null`. -/
def readNull : Reader Unit := fun text =>
  match skipBlanks text with
  | 'n' :: rest => (readWord ['u', 'l', 'l'] rest).map fun rest => ((), rest)
  | other => .error (wrongKind .unit other)

/-- An integer within bounds; anything else does not fit. -/
def inRange (range : IntegerRange) (value : Numeral) : Except Failure Int :=
  match value with
  | .integer value =>
    if range.contains value then .ok value
    else .error (.mismatch (.outOfRange value range))
  | other => .error (.mismatch (.kind (.number other) (.integer range)))

/-- Reads an integer within bounds. -/
def readInteger (range : IntegerRange) : Reader Int := fun text => do
  let (value, rest) ← match skipBlanks text with
    | '-' :: rest => readNumeral true rest
    | c :: rest =>
      if c.isDigit then readNumeral false (c :: rest)
      else .error (wrongKind (.integer range) (c :: rest))
    | [] => .error .cutShort
  let integer ← inRange range value
  return (integer, rest)

/-! ## Cases of an enumeration -/

/-- The cases of an enumeration and their names. -/
structure Cases (α : Type) where
  all : List α
  name : α → String

/-- The case with a name. -/
def Cases.find {α : Type} (cases : Cases α) (name : List Char) : Except Failure α :=
  match cases.all.find? fun value => (cases.name value).toList = name with
  | some value => .ok value
  | none => .error (.mismatch (.unknownCase name (cases.all.map cases.name)))

/-- Reads a key with the blanks before it.  Nothing but a string can be one. -/
def readKey : Reader (List Char) := fun text =>
  match skipBlanks text with
  | '"' :: rest => readText .plain rest
  | [] => .error .cutShort
  | _ => .error .malformed

/-- Reads the colon after a key. -/
def readColon (text : List Char) : Except Failure (List Char) :=
  match skipBlanks text with
  | ':' :: rest => .ok rest
  | [] => .error .cutShort
  | _ => .error .malformed

/-- Reads a case: its name, or an object with that one name and the value
`null`. -/
def readCase {α : Type} (cases : Cases α) : Reader α := fun text =>
  match skipBlanks text with
  | [] => .error .cutShort
  | '"' :: rest => do
    let (name, rest) ← readText .plain rest
    let value ← cases.find name
    return (value, rest)
  | '{' :: rest => do
    -- The name is a key here: what is no string is malformed, not of a wrong kind.
    let (name, rest) ← readKey rest
    let value ← cases.find name
    let rest ← readColon rest
    let (_, rest) ← readNull rest
    match skipBlanks rest with
    | '}' :: rest => return (value, rest)
    | [] => .error .cutShort
    | _ => .error .malformed
  | _ => .error .malformed

/-! ## Objects -/

/-- The way to the next member of an object. -/
inductive Member where
  /-- There is one; its key starts here, after the quote. -/
  | found (rest : List Char)
  /-- There is none; the text goes on after the brace. -/
  | closed (rest : List Char)

/-- The quote at which a key starts. -/
def keyQuote : List Char → Except Failure Member
  | '"' :: rest => .ok (.found rest)
  | [] => .error .cutShort
  | _ => .error .malformed

/-- Looks for a member: the first one, or one after a comma. -/
def nextMember (first : Bool) (text : List Char) : Except Failure Member :=
  match skipBlanks text with
  | [] => .error .cutShort
  | '}' :: rest => .ok (.closed rest)
  | c :: rest =>
    if first then keyQuote (c :: rest)
    else if c = ',' then keyQuote (skipBlanks rest)
    else .error .malformed

/-- Reads members up to the closing brace.  `member` reads one of them, from
after the quote of its key on, and takes at least one character; so there are
at most as many members as characters, which is what `fuel` counts. -/
def readMembers {σ : Type} (member : σ → Reader σ) : Nat → Bool → σ → Reader σ
  | 0, _, _, _ => .error .cutShort
  | fuel + 1, first, state, text => do
    match ← nextMember first text with
    | .closed rest => return (state, rest)
    | .found rest =>
      let (state, rest) ← member state rest
      readMembers member fuel false state rest

/-- Reads an object from after its opening brace on. -/
def readObject {σ : Type} (member : σ → Reader σ) (state : σ) : Reader σ := fun text =>
  readMembers member (text.length + 1) true state text

end JobLedger.Json
