import JobLedger.Json.Text

/-!
# Passing over values

The value of a member that nobody asks for is passed over.  It has to be JSON,
but it may be nested to any depth, its numbers may have any size, and its
strings may hold halves of pairs.  `skip` is a machine that takes one character
at a time and keeps the brackets that are still open.
-/

namespace JobLedger.Json

/-- A bracket that is still open. -/
inductive Bracket where
  | array
  | object
  deriving DecidableEq

/-- How far a number has been read. -/
inductive NumberPart where
  /-- After the minus sign. -/
  | sign
  /-- After a leading zero. -/
  | zero
  | whole
  /-- After the point. -/
  | point
  | fraction
  /-- After the letter of the exponent. -/
  | mark
  | markSign
  | exponent
  deriving DecidableEq

/-- Whether a number may end after this part. -/
def NumberPart.isComplete : NumberPart → Bool
  | zero | whole | fraction | exponent => true
  | sign | point | mark | markSign => false

/-- What the machine expects next. -/
inductive Expecting where
  | value
  /-- A value or the end of the array just opened. -/
  | firstValue
  /-- A key or the end of the object just opened. -/
  | firstKey
  | key
  | colon
  /-- A comma or a closing bracket, after a value. -/
  | separator
  /-- The rest of a word. -/
  | word (letters : List Char)
  /-- The rest of a string, which may be a key. -/
  | text (isKey : Bool)
  | escape (isKey : Bool)
  | hex (isKey : Bool) (left : Nat)
  | number (part : NumberPart)
  deriving DecidableEq

/-- What one character does to the machine. -/
inductive Advance where
  | go (next : Expecting) (brackets : List Bracket)
  /-- The value ends with this character. -/
  | done
  /-- The value ended before this character. -/
  | doneBefore
  /-- The character cannot stand here. -/
  | refuse
  /-- No hexadecimal digit where `left` are due. -/
  | refuseHex (left : Nat)
  deriving DecidableEq

/-- The four characters that may stand between tokens. -/
def isBlank (c : Char) : Bool :=
  c = ' ' || c = '\t' || c = '\n' || c = '\r'

/-- A value ends with the character just taken. -/
def endValue (brackets : List Bracket) : Advance :=
  if brackets.isEmpty then .done else .go .separator brackets

/-- The innermost bracket is closed by the character just taken. -/
def closeBracket : List Bracket → Advance
  | [] => .refuse
  | _ :: outer => endValue outer

/-- A character where a value has to start. -/
def startValue (waiting : Expecting) (brackets : List Bracket) (c : Char) : Advance :=
  if isBlank c then .go waiting brackets
  else if c = '"' then .go (.text false) brackets
  else if c = '[' then .go .firstValue (.array :: brackets)
  else if c = '{' then .go .firstKey (.object :: brackets)
  else if c = 'n' then .go (.word ['u', 'l', 'l']) brackets
  else if c = 't' then .go (.word ['r', 'u', 'e']) brackets
  else if c = 'f' then .go (.word ['a', 'l', 's', 'e']) brackets
  else if c = '-' then .go (.number .sign) brackets
  else if c = '0' then .go (.number .zero) brackets
  else if c.isDigit then .go (.number .whole) brackets
  else .refuse

/-- A character after a value inside brackets. -/
def separate (brackets : List Bracket) (c : Char) : Advance :=
  if isBlank c then .go .separator brackets
  else
    match brackets with
    | [] => .refuse
    | .array :: _ =>
      if c = ',' then .go .value brackets
      else if c = ']' then closeBracket brackets
      else .refuse
    | .object :: _ =>
      if c = ',' then .go .key brackets
      else if c = '}' then closeBracket brackets
      else .refuse

/-- A character that does not continue a number. -/
def endNumber (brackets : List Bracket) (c : Char) : Advance :=
  if brackets.isEmpty then .doneBefore else separate brackets c

/-- A character in a number. -/
def advanceNumber (part : NumberPart) (brackets : List Bracket) (c : Char) : Advance :=
  let turn (next : NumberPart) : Advance := .go (.number next) brackets
  let isMark := c = 'e' ∨ c = 'E'
  match part with
  | .sign => if c = '0' then turn .zero else if c.isDigit then turn .whole else .refuse
  | .zero =>
    if c.isDigit then .refuse
    else if c = '.' then turn .point
    else if isMark then turn .mark
    else endNumber brackets c
  | .whole =>
    if c.isDigit then turn .whole
    else if c = '.' then turn .point
    else if isMark then turn .mark
    else endNumber brackets c
  | .point => if c.isDigit then turn .fraction else .refuse
  | .fraction =>
    if c.isDigit then turn .fraction
    else if isMark then turn .mark
    else endNumber brackets c
  | .mark =>
    if c = '+' ∨ c = '-' then turn .markSign
    else if c.isDigit then turn .exponent
    else .refuse
  | .markSign => if c.isDigit then turn .exponent else .refuse
  | .exponent => if c.isDigit then turn .exponent else endNumber brackets c

/-- What a character does. -/
def advance (expecting : Expecting) (brackets : List Bracket) (c : Char) : Advance :=
  match expecting with
  | .value => startValue .value brackets c
  | .firstValue =>
    if c = ']' then closeBracket brackets else startValue .firstValue brackets c
  | .firstKey =>
    if isBlank c then .go .firstKey brackets
    else if c = '}' then closeBracket brackets
    else if c = '"' then .go (.text true) brackets
    else .refuse
  | .key =>
    if isBlank c then .go .key brackets
    else if c = '"' then .go (.text true) brackets
    else .refuse
  | .colon =>
    if isBlank c then .go .colon brackets
    else if c = ':' then .go .value brackets
    else .refuse
  | .separator => separate brackets c
  | .word [] => .refuse
  | .word [letter] => if c = letter then endValue brackets else .refuse
  | .word (letter :: letters) => if c = letter then .go (.word letters) brackets else .refuse
  | .text isKey =>
    if c = '"' then (if isKey then .go .colon brackets else endValue brackets)
    else if c = '\\' then .go (.escape isKey) brackets
    else if c.toNat < 0x20 then .refuse
    else .go (.text isKey) brackets
  | .escape isKey =>
    if c = 'u' then .go (.hex isKey 4) brackets
    else if (shortEscape c).isSome then .go (.text isKey) brackets
    else .refuse
  | .hex isKey left =>
    if (hexValue c).isNone then .refuseHex left
    else if 1 < left then .go (.hex isKey (left - 1)) brackets
    else .go (.text isKey) brackets
  | .number part => advanceNumber part brackets c

/-- What the end of the text means.  A number at the end of the text is passed
over if it is complete and stands alone, and is no number if it is not. -/
def endOfText (expecting : Expecting) (brackets : List Bracket) :
    Except Failure (List Char) :=
  match expecting with
  | .number part =>
    if part.isComplete then
      if brackets.isEmpty then .ok [] else .error .cutShort
    else .error .malformed
  | _ => .error .cutShort

/-- Passes over a value; returns the text after it. -/
def skip (expecting : Expecting) (brackets : List Bracket) :
    List Char → Except Failure (List Char)
  | [] => endOfText expecting brackets
  | c :: rest =>
    match advance expecting brackets c with
    | .go next brackets => skip next brackets rest
    | .done => .ok rest
    | .doneBefore => .ok (c :: rest)
    | .refuse => .error .malformed
    | .refuseHex left => .error (badHex left (c :: rest))

/-- Passes over one value and the blanks before it. -/
def skipValue (text : List Char) : Except Failure (List Char) :=
  skip .value [] text

end JobLedger.Json
