import JobLedger.Json.Reader

/-!
# Records

A record is read from an object, whose members may come in any order and among
others that are passed over, or from an array of the fields in order.  What has
been read so far is a draft.
-/

namespace JobLedger.Json

/-- One field of a record with drafts of type `δ`. -/
structure RecordField (δ : Type) where
  key : String
  /-- Whether the draft has this field already. -/
  isSet : δ → Bool
  /-- Reads the value of the field into the draft. -/
  read : δ → Reader δ

/-- A field that is kept in the draft as an optional value. -/
def RecordField.of {δ β : Type} (key : String) (get : δ → Option β) (set : δ → β → δ)
    (reader : Reader β) : RecordField δ where
  key := key
  isSet draft := (get draft).isSome
  read draft := fun text => do
    let (value, rest) ← reader text
    return (set draft value, rest)

/-- How records of type `α` are read. -/
structure Shape (δ α : Type) where
  name : String
  fields : List (RecordField δ)
  start : δ
  /-- Whether a short array is accepted. -/
  lenient : Bool
  /-- The record that a draft makes. -/
  finish : δ → Except Failure α

namespace Shape

variable {δ α : Type}

/-- Reads one member of an object.  A field that is already there is refused
before its value is looked at. -/
def readMember (shape : Shape δ α) (draft : δ) : Reader δ := fun text => do
  let (key, rest) ← readText .plain text
  match shape.fields.find? fun field => field.key.toList = key with
  | some field =>
    if field.isSet draft then
      .error (.mismatch (.duplicateField field.key))
    else
      field.read draft (← readColon rest)
  | none => return (draft, ← skipValue (← readColon rest))

/-- Reads the end of an array all of whose fields are there. -/
def readArrayEnd (text : List Char) : Except Failure (List Char) :=
  match skipBlanks text with
  | ']' :: rest => .ok rest
  | [] => .error .cutShort
  | _ => .error .malformed

/-- Reads the comma before an element other than the first. -/
def readComma (first : Bool) (text : List Char) : Except Failure (List Char) :=
  if first then .ok text
  else
    match text with
    | ',' :: rest =>
      match skipBlanks rest with
      | [] => .error .cutShort
      | ']' :: _ => .error .malformed
      | element => .ok element
    | _ => .error .malformed

/-- Reads elements of an array, one for each field, after `count` earlier
ones. -/
def readElements (shape : Shape δ α) : List (RecordField δ) → Nat → δ → Reader δ
  | [], _, draft, text => do
    return (draft, ← readArrayEnd text)
  | field :: fields, count, draft, text =>
    match skipBlanks text with
    | [] => .error .cutShort
    | ']' :: rest =>
      if shape.lenient then .ok (draft, rest)
      else .error (.mismatch (.tooShort count shape.name shape.fields.length))
    | other => do
      let element ← readComma (count = 0) other
      let (draft, rest) ← field.read draft element
      readElements shape fields (count + 1) draft rest

/-- Reads a record. -/
def read (shape : Shape δ α) : Reader α := fun text =>
  match skipBlanks text with
  | '{' :: rest => do
    let (draft, rest) ← readObject shape.readMember shape.start rest
    return (← shape.finish draft, rest)
  | '[' :: rest => do
    let (draft, rest) ← shape.readElements shape.fields 0 shape.start rest
    return (← shape.finish draft, rest)
  | other => .error (wrongKind (.record shape.name) other)

end Shape

/-- The value of a field that must be there. -/
def require {β : Type} (key : String) : Option β → Except Failure β
  | some value => .ok value
  | none => .error (.mismatch (.missingField key))

/-! ## Whole texts -/

/-- Reads a text that holds one value and nothing but blanks around it. -/
def decode {α : Type} (reader : Reader α) (text : String) : Except Failure α := do
  let (value, rest) ← reader text.toList
  if (skipBlanks rest).isEmpty then return value else .error .malformed

/-- The members of an object with their values already written. -/
def writeMembers : List (String × List Char) → List Char
  | [] => []
  | [(key, value)] => writeText key.toList ++ ':' :: value
  | (key, value) :: rest => writeText key.toList ++ ':' :: value ++ ',' :: writeMembers rest

/-- An object without blanks. -/
def writeObject (members : List (String × List Char)) : List Char :=
  '{' :: writeMembers members ++ ['}']

end JobLedger.Json
