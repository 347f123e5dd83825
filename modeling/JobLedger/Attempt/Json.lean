import JobLedger.Json.Cases

/-!
# Attempts in JSON

An attempt is written as an object of its four fields; all four have to be
there when it is read.
-/

namespace JobLedger.Attempt

open Json

/-- What has been read of an attempt. -/
structure Draft where
  id : Option AttemptId
  vertex : Option VertexRef
  number : Option UInt32
  state : Option AttemptState

def Draft.empty : Draft := ⟨none, none, none, none⟩

/-- Reads the number of an attempt. -/
def readNumber : Reader UInt32 := fun text => do
  let (value, rest) ← readInteger .unsigned32 text
  return (.ofNat value.toNat, rest)

/-- The fields of an attempt, in order. -/
def fields : List (RecordField Draft) :=
  [ .of "attempt_id" Draft.id (fun draft id => { draft with id := some id }) readAttemptId,
    .of "vertex_ref" Draft.vertex (fun draft vertex => { draft with vertex := some vertex })
      readVertexRef,
    .of "attempt_number" Draft.number (fun draft number => { draft with number := some number })
      readNumber,
    .of "state" Draft.state (fun draft state => { draft with state := some state })
      (readCase AttemptState.cases) ]

def finish (draft : Draft) : Except Failure Attempt := do
  let id ← require "attempt_id" draft.id
  let vertex ← require "vertex_ref" draft.vertex
  let number ← require "attempt_number" draft.number
  let state ← require "state" draft.state
  return { id, vertex, number, state }

/-- How attempts are read. -/
def shape : Shape Draft Attempt where
  name := "AttemptRecord"
  fields := fields
  start := .empty
  lenient := false
  finish := finish

/-- Reads an attempt from a text that holds nothing else. -/
def ofJson (text : String) : Except Failure Attempt :=
  decode shape.read text

def write (attempt : Attempt) : List Char :=
  writeObject
    [ ("attempt_id", writeName attempt.id.text),
      ("vertex_ref", writeName attempt.vertex.text),
      ("attempt_number", writeNat attempt.number.toNat),
      ("state", writeName attempt.state.name) ]

/-- The text of an attempt. -/
def toJson (attempt : Attempt) : String :=
  String.ofList attempt.write

end JobLedger.Attempt
