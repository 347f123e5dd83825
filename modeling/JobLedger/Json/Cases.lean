import JobLedger.Attempt
import JobLedger.Identity
import JobLedger.Json.Record
import JobLedger.Status

/-!
# Names and identifiers in JSON

Statuses, attempt states and job kinds are written as their names, identifiers
as their texts.
-/

namespace JobLedger

open Json

def Status.cases : Cases Status := ⟨Status.all, Status.name⟩

def AttemptState.cases : Cases AttemptState := ⟨AttemptState.all, AttemptState.name⟩

def JobKind.cases : Cases JobKind := ⟨JobKind.all, JobKind.name⟩

namespace Json

/-- A name or an identifier as a string of JSON. -/
def writeName (name : String) : List Char :=
  writeText name.toList

def readJobId : Reader JobId := fun text => do
  let (name, rest) ← readName text
  return (⟨name⟩, rest)

def readAttemptId : Reader AttemptId := fun text => do
  let (name, rest) ← readName text
  return (⟨name⟩, rest)

def readVertexRef : Reader VertexRef := fun text => do
  let (name, rest) ← readName text
  return (⟨name⟩, rest)

end Json

end JobLedger
