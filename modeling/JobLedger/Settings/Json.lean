import JobLedger.Json.Cases
import JobLedger.Settings

/-!
# Settings in JSON

Settings are written as an object of their two fields.  A field that is not
there when they are read is taken from the usual settings.
-/

namespace JobLedger.Settings

open Json

/-- What has been read of settings. -/
structure Draft where
  jobName : Option String
  jobKind : Option JobKind

def Draft.empty : Draft := ⟨none, none⟩

/-- The fields of settings, in order. -/
def fields : List (RecordField Draft) :=
  [ .of "job_name" Draft.jobName (fun draft name => { draft with jobName := some name })
      readName,
    .of "job_type" Draft.jobKind (fun draft kind => { draft with jobKind := some kind })
      (readCase JobKind.cases) ]

def finish (draft : Draft) : Except Failure Settings :=
  .ok
    { jobName := draft.jobName.getD usual.jobName
      jobKind := draft.jobKind.getD usual.jobKind }

/-- How settings are read. -/
def shape : Shape Draft Settings where
  name := "JobControllerConfig"
  fields := fields
  start := .empty
  lenient := true
  finish := finish

/-- Reads settings from a text that holds nothing else. -/
def ofJson (text : String) : Except Failure Settings :=
  decode shape.read text

def write (settings : Settings) : List Char :=
  writeObject
    [ ("job_name", writeName settings.jobName),
      ("job_type", writeName settings.jobKind.name) ]

/-- The text of settings. -/
def toJson (settings : Settings) : String :=
  String.ofList settings.write

end JobLedger.Settings
