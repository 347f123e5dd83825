import JobLedger.Json.Cases
import JobLedger.Report

/-!
# Reports in JSON

A report is written as an object of its seven fields; all seven have to be
there when it is read.  The stamps are an object whose keys are names of
statuses.  They are written in the order of the statuses and read in any order;
of several stamps of one status the last one stays.
-/

namespace JobLedger

open Json

namespace Stamps

/-- Reads one stamp, from after the quote of its key on. -/
def readMember (stamps : Stamps) : Reader Stamps := fun text => do
  let (name, rest) ← readText .plain text
  let status ← Status.cases.find name
  let rest ← readColon rest
  let (time, rest) ← readInteger .signed64 rest
  return (stamps.insert status (.ofInt time), rest)

/-- Reads stamps from an object. -/
def read : Reader Stamps := fun text =>
  match skipBlanks text with
  | '{' :: rest => readObject readMember empty rest
  | other => .error (wrongKind .map other)

/-- Stamps as an object. -/
def write (stamps : Stamps) : List Char :=
  writeObject (stamps.toList.map fun (status, time) => (status.name, writeInt time.toInt))

end Stamps

namespace Report

/-- What has been read of a report. -/
structure Draft where
  jobId : Option JobId
  jobName : Option String
  jobKind : Option JobKind
  status : Option Status
  terminal : Option Bool
  attempts : Option UInt64
  stamps : Option Stamps

def Draft.empty : Draft := ⟨none, none, none, none, none, none, none⟩

/-- Reads a count of attempts. -/
def readAttempts : Reader UInt64 := fun text => do
  let (value, rest) ← readInteger .unsigned64 text
  return (.ofNat value.toNat, rest)

/-- The fields of a report, in order. -/
def fields : List (RecordField Draft) :=
  [ .of "job_id" Draft.jobId (fun draft id => { draft with jobId := some id }) readJobId,
    .of "job_name" Draft.jobName (fun draft name => { draft with jobName := some name })
      readName,
    .of "job_type" Draft.jobKind (fun draft kind => { draft with jobKind := some kind })
      (readCase JobKind.cases),
    .of "status" Draft.status (fun draft status => { draft with status := some status })
      (readCase Status.cases),
    .of "terminal" Draft.terminal (fun draft terminal => { draft with terminal := some terminal })
      readBoolean,
    .of "attempts" Draft.attempts (fun draft attempts => { draft with attempts := some attempts })
      readAttempts,
    .of "status_timestamps" Draft.stamps (fun draft stamps => { draft with stamps := some stamps })
      Stamps.read ]

def finish (draft : Draft) : Except Failure Report := do
  let jobId ← require "job_id" draft.jobId
  let jobName ← require "job_name" draft.jobName
  let jobKind ← require "job_type" draft.jobKind
  let status ← require "status" draft.status
  let terminal ← require "terminal" draft.terminal
  let attempts ← require "attempts" draft.attempts
  let stamps ← require "status_timestamps" draft.stamps
  return { jobId, jobName, jobKind, status, terminal, attempts, stamps }

/-- How reports are read. -/
def shape : Shape Draft Report where
  name := "JobStatusReport"
  fields := fields
  start := .empty
  lenient := false
  finish := finish

/-- Reads a report from a text that holds nothing else. -/
def ofJson (text : String) : Except Failure Report :=
  decode shape.read text

def write (report : Report) : List Char :=
  writeObject
    [ ("job_id", writeName report.jobId.text),
      ("job_name", writeName report.jobName),
      ("job_type", writeName report.jobKind.name),
      ("status", writeName report.status.name),
      ("terminal", (if report.terminal then "true" else "false").toList),
      ("attempts", writeNat report.attempts.toNat),
      ("status_timestamps", report.stamps.write) ]

/-- The text of a report. -/
def toJson (report : Report) : String :=
  String.ofList report.write

end Report

end JobLedger
