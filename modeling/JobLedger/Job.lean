import JobLedger.Ids
import JobLedger.Registry
import JobLedger.Report
import JobLedger.Settings
import JobLedger.Tracker

/-!
# Jobs

A job has an identity, a tracker of its status and a registry of its attempts.
The tracker and the registry know nothing of each other; the job brings them
together in its report.
-/

namespace JobLedger

/-- A job and all that is known of it. -/
structure Job where
  id : JobId
  name : String
  kind : JobKind
  tracker : Tracker
  registry : Registry

namespace Job

variable {κ : Type} [Clock κ]

/-! ## Creating a job -/

/-- A job under an identifier that is already taken.  Its creation is logged
before the clock is read, so a failing clock leaves no job but an event. -/
def build (settings : Settings) (id : JobId) (clock : κ) :
    Except Fault Job × κ × List Event :=
  let log := [.created id settings.jobName settings.jobKind]
  let (started, clock) := Tracker.start clock
  let job := started.map fun tracker =>
    { id, name := settings.jobName, kind := settings.jobKind, tracker
      registry := Registry.empty }
  (job, clock, log)

/-- What creating a job from a source of identifiers leaves. -/
structure Creation (κ : Type) where
  /-- The job, or the fault that kept it from being made, unless the settings
  are refused. -/
  job : Except Refusal (Except Fault Job)
  ids : IdSource
  clock : κ
  log : List Event

/-- Creates a job.  Refused settings take no identifier; a fault of the clock
comes after the identifier is taken. -/
def create (settings : Settings) (ids : IdSource) (clock : κ) : Creation κ :=
  match settings.validate with
  | .error refusal => { job := .error refusal, ids, clock, log := [] }
  | .ok () =>
    let (id, rest) := ids.nextJobId
    let (job, clock, log) := build settings id clock
    { job := .ok job, ids := rest, clock, log }

/-! ## Moving a job through its life -/

/-- The job with another tracker. -/
def withTracker (job : Job) (tracker : Tracker) : Job :=
  { job with tracker }

/-- Requests a move and logs the reason if it is made. -/
def move (job : Job) (target : Status) (reason : String) (clock : κ) : Outcome Job κ Bool :=
  let outcome := (job.tracker.request target clock).within job.withTracker
  match outcome.result with
  | .ok true => outcome.andThen (.statusChanged job.id target reason)
  | _ => outcome

/-- The job is deployed. -/
def run (job : Job) (clock : κ) : Outcome Job κ Bool :=
  job.move .running "deployed" clock

/-- The job is to be cancelled. -/
def cancel (job : Job) (clock : κ) : Outcome Job κ Bool :=
  job.move .cancelling "cancel requested" clock

/-- The job has failed; that is logged even if the move is not made. -/
def fail (job : Job) (cause : String) (clock : κ) : Outcome Job κ Bool :=
  (job.move .failing cause clock).after (.failureReported job.id cause)

/-- The job is suspended. -/
def suspend (job : Job) (cause : String) (clock : κ) : Outcome Job κ Bool :=
  job.move .suspended cause clock

/-- The job has ended with `final`; to say so twice is a fault. -/
def terminate (job : Job) (final : Status) (clock : κ) : Outcome Job κ Bool :=
  ((job.tracker.complete final clock).within job.withTracker).after (.terminated job.id final)

/-- A call that may change the status of a job. -/
inductive Call where
  | run
  | cancel
  | fail (cause : String)
  | suspend (cause : String)
  | terminate (final : Status)
  deriving DecidableEq

/-- Carries a call out.  The result says whether a move was made. -/
def perform (job : Job) (call : Call) (clock : κ) : Outcome Job κ Bool :=
  match call with
  | .run => job.run clock
  | .cancel => job.cancel clock
  | .fail cause => job.fail cause clock
  | .suspend cause => job.suspend cause clock
  | .terminate final => job.terminate final clock

/-! ## Attempts and reports -/

/-- Registers an attempt of the job. -/
def register (job : Job) (attempt : Attempt) : Job × Event :=
  let (registry, event) := job.registry.register attempt
  ({ job with registry }, event)

/-- A report from a view of the tracker and a count of attempts. -/
def reportOf (job : Job) (view : Status × Stamps) (attempts : Nat) : Report :=
  { jobId := job.id
    jobName := job.name
    jobKind := job.kind
    status := view.1
    terminal := view.1.isTerminal
    attempts := .ofNat attempts
    stamps := view.2 }

/-- The report on a job as it is. -/
def report (job : Job) : Report :=
  job.reportOf job.tracker.view job.registry.size

end Job

end JobLedger
