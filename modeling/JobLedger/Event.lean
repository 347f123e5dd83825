import JobLedger.Attempt
import JobLedger.Identity
import JobLedger.Status

/-!
# The log

Whatever changes a job, and whatever is refused without an error, leaves an
event in the log.  An event has a level, a message and named fields; all three
follow from what happened.
-/

namespace JobLedger

/-- How urgent an event is. -/
inductive Level where
  | debug
  | info
  | warn
  deriving DecidableEq

def Level.name : Level → String
  | debug => "DEBUG"
  | info => "INFO"
  | warn => "WARN"

/-- What happened. -/
inductive Event where
  /-- A status was left for another, or entered again. -/
  | moved (source target : Status)
  /-- A terminal status absorbed a request. -/
  | ignored (current target : Status)
  /-- The one completion of a job was signalled. -/
  | completed (final : Status)
  | created (job : JobId) (name : String) (kind : JobKind)
  | statusChanged (job : JobId) (status : Status) (reason : String)
  | failureReported (job : JobId) (cause : String)
  | terminated (job : JobId) (final : Status)
  | registered (attempt : AttemptId) (vertex : VertexRef)
  /-- An attempt took the place of an earlier one with its identifier. -/
  | replaced (attempt : AttemptId) (vertex : VertexRef)
  /-- A termination hook is about to be called. -/
  | hookRunning (job : JobId) (final : Status)
  /-- A termination hook will not be called. -/
  | watchCancelled (job : JobId)
  /-- A wait for a completion was given up. -/
  | waitCancelled
  deriving DecidableEq

namespace Event

def level : Event → Level
  | moved .. | registered .. | replaced .. | waitCancelled => .debug
  | ignored .. | failureReported .. => .warn
  | completed .. | created .. | statusChanged .. | terminated .. | hookRunning ..
  | watchCancelled .. => .info

def message : Event → String
  | moved .. => "Job status transition"
  | ignored .. => "Ignoring transition requested while in terminal state"
  | completed .. => "Job completion signalled"
  | created .. => "Job controller created"
  | statusChanged .. => "Job status changed"
  | failureReported .. => "Job failure reported"
  | terminated .. => "Job terminated"
  | registered .. => "Registered attempt"
  | replaced .. => "Replaced registered attempt"
  | hookRunning .. => "Running termination hook"
  | watchCancelled .. => "Termination watch cancelled"
  | waitCancelled => "Completion wait cancelled"

/-- The named fields of an event, as plain texts. -/
def fields : Event → List (String × String)
  | moved source target => [("from", source.name), ("to", target.name)]
  | ignored current target => [("current", current.name), ("target", target.name)]
  | completed final => [("final_status", final.name)]
  | created job name kind =>
    [("job_id", job.text), ("job_name", name), ("job_type", kind.name)]
  | statusChanged job status reason =>
    [("job_id", job.text), ("status", status.name), ("reason", reason)]
  | failureReported job cause => [("job_id", job.text), ("cause", cause)]
  | terminated job final => [("job_id", job.text), ("final_status", final.name)]
  | registered attempt vertex => [("attempt_id", attempt.text), ("vertex", vertex.text)]
  | replaced attempt vertex => [("attempt_id", attempt.text), ("vertex", vertex.text)]
  | hookRunning job final => [("job_id", job.text), ("final_status", final.name)]
  | watchCancelled job => [("job_id", job.text)]
  | waitCancelled => []

/-- The job that an event names; the empty text if it names none. -/
def jobText (event : Event) : String :=
  (event.fields.lookup "job_id").getD ""

/-- The order in which the events of waiting tasks are shown: by message, and
those of one message by job. -/
def le (first second : Event) : Bool :=
  if first.message = second.message then first.jobText ≤ second.jobText
  else first.message ≤ second.message

end Event

end JobLedger
