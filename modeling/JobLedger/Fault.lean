import JobLedger.Status

/-!
# What can go wrong

A `Violation` is a request that the rules of the lifecycle refuse: nothing has
changed when it is reported.  A `Fault` stops an operation half way: what was
done before it stays done.
-/

namespace JobLedger

/-- A job's completion was already signalled with `existing` when `attempted`
was to be signalled. -/
structure Rejection where
  existing : Status
  attempted : Status
  deriving DecidableEq

def Rejection.message (rejection : Rejection) : String :=
  "Completion already resolved with " ++ rejection.existing.name ++
    ", cannot resolve again with " ++ rejection.attempted.name

/-- A breach of the rules of the lifecycle. -/
inductive Violation where
  /-- A text, kept as it was given, is no name of a status. -/
  | unknownStatus (text : String)
  /-- Completion is signalled once only. -/
  | alreadyCompleted (rejection : Rejection)
  deriving DecidableEq

def Violation.message : Violation → String
  | unknownStatus text => "Unknown job status: " ++ text
  | alreadyCompleted rejection => rejection.message

/-- An operation was stopped half way. -/
inductive Fault where
  /-- The clock failed when it was read. -/
  | clockFailure
  /-- A caller that promised to complete a job once did so again. -/
  | secondCompletion (rejection : Rejection)
  /-- A termination hook stopped with a message of its own. -/
  | hookFailure (text : String)
  deriving DecidableEq

def Fault.message : Fault → String
  | clockFailure => "clock failure"
  | secondCompletion rejection => rejection.message
  | hookFailure text => text

/-- Why the service as a whole refuses a request. -/
inductive Refusal where
  | domain (violation : Violation)
  | blankJobName
  /-- A JSON text does not fit; the reason is given in words. -/
  | undecodable (reason : String)
  deriving DecidableEq

def Refusal.message : Refusal → String
  | domain violation => "Domain error: " ++ violation.message
  | blankJobName => "Configuration error: job_name cannot be empty"
  | undecodable reason => "Serialization error: " ++ reason

end JobLedger
