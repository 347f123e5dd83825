import JobLedger.Job
import JobLedger.Wait

/-!
# Requests to a session and replies

Requests speak of trackers, registries, jobs, tokens and waiters by name.
-/

namespace JobLedger

/-- A question that changes nothing. -/
inductive Question where
  | status
  | completion
  | stamps
  | stamp (status : Status)
  /-- Status, completion and stamps together. -/
  | state
  | description (lines : Bool)
  | identity
  | report
  /-- Every attempt of a job. -/
  | executions
  | find (id : AttemptId)
  | vertexOf (id : AttemptId)
  | attemptsFor (vertex : VertexRef)
  /-- Every attempt of a registry. -/
  | snapshot
  | size
  deriving DecidableEq

/-- What a session is asked to do. -/
inductive Request where
  | advance (span : Int64)
  | failNextReading
  | nextJobId
  | nextAttemptId
  | newTracker (name : String)
  | newRegistry (name : String)
  | newJob (name : String) (settings : Settings)
  /-- A call of a tracker, be it one of its own or that of a job. -/
  | track (subject : String) (call : Tracker.Call)
  /-- A call of a job. -/
  | drive (subject : String) (call : Job.Call)
  | ask (subject : String) (question : Question)
  | register (subject : String) (attempt : Attempt)
  | newToken (name : String)
  /-- A second token of the channel of `token`. -/
  | cloneToken (token name : String)
  /-- Cancels through the handle that was made with a token. -/
  | fire (token : String)
  | dropHandle (token : String)
  | isCancelled (token : String)
  | awaitCompletion (subject name : String)
  | awaitCompletionOrCancel (subject token name : String)
  | awaitCancel (token name : String)
  | hook (subject token name : String) (failure : Option String)
  deriving DecidableEq

/-- What a session answers. -/
inductive Reply where
  | done
  | time (now : Int64)
  | jobId (id : JobId)
  | attemptId (id : AttemptId)
  | flag (value : Bool)
  | count (value : Nat)
  | size (value : Nat)
  | state (status : Status) (completion : Option Status) (stamps : Stamps)
  | identity (id : JobId) (name : String) (kind : JobKind) (status : Status)
  /-- Whether a move was made, and the tracker after the call. -/
  | outcome (applied : Bool) (status : Status) (completion : Option Status)
  | status (status : Status)
  | completion (completion : Option Status)
  | stamps (stamps : Stamps)
  | description (text : String)
  | report (report : Report)
  | attempts (attempts : List Attempt)
  | found (attempt : Option Attempt)
  | vertex (vertex : Option VertexRef)
  | waiting
  | refused (refusal : Refusal)
  | stopped (fault : Fault)
  /-- A name is not known, or what it names cannot do this. -/
  | unknown
  /-- A wait would find a completion and a cancel at once. -/
  | ambiguous
  deriving DecidableEq

end JobLedger
