/-!
# Execution attempts

Every run of one task of a job, a vertex, is an attempt with an identifier of
its own.  The first attempt of a vertex has number 0 and starts as `CREATED`.
-/

namespace JobLedger

/-- Identifies one execution attempt. -/
structure AttemptId where
  text : String
  deriving DecidableEq

/-- Refers to the task an attempt belongs to. -/
structure VertexRef where
  text : String
  deriving DecidableEq

/-- Where an attempt stands. -/
inductive AttemptState where
  | created
  | scheduled
  | deploying
  | initializing
  | running
  | finished
  | canceling
  | canceled
  | failed
  deriving DecidableEq

namespace AttemptState

/-- Every state, in order. -/
def all : List AttemptState :=
  [created, scheduled, deploying, initializing, running, finished, canceling,
    canceled, failed]

/-- The state every attempt starts in. -/
def initial : AttemptState := created

/-- An attempt in a terminal state is over. -/
def isTerminal : AttemptState → Bool
  | finished | canceled | failed => true
  | _ => false

/-- The name of a state in texts. -/
def name : AttemptState → String
  | created => "CREATED"
  | scheduled => "SCHEDULED"
  | deploying => "DEPLOYING"
  | initializing => "INITIALIZING"
  | running => "RUNNING"
  | finished => "FINISHED"
  | canceling => "CANCELING"
  | canceled => "CANCELED"
  | failed => "FAILED"

/-- The name of a state in debug texts. -/
def label : AttemptState → String
  | created => "Created"
  | scheduled => "Scheduled"
  | deploying => "Deploying"
  | initializing => "Initializing"
  | running => "Running"
  | finished => "Finished"
  | canceling => "Canceling"
  | canceled => "Canceled"
  | failed => "Failed"

theorem mem_all (state : AttemptState) : state ∈ all := by
  cases state <;> decide

theorem name_injective {first second : AttemptState} (equal : first.name = second.name) :
    first = second := by
  cases first <;> cases second <;> simp_all [name]

end AttemptState

/-- What is known of one execution attempt. -/
structure Attempt where
  id : AttemptId
  vertex : VertexRef
  /-- 0 for the first attempt of a vertex, one more with every retry. -/
  number : UInt32
  state : AttemptState
  deriving DecidableEq

/-- The first attempt of a vertex. -/
def Attempt.first (id : AttemptId) (vertex : VertexRef) : Attempt :=
  { id, vertex, number := 0, state := .initial }

end JobLedger
