/-!
# The lifecycle statuses of a job

A job is in one of ten statuses.  Four of them are terminal: once a job has
reached one of these it never leaves it.  `SUSPENDED` is terminal too, but it
does not end the job for good, so it is not *globally* terminal.

The statuses are ordered as they are declared, and `rank` is the position in
that order.
-/

namespace JobLedger

/-- Where a job stands in its life. -/
inductive Status where
  | initializing
  | running
  | cancelling
  | canceled
  | failing
  | failed
  | finished
  | suspended
  | reconciling
  | restarting
  deriving DecidableEq

namespace Status

/-- Every status, in order. -/
def all : List Status :=
  [initializing, running, cancelling, canceled, failing, failed, finished,
    suspended, reconciling, restarting]

/-- The status every job starts in. -/
def initial : Status := initializing

/-- The position of a status in the order. -/
def rank : Status → Fin 10
  | initializing => 0
  | running => 1
  | cancelling => 2
  | canceled => 3
  | failing => 4
  | failed => 5
  | finished => 6
  | suspended => 7
  | reconciling => 8
  | restarting => 9

theorem rank_injective {first second : Status} (equal : first.rank = second.rank) :
    first = second := by
  cases first <;> cases second <;> simp_all [rank]

theorem mem_all (status : Status) : status ∈ all := by
  cases status <;> decide

/-- `all` lists the statuses in the order of their ranks, each once. -/
theorem pairwise_all : all.Pairwise fun first second => first.rank < second.rank := by
  decide

/-- The order test used to sort statuses. -/
def le (first second : Status) : Bool :=
  first.rank ≤ second.rank

/-- A terminal status is never left again. -/
def isTerminal : Status → Bool
  | canceled | failed | finished | suspended => true
  | _ => false

/-- A globally terminal status ends the job everywhere; a suspended job may be
picked up again elsewhere. -/
def isGloballyTerminal : Status → Bool
  | canceled | failed | finished => true
  | _ => false

/-- The name of a status in texts. -/
def name : Status → String
  | initializing => "INITIALIZING"
  | running => "RUNNING"
  | cancelling => "CANCELLING"
  | canceled => "CANCELED"
  | failing => "FAILING"
  | failed => "FAILED"
  | finished => "FINISHED"
  | suspended => "SUSPENDED"
  | reconciling => "RECONCILING"
  | restarting => "RESTARTING"

/-- The name of a status in the debug text of a tracker. -/
def label : Status → String
  | initializing => "Initializing"
  | running => "Running"
  | cancelling => "Cancelling"
  | canceled => "Canceled"
  | failing => "Failing"
  | failed => "Failed"
  | finished => "Finished"
  | suspended => "Suspended"
  | reconciling => "Reconciling"
  | restarting => "Restarting"

theorem name_injective {first second : Status} (equal : first.name = second.name) :
    first = second := by
  cases first <;> cases second <;> simp_all [name]

/-! ## Sorting -/

/-- A list of statuses put in order; equal ones stay. -/
def sort (statuses : List Status) : List Status :=
  statuses.mergeSort le

/-- The first status in order, if there is any. -/
def least? (statuses : List Status) : Option Status :=
  (sort statuses).head?

/-- The last status in order, if there is any. -/
def greatest? (statuses : List Status) : Option Status :=
  (sort statuses).getLast?

/-- Whether a list holds one status only, however often. -/
def allEqual : List Status → Bool
  | [] => true
  | first :: rest => rest.all fun status => status = first

end Status

end JobLedger
