import JobLedger.Outcome
import JobLedger.Stamps

/-!
# Tracking the status of one job

A tracker holds the status of a job, the completion of the job once that is
known, and the time of the last entry of each status.

Any status may follow a status that is not terminal; a terminal one absorbs
every request.  Completion is a thing of its own: it is resolved once, with any
status, and resolving it also requests a move to that status.

A move is made in an order that can be seen from outside: the status changes,
then the clock is read, then the stamp is written.  If the clock fails, the
status has changed and its stamp has not.  In the same way a completion is
recorded and signalled before the move is requested.
-/

namespace JobLedger

/-- The status of one job and how it got there. -/
structure Tracker where
  status : Status
  /-- The final status, once completion is resolved. -/
  completion : Option Status
  /-- What those who wait for completion see. -/
  signal : Option Status
  enteredAt : Stamps
  deriving DecidableEq

namespace Tracker

variable {κ : Type} [Clock κ]

/-- A tracker in the initial status.  The clock is read once; if that fails
there is no tracker. -/
def start (clock : κ) : Except Fault Tracker × κ :=
  match Clock.read clock with
  | (none, clock) => (.error .clockFailure, clock)
  | (some now, clock) =>
    (.ok
      { status := .initial
        completion := none
        signal := none
        enteredAt := Stamps.empty.insert .initial now },
      clock)

/-- Requests a move to `target`.  The result says whether it was made. -/
def request (tracker : Tracker) (target : Status) (clock : κ) : Outcome Tracker κ Bool :=
  if tracker.status.isTerminal then
    { result := .ok false
      state := tracker
      clock := clock
      log := [.ignored tracker.status target] }
  else
    let moved := { tracker with status := target }
    let log := [.moved tracker.status target]
    match Clock.read clock with
    | (none, clock) => { result := .error .clockFailure, state := moved, clock, log }
    | (some now, clock) =>
      let stamped := { moved with enteredAt := moved.enteredAt.insert target now }
      { result := .ok true, state := stamped, clock, log }

/-- Resolves completion with `final` and signals it, then requests a move to
`final`.  If completion was resolved before, nothing happens. -/
def tryComplete (tracker : Tracker) (final : Status) (clock : κ) :
    Outcome Tracker κ (Except Rejection Bool) :=
  match tracker.completion with
  | some existing =>
    { result := .ok (.error { existing, attempted := final })
      state := tracker
      clock := clock
      log := [] }
  | none =>
    let resolved := { tracker with completion := some final, signal := some final }
    ((resolved.request final clock).map .ok).after (.completed final)

/-- Resolves completion for a caller that does so once only: a second time is
a fault. -/
def complete (tracker : Tracker) (final : Status) (clock : κ) : Outcome Tracker κ Bool :=
  let outcome := tracker.tryComplete final clock
  { outcome with
    result := match outcome.result with
      | .ok (.ok applied) => .ok applied
      | .ok (.error rejection) => .error (.secondCompletion rejection)
      | .error fault => .error fault }

/-! ## Reading a tracker -/

/-- The stamp of a status that was never entered. -/
def unset : Int64 := 0

/-- When a status was last entered, or `unset`. -/
def stamp (tracker : Tracker) (status : Status) : Int64 :=
  (tracker.enteredAt.get? status).getD unset

/-- The status and the stamps of one moment. -/
def view (tracker : Tracker) : Status × Stamps :=
  (tracker.status, tracker.enteredAt)

/-- The debug text of a tracker, on one line. -/
def describe (tracker : Tracker) : String :=
  let completion := match tracker.completion with
    | none => "None"
    | some status => "Some(" ++ status.label ++ ")"
  "StatusTracker \x7b current: " ++ tracker.status.label ++ ", completion: " ++ completion ++
    " \x7d"

/-- The debug text of a tracker, one field a line. -/
def describeLines (tracker : Tracker) : String :=
  let completion := match tracker.completion with
    | none => "None"
    | some status => "Some(\n        " ++ status.label ++ ",\n    )"
  "StatusTracker \x7b\n    current: " ++ tracker.status.label ++ ",\n    completion: " ++
    completion ++ ",\n\x7d"

/-! ## Calls as data -/

/-- A call that may change a tracker. -/
inductive Call where
  | request (target : Status)
  | tryComplete (final : Status)
  | complete (final : Status)
  deriving DecidableEq

/-- What a call that was not stopped answers: whether the move was made, or
that completion was resolved before. -/
abbrev Answer := Except Rejection Bool

/-- Carries a call out. -/
def perform (tracker : Tracker) (call : Call) (clock : κ) : Outcome Tracker κ Answer :=
  match call with
  | .request target => (tracker.request target clock).map .ok
  | .tryComplete final => tracker.tryComplete final clock
  | .complete final => (tracker.complete final clock).map .ok

/-- What calls made one after another leave. -/
structure Run (κ : Type) where
  answers : List (Except Fault Answer)
  state : Tracker
  clock : κ
  log : List Event

/-- Carries calls out one after another.  A call that is stopped by a fault
does not keep the later ones from being made. -/
def run (tracker : Tracker) (calls : List Call) (clock : κ) : Run κ :=
  match calls with
  | [] => { answers := [], state := tracker, clock, log := [] }
  | call :: rest =>
    let outcome := tracker.perform call clock
    let later := run outcome.state rest outcome.clock
    { answers := outcome.result :: later.answers
      state := later.state
      clock := later.clock
      log := outcome.log ++ later.log }

end Tracker

end JobLedger
