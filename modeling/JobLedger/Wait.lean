import JobLedger.Cancellation
import JobLedger.Event
import JobLedger.Fault

/-!
# Waiting

A wait is for a completion, for a cancel, or for whichever comes first.  Who
waits looks at the signal of a tracker and at the state of a cancel channel,
and the wait ends as soon as one of them says so.

A termination hook is a wait with an action: when the job ends, the action is
called once with the final status; if the wait is cancelled, it is never called.
-/

namespace JobLedger

/-- What somebody waits for. -/
inductive Wait where
  | completion
  | completionOrCancel
  | cancel
  /-- A termination hook of a job, whose action may fail with a text. -/
  | hook (job : JobId) (failure : Option String)
  deriving DecidableEq

/-- How a wait ended. -/
inductive Ending where
  /-- With a completion. -/
  | completed (final : Status)
  /-- With the cancel of a wait that could have ended with a completion. -/
  | cancelled
  /-- With the cancel that was waited for. -/
  | fired
  /-- With a hook that was called and failed. -/
  | failed (final : Status) (fault : Fault)
  deriving DecidableEq

namespace Wait

def isHook : Wait → Bool
  | hook .. => true
  | _ => false

/-- Whether a completion ends the wait. -/
def heedsCompletion : Wait → Bool
  | cancel => false
  | _ => true

/-- Whether a cancel ends the wait. -/
def heedsCancel : Wait → Bool
  | completion => false
  | _ => true

/-- The end that a completion brings, and what is logged. -/
def complete (wait : Wait) (final : Status) : Ending × List Event :=
  match wait with
  | hook job none => (.completed final, [.hookRunning job final])
  | hook job (some text) => (.failed final (.hookFailure text), [.hookRunning job final])
  | _ => (.completed final, [])

/-- The end that a cancel brings, and what is logged. -/
def giveUp : Wait → Ending × List Event
  | hook job _ => (.cancelled, [.watchCancelled job])
  | completionOrCancel => (.cancelled, [.waitCancelled])
  | _ => (.fired, [])

/-- Looks at the signal and at the channel once; nothing if the wait goes on. -/
def poll (wait : Wait) (signal : Option Status) (cancelled : Bool) :
    Option (Ending × List Event) :=
  match wait.heedsCompletion, signal with
  | true, some final => some (wait.complete final)
  | _, _ => if wait.heedsCancel && cancelled then some wait.giveUp else none

end Wait

namespace Ending

/-- The statuses with which the action of a hook was called. -/
def calls : Ending → List Status
  | completed final | failed final _ => [final]
  | cancelled | fired => []

end Ending

end JobLedger
