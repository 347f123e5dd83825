import JobLedger.Proofs.Subject.Run

/-!
# What a call of a job does

A call of a job may announce itself in the log, then makes one call of the
tracker, and at last gives notice of the change if there was one.  This is
stated as one equation on the whole outcome.
-/

namespace JobLedger

namespace Job

namespace Call

/-- What a call logs before it reaches the tracker. -/
def preface (job : Job) : Call → List Event
  | fail cause => [.failureReported job.id cause]
  | terminate final => [.terminated job.id final]
  | _ => []

/-- The reason that a call gives for a change.  The end of a job is a matter of
its completion, and no reason is given for it. -/
def reason? : Call → Option String
  | run => some "deployed"
  | cancel => some "cancel requested"
  | fail cause | suspend cause => some cause
  | terminate _ => none

/-- A call that gives a reason completes nothing. -/
theorem final?_onTracker_of_reason? {call : Call} {reason : String}
    (given : call.reason? = some reason) : call.onTracker.final? = none := by
  cases call with
  | terminate final => contradiction
  | _ => rfl

/-- What a call logs after the tracker has answered: the change, if it was
made. -/
def notice (job : Job) (call : Call) : Except Fault Tracker.Answer → List Event
  | .ok (.ok true) => call.reason?.toList.map (.statusChanged job.id call.onTracker.target)
  | _ => []

end Call

variable {κ : Type} [Clock κ]

/-- A move is a request of its target, with a notice if it is made. -/
theorem move_eq (job : Job) (target : Status) (reason : String) (clock : κ) :
    (job.move target reason clock).map Except.ok =
      let outcome := job.tracker.perform (.request target) clock
      { result := outcome.result
        state := job.withTracker outcome.state
        clock := outcome.clock
        log := outcome.log ++ match outcome.result with
          | .ok (.ok true) => [.statusChanged job.id target reason]
          | _ => [] } := by
  simp only [move, Tracker.perform]
  generalize job.tracker.request target clock = outcome
  obtain ⟨result, state, next, log⟩ := outcome
  rcases result with fault | applied
  · simp [Outcome.map, Outcome.within, Except.map]
  · cases applied <;> simp [Outcome.map, Outcome.within, Outcome.andThen, Except.map]

/-- A call of a job is the call of its tracker, between what it announces and
what it gives notice of. -/
theorem perform_eq (job : Job) (call : Call) (clock : κ) :
    (job.perform call clock).map Except.ok =
      let outcome := job.tracker.perform call.onTracker clock
      { result := outcome.result
        state := job.withTracker outcome.state
        clock := outcome.clock
        log := call.preface job ++ outcome.log ++ call.notice job outcome.result } := by
  cases call with
  | run => exact job.move_eq .running "deployed" clock
  | cancel => exact job.move_eq .cancelling "cancel requested" clock
  | suspend cause => exact job.move_eq .suspended cause clock
  | fail cause =>
      have moved := job.move_eq .failing cause clock
      exact congrArg (Outcome.after (.failureReported job.id cause)) moved
  | terminate final =>
      simp only [perform, terminate, Call.onTracker, Tracker.perform]
      generalize job.tracker.complete final clock = outcome
      obtain ⟨result, state, next, log⟩ := outcome
      rcases result with fault | applied
      · simp [Outcome.map, Outcome.within, Outcome.after, Except.map, Call.preface, Call.notice]
      · cases applied <;>
          simp [Outcome.map, Outcome.within, Outcome.after, Except.map, Call.preface, Call.notice,
            Call.reason?]

end Job

end JobLedger
