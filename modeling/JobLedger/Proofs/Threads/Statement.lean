import JobLedger.Proofs.Subject.Completion
import JobLedger.Wait

/-!
# The statements of a call

Several threads may use a tracker at once.  A call that changes or reads it
takes the lock of the tracker, carries out its statements one by one and lets
go of the lock.  An await takes no lock: it looks at the signal alone, and may
do so between any two statements of a call of another thread.

What a call that holds the lock has still to do is given by its next statement.
To finish means to do all of that without a break, and a call that is finished
from its first statement on does what the tracker does in one piece.
-/

namespace JobLedger

namespace Threads

/-! ## Calls and awaits -/

/-- What is read of a tracker under its lock. -/
inductive Query where
  | status
  | completion
  | view
  deriving DecidableEq

/-- A call that takes the lock.  What the clock shows to it is laid down. -/
inductive Locked where
  | change (call : Tracker.Call) (reading : Reading)
  | ask (query : Query)
  deriving DecidableEq

/-- What a thread does with a tracker. -/
inductive Operation where
  | locked (call : Locked)
  | await
  deriving DecidableEq

/-- What a thread is given back. -/
inductive Response where
  | changed (result : Except Fault Tracker.Answer)
  | status (status : Status)
  | completion (completion : Option Status)
  | view (view : Status × Stamps)
  | awaited (ending : Ending)

/-- The response to a query. -/
def Query.answer (query : Query) (tracker : Tracker) : Response :=
  match query with
  | status => .status tracker.status
  | completion => .completion tracker.completion
  | view => .view tracker.view

/-- Carries a call out in one piece. -/
def Locked.perform (call : Locked) (tracker : Tracker) : Response × Tracker :=
  match call with
  | change call reading =>
    let outcome := tracker.perform call reading
    (.changed outcome.result, outcome.state)
  | ask query => (query.answer tracker, tracker)

/-- What an await finds when it looks at the signal; nothing if it goes on. -/
def awaited? (tracker : Tracker) : Option Response :=
  (Wait.completion.poll tracker.signal false).map fun found => .awaited found.1

theorem awaited?_eq (tracker : Tracker) :
    awaited? tracker = tracker.signal.map fun final => .awaited (.completed final) := by
  unfold awaited?
  cases tracker.signal <;> rfl

/-- Carries an operation out in one piece; nothing if it is an await that would
not end. -/
def Operation.perform (operation : Operation) (tracker : Tracker) : Option (Response × Tracker) :=
  match operation with
  | locked call => some (call.perform tracker)
  | await => (awaited? tracker).map fun response => (response, tracker)

/-- Only an await is answered with the end of a wait. -/
theorem Operation.eq_await_of_perform {operation : Operation} {tracker next : Tracker}
    {ending : Ending} (performed : operation.perform tracker = some (.awaited ending, next)) :
    operation = await := by
  cases operation with
  | await => rfl
  | locked call =>
      cases call with
      | change call reading => cases performed
      | ask query => cases query <;> cases performed

theorem Operation.response_of_ask {query : Query} {tracker next : Tracker} {response : Response}
    (performed : (locked (.ask query)).perform tracker = some (response, next)) :
    response = query.answer tracker := by
  cases performed
  rfl

/-! ## Statements -/

/-- The next statement of a call that holds the lock. -/
inductive Statement where
  /-- Looks whether completion is resolved. -/
  | check (call : Tracker.Call) (final : Status) (reading : Reading)
  /-- Writes the completion. -/
  | record (final : Status) (reading : Reading)
  /-- Sends the signal. -/
  | send (final : Status) (reading : Reading)
  /-- Looks whether the status is terminal. -/
  | guard (target : Status) (reading : Reading)
  /-- Writes the status. -/
  | enter (target : Status) (reading : Reading)
  /-- Reads the clock. -/
  | consult (target : Status) (reading : Reading)
  /-- Inserts the stamp. -/
  | stamp (target : Status) (now : Int64)
  | look (query : Query)
  /-- Lets go of the lock. -/
  | leave (response : Response)

/-- The statement that a call begins with. -/
def Locked.first : Locked → Statement
  | change call reading =>
    match call.final? with
    | some final => .check call final reading
    | none => .guard call.target reading
  | ask query => .look query

namespace Statement

/-- Carries a statement out: what comes next, and what is left of the tracker. -/
def step : Statement → Tracker → Statement × Tracker
  | check call final reading, tracker =>
    match tracker.completion with
    | some existing => (leave (.changed (call.refused { existing, attempted := final })), tracker)
    | none => (record final reading, tracker)
  | record final reading, tracker =>
    (send final reading, { tracker with completion := some final })
  | send final reading, tracker =>
    (guard final reading, { tracker with signal := some final })
  | guard target reading, tracker =>
    if tracker.status.isTerminal then (leave (.changed (.ok (.ok false))), tracker)
    else (enter target reading, tracker)
  | enter target reading, tracker =>
    (consult target reading, { tracker with status := target })
  | consult _ none, tracker => (leave (.changed (.error .clockFailure)), tracker)
  | consult target (some now), tracker => (stamp target now, tracker)
  | stamp target now, tracker =>
    (leave (.changed (.ok (.ok true))),
      { tracker with enteredAt := tracker.enteredAt.insert target now })
  | look query, tracker => (leave (query.answer tracker), tracker)
  | leave response, tracker => (leave response, tracker)

/-- What a request answers and leaves. -/
def requested (tracker : Tracker) (target : Status) (reading : Reading) : Response × Tracker :=
  Locked.perform (.change (.request target) reading) tracker

/-- The response to a call, and what it leaves of the tracker, if all of it from
a statement on is done without a break. -/
def finish : Statement → Tracker → Response × Tracker
  | check call final reading, tracker =>
    match tracker.completion with
    | some existing => (.changed (call.refused { existing, attempted := final }), tracker)
    | none =>
      requested { tracker with completion := some final, signal := some final } final reading
  | record final reading, tracker =>
    requested { tracker with completion := some final, signal := some final } final reading
  | send final reading, tracker =>
    requested { tracker with signal := some final } final reading
  | guard target reading, tracker => requested tracker target reading
  | enter target reading, tracker =>
    (.changed (Tracker.entryResult reading), tracker.entered target reading)
  | consult _ none, tracker => (.changed (.error .clockFailure), tracker)
  | consult target (some now), tracker | stamp target now, tracker =>
    (.changed (.ok (.ok true)), { tracker with enteredAt := tracker.enteredAt.insert target now })
  | look query, tracker => (query.answer tracker, tracker)
  | leave response, tracker => (response, tracker)

/-- A request is absorbed or enters its target, as its guard decides. -/
theorem requested_eq (tracker : Tracker) (target : Status) (reading : Reading) :
    requested tracker target reading =
      if tracker.status.isTerminal then (.changed (.ok (.ok false)), tracker)
      else (.changed (Tracker.entryResult reading), tracker.entered target reading) := by
  have granted : tracker.refusal? (.request target) = none := rfl
  simp only [requested, Locked.perform]
  cases terminal : tracker.status.isTerminal with
  | true =>
      rw [Tracker.perform_of_absorbed granted terminal]
      rfl
  | false =>
      rw [Tracker.perform_of_entering granted terminal]
      rfl

/-- One statement takes nothing away from what the rest of the call comes to. -/
theorem finish_step (next : Statement) (tracker : Tracker) :
    (next.step tracker).1.finish (next.step tracker).2 = next.finish tracker := by
  cases next with
  | check call final reading =>
      simp only [step, finish]
      cases tracker.completion <;> rfl
  | record final reading => rfl
  | send final reading => rfl
  | guard target reading =>
      simp only [step, finish, requested_eq]
      cases tracker.status.isTerminal <;> rfl
  | enter target reading => cases reading <;> rfl
  | consult target reading => cases reading <;> rfl
  | stamp target now => rfl
  | look query => rfl
  | leave response => rfl

/-- A call that is granted signals the completion it brings and requests its
target. -/
theorem perform_of_granted {tracker : Tracker} {call : Tracker.Call}
    (granted : tracker.refusal? call = none) (reading : Reading) :
    Locked.perform (.change call reading) tracker =
      requested (tracker.signalled call) call.target reading := by
  simp only [Locked.perform, requested]
  rw [Tracker.perform_of_granted granted]
  rfl

/-- A call that is finished from its first statement on is carried out in one
piece. -/
theorem finish_first (call : Locked) (tracker : Tracker) :
    call.first.finish tracker = call.perform tracker := by
  cases call with
  | ask query => rfl
  | change call reading =>
      cases completes : call.final? with
      | none =>
          have granted : tracker.refusal? call = none := by simp [Tracker.refusal?, completes]
          have unchanged : tracker.signalled call = tracker := by
            simp [Tracker.signalled, completes]
          rw [perform_of_granted granted, unchanged]
          simp only [Locked.first, completes, finish]
      | some final =>
          simp only [Locked.first, completes, finish]
          cases resolved : tracker.completion with
          | some existing =>
              have refused : tracker.refusal? call = some { existing, attempted := final } :=
                (Tracker.refusal?_eq_some_iff _ _ _).mpr ⟨completes, resolved⟩
              simp only [Locked.perform]
              rw [Tracker.perform_of_refused refused]
          | none =>
              rw [perform_of_granted (Tracker.refusal?_of_unresolved resolved call),
                Tracker.Call.target_of_final? completes]
              simp only [Tracker.signalled, completes]

/-! ## What others can see -/

/-- How completion and signal stand before a statement. -/
def Fits : Statement → Tracker → Prop
  | record _ _, tracker => tracker.completion = none ∧ tracker.signal = none
  | send final _, tracker => tracker.completion = some final ∧ tracker.signal = none
  | _, tracker => tracker.signal = tracker.completion

theorem fits_first {tracker : Tracker} (agree : tracker.signal = tracker.completion)
    (call : Locked) : call.first.Fits tracker := by
  cases call with
  | ask query => exact agree
  | change call reading => cases call <;> exact agree

theorem Fits.step {next : Statement} {tracker : Tracker} (fits : next.Fits tracker) :
    (next.step tracker).1.Fits (next.step tracker).2 := by
  cases next with
  | check call final reading =>
      simp only [Statement.step]
      cases unresolved : tracker.completion with
      | some existing => exact fits
      | none => exact ⟨unresolved, fits.trans unresolved⟩
  | record final reading => exact ⟨rfl, fits.2⟩
  | send final reading => exact fits.1.symm
  | guard target reading =>
      simp only [Statement.step]
      split <;> exact fits
  | enter target reading => exact fits
  | consult target reading => cases reading <;> exact fits
  | stamp target now => exact fits
  | look query => exact fits
  | leave response => exact fits

/-- What is signalled half way through a call is what is signalled at its end. -/
theorem Fits.signal_finish {next : Statement} {tracker : Tracker} (fits : next.Fits tracker)
    {final : Status} (signalled : tracker.signal = some final) :
    (next.finish tracker).2.signal = some final := by
  cases next with
  | check call completing reading =>
      have resolved : tracker.completion = some final := fits.symm.trans signalled
      simp only [finish, resolved]
      exact signalled
  -- Before the signal is sent there is none that could be lost.
  | record completing reading =>
      have silent : tracker.signal = none := fits.2
      rw [silent] at signalled
      contradiction
  | send completing reading =>
      have silent : tracker.signal = none := fits.2
      rw [silent] at signalled
      contradiction
  | guard target reading =>
      simp only [finish, requested_eq]
      split
      · exact signalled
      · rw [Tracker.entered_signal, signalled]
  | enter target reading =>
      rw [← signalled]
      exact Tracker.entered_signal tracker target reading
  | consult target reading => cases reading <;> exact signalled
  | stamp target now => exact signalled
  | look query => exact signalled
  | leave response => exact signalled

end Statement

end Threads

end JobLedger
