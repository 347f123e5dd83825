import JobLedger.Tracker

/-!
# What a call does to a tracker

A call that completes a job is refused if completion is resolved already, and
then nothing happens at all.  Every other call first resolves and signals
completion, if it is a completing one, and then requests its target: a terminal
status absorbs the request, any other status is left for the target.

These three cases are exhaustive, and each is stated as one equation on the
whole outcome.  Everything else about calls is derived from them.
-/

namespace JobLedger

namespace Tracker

/-! ## The parts of a call -/

namespace Call

/-- The status that a call asks for. -/
def target : Call → Status
  | request target | tryComplete target | complete target => target

/-- The status with which a call completes the job, if it does so. -/
def final? : Call → Option Status
  | request _ => none
  | tryComplete final | complete final => some final

/-- How a call ends that is refused. -/
def refused : Call → Rejection → Except Fault Answer
  | complete _, rejection => .error (.secondCompletion rejection)
  | _, rejection => .ok (.error rejection)

/-- What a call logs of the completion it brings. -/
def announcement (call : Call) : List Event :=
  call.final?.toList.map .completed

end Call

/-- The reason for which a call is refused, if it is. -/
def refusal? (tracker : Tracker) (call : Call) : Option Rejection :=
  match call.final?, tracker.completion with
  | some attempted, some existing => some { existing, attempted }
  | _, _ => none

/-- The tracker once a call has signalled the completion it brings. -/
def signalled (tracker : Tracker) (call : Call) : Tracker :=
  match call.final? with
  | none => tracker
  | some final => { tracker with completion := some final, signal := some final }

/-- The tracker once `target` is entered.  A failed reading of the clock leaves
no stamp. -/
def entered (tracker : Tracker) (target : Status) : Reading → Tracker
  | none => { tracker with status := target }
  | some now =>
    { tracker with status := target, enteredAt := tracker.enteredAt.insert target now }

/-- How a call ends that enters its target. -/
def entryResult : Reading → Except Fault Answer
  | none => .error .clockFailure
  | some _ => .ok (.ok true)

@[simp]
theorem signalled_status (tracker : Tracker) (call : Call) :
    (tracker.signalled call).status = tracker.status := by
  cases call <;> rfl

@[simp]
theorem signalled_enteredAt (tracker : Tracker) (call : Call) :
    (tracker.signalled call).enteredAt = tracker.enteredAt := by
  cases call <;> rfl

@[simp]
theorem entered_status (tracker : Tracker) (target : Status) (reading : Reading) :
    (tracker.entered target reading).status = target := by
  cases reading <;> rfl

@[simp]
theorem entered_completion (tracker : Tracker) (target : Status) (reading : Reading) :
    (tracker.entered target reading).completion = tracker.completion := by
  cases reading <;> rfl

@[simp]
theorem entered_signal (tracker : Tracker) (target : Status) (reading : Reading) :
    (tracker.entered target reading).signal = tracker.signal := by
  cases reading <;> rfl

/-- A call is refused exactly when it would resolve completion a second time. -/
theorem refusal?_eq_some_iff (tracker : Tracker) (call : Call) (rejection : Rejection) :
    tracker.refusal? call = some rejection ↔
      call.final? = some rejection.attempted ∧ tracker.completion = some rejection.existing := by
  obtain ⟨existing, attempted⟩ := rejection
  unfold refusal?
  constructor
  · intro refused
    split at refused
    · next final resolved =>
      cases refused
      exact ⟨final, resolved⟩
    · contradiction
  · rintro ⟨final, resolved⟩
    simp [final, resolved]

/-- While completion is open no call is refused. -/
theorem refusal?_of_unresolved {tracker : Tracker} (unresolved : tracker.completion = none)
    (call : Call) : tracker.refusal? call = none := by
  unfold refusal?
  rw [unresolved]
  cases call.final? <;> rfl

/-- A completing call is granted only while completion is open. -/
theorem completion_eq_none_of_granted {tracker : Tracker} {call : Call} {final : Status}
    (granted : tracker.refusal? call = none) (completes : call.final? = some final) :
    tracker.completion = none := by
  cases resolved : tracker.completion with
  | none => rfl
  | some existing => simp [refusal?, completes, resolved] at granted

/-- A completing call asks for the status that it completes with. -/
theorem Call.target_of_final? {call : Call} {final : Status}
    (completes : call.final? = some final) : call.target = final := by
  cases call <;> cases completes <;> rfl

/-! ## The three cases -/

variable {κ : Type} [Clock κ]

/-- A terminal status absorbs a request without a look at the clock. -/
theorem request_of_terminal {tracker : Tracker} (terminal : tracker.status.isTerminal = true)
    (target : Status) (clock : κ) :
    tracker.request target clock =
      { result := .ok false
        state := tracker
        clock := clock
        log := [.ignored tracker.status target] } := by
  simp [request, terminal]

/-- Any other status is left for the target, with one reading of the clock. -/
theorem request_of_not_terminal {tracker : Tracker}
    (moving : tracker.status.isTerminal = false) (target : Status) (clock : κ) :
    (tracker.request target clock).map .ok =
      { result := entryResult (Clock.read clock).1
        state := tracker.entered target (Clock.read clock).1
        clock := (Clock.read clock).2
        log := [.moved tracker.status target] } := by
  unfold request
  rw [moving]
  obtain ⟨reading, next⟩ := Clock.read clock
  cases reading <;> rfl

/-- A refused call changes nothing and logs nothing. -/
theorem perform_of_refused {tracker : Tracker} {call : Call} {rejection : Rejection}
    (refused : tracker.refusal? call = some rejection) (clock : κ) :
    tracker.perform call clock =
      { result := call.refused rejection
        state := tracker
        clock := clock
        log := [] } := by
  obtain ⟨final, resolved⟩ := (refusal?_eq_some_iff _ _ _).mp refused
  cases call with
  | request target => simp [Call.final?] at final
  | tryComplete target =>
      cases final
      simp [perform, tryComplete, resolved, Call.refused]
  | complete target =>
      cases final
      simp [perform, complete, tryComplete, resolved, Call.refused, Outcome.map, Except.map]

/-- A call that is not refused signals the completion it brings and requests
its target. -/
theorem perform_of_granted {tracker : Tracker} {call : Call}
    (granted : tracker.refusal? call = none) (clock : κ) :
    let outcome := ((tracker.signalled call).request call.target clock).map Except.ok
    tracker.perform call clock =
      { outcome with log := call.announcement ++ outcome.log } := by
  cases call with
  | request target => rfl
  | tryComplete target =>
      have unresolved := completion_eq_none_of_granted granted rfl
      simp [perform, tryComplete, unresolved, signalled, Call.final?, Call.target,
        Call.announcement, Outcome.map, Outcome.after]
  | complete target =>
      have unresolved := completion_eq_none_of_granted granted rfl
      simp only [perform, complete, tryComplete, unresolved, signalled, Call.final?, Call.target,
        Call.announcement, Outcome.map, Outcome.after]
      generalize request _ target clock = outcome
      obtain ⟨result, state, clock, log⟩ := outcome
      cases result <;> rfl

/-- A call whose request is absorbed may still resolve completion. -/
theorem perform_of_absorbed {tracker : Tracker} {call : Call}
    (granted : tracker.refusal? call = none) (terminal : tracker.status.isTerminal = true)
    (clock : κ) :
    tracker.perform call clock =
      { result := .ok (.ok false)
        state := tracker.signalled call
        clock := clock
        log := call.announcement ++ [.ignored tracker.status call.target] } := by
  rw [perform_of_granted granted, request_of_terminal (by simpa using terminal)]
  simp [Outcome.map, Except.map]

/-- A call that enters its target reads the clock once and ends as the reading
does. -/
theorem perform_of_entering {tracker : Tracker} {call : Call}
    (granted : tracker.refusal? call = none) (moving : tracker.status.isTerminal = false)
    (clock : κ) :
    tracker.perform call clock =
      { result := entryResult (Clock.read clock).1
        state := (tracker.signalled call).entered call.target (Clock.read clock).1
        clock := (Clock.read clock).2
        log := call.announcement ++ [.moved tracker.status call.target] } := by
  rw [perform_of_granted granted, request_of_not_terminal (by simpa using moving)]
  simp

/-- Every call falls under one of the three cases. -/
theorem refused_or_absorbed_or_entering (tracker : Tracker) (call : Call) :
    (∃ rejection, tracker.refusal? call = some rejection) ∨
      tracker.refusal? call = none ∧ tracker.status.isTerminal = true ∨
      tracker.refusal? call = none ∧ tracker.status.isTerminal = false := by
  cases tracker.refusal? call with
  | some rejection => exact .inl ⟨rejection, rfl⟩
  | none => cases tracker.status.isTerminal <;> simp

/-- A call that is granted leaves its target, unless a terminal status absorbs
it. -/
theorem status_perform_of_granted {tracker : Tracker} {call : Call}
    (granted : tracker.refusal? call = none) (clock : κ) :
    (tracker.perform call clock).state.status =
      if tracker.status.isTerminal then tracker.status else call.target := by
  cases terminal : tracker.status.isTerminal with
  | true =>
      rw [perform_of_absorbed granted terminal, signalled_status]
      rfl
  | false =>
      rw [perform_of_entering granted terminal, entered_status]
      rfl

end Tracker

end JobLedger
