import JobLedger.Proofs.Subject.Run

/-!
# Terminal statuses absorb

Once the status of a tracker is terminal, a run changes neither the status nor
a stamp, whatever is done and whichever clock readings fail: requests are
answered in the negative without a look at the clock, and a completion that is
still open is resolved without a move.  The status may have become terminal in
a call that the clock stopped half way.

So a run enters a terminal status at most once, and nothing after it.
-/

namespace JobLedger

namespace Tracker

variable {κ : Type} [Clock κ]

/-- No call moves a tracker whose status is terminal. -/
theorem perform_of_terminal {tracker : Tracker} (terminal : tracker.status.isTerminal = true)
    (call : Call) (clock : κ) :
    (tracker.perform call clock).state.status = tracker.status ∧
      (tracker.perform call clock).state.enteredAt = tracker.enteredAt := by
  cases refused : tracker.refusal? call with
  | some rejection =>
      rw [perform_of_refused refused]
      exact ⟨rfl, rfl⟩
  | none =>
      rw [perform_of_absorbed refused terminal]
      exact ⟨signalled_status tracker call, signalled_enteredAt tracker call⟩

/-- A call is granted if it completes nothing, or if completion is open. -/
theorem refusal?_eq_none {tracker : Tracker} {call : Call}
    (possible : call.final? = none ∨ tracker.completion = none) :
    tracker.refusal? call = none := by
  rcases possible with plain | unresolved
  · simp [refusal?, plain]
  · exact refusal?_of_unresolved unresolved call

/-- What a call enters becomes the status. -/
theorem status_of_mem_entered {tracker : Tracker} {call : Call} {clock : κ} {status : Status}
    (member : status ∈ (tracker.perform call clock).entered) :
    (tracker.perform call clock).state.status = status := by
  rw [entered_perform] at member
  split at member
  · next entering =>
    obtain ⟨granted, moving⟩ := entering
    rw [perform_of_entering granted moving, entered_status]
    exact (List.mem_singleton.mp member).symm
  · contradiction

end Tracker

namespace Subject

variable {κ : Type} [Clock κ]

/-- A run leaves the status and the stamps of a terminal tracker as they are. -/
theorem run_of_terminal {subject : Subject} {tracker : Tracker}
    (own : subject.tracker? = some tracker) (terminal : tracker.status.isTerminal = true)
    (acts : List (Act κ)) (clock : κ) :
    ∃ later, (subject.run acts clock).state.tracker? = some later ∧
      later.status = tracker.status ∧ later.enteredAt = tracker.enteredAt := by
  apply run_invariant _ own ⟨rfl, rfl⟩
  rintro middle call moment ⟨status_eq, enteredAt_eq⟩
  have middleTerminal : middle.status.isTerminal = true := by rw [status_eq, terminal]
  obtain ⟨sameStatus, sameStamps⟩ := Tracker.perform_of_terminal middleTerminal call moment
  exact ⟨sameStatus.trans status_eq, sameStamps.trans enteredAt_eq⟩

/-- An act enters nothing if the status is terminal. -/
theorem entered_perform_of_terminal {subject : Subject} {tracker : Tracker}
    (own : subject.tracker? = some tracker) (terminal : tracker.status.isTerminal = true)
    (act : Act κ) (clock : κ) : (subject.perform act clock).entered = [] := by
  rw [entered_perform own act clock]
  cases subject.callOf act with
  | none => rfl
  | some call => simp [Tracker.entered_perform, terminal]

/-- A run enters nothing if the status is terminal at its start. -/
theorem entered_run_of_terminal {subject : Subject} {tracker : Tracker}
    (own : subject.tracker? = some tracker) (terminal : tracker.status.isTerminal = true)
    (acts : List (Act κ)) (clock : κ) : (subject.run acts clock).entered = [] := by
  induction acts generalizing subject tracker clock with
  | nil => rfl
  | cons act rest ih =>
      obtain ⟨next, nextOwn, status_eq, _⟩ := run_of_terminal own terminal [act] clock
      rw [entered_run_cons, entered_perform_of_terminal own terminal, List.nil_append]
      exact ih nextOwn (status_eq ▸ terminal) _

/-- An act enters at most one status, and that is the status it leaves. -/
theorem entered_perform_eq {subject : Subject} {tracker : Tracker}
    (own : subject.tracker? = some tracker) (act : Act κ) (clock : κ) :
    (subject.perform act clock).entered = [] ∨
      ∃ later, (subject.perform act clock).state.tracker? = some later ∧
        (subject.perform act clock).entered = [later.status] := by
  rw [entered_perform own act clock, tracker?_perform own act clock]
  cases subject.callOf act with
  | none => exact .inl rfl
  | some call =>
      simp only [Option.elim_some]
      have single := tracker.entered_perform call clock
      split at single
      · right
        have status_eq := Tracker.status_of_mem_entered (single ▸ List.mem_singleton_self _)
        rw [single, ← status_eq]
        exact ⟨_, rfl, rfl⟩
      · exact .inl single

/-- Of two statuses that a run enters the earlier one is not terminal. -/
theorem pairwise_entered_run {subject : Subject} {tracker : Tracker}
    (own : subject.tracker? = some tracker) (acts : List (Act κ)) (clock : κ) :
    (subject.run acts clock).entered.Pairwise fun earlier _ => earlier.isTerminal = false := by
  induction acts generalizing subject tracker clock with
  | nil => exact List.Pairwise.nil
  | cons act rest ih =>
      obtain ⟨next, nextOwn, _⟩ :=
        perform_invariant (P := fun _ => True) (fun _ _ _ _ => trivial) own trivial act clock
      have later := ih nextOwn (subject.perform act clock).clock
      rw [entered_run_cons]
      rcases entered_perform_eq own act clock with nothing | ⟨entered, enteredOwn, single⟩
      · rw [nothing]
        exact later
      · rw [single, List.singleton_append, List.pairwise_cons]
        constructor
        · intro status member
          cases terminal : entered.status.isTerminal with
          | false => rfl
          | true =>
              rw [entered_run_of_terminal enteredOwn terminal] at member
              contradiction
        · exact later

/-- **Terminal statuses absorb.**  From the moment at which the status of a
tracker is terminal, no run changes the status or a stamp; every request, and
every completion that is still possible, is answered with `false` and without a
look at the clock.  Over the whole run, each status that is entered before
another one is not terminal: a terminal status is entered once at most, and
nothing after it. -/
theorem terminal_absorbs {subject : Subject} {initial : Tracker}
    (own : subject.tracker? = some initial) (before after : List (Act κ)) (clock : κ) :
    (∀ tracker, (subject.run before clock).state.tracker? = some tracker →
      tracker.status.isTerminal = true →
      ∃ later, (subject.run (before ++ after) clock).state.tracker? = some later ∧
        later.status = tracker.status ∧ later.enteredAt = tracker.enteredAt ∧
        ∀ (act : Act κ) (call : Tracker.Call) (moment : κ), subject.callOf act = some call →
          call.final? = none ∨ later.completion = none →
          let outcome := (subject.run (before ++ after) clock).state.perform act moment
          outcome.result = .ok (.called (.ok false)) ∧ outcome.clock = moment) ∧
    (subject.run (before ++ after) clock).entered.Pairwise
      fun earlier _ => earlier.isTerminal = false := by
  constructor
  · intro tracker reached terminal
    obtain ⟨later, laterOwn, status_eq, enteredAt_eq⟩ :=
      run_of_terminal reached terminal after (subject.run before clock).clock
    have laterReached : (subject.run (before ++ after) clock).state.tracker? = some later := by
      rw [run_append]
      exact laterOwn
    refine ⟨later, laterReached, status_eq, enteredAt_eq, ?_⟩
    intro act call moment calls possible
    have laterCalls : (subject.run (before ++ after) clock).state.callOf act = some call := by
      rw [callOf_run, calls]
    obtain ⟨_, clock_eq, result_eq, _⟩ := perform_carries laterCalls laterReached moment
    have absorbed := Tracker.perform_of_absorbed (Tracker.refusal?_eq_none possible)
      (status_eq ▸ terminal) moment
    rw [absorbed] at clock_eq result_eq
    exact ⟨result_eq, clock_eq⟩
  · exact pairwise_entered_run own _ clock

/-- The clock fails while a tracker is suspended: the status stays, although it
has no stamp, and a late completion is resolved without a move. -/
theorem terminal_absorbs_after_fault :
    let before := [Act.elapse ManualClock.failNext, .track (.request .suspended)]
    let after : List (Act ManualClock) := [.track (.request .running), .track (.complete .finished)]
    let initial := Tracker.started 0
    let reached := { initial with status := .suspended }
    ((tracker initial).run before (.starting 0)).state.tracker? = some reached ∧
      reached.status.isTerminal = true ∧
      ∃ later, ((tracker initial).run (before ++ after) (.starting 0)).state.tracker? = some later ∧
        later.status = .suspended ∧ later.enteredAt = initial.enteredAt := by
  intro before after initial reached
  have reachedBy : ((tracker initial).run before (.starting 0)).state.tracker? = some reached := rfl
  obtain ⟨later, laterOwn, status_eq, enteredAt_eq, _⟩ :=
    (terminal_absorbs rfl before after (.starting 0)).1 reached reachedBy rfl
  exact ⟨reachedBy, rfl, later, laterOwn, status_eq, enteredAt_eq⟩

end Subject

end JobLedger
