import JobLedger.Proofs.Subject.Run

/-!
# Completion is resolved once

In every run the completion of a tracker is the argument of the first call that
completes it, and the signal that waiters see is the completion.  The first
completing call is never refused, even if a failing clock stops it; every later
one is, and changes nothing.
-/

namespace JobLedger

namespace Tracker

variable {κ : Type} [Clock κ]

/-- The first completing call fixes the completion. -/
theorem completion_perform (tracker : Tracker) (call : Call) (clock : κ) :
    (tracker.perform call clock).state.completion = tracker.completion.or call.final? := by
  have signalledCompletion (granted : tracker.refusal? call = none) :
      (tracker.signalled call).completion = tracker.completion.or call.final? := by
    cases final : call.final? with
    | none => simp [signalled, final]
    | some attempted =>
        simp [signalled, final, completion_eq_none_of_granted granted final]
  rcases tracker.refused_or_absorbed_or_entering call with
    ⟨rejection, refused⟩ | ⟨granted, terminal⟩ | ⟨granted, moving⟩
  · obtain ⟨_, resolved⟩ := (refusal?_eq_some_iff _ _ _).mp refused
    rw [perform_of_refused refused, resolved, Option.some_or]
  · rw [perform_of_absorbed granted terminal, signalledCompletion granted]
  · rw [perform_of_entering granted moving, entered_completion, signalledCompletion granted]

/-- A call that brings a completion brings it to the waiters as well. -/
theorem signal_perform {tracker : Tracker} (agree : tracker.signal = tracker.completion)
    (call : Call) (clock : κ) :
    (tracker.perform call clock).state.signal =
      (tracker.perform call clock).state.completion := by
  have signalledAgree : (tracker.signalled call).signal = (tracker.signalled call).completion := by
    cases call with
    | request target => exact agree
    | tryComplete final => rfl
    | complete final => rfl
  rcases tracker.refused_or_absorbed_or_entering call with
    ⟨rejection, refused⟩ | ⟨granted, terminal⟩ | ⟨granted, moving⟩
  · rw [perform_of_refused refused, agree]
  · rw [perform_of_absorbed granted terminal, signalledAgree]
  · rw [perform_of_entering granted moving, entered_signal, entered_completion, signalledAgree]

/-- A completing call that is granted says whether it moved the tracker, unless
the clock stopped it. -/
theorem result_perform_of_granted {tracker : Tracker} {call : Call}
    (granted : tracker.refusal? call = none) (clock : κ) :
    (tracker.perform call clock).result = .ok (.ok !tracker.status.isTerminal) ∨
      (tracker.perform call clock).result = .error .clockFailure ∧
        tracker.status.isTerminal = false ∧ (Clock.read clock).1 = none := by
  cases terminal : tracker.status.isTerminal with
  | true =>
      rw [perform_of_absorbed granted terminal]
      exact .inl rfl
  | false =>
      rw [perform_of_entering granted terminal]
      cases reading : (Clock.read clock).1 with
      | none => exact .inr ⟨rfl, rfl, rfl⟩
      | some now => exact .inl rfl

end Tracker

namespace Subject

variable {κ : Type} [Clock κ]

/-- The status with which an act completes a subject, if it does so. -/
def final? (subject : Subject) (act : Act κ) : Option Status :=
  (subject.callOf act).bind Tracker.Call.final?

/-- The first completing act fixes the completion. -/
theorem completion_act {subject : Subject} {tracker : Tracker}
    (own : subject.tracker? = some tracker) (act : Act κ) (clock : κ) :
    ∃ later, (subject.perform act clock).state.tracker? = some later ∧
      later.completion = tracker.completion.or (subject.final? act) := by
  unfold final?
  rw [tracker?_perform own act clock]
  cases subject.callOf act with
  | none => exact ⟨tracker, rfl, by simp⟩
  | some call => exact ⟨_, rfl, tracker.completion_perform call clock⟩

/-- The completion after a run is the one before it, or else that of the first
act of the run that completes. -/
theorem completion_run {subject : Subject} {tracker : Tracker}
    (own : subject.tracker? = some tracker) (acts : List (Act κ)) (clock : κ) :
    ∃ later, (subject.run acts clock).state.tracker? = some later ∧
      later.completion = tracker.completion.or (acts.filterMap subject.final?).head? := by
  induction acts generalizing subject tracker clock with
  | nil => exact ⟨tracker, own, by simp⟩
  | cons act rest ih =>
      obtain ⟨next, nextOwn, nextCompletion⟩ := completion_act own act clock
      obtain ⟨later, laterOwn, laterCompletion⟩ := ih nextOwn (subject.perform act clock).clock
      have sameFinals :
          (subject.perform act clock).state.final? = subject.final? (κ := κ) := by
        funext other
        simp [final?]
      refine ⟨later, laterOwn, ?_⟩
      rw [laterCompletion, nextCompletion, sameFinals, Option.or_assoc]
      cases final : subject.final? act <;> simp [final]

/-- The first act that completes a subject records and signals its argument. -/
theorem act_of_unresolved {subject : Subject} {tracker : Tracker} {act : Act κ}
    {call : Tracker.Call} {final : Status} (own : subject.tracker? = some tracker)
    (agree : tracker.signal = tracker.completion) (unresolved : tracker.completion = none)
    (calls : subject.callOf act = some call) (completes : call.final? = some final) (clock : κ) :
    (∃ later, (subject.perform act clock).state.tracker? = some later ∧
      later.completion = some final ∧ later.signal = some final) ∧
    ((subject.perform act clock).result = .ok (.called (.ok !tracker.status.isTerminal)) ∨
      (subject.perform act clock).result = .error .clockFailure ∧
        tracker.status.isTerminal = false ∧ (Clock.read clock).1 = none) := by
  have completion := tracker.completion_perform call clock
  rw [unresolved, completes, Option.none_or] at completion
  have signal := (Tracker.signal_perform agree call clock).trans completion
  have granted := Tracker.refusal?_of_unresolved unresolved call
  constructor
  · rw [tracker?_perform own, calls]
    exact ⟨_, rfl, completion, signal⟩
  · rw [(perform_carries calls own clock).result_eq]
    rcases Tracker.result_perform_of_granted granted clock with moved | ⟨stopped, moving, failed⟩
    · left
      rw [moved]
      rfl
    · right
      rw [stopped]
      exact ⟨rfl, moving, failed⟩

/-- Every later act that would complete a subject is refused, and changes
nothing. -/
theorem act_of_resolved {subject : Subject} {tracker : Tracker} {act : Act κ}
    {call : Tracker.Call} {final existing : Status} (own : subject.tracker? = some tracker)
    (resolved : tracker.completion = some existing) (calls : subject.callOf act = some call)
    (completes : call.final? = some final) (clock : κ) :
    (subject.perform act clock).state = subject ∧
      (subject.perform act clock).result =
        (call.refused { existing, attempted := final }).map .called := by
  obtain ⟨state_eq, _, result_eq, _⟩ := perform_carries calls own clock
  have refused : tracker.refusal? call = some { existing, attempted := final } :=
    (Tracker.refusal?_eq_some_iff _ _ _).mpr ⟨completes, resolved⟩
  rw [Tracker.perform_of_refused refused] at state_eq result_eq
  exact ⟨state_eq.trans (withTracker_self own), result_eq⟩

/-- **Completion is resolved exactly once.**  Wherever a run from a new subject
has come to, its completion is the argument of the first completing act so far,
and the signal is the completion.  The first completing act records and signals
its argument, and tells whether the status was still to be left or ends in the
fault of the clock.  Every later one names both statuses in its refusal, or in
the fault with the text of the refusal, and leaves everything as it is. -/
theorem completion_resolves_once {subject : Subject} (made : subject.Made)
    (before : List (Act κ)) (clock : κ) :
    ∃ tracker, (subject.run before clock).state.tracker? = some tracker ∧
      tracker.completion = (before.filterMap subject.final?).head? ∧
      tracker.signal = tracker.completion ∧
      ∀ (act : Act κ) (call : Tracker.Call) (final : Status) (moment : κ),
        subject.callOf act = some call → call.final? = some final →
        let outcome := (subject.run before clock).state.perform act moment
        (tracker.completion = none →
          (∃ later, outcome.state.tracker? = some later ∧
            later.completion = some final ∧ later.signal = some final) ∧
          (outcome.result = .ok (.called (.ok !tracker.status.isTerminal)) ∨
            outcome.result = .error .clockFailure ∧ tracker.status.isTerminal = false ∧
              (Clock.read moment).1 = none)) ∧
        ∀ existing, tracker.completion = some existing →
          let rejection : Rejection := { existing, attempted := final }
          outcome.state = (subject.run before clock).state ∧
          (call = .tryComplete final → outcome.result = .ok (.called (.error rejection))) ∧
          (call = .complete final →
            outcome.result = .error (.secondCompletion rejection) ∧
              (Fault.secondCompletion rejection).message =
                (Violation.alreadyCompleted rejection).message) := by
  obtain ⟨now, own⟩ := made.tracker?_eq
  obtain ⟨tracker, reached, completion_eq⟩ := completion_run own before clock
  obtain ⟨same, sameReached, agree⟩ :=
    run_invariant (P := fun tracker => tracker.signal = tracker.completion)
      (fun _ call moment agree => Tracker.signal_perform agree call moment) own rfl before clock
  obtain rfl : tracker = same := Option.some.inj (reached.symm.trans sameReached)
  refine ⟨tracker, reached, completion_eq, agree, ?_⟩
  intro act call final moment calls completes
  have laterCalls : (subject.run before clock).state.callOf act = some call := by
    rw [callOf_run, calls]
  constructor
  · intro unresolved
    exact act_of_unresolved reached agree unresolved laterCalls completes moment
  · intro existing resolved rejection
    obtain ⟨state_eq, result_eq⟩ := act_of_resolved reached resolved laterCalls completes moment
    constructor
    · exact state_eq
    · constructor
      · rintro rfl
        exact result_eq
      · rintro rfl
        exact ⟨result_eq, rfl⟩

/-- A job is terminated while its clock fails: its completion is resolved all
the same, and a second one is refused by name. -/
theorem completion_resolves_once_despite_fault :
    let owner : Job :=
      { id := ⟨"job-1"⟩, name := "word-count", kind := .batch, tracker := .started 100
        registry := .empty }
    let before : List (Act ManualClock) :=
      [.drive .run, .elapse ManualClock.failNext, .drive (.terminate .finished)]
    let second : Act ManualClock := .track (.tryComplete .failed)
    let reached := (job owner).run before (.starting 100)
    (job owner).Made ∧ (job owner).callOf second = some (.tryComplete .failed) ∧
      ∃ tracker, reached.state.tracker? = some tracker ∧
        tracker.completion = some .finished ∧ tracker.signal = some .finished ∧
        (reached.state.perform second reached.clock).state = reached.state ∧
        (reached.state.perform second reached.clock).result =
          .ok (.called (.error { existing := .finished, attempted := .failed })) := by
  intro owner before second reached
  have made : (job owner).Made :=
    @Made.job ManualClock _ ⟨"word-count", .batch⟩ ⟨"job-1"⟩ (.starting 100) owner rfl
  obtain ⟨tracker, own, completion, signal, acts⟩ :=
    completion_resolves_once made before (.starting 100)
  have later := (acts second (.tryComplete .failed) .failed reached.clock rfl rfl).2 .finished
    completion
  exact ⟨made, rfl, tracker, own, completion, signal.trans completion, later.1, later.2.1 rfl⟩

end Subject

end JobLedger
