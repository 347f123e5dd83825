import JobLedger.Proofs.Subject.Run

/-!
# Status and stamps

A status is shown together with the stamps of all statuses entered.  The two
cohere if the status itself is stamped, and if the stamps speak of a terminal
status exactly when the job is in one, and then of that one only.

The status is changed before the clock is read, so a clock that fails leaves a
status without a stamp.  The main statement says that this is the only way to
lose coherence: status and stamps cohere exactly when the present status is the
initial one or was entered at least once with a reading that succeeded.
-/

namespace JobLedger

namespace Stamps

/-- Whether a status has a stamp. -/
def has (stamps : Stamps) (status : Status) : Bool :=
  (stamps.get? status).isSome

theorem has_insert (stamps : Stamps) (status other : Status) (time : Int64) :
    (stamps.insert status time).has other = true ↔ stamps.has other = true ∨ other = status := by
  unfold has
  rw [get?_insert]
  by_cases same : other = status <;> simp [same]

end Stamps

/-- The status, the terminal flag and the stamps that are shown together do not
contradict one another. -/
structure Coherent (status : Status) (terminal : Bool) (stamps : Stamps) : Prop where
  current : stamps.has status = true
  terminal_iff : terminal = true ↔
    ∃ ended : Status, ended.isTerminal = true ∧ stamps.has ended = true
  ended_eq : ∀ ended : Status, ended.isTerminal = true → stamps.has ended = true → ended = status

namespace Tracker

variable {κ : Type} [Clock κ]

/-- The terminal statuses that are stamped are the present one at most. -/
def EndsWhereStamped (tracker : Tracker) : Prop :=
  ∀ ended : Status, ended.isTerminal = true → tracker.enteredAt.has ended = true →
    ended = tracker.status

/-- With that, only the present status may lack a stamp. -/
theorem EndsWhereStamped.coherent_iff {tracker : Tracker} (ends : tracker.EndsWhereStamped) :
    Coherent tracker.status tracker.status.isTerminal tracker.enteredAt ↔
      tracker.enteredAt.has tracker.status = true := by
  constructor
  · exact Coherent.current
  · intro current
    constructor
    · exact current
    · constructor
      · intro terminal
        exact ⟨tracker.status, terminal, current⟩
      · rintro ⟨ended, terminal, stamped⟩
        exact ends ended terminal stamped ▸ terminal
    · exact ends

/-- A call adds a stamp of what it enters, if the clock does not fail. -/
theorem has_perform (tracker : Tracker) (call : Call) (clock : κ) (status : Status) :
    (tracker.perform call clock).state.enteredAt.has status = true ↔
      tracker.enteredAt.has status = true ∨ status ∈ (tracker.perform call clock).stamped := by
  rcases tracker.refused_or_absorbed_or_entering call with
    ⟨rejection, refused⟩ | ⟨granted, terminal⟩ | ⟨granted, moving⟩
  · rw [perform_of_refused refused]
    cases call <;> simp [Outcome.stamped, Outcome.entered, Call.refused]
  · rw [perform_of_absorbed granted terminal]
    simp [Outcome.stamped, Outcome.entered, Event.entered?]
  · rw [perform_of_entering granted moving]
    cases (Clock.read clock).1 with
    | none => simp [Outcome.stamped, entryResult, entered]
    | some now =>
        simp [Outcome.stamped, Outcome.entered, Event.entered?, entryResult, entered,
          Stamps.has_insert]

/-- No call stamps a terminal status that the tracker is not in. -/
theorem EndsWhereStamped.perform {tracker : Tracker} (ends : tracker.EndsWhereStamped)
    (call : Call) (clock : κ) : (tracker.perform call clock).state.EndsWhereStamped := by
  intro ended terminal stamped
  rcases tracker.refused_or_absorbed_or_entering call with
    ⟨rejection, refused⟩ | ⟨granted, absorbed⟩ | ⟨granted, moving⟩
  · rw [perform_of_refused refused] at stamped ⊢
    exact ends ended terminal stamped
  · rw [perform_of_absorbed granted absorbed, signalled_enteredAt] at stamped
    rw [perform_of_absorbed granted absorbed, signalled_status]
    exact ends ended terminal stamped
  · rw [perform_of_entering granted moving] at stamped ⊢
    -- The tracker was in no terminal status, so none was stamped before.
    have unstamped : ¬ tracker.enteredAt.has ended = true := by
      intro earlier
      rw [ends ended terminal earlier, moving] at terminal
      contradiction
    rw [entered_status]
    cases reading : (Clock.read clock).1 with
    | none =>
        simp only [reading, entered, signalled_enteredAt] at stamped
        contradiction
    | some now =>
        simp only [reading, entered, signalled_enteredAt, Stamps.has_insert] at stamped
        exact stamped.resolve_left unstamped

/-- Whatever is entered is stamped, unless the clock fails. -/
theorem stamped_perform {tracker : Tracker} {call : Call} {clock : κ}
    (unstopped : (tracker.perform call clock).result ≠ .error .clockFailure) :
    (tracker.perform call clock).stamped = (tracker.perform call clock).entered := by
  rcases tracker.refused_or_absorbed_or_entering call with
    ⟨rejection, refused⟩ | ⟨granted, terminal⟩ | ⟨granted, moving⟩
  · rw [perform_of_refused refused]
    cases call <;> rfl
  · rw [perform_of_absorbed granted terminal]
    rfl
  · rw [perform_of_entering granted moving] at unstopped ⊢
    cases reading : (Clock.read clock).1 with
    | none =>
        rw [reading] at unstopped
        exact absurd rfl unstopped
    | some now => rfl

/-- After a call the tracker is where it was, or where the call led it. -/
theorem status_perform (tracker : Tracker) (call : Call) (clock : κ) :
    (tracker.perform call clock).state.status = tracker.status ∨
      (tracker.perform call clock).state.status ∈ (tracker.perform call clock).entered := by
  rcases tracker.refused_or_absorbed_or_entering call with
    ⟨rejection, refused⟩ | ⟨granted, terminal⟩ | ⟨granted, moving⟩
  · rw [perform_of_refused refused]
    exact .inl rfl
  · rw [perform_of_absorbed granted terminal]
    exact .inl (signalled_status tracker call)
  · right
    rw [perform_of_entering granted moving, entered_status]
    simp [Outcome.entered, Event.entered?]

/-- A started tracker has the one stamp of the initial status. -/
theorem has_started (now : Int64) (status : Status) :
    (started now).enteredAt.has status = true ↔ status = .initial := by
  rw [started, Stamps.has_insert]
  simp [Stamps.has]

end Tracker

namespace Subject

variable {κ : Type} [Clock κ]

/-- What an act does to the status and to the stamps. -/
theorem shown_act {subject : Subject} {tracker : Tracker}
    (own : subject.tracker? = some tracker) (act : Act κ) (clock : κ) :
    ∃ later, (subject.perform act clock).state.tracker? = some later ∧
      (∀ status, later.enteredAt.has status = true ↔
        tracker.enteredAt.has status = true ∨ status ∈ (subject.perform act clock).stamped) ∧
      (later.status = tracker.status ∨
        later.status ∈ (subject.perform act clock).entered) := by
  rw [tracker?_perform own, stamped_perform own, entered_perform own]
  cases subject.callOf act with
  | none => exact ⟨tracker, rfl, by simp, .inl rfl⟩
  | some call =>
      exact ⟨_, rfl, tracker.has_perform call clock, tracker.status_perform call clock⟩

/-- What a run does to the status and to the stamps. -/
theorem shown_run {subject : Subject} {tracker : Tracker}
    (own : subject.tracker? = some tracker) (acts : List (Act κ)) (clock : κ) :
    ∃ later, (subject.run acts clock).state.tracker? = some later ∧
      (∀ status, later.enteredAt.has status = true ↔
        tracker.enteredAt.has status = true ∨ status ∈ (subject.run acts clock).stamped) ∧
      (later.status = tracker.status ∨ later.status ∈ (subject.run acts clock).entered) := by
  induction acts generalizing subject tracker clock with
  | nil => exact ⟨tracker, own, by simp [run, Run.stamped], .inl rfl⟩
  | cons act rest ih =>
      obtain ⟨next, nextOwn, nextStamps, nextStatus⟩ := shown_act own act clock
      obtain ⟨later, laterOwn, laterStamps, laterStatus⟩ :=
        ih nextOwn (subject.perform act clock).clock
      refine ⟨later, laterOwn, ?_, ?_⟩
      · intro status
        rw [laterStamps, nextStamps, stamped_run_cons, List.mem_append, or_assoc]
      · rw [entered_run_cons, List.mem_append]
        rcases laterStatus with same | there
        · rw [same]
          exact nextStatus.imp_right .inl
        · exact .inr (.inr there)

/-- An act stamps what it enters, unless the clock fails. -/
theorem stamped_act {subject : Subject} {tracker : Tracker}
    (own : subject.tracker? = some tracker) {act : Act κ} {clock : κ}
    (unstopped : (subject.perform act clock).result ≠ .error .clockFailure) :
    (subject.perform act clock).stamped = (subject.perform act clock).entered := by
  rw [stamped_perform own, entered_perform own]
  cases calls : subject.callOf act with
  | none => rfl
  | some call =>
      apply Tracker.stamped_perform
      intro stopped
      rw [(perform_carries calls own clock).result_eq, stopped] at unstopped
      exact unstopped rfl

/-- A run stamps what it enters, if the clock never fails. -/
theorem stamped_run {subject : Subject} {tracker : Tracker}
    (own : subject.tracker? = some tracker) {acts : List (Act κ)} {clock : κ}
    (unstopped : ∀ outcome ∈ (subject.run acts clock).trace,
      outcome.result ≠ .error .clockFailure) :
    (subject.run acts clock).stamped = (subject.run acts clock).entered := by
  induction acts generalizing subject tracker clock with
  | nil => rfl
  | cons act rest ih =>
      obtain ⟨next, nextOwn, _⟩ := shown_act own act clock
      rw [stamped_run_cons, entered_run_cons,
        stamped_act own (unstopped _ List.mem_cons_self),
        ih nextOwn fun outcome member => unstopped outcome (List.mem_cons_of_mem _ member)]

/-- **When status and stamps cohere.**  In every state of a run from a new
subject, a terminal status that is stamped is the present one; and status,
terminal flag and stamps cohere exactly when the present status is the initial
one or was entered at least once with a reading of the clock that succeeded.
So they cohere throughout a run in which no reading fails.  The report on a job
shows this status, this flag and these stamps. -/
theorem coherent_iff_stamped {subject : Subject} (made : subject.Made) (acts : List (Act κ))
    (clock : κ) :
    ∃ tracker, (subject.run acts clock).state.tracker? = some tracker ∧
      (∀ ended : Status, ended.isTerminal = true → tracker.enteredAt.has ended = true →
        ended = tracker.status) ∧
      (Coherent tracker.status tracker.status.isTerminal tracker.enteredAt ↔
        tracker.status = .initial ∨ tracker.status ∈ (subject.run acts clock).stamped) ∧
      ((∀ outcome ∈ (subject.run acts clock).trace, outcome.result ≠ .error .clockFailure) →
        Coherent tracker.status tracker.status.isTerminal tracker.enteredAt) ∧
      ∀ owner, (subject.run acts clock).state = job owner →
        owner.report.status = tracker.status ∧
          owner.report.terminal = tracker.status.isTerminal ∧
          owner.report.stamps = tracker.enteredAt := by
  obtain ⟨now, own⟩ := made.tracker?_eq
  obtain ⟨tracker, reached, stamps, status⟩ := shown_run own acts clock
  have startEnds : (Tracker.started now).EndsWhereStamped := by
    intro ended _ stamped
    exact (Tracker.has_started now ended).mp stamped
  obtain ⟨same, sameReached, ends⟩ :=
    run_invariant (fun _ call moment ends => ends.perform call moment) own startEnds acts clock
  obtain rfl : tracker = same := Option.some.inj (reached.symm.trans sameReached)
  have exact_iff : Coherent tracker.status tracker.status.isTerminal tracker.enteredAt ↔
      tracker.status = .initial ∨ tracker.status ∈ (subject.run acts clock).stamped := by
    rw [ends.coherent_iff, stamps, Tracker.has_started]
  refine ⟨tracker, reached, ends, exact_iff, ?_, ?_⟩
  · intro unstopped
    rw [exact_iff, stamped_run own unstopped]
    exact status
  · intro owner state_eq
    rw [state_eq] at reached
    cases reached
    exact ⟨rfl, rfl, rfl⟩

/-- A job enters a status again while its clock fails: the older stamp keeps
status and stamps coherent. -/
theorem coherent_after_stopped_reentry :
    let owner : Job :=
      { id := ⟨"job-1"⟩, name := "word-count", kind := .batch, tracker := .started 100
        registry := .empty }
    let acts : List (Act ManualClock) :=
      [.drive .run, .elapse ManualClock.failNext, .drive .run]
    (job owner).Made ∧ ∃ tracker,
      ((job owner).run acts (.starting 100)).state.tracker? = some tracker ∧
        tracker.status = .running ∧
        Coherent tracker.status tracker.status.isTerminal tracker.enteredAt := by
  intro owner acts
  have made : (job owner).Made :=
    @Made.job ManualClock _ ⟨"word-count", .batch⟩ ⟨"job-1"⟩ (.starting 100) owner rfl
  obtain ⟨tracker, reached, _, coherent_iff, _⟩ := coherent_iff_stamped made acts (.starting 100)
  have status_eq : tracker.status = .running :=
    (Option.some.inj (congrArg (Option.map Tracker.status) reached)).symm
  have stamped_eq : ((job owner).run acts (.starting 100)).stamped = [.running] := rfl
  refine ⟨made, tracker, reached, status_eq, coherent_iff.mpr (.inr ?_)⟩
  rw [stamped_eq, status_eq]
  exact List.mem_singleton_self _

/-- Not every state that a run reaches is coherent: if the clock fails while a
status is entered for the first time, that status is shown without a stamp. -/
theorem incoherent_after_failed_reading :
    let acts : List (Act ManualClock) :=
      [.elapse ManualClock.failNext, .track (.request .finished)]
    (tracker (.started 0)).Made ∧ ∃ reached,
      ((tracker (.started 0)).run acts (.starting 0)).state.tracker? = some reached ∧
        ¬ Coherent reached.status reached.status.isTerminal reached.enteredAt := by
  intro acts
  refine ⟨@Made.tracker ManualClock _ (.starting 0) _ rfl, _, rfl, ?_⟩
  intro coherent
  have stamped := (Tracker.has_started 0 .finished).mp coherent.current
  contradiction

end Subject

end JobLedger
