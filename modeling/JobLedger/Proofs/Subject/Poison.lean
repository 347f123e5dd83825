import JobLedger.Proofs.Subject.Absorption

/-!
# Faults do not wedge a subject

The tracker of a subject is behind a lock.  Who is stopped by a fault while the
lock is held leaves it poisoned, and from then on the lock says so to everybody
who takes it, but still hands over what it guards.  The tracker goes on with
that, for it keeps its state fit for use at every statement.

A lock that is never looked at for poison might as well not be there, so a
subject behind a lock is shown to do what the bare subject does.  What is left
is to say which calls are stopped, and by which fault.
-/

namespace JobLedger

/-! ## Locks that can be poisoned -/

/-- A lock with what it guards.  It is poisoned once a holder was stopped. -/
structure Lock (σ : Type) where
  content : σ
  poisoned : Bool

namespace Lock

variable {σ κ α : Type}

/-- Takes a lock.  If it is poisoned, that is an error; the content is handed
over either way. -/
def take (lock : Lock σ) : Except σ σ :=
  if lock.poisoned then .error lock.content else .ok lock.content

/-- Goes on with the content, whether or not the lock was poisoned. -/
def recover : Except σ σ → σ
  | .ok content | .error content => content

/-- Lets go of a lock after an operation on its content. -/
def release (lock : Lock σ) (outcome : Outcome σ κ α) : Lock σ :=
  { content := outcome.state, poisoned := lock.poisoned || !outcome.result.isOk }

@[simp]
theorem recover_take (lock : Lock σ) : recover lock.take = lock.content := by
  unfold take
  split <;> rfl

end Lock

/-! ## Calls of a tracker -/

namespace Tracker

namespace Call

/-- What a call does while it holds the lock.  To complete a job for the second
time is made a fault only after the lock is let go. -/
def underLock : Call → Call
  | complete final => tryComplete final
  | call => call

/-- How a call ends, from how it ended under the lock. -/
def conclude : Call → Except Fault Answer → Except Fault Answer
  | complete _, .ok (.error rejection) => .error (.secondCompletion rejection)
  | _, result => result

end Call

/-- A call is applied if it makes the tracker enter its target: the status is
to be left, and the call is a request or a first completion. -/
def Applies (tracker : Tracker) (call : Call) : Prop :=
  tracker.status.isTerminal = false ∧ (call.final? = none ∨ tracker.completion = none)

theorem applies_iff (tracker : Tracker) (call : Call) :
    tracker.Applies call ↔ tracker.refusal? call = none ∧ tracker.status.isTerminal = false := by
  constructor
  · rintro ⟨moving, possible⟩
    exact ⟨refusal?_eq_none possible, moving⟩
  · rintro ⟨granted, moving⟩
    refine ⟨moving, ?_⟩
    cases completes : call.final? with
    | none => exact .inl rfl
    | some final => exact .inr (completion_eq_none_of_granted granted completes)

variable {κ : Type} [Clock κ]

/-- A call ends as its part under the lock does, but for a second completion. -/
theorem perform_underLock (tracker : Tracker) (call : Call) (clock : κ) :
    tracker.perform call clock =
      let held := tracker.perform call.underLock clock
      { held with result := call.conclude held.result } := by
  cases call with
  | request target => rfl
  | tryComplete final => rfl
  | complete final =>
      simp only [perform, Call.underLock, Call.conclude, complete, Outcome.map]
      generalize tracker.tryComplete final clock = held
      obtain ⟨result, state, next, log⟩ := held
      rcases result with fault | rejection | applied <;> rfl

/-- A call ends in a fault in two cases: it was to complete the job once and is
the second to complete it, or it is applied and the clock fails. -/
theorem result_perform_eq_error_iff (tracker : Tracker) (call : Call) (clock : κ)
    (fault : Fault) :
    (tracker.perform call clock).result = .error fault ↔
      (∃ final existing, call = .complete final ∧ tracker.completion = some existing ∧
        fault = .secondCompletion { existing, attempted := final }) ∨
      tracker.Applies call ∧ (Clock.read clock).1 = none ∧ fault = .clockFailure := by
  rw [applies_iff]
  -- A call that is not refused is no second completion.
  have notSecond (granted : tracker.refusal? call = none) {final existing : Status}
      (second : call = .complete final) (resolved : tracker.completion = some existing) :
      False := by
    have completes : call.final? = some final := by rw [second]; rfl
    rw [completion_eq_none_of_granted granted completes] at resolved
    contradiction
  rcases tracker.refused_or_absorbed_or_entering call with
    ⟨rejection, refused⟩ | ⟨granted, terminal⟩ | ⟨granted, moving⟩
  · obtain ⟨completes, resolved⟩ := (refusal?_eq_some_iff _ _ _).mp refused
    rw [perform_of_refused refused, refused, resolved]
    cases call with
    | request target => cases completes
    | tryComplete final => simp [Call.refused]
    | complete final =>
        cases completes
        constructor
        · intro stopped
          cases stopped
          exact .inl ⟨_, _, rfl, rfl, rfl⟩
        · rintro (⟨final, existing, same, found, rfl⟩ | ⟨⟨granted, _⟩, _⟩)
          · cases same
            cases found
            rfl
          · cases granted
  · rw [perform_of_absorbed granted terminal, terminal]
    constructor
    · intro stopped
      cases stopped
    · rintro (⟨final, existing, second, resolved, _⟩ | ⟨⟨_, moving⟩, _⟩)
      · exact (notSecond granted second resolved).elim
      · cases moving
  · rw [perform_of_entering granted moving]
    constructor
    · intro stopped
      cases reading : (Clock.read clock).1 with
      | none =>
          rw [reading] at stopped
          cases stopped
          exact .inr ⟨⟨granted, moving⟩, rfl, rfl⟩
      | some now =>
          rw [reading] at stopped
          cases stopped
    · rintro (⟨final, existing, second, resolved, _⟩ | ⟨_, failed, rfl⟩)
      · exact (notSecond granted second resolved).elim
      · rw [failed]
        rfl

/-- A call that is applied reads the clock once. -/
theorem clock_perform_of_applies {tracker : Tracker} {call : Call}
    (applies : tracker.Applies call) (clock : κ) :
    (tracker.perform call clock).clock = (Clock.read clock).2 := by
  obtain ⟨granted, moving⟩ := (applies_iff _ _).mp applies
  rw [perform_of_entering granted moving]

/-- A call that is not applied leaves the clock alone. -/
theorem clock_perform_of_not_applies {tracker : Tracker} {call : Call}
    (idle : ¬tracker.Applies call) (clock : κ) :
    (tracker.perform call clock).clock = clock := by
  rcases tracker.refused_or_absorbed_or_entering call with
    ⟨rejection, refused⟩ | ⟨granted, terminal⟩ | entering
  · rw [perform_of_refused refused]
  · rw [perform_of_absorbed granted terminal]
  · exact absurd ((applies_iff _ _).mpr entering) idle

/-- The only fault that stops a call under the lock is that of the clock. -/
theorem isOk_underLock_iff (tracker : Tracker) (call : Call) (clock : κ) :
    (tracker.perform call.underLock clock).result.isOk = false ↔
      (tracker.perform call clock).result = .error .clockFailure := by
  have concluded : (tracker.perform call clock).result =
      call.conclude (tracker.perform call.underLock clock).result :=
    congrArg Outcome.result (tracker.perform_underLock call clock)
  have clockOnly : ∀ fault, (tracker.perform call.underLock clock).result = .error fault →
      fault = .clockFailure := by
    intro fault stopped
    rcases (tracker.result_perform_eq_error_iff _ clock fault).mp stopped with
      ⟨final, existing, second, _⟩ | ⟨_, _, failure⟩
    · cases call <;> cases second
    · exact failure
  rw [concluded]
  generalize (tracker.perform call.underLock clock).result = held at clockOnly
  rcases held with fault | rejection | applied
  · obtain rfl := clockOnly fault rfl
    cases call <;> simp [Except.isOk, Except.toBool, Call.conclude]
  · cases call <;> simp [Except.isOk, Except.toBool, Call.conclude]
  · cases call <;> simp [Except.isOk, Except.toBool, Call.conclude]

end Tracker

namespace Lock

variable {κ : Type} [Clock κ]

/-- Carries out a call on the tracker behind a lock. -/
def perform (lock : Lock Tracker) (call : Tracker.Call) (clock : κ) :
    Outcome (Lock Tracker) κ Tracker.Answer :=
  let held := (recover lock.take).perform call.underLock clock
  { result := call.conclude held.result
    state := lock.release held
    clock := held.clock
    log := held.log }

/-- A lock is poisoned by calls that the clock stops, and by no others. -/
theorem poisoned_perform_iff (lock : Lock Tracker) (call : Tracker.Call) (clock : κ) :
    (lock.perform call clock).state.poisoned = true ↔
      lock.poisoned = true ∨
        (lock.content.perform call clock).result = .error .clockFailure := by
  rw [← Tracker.isOk_underLock_iff]
  simp [perform, release]

end Lock

/-! ## Waits -/

/-- A wait fails if it is a hook and its action does, and not otherwise. -/
theorem Wait.eq_hook_of_failed {wait : Wait} {signal : Option Status} {cancelled : Bool}
    {final : Status} {fault : Fault} {log : List Event}
    (failed : wait.poll signal cancelled = some (.failed final fault, log)) :
    ∃ job text, wait = .hook job (some text) ∧ fault = .hookFailure text := by
  unfold poll at failed
  split at failed
  · next completed heeds =>
    cases wait with
    | completion => cases failed
    | completionOrCancel => cases failed
    | cancel => cases failed
    | hook job failure =>
        cases failure with
        | none => cases failed
        | some text =>
            cases failed
            exact ⟨job, text, rfl, rfl⟩
  · split at failed
    · cases wait <;> cases failed
    · cases failed

/-! ## Subjects behind a lock -/

namespace Subject

variable {κ : Type} [Clock κ]

omit [Clock κ] in
/-- No act reaches a tracker that is not there. -/
theorem callOf_eq_none {subject : Subject} (absent : subject.tracker? = none) (act : Act κ) :
    subject.callOf act = none := by
  cases subject with
  | registry registry => rfl
  | tracker own => cases absent
  | job owner => cases absent

/-- An act that does not reach the tracker is answered, and leaves the clock
alone unless it is a change of the clock itself. -/
theorem answer_of_callOf_eq_none {subject : Subject} {act : Act κ}
    (silent : subject.callOf act = none) (clock : κ) :
    (∃ reply, (subject.perform act clock).result = .ok (.told reply)) ∧
      ((∀ change, act ≠ .elapse change) → (subject.perform act clock).clock = clock) := by
  cases act with
  | track call => cases subject <;> first | contradiction | exact ⟨⟨_, rfl⟩, fun _ => rfl⟩
  | drive call => cases subject <;> first | contradiction | exact ⟨⟨_, rfl⟩, fun _ => rfl⟩
  | register attempt => cases subject <;> exact ⟨⟨_, rfl⟩, fun _ => rfl⟩
  | ask question => exact ⟨⟨_, rfl⟩, fun _ => rfl⟩
  | elapse change => exact ⟨⟨_, rfl⟩, fun still => absurd rfl (still change)⟩

/-- An act ends in a fault exactly if the call with which it reaches the
tracker does. -/
theorem result_perform_eq_error_iff {subject : Subject} {tracker : Tracker}
    (own : subject.tracker? = some tracker) (act : Act κ) (clock : κ) (fault : Fault) :
    (subject.perform act clock).result = .error fault ↔
      ∃ call, subject.callOf act = some call ∧
        (tracker.perform call clock).result = .error fault := by
  cases calls : subject.callOf act with
  | none =>
      obtain ⟨⟨reply, told⟩, _⟩ := answer_of_callOf_eq_none calls clock
      simp [told]
  | some call =>
      rw [(perform_carries calls own clock).result_eq]
      cases result : (tracker.perform call clock).result <;> simp [Except.map, result]

end Subject

/-- A subject of which the tracker is behind a lock. -/
structure Guarded where
  subject : Subject
  /-- Whether the lock is poisoned. -/
  poisoned : Bool

namespace Guarded

open Subject (Act Answer)

/-- A subject behind a lock of which no holder was stopped. -/
def sound (subject : Subject) : Guarded := ⟨subject, false⟩

@[simp]
theorem poisoned_sound (subject : Subject) : (sound subject).poisoned = false := rfl

/-- The lock, if there is a tracker behind it. -/
def lock? (guarded : Guarded) : Option (Lock Tracker) :=
  guarded.subject.tracker?.map fun tracker => ⟨tracker, guarded.poisoned⟩

/-- The subject with the tracker that the lock hands over. -/
def opened (guarded : Guarded) : Subject :=
  match guarded.lock? with
  | some lock => guarded.subject.withTracker (Lock.recover lock.take)
  | none => guarded.subject

variable {κ : Type} [Clock κ]

/-- Whether the lock is poisoned after an act. -/
def poisonedAfter (guarded : Guarded) (act : Act κ) (clock : κ) : Bool :=
  match guarded.lock?, guarded.opened.callOf act with
  | some lock, some call => (lock.perform call clock).state.poisoned
  | _, _ => guarded.poisoned

/-- Carries an act out. -/
def perform (guarded : Guarded) (act : Act κ) (clock : κ) : Outcome Guarded κ Answer :=
  (guarded.opened.perform act clock).within fun subject =>
    { subject, poisoned := guarded.poisonedAfter act clock }

/-- What acts carried out one after another leave. -/
structure Run (κ : Type) where
  trace : List (Outcome Guarded κ Answer)
  state : Guarded
  clock : κ

/-- Carries acts out one after another. -/
def run (guarded : Guarded) : List (Act κ) → κ → Run κ
  | [], clock => { trace := [], state := guarded, clock }
  | act :: rest, clock =>
    let outcome := guarded.perform act clock
    let later := outcome.state.run rest outcome.clock
    { later with trace := outcome :: later.trace }

omit [Clock κ] in
/-- A run with the locks left out. -/
def Run.bare (run : Run κ) : Subject.Run κ :=
  { trace := run.trace.map (Outcome.within · subject)
    state := run.state.subject
    clock := run.clock }

/-- Behind its lock there is the subject itself, poisoned or not. -/
@[simp]
theorem opened_eq (guarded : Guarded) : guarded.opened = guarded.subject := by
  unfold opened lock?
  cases own : guarded.subject.tracker? with
  | none => rfl
  | some tracker => simp [Subject.withTracker_self own]

/-- The lock makes no difference to what an act does. -/
theorem bare_perform (guarded : Guarded) (act : Act κ) (clock : κ) :
    (guarded.perform act clock).within subject = guarded.subject.perform act clock := by
  rw [perform, opened_eq]
  rfl

/-- The lock makes no difference to what a run does. -/
theorem bare_run (guarded : Guarded) (acts : List (Act κ)) (clock : κ) :
    (guarded.run acts clock).bare = guarded.subject.run acts clock := by
  induction acts generalizing guarded clock with
  | nil => rfl
  | cons act rest ih =>
      have first := guarded.bare_perform act clock
      have later := ih (guarded.perform act clock).state (guarded.perform act clock).clock
      simp only [Run.bare, run, Subject.run, List.map_cons] at later ⊢
      rw [← first]
      simp only [Outcome.within] at later ⊢
      rw [← later]

/-- The lock is poisoned by acts that the clock stops, and by no others. -/
theorem poisoned_perform_iff (guarded : Guarded) (act : Act κ) (clock : κ) :
    (guarded.perform act clock).state.poisoned = true ↔
      guarded.poisoned = true ∨ (guarded.perform act clock).result = .error .clockFailure := by
  have result_eq : (guarded.perform act clock).result =
      (guarded.subject.perform act clock).result :=
    congrArg Outcome.result (guarded.bare_perform act clock)
  have state_eq : (guarded.perform act clock).state.poisoned = guarded.poisonedAfter act clock :=
    rfl
  rw [result_eq, state_eq, poisonedAfter, lock?, opened_eq]
  cases own : guarded.subject.tracker? with
  | none =>
      have silent := Subject.callOf_eq_none own act
      obtain ⟨⟨reply, told⟩, _⟩ := Subject.answer_of_callOf_eq_none silent clock
      simp [told]
  | some tracker =>
      rw [Subject.result_perform_eq_error_iff own]
      cases calls : guarded.subject.callOf act with
      | none => simp
      | some call => simp [Lock.poisoned_perform_iff]

/-- After a run the lock is poisoned if it was so before, or if the clock stopped
an act of the run. -/
theorem poisoned_run_iff (guarded : Guarded) (acts : List (Act κ)) (clock : κ) :
    (guarded.run acts clock).state.poisoned = true ↔
      guarded.poisoned = true ∨
        ∃ outcome ∈ (guarded.run acts clock).trace, outcome.result = .error .clockFailure := by
  induction acts generalizing guarded clock with
  | nil => simp [run]
  | cons act rest ih => simp [run, ih, poisoned_perform_iff, or_assoc]

/-- **Faults are the documented ones, and wedge nothing.**  Take a new subject
behind a lock and run it to any point, faults of the clock included.  The run is
that of the bare subject, and the lock is poisoned exactly if the clock stopped
an act.  An act then ends in a fault exactly if it completes, for a caller that
does so once only, a job that was completed before, or if it is applied and the
clock fails.  An act that is applied reads the clock once, and any other does
not read it.  A wait fails by the action of its own hook alone.  And whatever is
done from here on, it goes as it would with a lock that was never poisoned. -/
theorem faults_never_wedge {subject : Subject} (made : subject.Made) (before : List (Act κ))
    (clock : κ) :
    let reached := (sound subject).run before clock
    reached.bare = subject.run before clock ∧
    (reached.state.poisoned = true ↔
      ∃ outcome ∈ reached.trace, outcome.result = .error .clockFailure) ∧
    ∃ tracker, reached.state.subject.tracker? = some tracker ∧
      (∀ (act : Act κ) (moment : κ),
        let outcome := reached.state.perform act moment
        (∀ fault, outcome.result = .error fault ↔
          ∃ call, subject.callOf act = some call ∧
            ((∃ final existing, call = .complete final ∧ tracker.completion = some existing ∧
              fault = .secondCompletion { existing, attempted := final }) ∨
            tracker.Applies call ∧ (Clock.read moment).1 = none ∧ fault = .clockFailure)) ∧
        (∀ call, subject.callOf act = some call → tracker.Applies call →
          outcome.clock = (Clock.read moment).2) ∧
        ((∀ change, act ≠ .elapse change) →
          (∀ call, subject.callOf act = some call → ¬tracker.Applies call) →
          outcome.clock = moment)) ∧
      (∀ (wait : Wait) (cancelled : Bool) (final : Status) (fault : Fault) (log : List Event),
        wait.poll tracker.signal cancelled = some (.failed final fault, log) →
        ∃ job text, wait = .hook job (some text) ∧ fault = .hookFailure text) ∧
      ∀ (after : List (Act κ)) (moment : κ),
        (reached.state.run after moment).bare =
          ((sound reached.state.subject).run after moment).bare := by
  intro reached
  have bare : reached.bare = subject.run before clock := bare_run (sound subject) before clock
  have state_eq : reached.state.subject = (subject.run before clock).state :=
    congrArg Subject.Run.state bare
  obtain ⟨now, own⟩ := made.tracker?_eq
  obtain ⟨tracker, reachedOwn, _⟩ :=
    Subject.run_invariant (P := fun _ => True) (fun _ _ _ _ => trivial) own trivial before clock
  rw [← state_eq] at reachedOwn
  have callOf_eq (act : Act κ) : reached.state.subject.callOf act = subject.callOf act := by
    rw [state_eq, Subject.callOf_run]
  refine ⟨bare, ?_, tracker, reachedOwn, ?_, ?_, ?_⟩
  · simpa using poisoned_run_iff (sound subject) before clock
  · intro act moment outcome
    have bareOutcome := reached.state.bare_perform act moment
    have result_eq : outcome.result = (reached.state.subject.perform act moment).result :=
      congrArg Outcome.result bareOutcome
    have clock_eq : outcome.clock = (reached.state.subject.perform act moment).clock :=
      congrArg Outcome.clock bareOutcome
    refine ⟨?_, ?_, ?_⟩
    · intro fault
      rw [result_eq, Subject.result_perform_eq_error_iff reachedOwn, callOf_eq]
      simp only [Tracker.result_perform_eq_error_iff]
    · intro call calls applies
      have carries := Subject.perform_carries ((callOf_eq act).trans calls) reachedOwn moment
      rw [clock_eq, carries.clock_eq, Tracker.clock_perform_of_applies applies]
    · intro still idle
      cases calls : subject.callOf act with
      | none =>
          rw [clock_eq]
          exact (Subject.answer_of_callOf_eq_none ((callOf_eq act).trans calls) moment).2 still
      | some call =>
          have carries := Subject.perform_carries ((callOf_eq act).trans calls) reachedOwn moment
          rw [clock_eq, carries.clock_eq, Tracker.clock_perform_of_not_applies (idle call calls)]
  · intro wait cancelled final fault log failed
    exact Wait.eq_hook_of_failed failed
  · intro after moment
    rw [bare_run, bare_run]
    rfl

/-- The clock fails while a running job is suspended, which poisons the lock.  A
late completion goes through, a second one is a fault, and the clock, made to
fail once more, is not read by it or by a cancel that is absorbed. -/
theorem faults_never_wedge_after_suspension :
    let owner : Job :=
      { id := ⟨"job-1"⟩, name := "word-count", kind := .batch, tracker := .started 100
        registry := .empty }
    let before : List (Act ManualClock) :=
      [.drive .run, .elapse ManualClock.failNext, .drive (.suspend "leadership revoked"),
        .track (.tryComplete .finished)]
    let reached := (sound (.job owner)).run before (.starting 100)
    let armed := reached.clock.failNext
    (Subject.job owner).Made ∧ reached.state.poisoned = true ∧
      (reached.state.perform (.drive (.terminate .failed)) armed).result =
        .error (.secondCompletion { existing := .finished, attempted := .failed }) ∧
      (reached.state.perform (.drive (.terminate .failed)) armed).clock = armed ∧
      (reached.state.perform (.drive .cancel) armed).clock = armed ∧
      (∀ fault, (reached.state.perform (.drive .cancel) armed).result ≠ .error fault) ∧
      ∀ after, (reached.state.run after armed).bare =
        ((sound reached.state.subject).run after armed).bare := by
  intro owner before reached armed
  have made : (Subject.job owner).Made :=
    @Subject.Made.job ManualClock _ ⟨"word-count", .batch⟩ ⟨"job-1"⟩ (.starting 100) owner rfl
  obtain ⟨_, poisoned, tracker, own, acts, _, later⟩ :=
    faults_never_wedge made before (.starting 100)
  have statusAt : reached.state.subject.tracker?.map Tracker.status = some .suspended := rfl
  have completionAt :
      reached.state.subject.tracker?.map Tracker.completion = some (some .finished) := rfl
  rw [own] at statusAt completionAt
  have status_eq : tracker.status = .suspended := Option.some.inj statusAt
  have completion_eq : tracker.completion = some .finished := Option.some.inj completionAt
  have absorbing (call : Tracker.Call) : ¬tracker.Applies call := by
    rintro ⟨moving, _⟩
    rw [status_eq] at moving
    cases moving
  obtain ⟨terminate, _, terminateIdle⟩ := acts (.drive (.terminate .failed)) armed
  obtain ⟨cancel, _, cancelIdle⟩ := acts (.drive .cancel) armed
  refine ⟨made, ?_, ?_, ?_, ?_, ?_, fun after => later after armed⟩
  · exact poisoned.mpr ⟨_, .tail _ (.tail _ (.head _)), rfl⟩
  · exact (terminate _).mpr ⟨_, rfl, .inl ⟨_, _, rfl, completion_eq, rfl⟩⟩
  · exact terminateIdle (fun _ same => nomatch same) fun call _ => absorbing call
  · exact cancelIdle (fun _ same => nomatch same) fun call _ => absorbing call
  · intro fault stopped
    obtain ⟨call, calls, second | ⟨applies, _⟩⟩ := (cancel fault).mp stopped
    · obtain ⟨_, _, rfl, _⟩ := second
      cases calls
    · exact absorbing call applies

end Guarded

end JobLedger
