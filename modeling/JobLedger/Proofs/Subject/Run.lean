import JobLedger.Proofs.Tracker.Calls
import JobLedger.Session

/-!
# Runs of a tracker and of the job that owns it

Clients reach a tracker directly, or through the job that owns it.  Between
their acts the clock may change in any way.  The lock of a tracker lets one act
happen at a time, and one that a fault stops does not keep the next from being
made, so whatever any number of clients do is a list of acts.

An act reaches the tracker as at most one call: the main statement of this
module says which call that is, and that nothing else happens to the tracker.
An invariant of the calls of a tracker is therefore one of every run.
-/

namespace JobLedger

/-! ## What an outcome tells of the tracker -/

/-- The status that an event tells was entered. -/
def Event.entered? : Event → Option Status
  | moved _ target => some target
  | _ => none

namespace Outcome

variable {σ τ κ α β : Type}

/-- The statuses that were entered, in order. -/
def entered (outcome : Outcome σ κ α) : List Status :=
  outcome.log.filterMap Event.entered?

/-- The statuses that were entered and stamped. -/
def stamped (outcome : Outcome σ κ α) : List Status :=
  match outcome.result with
  | .ok _ => outcome.entered
  | .error _ => []

/-- The outcome `whole` is the outcome `part`, seen from around it: state and
result are embedded, the clock and the entered statuses are the same. -/
structure Carries (whole : Outcome τ κ β) (part : Outcome σ κ α) (embed : σ → τ)
    (wrap : α → β) : Prop where
  state_eq : whole.state = embed part.state
  clock_eq : whole.clock = part.clock
  result_eq : whole.result = part.result.map wrap
  entered_eq : whole.entered = part.entered

theorem Carries.stamped_eq {whole : Outcome τ κ β} {part : Outcome σ κ α} {embed : σ → τ}
    {wrap : α → β} (carries : whole.Carries part embed wrap) : whole.stamped = part.stamped := by
  unfold stamped
  rw [carries.result_eq, carries.entered_eq]
  cases part.result <;> rfl

end Outcome

namespace Tracker

/-- What a call announces is the completion, and no entry. -/
@[simp]
theorem Call.entered_announcement (call : Call) :
    call.announcement.filterMap Event.entered? = [] := by
  cases call <;> rfl

variable {κ : Type} [Clock κ]

/-- The statuses that a call enters: its target, unless it is refused or
absorbed. -/
theorem entered_perform (tracker : Tracker) (call : Call) (clock : κ) :
    (tracker.perform call clock).entered =
      if tracker.refusal? call = none ∧ tracker.status.isTerminal = false then [call.target]
      else [] := by
  rcases tracker.refused_or_absorbed_or_entering call with
    ⟨rejection, refused⟩ | ⟨granted, terminal⟩ | ⟨granted, moving⟩
  · rw [perform_of_refused refused]
    simp [Outcome.entered, refused]
  · rw [perform_of_absorbed granted terminal]
    simp [Outcome.entered, Event.entered?, terminal]
  · rw [perform_of_entering granted moving]
    simp [Outcome.entered, Event.entered?, granted, moving]

end Tracker

/-! ## Calls of a job -/

namespace Job

/-- The call of the tracker that a call of a job comes down to. -/
def Call.onTracker : Call → Tracker.Call
  | run => .request .running
  | cancel => .request .cancelling
  | fail _ => .request .failing
  | suspend _ => .request .suspended
  | terminate final => .complete final

variable {κ : Type} [Clock κ]

/-- A move of a job does to the tracker what a request does. -/
theorem move_carries (job : Job) (target : Status) (reason : String) (clock : κ) :
    ((job.move target reason clock).map Except.ok).Carries
      (job.tracker.perform (.request target) clock) job.withTracker fun answer => answer := by
  simp only [move, Tracker.perform]
  generalize job.tracker.request target clock = outcome
  obtain ⟨result, state, next, log⟩ := outcome
  rcases result with fault | applied
  · constructor <;> rfl
  · cases applied
    · constructor <;> rfl
    · constructor
      · rfl
      · rfl
      · rfl
      · simp [Outcome.within, Outcome.andThen, Outcome.map, Outcome.entered, Event.entered?]

/-- A call of a job does to the tracker what one call of the tracker does. -/
theorem perform_carries (job : Job) (call : Call) (clock : κ) :
    ((job.perform call clock).map Except.ok).Carries
      (job.tracker.perform call.onTracker clock) job.withTracker fun answer => answer := by
  cases call with
  | run => exact job.move_carries _ _ clock
  | cancel => exact job.move_carries _ _ clock
  | suspend cause => exact job.move_carries _ cause clock
  | fail cause =>
      obtain ⟨state_eq, clock_eq, result_eq, entered_eq⟩ := job.move_carries .failing cause clock
      exact ⟨state_eq, clock_eq, result_eq, entered_eq⟩
  | terminate final =>
      constructor
      · rfl
      · rfl
      · simp only [perform, terminate, Call.onTracker, Tracker.perform, Outcome.map, Outcome.after,
          Outcome.within]
        cases (job.tracker.complete final clock).result <;> rfl
      · rfl

end Job

namespace Subject

/-! ## Acts -/

/-- What a client does with a subject, or what the clock does meanwhile. -/
inductive Act (κ : Type) where
  /-- A call of the tracker itself. -/
  | track (call : Tracker.Call)
  /-- A call of the job. -/
  | drive (call : Job.Call)
  | register (attempt : Attempt)
  | ask (question : Question)
  /-- The clock changes: time passes, or others read it. -/
  | elapse (change : κ → κ)

/-- What a client is answered. -/
inductive Answer where
  | called (answer : Tracker.Answer)
  | told (reply : Reply)

variable {κ : Type} [Clock κ]

/-- The outcome of an act that changes nothing. -/
def tell (subject : Subject) (reply : Reply) (clock : κ) : Outcome Subject κ Answer :=
  { result := .ok (.told reply), state := subject, clock, log := [] }

/-- Carries an act out. -/
def perform (subject : Subject) (act : Act κ) (clock : κ) : Outcome Subject κ Answer :=
  match act with
  | .track call =>
    match subject.tracker? with
    | some own => ((own.perform call clock).map Answer.called).within subject.withTracker
    | none => subject.tell .unknown clock
  | .drive call =>
    match subject with
    | job owner => (((owner.perform call clock).map Except.ok).map Answer.called).within job
    | _ => subject.tell .unknown clock
  | .register attempt =>
    match subject with
    | registry own =>
      let (own, event) := own.register attempt
      { (registry own).tell (.count own.size) clock with log := [event] }
    | job owner =>
      let (owner, event) := owner.register attempt
      { (job owner).tell (.count owner.registry.size) clock with log := [event] }
    | tracker _ => subject.tell .unknown clock
  | .ask question => subject.tell (Session.answer subject question) clock
  | .elapse change => subject.tell .done (change clock)

/-- The call with which an act reaches the tracker of a subject, if it does. -/
def callOf (subject : Subject) (act : Act κ) : Option Tracker.Call :=
  match subject, act with
  | tracker _, .track call => some call
  | job _, .track call => some call
  | job _, .drive call => some call.onTracker
  | _, _ => none

/-- An act that reaches the tracker with a call does what the call does. -/
theorem perform_carries {subject : Subject} {act : Act κ} {call : Tracker.Call}
    {tracker : Tracker} (calls : subject.callOf act = some call)
    (own : subject.tracker? = some tracker) (clock : κ) :
    (subject.perform act clock).Carries (tracker.perform call clock) subject.withTracker
      Answer.called := by
  cases subject with
  | registry registry => cases own
  | tracker _ =>
      cases own
      cases act <;> cases calls
      constructor <;> rfl
  | job owner =>
      cases own
      cases act with
      | track direct =>
          cases calls
          constructor <;> rfl
      | drive call =>
          cases calls
          obtain ⟨state_eq, clock_eq, result_eq, entered_eq⟩ := owner.perform_carries call clock
          constructor
          · exact congrArg job state_eq
          · exact clock_eq
          · simp only [perform, Outcome.within, Outcome.map] at result_eq ⊢
            rw [result_eq]
            cases (owner.tracker.perform call.onTracker clock).result <;> rfl
          · exact entered_eq
      | register _ => cases calls
      | ask _ => cases calls
      | elapse _ => cases calls

/-- Any other act leaves the tracker alone. -/
theorem perform_of_callOf_eq_none {subject : Subject} {act : Act κ}
    (silent : subject.callOf act = none) (clock : κ) :
    (subject.perform act clock).state.tracker? = subject.tracker? ∧
      (subject.perform act clock).entered = [] := by
  cases act with
  | track call => cases subject <;> first | contradiction | exact ⟨rfl, rfl⟩
  | drive call => cases subject <;> first | contradiction | exact ⟨rfl, rfl⟩
  | ask question => exact ⟨rfl, rfl⟩
  | elapse change => exact ⟨rfl, rfl⟩
  | register attempt =>
      cases subject with
      | tracker own => exact ⟨rfl, rfl⟩
      | registry own =>
          constructor
          · rfl
          · simp only [perform, Outcome.entered, Registry.register]
            cases own.find? attempt.id <;> rfl
      | job owner =>
          constructor
          · rfl
          · simp only [perform, Outcome.entered, Job.register, Registry.register]
            cases owner.registry.find? attempt.id <;> rfl

@[simp]
theorem tracker?_withTracker (subject : Subject) (changed : Tracker) :
    (subject.withTracker changed).tracker? = subject.tracker?.map fun _ => changed := by
  cases subject <;> rfl

/-- Putting the tracker of a subject in its own place changes nothing. -/
theorem withTracker_self {subject : Subject} {own : Tracker}
    (has : subject.tracker? = some own) : subject.withTracker own = subject := by
  cases subject <;> cases has <;> rfl

/-- The tracker of a subject after an act. -/
theorem tracker?_perform {subject : Subject} {tracker : Tracker}
    (own : subject.tracker? = some tracker) (act : Act κ) (clock : κ) :
    (subject.perform act clock).state.tracker? =
      some ((subject.callOf act).elim tracker fun call => (tracker.perform call clock).state) := by
  cases calls : subject.callOf act with
  | none =>
      rw [(perform_of_callOf_eq_none calls clock).1, own]
      rfl
  | some call =>
      rw [(perform_carries calls own clock).state_eq, tracker?_withTracker, own]
      rfl

/-- The statuses that an act enters are those that its call enters. -/
theorem entered_perform {subject : Subject} {tracker : Tracker}
    (own : subject.tracker? = some tracker) (act : Act κ) (clock : κ) :
    (subject.perform act clock).entered =
      (subject.callOf act).elim [] fun call => (tracker.perform call clock).entered := by
  cases calls : subject.callOf act with
  | none => exact (perform_of_callOf_eq_none calls clock).2
  | some call => exact (perform_carries calls own clock).entered_eq

/-- The statuses that an act stamps are those that its call stamps. -/
theorem stamped_perform {subject : Subject} {tracker : Tracker}
    (own : subject.tracker? = some tracker) (act : Act κ) (clock : κ) :
    (subject.perform act clock).stamped =
      (subject.callOf act).elim [] fun call => (tracker.perform call clock).stamped := by
  cases calls : subject.callOf act with
  | none =>
      unfold Outcome.stamped
      split
      · exact (perform_of_callOf_eq_none calls clock).2
      · rfl
  | some call => exact (perform_carries calls own clock).stamped_eq

/-- What holds of the tracker of a subject, and is kept by every call, is kept
by every act. -/
theorem perform_invariant {P : Tracker → Prop}
    (keeps : ∀ tracker call (clock : κ), P tracker →
      P (tracker.perform call clock).state)
    {subject : Subject} {tracker : Tracker} (own : subject.tracker? = some tracker)
    (holds : P tracker) (act : Act κ) (clock : κ) :
    ∃ later, (subject.perform act clock).state.tracker? = some later ∧ P later := by
  rw [tracker?_perform own act clock]
  cases subject.callOf act with
  | none => exact ⟨tracker, rfl, holds⟩
  | some call => exact ⟨_, rfl, keeps tracker call clock holds⟩

omit [Clock κ] in
@[simp]
theorem callOf_withTracker (subject : Subject) (changed : Tracker) (act : Act κ) :
    (subject.withTracker changed).callOf act = subject.callOf act := by
  cases subject <;> cases act <;> rfl

/-- No act turns a subject into one of another sort. -/
@[simp]
theorem callOf_perform (subject : Subject) (act other : Act κ) (clock : κ) :
    (subject.perform act clock).state.callOf other = subject.callOf other := by
  cases act with
  | ask question => rfl
  | elapse change => rfl
  | track call =>
      simp only [perform]
      split
      · exact callOf_withTracker _ _ _
      · rfl
  | drive call => cases subject <;> cases other <;> rfl
  | register attempt => cases subject <;> cases other <;> rfl

/-! ## Runs -/

/-- What acts carried out one after another leave: the outcome of each, and
where they end. -/
structure Run (κ : Type) where
  trace : List (Outcome Subject κ Answer)
  state : Subject
  clock : κ

/-- Carries acts out one after another. -/
def run (subject : Subject) : List (Act κ) → κ → Run κ
  | [], clock => { trace := [], state := subject, clock }
  | act :: rest, clock =>
    let outcome := subject.perform act clock
    let later := outcome.state.run rest outcome.clock
    { later with trace := outcome :: later.trace }

namespace Run

/-- The statuses that a run entered, in order. -/
def entered (run : Run κ) : List Status :=
  run.trace.flatMap Outcome.entered

/-- The statuses that a run entered and stamped, in order. -/
def stamped (run : Run κ) : List Status :=
  run.trace.flatMap Outcome.stamped

end Run

@[simp]
theorem entered_run_cons (subject : Subject) (act : Act κ) (rest : List (Act κ)) (clock : κ) :
    (subject.run (act :: rest) clock).entered =
      (subject.perform act clock).entered ++
        ((subject.perform act clock).state.run rest (subject.perform act clock).clock).entered := by
  simp [run, Run.entered]

@[simp]
theorem stamped_run_cons (subject : Subject) (act : Act κ) (rest : List (Act κ)) (clock : κ) :
    (subject.run (act :: rest) clock).stamped =
      (subject.perform act clock).stamped ++
        ((subject.perform act clock).state.run rest (subject.perform act clock).clock).stamped := by
  simp [run, Run.stamped]

/-- A run goes on from where it has come to. -/
theorem run_append (subject : Subject) (before after : List (Act κ)) (clock : κ) :
    subject.run (before ++ after) clock =
      let reached := subject.run before clock
      let later := reached.state.run after reached.clock
      { later with trace := reached.trace ++ later.trace } := by
  induction before generalizing subject clock with
  | nil => rfl
  | cons act rest ih =>
      simp only [List.cons_append, run]
      rw [ih]

/-- An act in a run is carried out where the acts before it have led. -/
theorem getElem?_trace_run {acts : List (Act κ)} {place : Nat} {act : Act κ}
    (next : acts[place]? = some act) (subject : Subject) (clock : κ) :
    (subject.run acts clock).trace[place]? =
      let reached := subject.run (acts.take place) clock
      some (reached.state.perform act reached.clock) := by
  induction acts generalizing place subject clock with
  | nil => simp at next
  | cons first rest ih =>
      cases place with
      | zero =>
          cases next
          rfl
      | succ place =>
          rw [List.getElem?_cons_succ] at next
          simp only [run, List.getElem?_cons_succ, List.take_succ_cons]
          exact ih next _ _

/-- An invariant of the calls of a tracker is one of every run. -/
theorem run_invariant {P : Tracker → Prop}
    (keeps : ∀ tracker call (clock : κ), P tracker →
      P (tracker.perform call clock).state)
    {subject : Subject} {tracker : Tracker} (own : subject.tracker? = some tracker)
    (holds : P tracker) (acts : List (Act κ)) (clock : κ) :
    ∃ later, (subject.run acts clock).state.tracker? = some later ∧ P later := by
  induction acts generalizing subject tracker clock with
  | nil => exact ⟨tracker, own, holds⟩
  | cons act rest ih =>
      obtain ⟨next, nextOwn, nextHolds⟩ := perform_invariant keeps own holds act clock
      exact ih nextOwn nextHolds _

@[simp]
theorem callOf_run (subject : Subject) (acts : List (Act κ)) (other : Act κ) (clock : κ) :
    (subject.run acts clock).state.callOf other = subject.callOf other := by
  induction acts generalizing subject clock with
  | nil => rfl
  | cons act rest ih =>
      simp only [run]
      rw [ih, callOf_perform]

/-! ## New subjects -/

/-- A subject with a tracker, as it is when it has just been made. -/
inductive Made : Subject → Prop
  | tracker {κ : Type} [Clock κ] {clock : κ} {own : Tracker}
      (started : (Tracker.start clock).1 = .ok own) : Made (tracker own)
  | job {κ : Type} [Clock κ] {settings : Settings} {id : JobId} {clock : κ} {owner : Job}
      (built : (Job.build settings id clock).1 = .ok owner) : Made (job owner)

end Subject

/-- The tracker that is started at a time. -/
def Tracker.started (now : Int64) : Tracker :=
  { status := .initial
    completion := none
    signal := none
    enteredAt := Stamps.empty.insert .initial now }

/-- A tracker is started at the time that the clock shows. -/
theorem Tracker.start_eq_ok_iff {κ : Type} [Clock κ] (clock : κ) (tracker : Tracker) :
    (Tracker.start clock).1 = .ok tracker ↔
      ∃ now, (Clock.read clock).1 = some now ∧ tracker = started now := by
  unfold start
  obtain ⟨reading, next⟩ := Clock.read clock
  cases reading with
  | none => simp
  | some now => simp [started, eq_comm]

/-- A new subject has a tracker that has just been started. -/
theorem Subject.Made.tracker?_eq {subject : Subject} (made : subject.Made) :
    ∃ now, subject.tracker? = some (Tracker.started now) := by
  cases made with
  | tracker started =>
      obtain ⟨now, _, rfl⟩ := (Tracker.start_eq_ok_iff _ _).mp started
      exact ⟨now, rfl⟩
  | @job κ _ settings id clock owner built =>
      simp only [Job.build] at built
      cases started : (Tracker.start clock).1 with
      | error fault => simp [started, Except.map] at built
      | ok own =>
          obtain ⟨now, _, rfl⟩ := (Tracker.start_eq_ok_iff _ _).mp started
          rw [started] at built
          cases built
          exact ⟨now, rfl⟩

end JobLedger
