import JobLedger.Proofs.Job.Calls
import JobLedger.Proofs.Subject.Absorption
import JobLedger.Proofs.Subject.Replay

/-!
# The log is an audit trail

What a tracker logs in a run tells what became of it.  The moves lead from the
first status to the present one, and none of them leaves a terminal status.
Each call that was absorbed is told once, and the completion is told once if
there is one.  A move counts as told although the clock failed after it: it has
been made.

The log of a job holds the events of its tracker, in their order, and among
them its own: a change is told directly after the move it is about.
-/

namespace JobLedger

/-! ## Reading a log -/

namespace Event

/-- Whether an event is told by a tracker, or by somebody who waits for it. -/
def ofTracker : Event → Bool
  | moved .. | ignored .. | completed .. | waitCancelled => true
  | _ => false

/-- The statuses between which an event tells of a move. -/
def move? : Event → Option (Status × Status)
  | moved source target => some (source, target)
  | _ => none

/-- The status that an event tells absorbed a request, and the target of the
request. -/
def absorption? : Event → Option (Status × Status)
  | ignored current target => some (current, target)
  | _ => none

/-- The completion that an event tells was signalled. -/
def completion? : Event → Option Status
  | completed final => some final
  | _ => none

/-- What the entries of a log with one message say: their levels and fields. -/
def said (message : String) (log : List Event) : List (Level × List (String × String)) :=
  (log.filter fun event => event.message = message).map fun event => (event.level, event.fields)

/-- What is said with one message is what one sort of events says. -/
theorem said_eq {α : Type} {message : String} {pick : Event → Option α}
    {render : α → Level × List (String × String)}
    (reads : ∀ event, (if event.message = message then some (event.level, event.fields) else none) =
      (pick event).map render) (log : List Event) :
    said message log = (log.filterMap pick).map render := by
  induction log with
  | nil => rfl
  | cons event rest ih =>
      have read := reads event
      unfold said at ih ⊢
      by_cases same : event.message = message
      · rw [if_pos same] at read
        obtain ⟨picked, found, rendered⟩ := Option.map_eq_some_iff.mp read.symm
        rw [List.filter_cons_of_pos (by simpa using same), List.map_cons, ih,
          List.filterMap_cons_some found, List.map_cons, rendered]
      · rw [if_neg same] at read
        have found : pick event = none := Option.map_eq_none_iff.mp read.symm
        rw [List.filter_cons_of_neg (by simpa using same), ih, List.filterMap_cons_none found]

theorem said_moved (log : List Event) :
    said "Job status transition" log = (log.filterMap move?).map fun (source, target) =>
      (.debug, [("from", source.name), ("to", target.name)]) :=
  said_eq (fun event => by cases event <;> simp [message, level, fields, move?]) log

theorem said_ignored (log : List Event) :
    said "Ignoring transition requested while in terminal state" log =
      (log.filterMap absorption?).map fun (current, target) =>
        (.warn, [("current", current.name), ("target", target.name)]) :=
  said_eq (fun event => by cases event <;> simp [message, level, fields, absorption?]) log

theorem said_completed (log : List Event) :
    said "Job completion signalled" log = (log.filterMap completion?).map fun final =>
      (.info, [("final_status", final.name)]) :=
  said_eq (fun event => by cases event <;> simp [message, level, fields, completion?]) log

/-- What two logs say in a row. -/
@[simp]
theorem said_append (message : String) (first second : List Event) :
    said message (first ++ second) = said message first ++ said message second := by
  simp [said]

/-- What is picked from a log are events of the tracker, if nothing else is
ever picked. -/
theorem filterMap_filter_ofTracker {α : Type} {pick : Event → Option α}
    (only : ∀ event, event.ofTracker = false → pick event = none) (log : List Event) :
    (log.filter ofTracker).filterMap pick = log.filterMap pick := by
  rw [List.filterMap_filter]
  congr 1
  funext event
  cases own : event.ofTracker with
  | true => simp
  | false => simp [only event own]

end Event

/-! ## What one call tells -/

namespace Tracker

/-- What a call announces tells of no move. -/
@[simp]
theorem Call.moves_announcement (call : Call) :
    call.announcement.filterMap Event.move? = [] := by
  cases call <;> rfl

/-- What a call announces tells of no absorption. -/
@[simp]
theorem Call.absorptions_announcement (call : Call) :
    call.announcement.filterMap Event.absorption? = [] := by
  cases call <;> rfl

/-- What a call announces is the completion it brings. -/
@[simp]
theorem Call.completions_announcement (call : Call) :
    call.announcement.filterMap Event.completion? = call.final?.toList := by
  cases call <;> rfl

/-- A granted call adds the completion that it brings. -/
theorem toList_completion_signalled {tracker : Tracker} {call : Call}
    (granted : tracker.refusal? call = none) :
    (tracker.signalled call).completion.toList =
      tracker.completion.toList ++ call.final?.toList := by
  cases completes : call.final? with
  | none => simp [signalled, completes]
  | some final =>
      simp [signalled, completes, completion_eq_none_of_granted granted completes]

variable {κ : Type} [Clock κ]

/-- A tracker tells nothing but events of a tracker. -/
theorem filter_log_perform (tracker : Tracker) (call : Call) (clock : κ) :
    (tracker.perform call clock).log.filter Event.ofTracker = (tracker.perform call clock).log := by
  have announced : call.announcement.filter Event.ofTracker = call.announcement := by
    cases call <;> rfl
  rcases tracker.refused_or_absorbed_or_entering call with
    ⟨rejection, refused⟩ | ⟨granted, terminal⟩ | ⟨granted, moving⟩
  · rw [perform_of_refused refused]
    rfl
  · rw [perform_of_absorbed granted terminal]
    simp [announced, Event.ofTracker]
  · rw [perform_of_entering granted moving]
    simp [announced, Event.ofTracker]

end Tracker

namespace Job

/-- What a job tells before the call of its tracker is its own. -/
@[simp]
theorem Call.filter_preface (job : Job) (call : Call) :
    (call.preface job).filter Event.ofTracker = [] := by
  cases call <;> rfl

/-- No change is told before the call of the tracker. -/
theorem Call.said_preface (job : Job) (call : Call) :
    Event.said "Job status changed" (call.preface job) = [] := by
  cases call <;> rfl

/-- What a job tells after the call of its tracker is its own. -/
@[simp]
theorem Call.filter_notice (job : Job) (call : Call) (result : Except Fault Tracker.Answer) :
    (call.notice job result).filter Event.ofTracker = [] := by
  rcases result with fault | rejection | applied
  · rfl
  · rfl
  · cases applied
    · rfl
    · cases call <;> rfl

variable {κ : Type} [Clock κ]

/-- A call of a job logs what the call of its tracker logs, between what it
announces and what it gives notice of. -/
theorem log_perform (job : Job) (call : Call) (clock : κ) :
    (job.perform call clock).log =
      call.preface job ++ (job.tracker.perform call.onTracker clock).log ++
        call.notice job (job.tracker.perform call.onTracker clock).result :=
  congrArg Outcome.log (job.perform_eq call clock)

end Job

namespace Subject

namespace Exchange

/-- Whether a terminal status absorbed the call: the client was told that no
move was made. -/
def absorbed (exchange : Exchange) : Bool :=
  match exchange.result with
  | .ok (.called (.ok applied)) => !applied
  | _ => false

end Exchange

variable {κ : Type} [Clock κ]

/-- An act logs, of the tracker, what its call logs. -/
theorem filter_log_perform {subject : Subject} {tracker : Tracker}
    (own : subject.tracker? = some tracker) (act : Act κ) (clock : κ) :
    (subject.perform act clock).log.filter Event.ofTracker =
      (subject.callOf act).elim [] fun call => (tracker.perform call clock).log := by
  cases subject with
  | registry registry => cases own
  | tracker _ =>
      cases own
      cases act with
      | track call => exact tracker.filter_log_perform call clock
      | drive call => rfl
      | register attempt => rfl
      | ask question => rfl
      | elapse change => rfl
  | job owner =>
      cases own
      cases act with
      | track call => exact owner.tracker.filter_log_perform call clock
      | drive call =>
          have logged : ((job owner).perform (.drive call) clock).log =
              (owner.perform call clock).log := rfl
          rw [logged, owner.log_perform]
          simp [callOf, Tracker.filter_log_perform]
      | register attempt =>
          simp only [perform, Job.register, Registry.register]
          cases owner.registry.find? attempt.id <;> rfl
      | ask question => rfl
      | elapse change => rfl

/-- All that a run logged. -/
def Run.log (run : Run κ) : List Event :=
  run.trace.flatMap Outcome.log

@[simp]
theorem log_run_cons (subject : Subject) (act : Act κ) (rest : List (Act κ)) (clock : κ) :
    (subject.run (act :: rest) clock).log =
      (subject.perform act clock).log ++
        ((subject.perform act clock).state.run rest (subject.perform act clock).clock).log := by
  simp [run, Run.log]

/-! ## Chains of moves -/

/-- Moves that lead from one status to another: each leaves the status that the
one before it entered, and none leaves a terminal status. -/
inductive Leads : Status → List (Status × Status) → Status → Prop
  | stay (status : Status) : Leads status [] status
  | move {source target last : Status} {rest : List (Status × Status)}
      (moving : source.isTerminal = false) (leads : Leads target rest last) :
      Leads source ((source, target) :: rest) last

/-- No move leads away from a terminal status. -/
theorem Leads.eq_of_terminal {first last : Status} {moves : List (Status × Status)}
    (leads : Leads first moves last) (terminal : first.isTerminal = true) : last = first := by
  cases leads with
  | stay => rfl
  | move moving leads =>
      rw [terminal] at moving
      contradiction

/-! ## What a run tells -/

/-- Events of a tracker tell how it came from one state to another through a
history of calls. -/
structure Told (tracker : Tracker) (history : List Exchange) (events : List Event)
    (later : Tracker) : Prop where
  leads : Leads tracker.status (events.filterMap Event.move?) later.status
  absorptions_eq : events.filterMap Event.absorption? =
    (history.filter Exchange.absorbed).map fun exchange => (later.status, exchange.call.target)
  terminal : ∀ exchange ∈ history, exchange.absorbed = true → later.status.isTerminal = true
  completion_eq : later.completion.toList =
    tracker.completion.toList ++ events.filterMap Event.completion?

namespace Told

variable {tracker later : Tracker} {exchange : Exchange} {rest : List Exchange}
  {events : List Event}

theorem nil (tracker : Tracker) : Told tracker [] [] tracker where
  leads := .stay tracker.status
  absorptions_eq := rfl
  terminal := by simp
  completion_eq := by simp

/-- A call of which nothing is told leaves no trace. -/
theorem skip (unabsorbed : exchange.absorbed = false) (told : Told tracker rest events later) :
    Told tracker (exchange :: rest) events later := by
  constructor
  · exact told.leads
  · rw [told.absorptions_eq, List.filter_cons_of_neg (by simp [unabsorbed])]
  · simpa [unabsorbed] using told.terminal
  · exact told.completion_eq

/-- The completion that a granted call brings is told before anything else. -/
theorem announce {call : Tracker.Call} {history : List Exchange}
    (granted : tracker.refusal? call = none)
    (told : Told (tracker.signalled call) history events later) :
    Told tracker history (call.announcement ++ events) later := by
  obtain ⟨leads, absorptions, terminal, completion⟩ := told
  rw [Tracker.signalled_status] at leads
  constructor
  · simpa using leads
  · simpa using absorptions
  · exact terminal
  · rw [completion, Tracker.toList_completion_signalled granted]
    simp

/-- A call that a terminal status absorbs is told of with that status, which is
the last one as well. -/
theorem absorb (absorbed : exchange.absorbed = true)
    (terminal : tracker.status.isTerminal = true) (told : Told tracker rest events later) :
    Told tracker (exchange :: rest) (.ignored tracker.status exchange.call.target :: events)
      later := by
  have status_eq : later.status = tracker.status := told.leads.eq_of_terminal terminal
  have absorptions := told.absorptions_eq
  constructor
  · exact told.leads
  · rw [status_eq] at absorptions ⊢
    rw [List.filter_cons_of_pos absorbed, List.map_cons, ← absorptions]
    rfl
  · intro _ _ _
    rw [status_eq, terminal]
  · exact told.completion_eq

/-- A call that enters its target is told of as a move to it. -/
theorem enter {target : Status} {reading : Reading} (unabsorbed : exchange.absorbed = false)
    (moving : tracker.status.isTerminal = false)
    (told : Told (tracker.entered target reading) rest events later) :
    Told tracker (exchange :: rest) (.moved tracker.status target :: events) later := by
  obtain ⟨leads, absorptions, terminal, completion⟩ := told.skip unabsorbed
  rw [Tracker.entered_status] at leads
  rw [Tracker.entered_completion] at completion
  exact ⟨.move moving leads, absorptions, terminal, completion⟩

/-- What a call of a tracker does is told before what follows. -/
theorem perform {κ : Type} [Clock κ] {call : Tracker.Call} {clock : κ}
    (told : Told (tracker.perform call clock).state rest events later) :
    Told tracker
      ({ call
         reading := (Clock.read clock).1
         result := (tracker.perform call clock).result.map .called } :: rest)
      ((tracker.perform call clock).log ++ events) later := by
  rcases tracker.refused_or_absorbed_or_entering call with
    ⟨rejection, refused⟩ | ⟨granted, terminal⟩ | ⟨granted, moving⟩
  · rw [Tracker.perform_of_refused refused] at told ⊢
    have unabsorbed : ∀ reading, Exchange.absorbed
        ⟨call, reading, (call.refused rejection).map .called⟩ = false := by
      cases call <;> exact fun _ => rfl
    exact told.skip (unabsorbed _)
  · rw [Tracker.perform_of_absorbed granted terminal] at told ⊢
    have terminalThen : (tracker.signalled call).status.isTerminal = true := by
      rw [Tracker.signalled_status, terminal]
    rw [List.append_assoc, ← tracker.signalled_status call]
    exact (told.absorb rfl terminalThen).announce granted
  · rw [Tracker.perform_of_entering granted moving] at told ⊢
    have movingThen : (tracker.signalled call).status.isTerminal = false := by
      rw [Tracker.signalled_status, moving]
    have unabsorbed : Exchange.absorbed ⟨call, (Clock.read clock).1,
        (Tracker.entryResult (Clock.read clock).1).map .called⟩ = false := by
      cases (Clock.read clock).1 <;> rfl
    rw [List.append_assoc, ← tracker.signalled_status call]
    exact (told.enter unabsorbed movingThen).announce granted

end Told

/-- A run tells what becomes of the tracker, whichever readings of the clock
fail. -/
theorem told_run {subject : Subject} {tracker : Tracker}
    (own : subject.tracker? = some tracker) (acts : List (Act κ)) (clock : κ) :
    ∃ later, (subject.run acts clock).state.tracker? = some later ∧
      Told tracker (subject.history acts clock)
        ((subject.run acts clock).log.filter Event.ofTracker) later := by
  induction acts generalizing subject tracker clock with
  | nil => exact ⟨tracker, own, .nil tracker⟩
  | cons act rest ih =>
      have next := tracker?_perform own act clock
      obtain ⟨later, reached, told⟩ := ih next (subject.perform act clock).clock
      refine ⟨later, reached, ?_⟩
      rw [log_run_cons, List.filter_append, filter_log_perform own]
      cases calls : subject.callOf act with
      | none =>
          simp only [history, calls]
          simpa [calls] using told
      | some call =>
          rw [calls, Option.elim_some] at told
          simp only [history, calls, (perform_carries calls own clock).result_eq]
          exact told.perform

/-! ## What a call of a job tells -/

/-- A call that gives a reason tells of the change directly after the move, if
it was made and stamped.  Otherwise it tells of no change. -/
theorem told_drive (owner : Job) {call : Job.Call} {reason : String}
    (given : call.reason? = some reason) (clock : κ) :
    let outcome := (job owner).perform (.drive call) clock
    let target := call.onTracker.target
    outcome.result = .ok (.called (.ok true)) ∧
      outcome.log = call.preface owner ++
        [.moved owner.tracker.status target, .statusChanged owner.id target reason] ∧
      Event.said "Job status changed" outcome.log =
        [(.info, [("job_id", owner.id.text), ("status", target.name), ("reason", reason)])] ∨
    outcome.result ≠ .ok (.called (.ok true)) ∧
      Event.said "Job status changed" outcome.log = [] := by
  intro outcome target
  have silent := call.said_preface owner
  have plain := Job.Call.final?_onTracker_of_reason? given
  have granted : owner.tracker.refusal? call.onTracker = none :=
    Tracker.refusal?_eq_none (.inl plain)
  have unannounced : call.onTracker.announcement = [] := by
    rw [Tracker.Call.announcement, plain]
    rfl
  have calls : (job owner).callOf (.drive call : Act κ) = some call.onTracker := rfl
  have own : (job owner).tracker? = some owner.tracker := rfl
  have logged : outcome.log = call.preface owner ++
      (owner.tracker.perform call.onTracker clock).log ++
        call.notice owner (owner.tracker.perform call.onTracker clock).result :=
    owner.log_perform call clock
  have answered : outcome.result =
      (owner.tracker.perform call.onTracker clock).result.map .called :=
    (perform_carries calls own clock).result_eq
  cases terminal : owner.tracker.status.isTerminal with
  | true =>
      rw [Tracker.perform_of_absorbed granted terminal, unannounced] at logged answered
      right
      constructor
      · simp [answered, Except.map]
      · rw [logged, Event.said_append, Event.said_append, silent]
        simp [Job.Call.notice, Event.said, Event.message]
  | false =>
      rw [Tracker.perform_of_entering granted terminal, unannounced] at logged answered
      cases reading : (Clock.read clock).1 with
      | none =>
          rw [reading] at logged answered
          right
          constructor
          · simp [answered, Tracker.entryResult, Except.map]
          · rw [logged, Event.said_append, Event.said_append, silent]
            simp [Tracker.entryResult, Job.Call.notice, Event.said, Event.message]
      | some now =>
          rw [reading] at logged answered
          have log_eq : outcome.log = call.preface owner ++
              [.moved owner.tracker.status target, .statusChanged owner.id target reason] := by
            simp [logged, Tracker.entryResult, Job.Call.notice, given, target]
          left
          refine ⟨answered, log_eq, ?_⟩
          rw [log_eq, Event.said_append, silent]
          simp [Event.said, Event.message, Event.level, Event.fields]

/-- **The log is a faithful audit trail.**  Take any run from a new subject;
readings of its clock may fail.  The moves that the log tells of lead from the
initial status to the present one, each from where the one before it led to, and
none from a terminal status.  It warns once for each call that was absorbed,
naming the terminal status and the target of the call.  It tells of one
completion if there is one, and of none otherwise.  A completing call that is
rejected has the tracker tell nothing.  A call of the job that gives a reason
tells of the change, directly after the move, exactly when it answers `true`. -/
theorem log_is_audit_trail {subject : Subject} (made : subject.Made) (acts : List (Act κ))
    (clock : κ) :
    let reached := subject.run acts clock
    let absorbed := (subject.history acts clock).filter Exchange.absorbed
    ∃ tracker, reached.state.tracker? = some tracker ∧
      (∃ moves, Leads .initial moves tracker.status ∧
        Event.said "Job status transition" reached.log = moves.map fun (source, target) =>
          (.debug, [("from", source.name), ("to", target.name)])) ∧
      Event.said "Ignoring transition requested while in terminal state" reached.log =
        (absorbed.map fun exchange =>
          (.warn, [("current", tracker.status.name), ("target", exchange.call.target.name)])) ∧
      (absorbed ≠ [] → tracker.status.isTerminal = true) ∧
      Event.said "Job completion signalled" reached.log =
        (tracker.completion.toList.map fun final => (.info, [("final_status", final.name)])) ∧
      (∀ (act : Act κ) (call : Tracker.Call) (final existing : Status) (moment : κ),
        subject.callOf act = some call → call.final? = some final →
        tracker.completion = some existing →
        (reached.state.perform act moment).log.filter Event.ofTracker = []) ∧
      ∀ (owner : Job) (call : Job.Call) (reason : String) (moment : κ),
        reached.state = job owner → call.reason? = some reason →
        let outcome := reached.state.perform (.drive call) moment
        let target := call.onTracker.target
        outcome.result = .ok (.called (.ok true)) ∧
          outcome.log = call.preface owner ++
            [.moved tracker.status target, .statusChanged owner.id target reason] ∧
          Event.said "Job status changed" outcome.log =
            [(.info, [("job_id", owner.id.text), ("status", target.name), ("reason", reason)])] ∨
        outcome.result ≠ .ok (.called (.ok true)) ∧
          Event.said "Job status changed" outcome.log = [] := by
  intro reached absorbed
  obtain ⟨now, own⟩ := made.tracker?_eq
  obtain ⟨tracker, reachedOwn, told⟩ := told_run own acts clock
  have picked {α : Type} {pick : Event → Option α}
      (only : ∀ event, event.ofTracker = false → pick event = none) :
      (reached.log.filter Event.ofTracker).filterMap pick = reached.log.filterMap pick :=
    Event.filterMap_filter_ofTracker only reached.log
  obtain ⟨leads, absorptions, terminal, completion⟩ := told
  rw [picked (by intro event; cases event <;> simp [Event.ofTracker, Event.move?])] at leads
  rw [picked (by intro event; cases event <;> simp [Event.ofTracker, Event.absorption?])]
    at absorptions
  rw [picked (by intro event; cases event <;> simp [Event.ofTracker, Event.completion?])]
    at completion
  refine ⟨tracker, reachedOwn, ⟨_, leads, Event.said_moved reached.log⟩, ?_, ?_, ?_, ?_, ?_⟩
  · rw [Event.said_ignored, absorptions, List.map_map]
    rfl
  · intro nonempty
    obtain ⟨exchange, member⟩ := List.exists_mem_of_ne_nil _ nonempty
    obtain ⟨inHistory, wasAbsorbed⟩ := List.mem_filter.mp member
    exact terminal exchange inHistory wasAbsorbed
  · rw [Event.said_completed, completion]
    rfl
  · intro act call final existing moment calls completes resolved
    have laterCalls : reached.state.callOf act = some call := by
      rw [callOf_run, calls]
    have refused := (Tracker.refusal?_eq_some_iff tracker call ⟨existing, final⟩).mpr
      ⟨completes, resolved⟩
    rw [filter_log_perform reachedOwn, laterCalls, Option.elim_some,
      Tracker.perform_of_refused refused]
  · intro owner call reason moment isJob given
    rw [isJob] at reachedOwn ⊢
    cases reachedOwn
    exact told_drive owner given moment

/-- The clock fails while a job fails, the job is terminated all the same, a
second completion is rejected and a late cancel is absorbed. -/
theorem log_is_audit_trail_despite_fault :
    let owner : Job :=
      { id := ⟨"job-1"⟩, name := "word-count", kind := .batch, tracker := .started 100
        registry := .empty }
    let acts : List (Act ManualClock) :=
      [.drive .run, .elapse ManualClock.failNext, .drive (.fail "disk lost"),
        .drive (.terminate .failed), .track (.tryComplete .finished), .drive .cancel]
    let reached := (job owner).run acts (.starting 100)
    (job owner).Made ∧
      ∃ tracker moves, reached.state.tracker? = some tracker ∧ tracker.status = .failed ∧
        Leads .initial moves tracker.status ∧ moves.length = 3 ∧
        Event.said "Ignoring transition requested while in terminal state" reached.log =
          [(.warn, [("current", "FAILED"), ("target", "CANCELLING")])] ∧
        Event.said "Job completion signalled" reached.log =
          [(.info, [("final_status", "FAILED")])] ∧
        (reached.state.perform (.track (.tryComplete .finished)) reached.clock).log.filter
          Event.ofTracker = [] ∧
        Event.said "Job status changed"
          (reached.state.perform (.drive .run) reached.clock).log = [] := by
  intro owner acts reached
  have made : (job owner).Made :=
    @Made.job ManualClock _ ⟨"word-count", .batch⟩ ⟨"job-1"⟩ (.starting 100) owner rfl
  obtain ⟨tracker, own, ⟨moves, leads, transitions⟩, ignored, _, completions, rejected, changes⟩ :=
    log_is_audit_trail made acts (.starting 100)
  have statusAt : reached.state.tracker?.map Tracker.status = some .failed := rfl
  have completionAt : reached.state.tracker?.map Tracker.completion = some (some .failed) := rfl
  rw [own] at statusAt completionAt
  have status_eq : tracker.status = .failed := Option.some.inj statusAt
  have completion_eq : tracker.completion = some .failed := Option.some.inj completionAt
  refine ⟨made, tracker, moves, own, status_eq, leads, ?_, ?_, ?_, ?_, ?_⟩
  · have lengths := congrArg List.length transitions
    rw [List.length_map, Event.said_moved, List.length_map] at lengths
    exact lengths.symm.trans rfl
  · rw [ignored, status_eq]
    rfl
  · rw [completions, completion_eq]
    rfl
  · exact rejected (.track (.tryComplete .finished)) _ .finished .failed _ rfl rfl completion_eq
  · rcases changes _ .run "deployed" reached.clock rfl rfl with ⟨applied, _⟩ | ⟨_, silent⟩
    · cases applied
    · exact silent

end Subject

end JobLedger
