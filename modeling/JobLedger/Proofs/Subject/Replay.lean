import JobLedger.Proofs.Subject.Completion

/-!
# A tracker replays its history

The history of a run lists the calls that reached the tracker, each with what
the clock showed and with its result.  The calls that move the tracker can be
read off the calls alone: of those that complete, all but the first are
dropped, and of what is left nothing counts after the first terminal target.

The status is the target of the last call that counts, and a stamp is the
reading of the last entry of its status, whichever way the clock moved between
two entries.
-/

namespace JobLedger

namespace Subject

/-- A call of a tracker as it was made: what the clock showed, and how the call
ended. -/
structure Exchange where
  call : Tracker.Call
  reading : Reading
  result : Except Fault Answer

namespace Exchange

/-- Whether the client was told that a move was made. -/
def applied (exchange : Exchange) : Bool :=
  match exchange.result with
  | .ok (.called (.ok applied)) => applied
  | _ => false

def completes (exchange : Exchange) : Bool :=
  exchange.call.final?.isSome

/-- The status that a call asks for, with the time that the clock showed. -/
def entry? (exchange : Exchange) : Option (Status × Int64) :=
  exchange.reading.map fun time => (exchange.call.target, time)

/-- Drops every completing call but the first. -/
def dropRepeats : List Exchange → List Exchange
  | [] => []
  | exchange :: rest =>
    if exchange.completes then exchange :: rest.filter fun later => !later.completes
    else exchange :: dropRepeats rest

/-- Keeps what comes up to the first terminal target, which is kept as well. -/
def untilTerminal : List Exchange → List Exchange
  | [] => []
  | exchange :: rest =>
    exchange :: if exchange.call.target.isTerminal then [] else untilTerminal rest

/-- The calls that count if the history begins with a tracker in some state. -/
def effectiveFrom (tracker : Tracker) (history : List Exchange) : List Exchange :=
  if tracker.status.isTerminal then []
  else untilTerminal <|
    if tracker.completion.isSome then history.filter fun later => !later.completes
    else dropRepeats history

/-! ## One call of a history -/

variable {tracker : Tracker} {exchange : Exchange}

theorem effectiveFrom_of_terminal (terminal : tracker.status.isTerminal = true)
    (history : List Exchange) : effectiveFrom tracker history = [] := by
  simp [effectiveFrom, terminal]

/-- A refused call does not count. -/
theorem effectiveFrom_cons_of_refused {rejection : Rejection}
    (refused : tracker.refusal? exchange.call = some rejection) (rest : List Exchange) :
    effectiveFrom tracker (exchange :: rest) = effectiveFrom tracker rest := by
  obtain ⟨completing, resolved⟩ := (Tracker.refusal?_eq_some_iff _ _ _).mp refused
  have completes : exchange.completes = true := by simp [Exchange.completes, completing]
  simp [effectiveFrom, resolved, completes]

/-- A call that enters its target counts, and what counts after it is decided
by the tracker that it leaves. -/
theorem effectiveFrom_cons_of_entering (granted : tracker.refusal? exchange.call = none)
    (moving : tracker.status.isTerminal = false) (rest : List Exchange) {later : Tracker}
    (status_eq : later.status = exchange.call.target)
    (completion_eq : later.completion = tracker.completion.or exchange.call.final?) :
    effectiveFrom tracker (exchange :: rest) = exchange :: effectiveFrom later rest := by
  unfold effectiveFrom
  rw [moving, status_eq, completion_eq]
  cases completes : exchange.call.final? with
  | none =>
      cases tracker.completion <;> simp [dropRepeats, untilTerminal, Exchange.completes, completes]
  | some final =>
      have unresolved := Tracker.completion_eq_none_of_granted granted completes
      simp [unresolved, dropRepeats, untilTerminal, Exchange.completes, completes]

end Exchange

variable {κ : Type} [Clock κ]

/-- The calls of a run that reach the tracker, in order. -/
def history (subject : Subject) : List (Act κ) → κ → List Exchange
  | [], _ => []
  | act :: rest, clock =>
    let outcome := subject.perform act clock
    let later := outcome.state.history rest outcome.clock
    match subject.callOf act with
    | none => later
    | some call => { call, reading := (Clock.read clock).1, result := outcome.result } :: later

/-! ## Replaying -/

/-- The tracker `later` is what the calls of a history that count make of a
tracker: those, and no others, were applied, the last of them gave the status,
and each left a stamp. -/
structure Replays (tracker : Tracker) (history : List Exchange) (later : Tracker) : Prop where
  applied_eq : history.filter Exchange.applied = Exchange.effectiveFrom tracker history
  status_eq : later.status =
    ((Exchange.effectiveFrom tracker history).map
      fun exchange => exchange.call.target).getLast?.getD tracker.status
  timed : ((Exchange.effectiveFrom tracker history).filterMap Exchange.entry?).map Prod.fst =
    (Exchange.effectiveFrom tracker history).map fun exchange => exchange.call.target
  enteredAt_eq : later.enteredAt =
    ((Exchange.effectiveFrom tracker history).filterMap Exchange.entry?).foldl
      (fun stamps entry => stamps.insert entry.1 entry.2) tracker.enteredAt

namespace Replays

variable {tracker next later : Tracker} {exchange : Exchange} {rest : List Exchange}

theorem nil (tracker : Tracker) : Replays tracker [] tracker := by
  have nothing : Exchange.effectiveFrom tracker [] = [] := by
    cases tracker.completion <;>
      simp [Exchange.effectiveFrom, Exchange.dropRepeats, Exchange.untilTerminal]
  constructor <;> simp [nothing]

/-- A call that is not applied and does not count leaves no trace. -/
theorem skip (unapplied : exchange.applied = false)
    (uncounted : Exchange.effectiveFrom tracker (exchange :: rest) =
      Exchange.effectiveFrom next rest)
    (status_eq : next.status = tracker.status) (enteredAt_eq : next.enteredAt = tracker.enteredAt)
    (replays : Replays next rest later) : Replays tracker (exchange :: rest) later := by
  obtain ⟨applied, status, timed, enteredAt⟩ := replays
  constructor
  · rw [List.filter_cons_of_neg (by simp [unapplied]), uncounted, applied]
  · rw [uncounted, status, status_eq]
  · rw [uncounted, timed]
  · rw [uncounted, enteredAt, enteredAt_eq]

/-- A call that is applied and counts is replayed first. -/
theorem enter {time : Int64} (applied : exchange.applied = true)
    (counted : Exchange.effectiveFrom tracker (exchange :: rest) =
      exchange :: Exchange.effectiveFrom next rest)
    (reading_eq : exchange.reading = some time) (status_eq : next.status = exchange.call.target)
    (enteredAt_eq : next.enteredAt = tracker.enteredAt.insert exchange.call.target time)
    (replays : Replays next rest later) : Replays tracker (exchange :: rest) later := by
  have entry : exchange.entry? = some (exchange.call.target, time) := by
    simp [Exchange.entry?, reading_eq]
  obtain ⟨appliedLater, status, timed, enteredAt⟩ := replays
  constructor
  · rw [List.filter_cons_of_pos applied, counted, appliedLater]
  · rw [counted, status, status_eq, List.map_cons, List.getLast?_cons, Option.getD_some]
  · rw [counted, List.filterMap_cons_some entry, List.map_cons, List.map_cons, timed]
  · rw [counted, List.filterMap_cons_some entry, List.foldl_cons, enteredAt, enteredAt_eq]

/-- What a call of a tracker does is replayed before what follows, unless the
clock stops the call. -/
theorem perform {call : Tracker.Call} {clock : κ}
    (unstopped : (tracker.perform call clock).result ≠ .error .clockFailure)
    (replays : Replays (tracker.perform call clock).state rest later) :
    Replays tracker
      ({ call
         reading := (Clock.read clock).1
         result := (tracker.perform call clock).result.map .called } :: rest) later := by
  rcases tracker.refused_or_absorbed_or_entering call with
    ⟨rejection, refused⟩ | ⟨granted, terminal⟩ | ⟨granted, moving⟩
  · rw [Tracker.perform_of_refused refused] at replays ⊢
    have unapplied : ∀ reading, Exchange.applied
        ⟨call, reading, (call.refused rejection).map .called⟩ = false := by
      cases call <;> exact fun _ => rfl
    exact replays.skip (unapplied _) (Exchange.effectiveFrom_cons_of_refused refused _) rfl rfl
  · rw [Tracker.perform_of_absorbed granted terminal] at replays ⊢
    have terminalLater : (tracker.signalled call).status.isTerminal = true := by
      rw [Tracker.signalled_status, terminal]
    apply replays.skip rfl
    · rw [Exchange.effectiveFrom_of_terminal terminal,
        Exchange.effectiveFrom_of_terminal terminalLater]
    · exact tracker.signalled_status call
    · exact tracker.signalled_enteredAt call
  · have completion := tracker.completion_perform call clock
    rw [Tracker.perform_of_entering granted moving] at unstopped replays completion ⊢
    obtain ⟨time, reading⟩ : ∃ time, (Clock.read clock).1 = some time := by
      cases reading : (Clock.read clock).1 with
      | none =>
          rw [reading] at unstopped
          exact absurd rfl unstopped
      | some time => exact ⟨time, rfl⟩
    refine replays.enter ?_ ?_ reading ?_ ?_
    · simp [Exchange.applied, reading, Tracker.entryResult, Except.map]
    · exact Exchange.effectiveFrom_cons_of_entering granted moving _
        (Tracker.entered_status _ _ _) completion
    · exact Tracker.entered_status _ _ _
    · rw [reading, Tracker.entered, Tracker.signalled_enteredAt]

end Replays

/-- A run replays its history, unless the clock stops one of its calls. -/
theorem replays_run {subject : Subject} {tracker : Tracker}
    (own : subject.tracker? = some tracker) {acts : List (Act κ)} {clock : κ}
    (unstopped : ∀ outcome ∈ (subject.run acts clock).trace,
      outcome.result ≠ .error .clockFailure) :
    ∃ later, (subject.run acts clock).state.tracker? = some later ∧
      Replays tracker (subject.history acts clock) later := by
  induction acts generalizing subject tracker clock with
  | nil => exact ⟨tracker, own, .nil tracker⟩
  | cons act rest ih =>
      have next := tracker?_perform own act clock
      obtain ⟨later, reached, replays⟩ :=
        ih next fun outcome member => unstopped outcome (List.mem_cons_of_mem _ member)
      refine ⟨later, reached, ?_⟩
      have actUnstopped := unstopped _ List.mem_cons_self
      cases calls : subject.callOf act with
      | none =>
          simp only [history, calls]
          simpa [calls] using replays
      | some call =>
          have result_eq := (perform_carries calls own clock).result_eq
          rw [calls, Option.elim_some] at replays
          simp only [history, calls, result_eq]
          apply replays.perform
          intro stopped
          rw [result_eq, stopped] at actUnstopped
          exact actUnstopped rfl

/-- **A tracker is the replay of its history.**  Take a tracker that was started
when the clock showed `now`, and a run in which the clock stops no call.  The
calls that were told of a move are those that are left when every completing
call but the first is dropped and nothing is kept after the first terminal
target.  The status is the target of the last of them.  Exactly the initial
status and their targets are stamped, and the stamp of a status, which is zero
if there is none, is what the clock showed at the last entry. -/
theorem tracker_replays_history {origin : κ} {initial : Tracker}
    (started : (Tracker.start origin).1 = .ok initial) {subject : Subject}
    (own : subject.tracker? = some initial) {acts : List (Act κ)} {clock : κ}
    (unstopped : ∀ outcome ∈ (subject.run acts clock).trace,
      outcome.result ≠ .error .clockFailure) :
    let history := subject.history acts clock
    let effective := Exchange.untilTerminal (Exchange.dropRepeats history)
    let targets := effective.map fun exchange => exchange.call.target
    ∃ now tracker, (Clock.read origin).1 = some now ∧
      (subject.run acts clock).state.tracker? = some tracker ∧
      history.filter Exchange.applied = effective ∧
      tracker.status = targets.getLast?.getD .initial ∧
      (∀ status, (tracker.enteredAt.get? status).isSome = true ↔
        status = .initial ∨ status ∈ targets) ∧
      let entries := (.initial, now) :: effective.filterMap Exchange.entry?
      entries.map Prod.fst = .initial :: targets ∧
      ∀ status, tracker.enteredAt.get? status = entries.reverse.lookup status ∧
        tracker.stamp status = (entries.reverse.lookup status).getD 0 := by
  intro history effective targets
  obtain ⟨now, read, rfl⟩ := (Tracker.start_eq_ok_iff _ _).mp started
  obtain ⟨tracker, reached, applied, status_eq, timed, enteredAt⟩ := replays_run own unstopped
  have effective_eq : Exchange.effectiveFrom (.started now) history = effective := rfl
  rw [effective_eq] at applied status_eq timed enteredAt
  have stamps_eq : tracker.enteredAt =
      .ofList ((.initial, now) :: effective.filterMap Exchange.entry?) := enteredAt
  have keys : ((Status.initial, now) :: effective.filterMap Exchange.entry?).map Prod.fst =
      .initial :: targets := by
    rw [List.map_cons, timed]
  refine ⟨now, tracker, read, reached, applied, status_eq, ?_, keys, ?_⟩
  · intro status
    rw [stamps_eq, Stamps.get?_ofList, ← List.mem_cons, ← keys]
    simp only [List.lookup_isSome_iff, List.mem_reverse, beq_iff_eq, List.mem_map,
      eq_comm (a := status)]
  · intro status
    rw [Tracker.stamp, stamps_eq, Stamps.get?_ofList, Tracker.unset]
    exact ⟨rfl, rfl⟩

/-- The clock goes back before a status is entered again, a completion with a
status that is not terminal is followed by one that is refused, and requests
after the end are absorbed: only the last entries are stamped. -/
theorem tracker_replays_history_despite_detours :
    let subject := tracker (.started 1000)
    let acts : List (Act ManualClock) :=
      [.track (.request .running), .elapse (·.advance (-500)), .track (.request .running),
        .track (.tryComplete .restarting), .elapse (·.advance 100), .track (.complete .failed),
        .track (.request .running), .track (.request .finished), .elapse (·.advance 100),
        .track (.request .running), .track (.tryComplete .canceled)]
    (∀ outcome ∈ (subject.run acts (.starting 1000)).trace,
      outcome.result ≠ .error .clockFailure) ∧
    ∃ later, (subject.run acts (.starting 1000)).state.tracker? = some later ∧
      later.status = .finished ∧ later.stamp .initializing = 1000 ∧ later.stamp .running = 600 ∧
      later.stamp .restarting = 500 ∧ later.stamp .failed = 0 := by
  intro subject acts
  have unstopped : ∀ outcome ∈ (subject.run acts (.starting 1000)).trace,
      outcome.result ≠ .error .clockFailure := by
    have results : (subject.run acts (.starting 1000)).trace.map Outcome.result =
        [.ok (.called (.ok true)), .ok (.told .done), .ok (.called (.ok true)),
          .ok (.called (.ok true)), .ok (.told .done),
          .error (.secondCompletion ⟨.restarting, .failed⟩), .ok (.called (.ok true)),
          .ok (.called (.ok true)), .ok (.told .done), .ok (.called (.ok false)),
          .ok (.called (.error ⟨.restarting, .canceled⟩))] := rfl
    intro outcome member stopped
    have there := List.mem_map_of_mem (f := Outcome.result) member
    rw [results, stopped] at there
    simp at there
  have started : (Tracker.start (ManualClock.starting 1000)).1 = .ok (.started 1000) := rfl
  have own : subject.tracker? = some (.started 1000) := rfl
  obtain ⟨now, later, read, reached, _, status_eq, _, _, stamps⟩ :=
    tracker_replays_history started own unstopped
  cases read
  refine ⟨unstopped, later, reached, status_eq.trans rfl, ?_, ?_, ?_, ?_⟩
  · exact (stamps .initializing).2.trans (by decide)
  · exact (stamps .running).2.trans (by decide)
  · exact (stamps .restarting).2.trans (by decide)
  · exact (stamps .failed).2.trans (by decide)

end Subject

end JobLedger
