import JobLedger.Proofs.Session.Waiters
import JobLedger.Proofs.Subject.Absorption
import JobLedger.Proofs.Subject.Coherence

/-!
# When completion and status agree

Completion is resolved and a move is requested by one call, but each is guarded
on its own: completion by itself, the move by the status.  A completion with a
terminal status ends the job in any case; whether it ends in that status depends
on what the status was at the moment at which completion was resolved.  A
completion with another status is kept while the job moves on.
-/

namespace JobLedger

namespace Subject

variable {κ : Type} [Clock κ]

/-- After some acts of a run the tracker is `earlier` and open; the next act
resolves its completion and leaves `resolved`. -/
structure Resolves (subject : Subject) (clock : κ) (before : List (Act κ)) (act : Act κ)
    (final : Status) (earlier resolved : Tracker) : Prop where
  earlier_own : (subject.run before clock).state.tracker? = some earlier
  unresolved : earlier.completion = none
  completes : subject.final? act = some final
  resolved_own : (subject.run (before ++ [act]) clock).state.tracker? = some resolved
  completion_eq : resolved.completion = some final
  status_eq : resolved.status = if earlier.status.isTerminal then earlier.status else final

/-- Wherever completion is resolved, one act of the run has resolved it. -/
theorem exists_resolves {subject : Subject} {start : Tracker}
    (own : subject.tracker? = some start) (fresh : start.completion = none)
    {acts : List (Act κ)} {clock : κ} {tracker : Tracker}
    (reached : (subject.run acts clock).state.tracker? = some tracker) {final : Status}
    (completed : tracker.completion = some final) :
    ∃ before act after earlier resolved, acts = before ++ act :: after ∧
      subject.Resolves clock before act final earlier resolved := by
  obtain ⟨same, sameReached, completion_eq⟩ := completion_run own acts clock
  obtain rfl : tracker = same := Option.some.inj (reached.symm.trans sameReached)
  rw [fresh, Option.none_or, completed, List.head?_filterMap, eq_comm,
    List.findSome?_eq_some_iff] at completion_eq
  obtain ⟨before, act, after, rfl, completes, notYet⟩ := completion_eq
  obtain ⟨earlier, earlierOwn, earlierCompletion⟩ := completion_run own before clock
  have unresolved : earlier.completion = none := by
    rw [earlierCompletion, fresh, Option.none_or, List.head?_filterMap,
      List.findSome?_eq_none_iff]
    exact notYet
  obtain ⟨call, calls, callFinal⟩ := Option.bind_eq_some_iff.mp completes
  have granted := Tracker.refusal?_of_unresolved unresolved call
  have resolvedOwn : (subject.run (before ++ [act]) clock).state.tracker? =
      some (earlier.perform call (subject.run before clock).clock).state := by
    rw [run_append]
    simp only [run]
    rw [tracker?_perform earlierOwn, callOf_run, calls, Option.elim_some]
  refine ⟨before, act, after, earlier, _, rfl, earlierOwn, unresolved, completes, resolvedOwn,
    ?_, ?_⟩
  · rw [Tracker.completion_perform, unresolved, callFinal, Option.none_or]
  · rw [Tracker.status_perform_of_granted granted, Tracker.Call.target_of_final? callFinal]

namespace Resolves

variable {subject : Subject} {clock : κ} {before : List (Act κ)} {act : Act κ} {final : Status}
  {earlier resolved : Tracker}

/-- The status is the completion right after it was resolved exactly if it was
free to move, or there already. -/
theorem status_eq_iff (resolves : subject.Resolves clock before act final earlier resolved) :
    resolved.status = final ↔ earlier.status.isTerminal = false ∨ earlier.status = final := by
  rw [resolves.status_eq]
  cases earlier.status.isTerminal <;> simp

/-- A terminal completion ends the job, in whichever status. -/
theorem terminal (resolves : subject.Resolves clock before act final earlier resolved)
    (ends : final.isTerminal = true) : resolved.status.isTerminal = true := by
  rw [resolves.status_eq]
  split
  · next stuck => exact stuck
  · exact ends

/-- While a run enters no terminal status, the status stays free to move. -/
theorem moving (resolves : subject.Resolves clock before act final earlier resolved)
    {start : Tracker} (own : subject.tracker? = some start)
    (startMoving : start.status.isTerminal = false)
    (enters : ∀ status ∈ (subject.run before clock).entered, status.isTerminal = false) :
    earlier.status.isTerminal = false := by
  obtain ⟨same, sameOwn, _, status⟩ := shown_run own before clock
  obtain rfl : earlier = same := Option.some.inj (resolves.earlier_own.symm.trans sameOwn)
  rcases status with unchanged | entered
  · rw [unchanged, startMoving]
  · exact enters _ entered

/-- Completion stays as it was resolved, and that is what waiters see, whatever
follows. -/
theorem completion_later (resolves : subject.Resolves clock before act final earlier resolved)
    {start : Tracker} (own : subject.tracker? = some start)
    (agree : start.signal = start.completion) (after : List (Act κ)) :
    ∃ later, (subject.run (before ++ act :: after) clock).state.tracker? = some later ∧
      later.completion = some final ∧ later.signal = some final := by
  obtain ⟨later, laterOwn, laterAgree⟩ :=
    run_invariant (P := fun tracker => tracker.signal = tracker.completion)
      (fun _ call moment agree => Tracker.signal_perform agree call moment) own agree
      (before ++ act :: after) clock
  obtain ⟨same, sameOwn, completion_eq⟩ := completion_run resolves.resolved_own after
    (subject.run (before ++ [act]) clock).clock
  rw [List.append_cons, run_append] at laterOwn ⊢
  obtain rfl : later = same := Option.some.inj (laterOwn.symm.trans sameOwn)
  have completed : later.completion = some final := by
    rw [completion_eq, resolves.completion_eq, Option.some_or]
  exact ⟨later, laterOwn, completed, laterAgree.trans completed⟩

/-- If completion is terminal, nothing that follows changes status or stamps. -/
theorem frozen_later (resolves : subject.Resolves clock before act final earlier resolved)
    (ends : final.isTerminal = true) (after : List (Act κ)) :
    ∃ later, (subject.run (before ++ act :: after) clock).state.tracker? = some later ∧
      later.status = resolved.status ∧ later.enteredAt = resolved.enteredAt := by
  obtain ⟨later, laterOwn, same⟩ := run_of_terminal resolves.resolved_own (resolves.terminal ends)
    after (subject.run (before ++ [act]) clock).clock
  refine ⟨later, ?_, same⟩
  rw [List.append_cons, run_append]
  exact laterOwn

end Resolves

/-- A request for a status takes a tracker there that is free to move. -/
theorem request_of_moving {subject : Subject} {tracker : Tracker}
    (own : subject.tracker? = some tracker) (moving : tracker.status.isTerminal = false)
    (target : Status) (moment : κ) :
    ∃ next, (subject.perform (.track (.request target)) moment).state.tracker? = some next ∧
      next.status = target ∧ next.completion = tracker.completion := by
  have calls : subject.callOf (.track (.request target) : Act κ) = some (.request target) := by
    cases subject with
    | registry _ => contradiction
    | tracker _ => rfl
    | job _ => rfl
  have granted : tracker.refusal? (.request target) = none := rfl
  rw [tracker?_perform own, calls, Option.elim_some]
  refine ⟨_, rfl, ?_, ?_⟩
  · rw [Tracker.status_perform_of_granted granted, moving]
    rfl
  · rw [Tracker.completion_perform, Tracker.Call.final?, Option.or_none]

/-- **When completion and status agree.**  If completion is there in a run from
a new subject, one act of the run has resolved it.  If it is terminal, the
status is terminal too and stays as it is with its stamps; it is the completion
exactly if it was free to move, or there already, when completion was resolved.
So if no terminal status was entered before, the signal is the status, and
whoever waits for completion is given it, whenever he looks: awaiters end with
it, and the action of a hook is called with it.  If completion is not terminal,
the status was the completion right after it was resolved, if it was free to
move; completion stays, and as long as the status is not terminal a request
leads to any status. -/
theorem completion_and_status_agree {subject : Subject} (made : subject.Made)
    {acts : List (Act κ)} {clock : κ} {tracker : Tracker}
    (reached : (subject.run acts clock).state.tracker? = some tracker) {final : Status}
    (completed : tracker.completion = some final) :
    ∃ before act after earlier resolved, acts = before ++ act :: after ∧
      subject.Resolves clock before act final earlier resolved ∧
      (final.isTerminal = true →
        tracker.status.isTerminal = true ∧
        (tracker.status = final ↔ earlier.status.isTerminal = false ∨ earlier.status = final) ∧
        ∀ more, ∃ later, (subject.run (acts ++ more) clock).state.tracker? = some later ∧
          later.status = tracker.status ∧ later.enteredAt = tracker.enteredAt ∧
          ((∀ status ∈ (subject.run before clock).entered, status.isTerminal = false) →
            later.signal = some later.status ∧
            ∀ (wait : Wait) (cancelled : Bool), wait ≠ .cancel → ∃ ending,
              wait.poll later.signal cancelled = some (ending, wait.endLog ending) ∧
              wait.EndsCompleted later.status ending ∧ ending.calls = [later.status])) ∧
      (final.isTerminal = false →
        (earlier.status.isTerminal = false → resolved.status = final) ∧
        ∀ more, ∃ later, (subject.run (acts ++ more) clock).state.tracker? = some later ∧
          later.completion = some final ∧
          (later.status.isTerminal = false → ∀ (target : Status) (moment : κ), ∃ next,
            ((subject.run (acts ++ more) clock).state.perform
              (.track (.request target)) moment).state.tracker? = some next ∧
            next.status = target ∧ next.completion = some final)) := by
  obtain ⟨now, own⟩ := made.tracker?_eq
  obtain ⟨before, act, after, earlier, resolved, rfl, resolves⟩ :=
    exists_resolves own rfl reached completed
  refine ⟨before, act, after, earlier, resolved, rfl, resolves, ?_, ?_⟩
  · intro ends
    obtain ⟨same, sameReached, status_eq, enteredAt_eq⟩ := resolves.frozen_later ends after
    obtain rfl : tracker = same := Option.some.inj (reached.symm.trans sameReached)
    refine ⟨?_, ?_, ?_⟩
    · rw [status_eq, resolves.terminal ends]
    · rw [status_eq, resolves.status_eq_iff]
    · intro more
      obtain ⟨later, laterOwn, laterStatus, laterStamps⟩ :=
        resolves.frozen_later ends (after ++ more)
      obtain ⟨same, sameOwn, _, signal_is⟩ := resolves.completion_later own rfl (after ++ more)
      obtain rfl : later = same := Option.some.inj (laterOwn.symm.trans sameOwn)
      rw [← List.cons_append, ← List.append_assoc] at laterOwn
      refine ⟨later, laterOwn, laterStatus.trans status_eq.symm,
        laterStamps.trans enteredAt_eq.symm, ?_⟩
      intro enters
      have status_is : later.status = final := by
        rw [laterStatus, resolves.status_eq_iff]
        exact .inl (resolves.moving own rfl enters)
      rw [signal_is, status_is]
      refine ⟨rfl, ?_⟩
      intro wait cancelled awaits
      obtain ⟨ending, polls, ends⟩ := Wait.poll_completed awaits final cancelled
      exact ⟨ending, polls, ends, ends.calls_eq⟩
  · intro goesOn
    constructor
    · intro moving
      exact resolves.status_eq_iff.mpr (.inl moving)
    · intro more
      obtain ⟨later, laterOwn, laterCompletion, _⟩ :=
        resolves.completion_later own rfl (after ++ more)
      rw [← List.cons_append, ← List.append_assoc] at laterOwn
      refine ⟨later, laterOwn, laterCompletion, ?_⟩
      intro moving target moment
      obtain ⟨next, nextOwn, status_eq, completion_eq⟩ :=
        request_of_moving laterOwn moving target moment
      exact ⟨next, nextOwn, status_eq, completion_eq.trans laterCompletion⟩

/-- A job is cancelled and terminates while its clock fails: the hook is given
the status that the job has, although that has no stamp, and keeps. -/
theorem completion_and_status_agree_despite_fault :
    let owner : Job :=
      { id := ⟨"job-1"⟩, name := "word-count", kind := .batch, tracker := .started 100
        registry := .empty }
    let acts : List (Act ManualClock) :=
      [.drive .cancel, .elapse ManualClock.failNext, .drive (.terminate .canceled)]
    let more : List (Act ManualClock) := [.drive .run, .track (.tryComplete .failed)]
    let hook : Wait := .hook owner.id none
    (job owner).Made ∧
      (∃ tracker, ((job owner).run acts (.starting 100)).state.tracker? = some tracker ∧
        tracker.completion = some .canceled) ∧
      ∃ later, ((job owner).run (acts ++ more) (.starting 100)).state.tracker? = some later ∧
        later.status = .canceled ∧ later.signal = some .canceled ∧
        hook.poll later.signal true =
          some (.completed .canceled, [.hookRunning owner.id .canceled]) := by
  intro owner acts more hook
  have made : (job owner).Made :=
    @Made.job ManualClock _ ⟨"word-count", .batch⟩ ⟨"job-1"⟩ (.starting 100) owner rfl
  let reached : Tracker :=
    { Tracker.started 100 with
      status := .canceled, completion := some .canceled, signal := some .canceled
      enteredAt := (Tracker.started 100).enteredAt.insert .cancelling 100 }
  have reachedBy : ((job owner).run acts (.starting 100)).state.tracker? = some reached := rfl
  obtain ⟨before, act, after, earlier, resolved, split, resolves, terminal, _⟩ :=
    completion_and_status_agree made reachedBy rfl
  obtain ⟨later, laterOwn, status_eq, _, delivers⟩ := (terminal rfl).2.2 more
  have enters : ∀ status ∈ ((job owner).run before (.starting 100)).entered,
      status.isTerminal = false := by
    -- Only the last of the three acts completes the job.
    have completes := resolves.completes
    change [Act.drive .cancel, .elapse ManualClock.failNext, .drive (.terminate .canceled)] =
      before ++ act :: after at split
    rcases before with _ | ⟨_, _ | ⟨_, _ | ⟨_, rest⟩⟩⟩
    · cases split
      cases completes
    · cases split
      cases completes
    · cases split
      intro status entered
      cases List.mem_singleton.mp entered
      rfl
    · simp at split
  obtain ⟨signalled, given⟩ := delivers enters
  obtain ⟨ending, polls, ends, _⟩ := given (.hook owner.id none) true fun same => by cases same
  cases ends
  rw [status_eq] at signalled polls
  exact ⟨made, ⟨reached, reachedBy, rfl⟩, later, laterOwn, status_eq, signalled, polls⟩

end Subject

end JobLedger
