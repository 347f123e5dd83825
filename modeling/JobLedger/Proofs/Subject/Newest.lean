import JobLedger.Proofs.Clock.Manual
import JobLedger.Proofs.Job.Creation
import JobLedger.Proofs.Subject.PointInTime
import JobLedger.Proofs.Subject.Readings

/-!
# The newest stamp

If the readings of a run succeed and never go back, the present status carries
the newest stamp: it was stamped with the last reading that the run took.  That
holds through statuses that are entered again, whose older stamps are replaced.
The stamp stays until the next status is entered, however far the clock moves
meanwhile, and whatever is absorbed or refused.

A manual clock that is moved forward only, and not beyond what 64 bits hold,
gives such readings.
-/

namespace JobLedger

namespace Tracker

variable {κ : Type} [Clock κ]

/-- The present status was stamped at `latest`, and no status after that. -/
structure Newest (tracker : Tracker) (latest : Int64) : Prop where
  current : tracker.enteredAt.get? tracker.status = some latest
  le : ∀ status time, tracker.enteredAt.get? status = some time → time ≤ latest

/-- A new tracker has one stamp only. -/
theorem newest_started (now : Int64) : (started now).Newest now := by
  constructor
  · simp [started, Stamps.get?_insert]
  · intro status time stamped
    rw [started, Stamps.get?_insert] at stamped
    split at stamped
    · cases stamped
      exact Int64.le_refl now
    · simp at stamped

/-- A call that ends without a failure of the clock keeps the newest stamp with
the present status, if it reads no earlier time. -/
theorem Newest.perform {tracker : Tracker} {latest : Int64} (newest : tracker.Newest latest)
    {call : Call} {clock : κ}
    (unstopped : (tracker.perform call clock).result ≠ .error .clockFailure)
    (forward : ∀ time ∈ tracker.reading? call clock, latest ≤ time) :
    (tracker.perform call clock).state.Newest ((tracker.reading? call clock).getD latest) := by
  have read_eq := tracker.reading?_eq call clock
  rcases tracker.refused_or_absorbed_or_entering call with
    ⟨rejection, refused⟩ | ⟨granted, terminal⟩ | ⟨granted, moving⟩
  · rw [if_neg (by simp [refused])] at read_eq
    rw [read_eq, perform_of_refused refused]
    exact newest
  · rw [if_neg (by simp [terminal])] at read_eq
    rw [read_eq, perform_of_absorbed granted terminal]
    constructor
    · simpa using newest.current
    · simpa using newest.le
  · rw [if_pos ⟨granted, moving⟩] at read_eq
    rw [perform_of_entering granted moving] at unstopped ⊢
    cases reading : (Clock.read clock).1 with
    | none =>
        rw [reading] at unstopped
        exact absurd rfl unstopped
    | some now =>
        rw [reading] at read_eq
        have later : latest ≤ now := forward now read_eq
        rw [read_eq]
        constructor
        · simp [entered, Stamps.get?_insert]
        · intro status time stamped
          simp only [entered, signalled_enteredAt, Stamps.get?_insert] at stamped
          split at stamped
          · cases stamped
            exact Int64.le_refl now
          · exact Int64.le_trans (newest.le status time stamped) later

/-- A clock that works stops no call. -/
theorem unstopped_perform (tracker : Tracker) (call : Call) {clock : κ} {now : Int64}
    (works : (Clock.read clock).1 = some now) :
    (tracker.perform call clock).result ≠ .error .clockFailure := by
  rcases tracker.refused_or_absorbed_or_entering call with
    ⟨rejection, refused⟩ | ⟨granted, terminal⟩ | ⟨granted, moving⟩
  · rw [perform_of_refused refused]
    cases call <;> simp [Call.refused]
  · rw [perform_of_absorbed granted terminal]
    simp
  · rw [perform_of_entering granted moving, works]
    simp [entryResult]

end Tracker

namespace Subject

variable {κ : Type} [Clock κ]

/-! ## What a run keeps -/

/-- An act that reads the clock successfully, if it reads it at all, keeps the
newest stamp with the present status. -/
theorem newest_act {subject : Subject} {tracker : Tracker}
    (own : subject.tracker? = some tracker) {latest : Int64} (newest : tracker.Newest latest)
    {act : Act κ} {clock : κ}
    (unstopped : (subject.perform act clock).result ≠ .error .clockFailure)
    (forward : ∀ time ∈ subject.reading? act clock, latest ≤ time) :
    ∃ later, (subject.perform act clock).state.tracker? = some later ∧
      later.Newest ((subject.reading? act clock).getD latest) := by
  rw [reading?_eq own] at forward ⊢
  rw [tracker?_perform own]
  cases calls : subject.callOf act with
  | none => exact ⟨tracker, rfl, newest⟩
  | some call =>
      rw [calls] at forward
      refine ⟨_, rfl, newest.perform ?_ forward⟩
      intro stopped
      rw [(perform_carries calls own clock).result_eq, stopped] at unstopped
      exact unstopped rfl

/-- A run whose readings succeed and never go back keeps the newest stamp with
the present status: it is the last of the readings. -/
theorem newest_run {subject : Subject} {tracker : Tracker}
    (own : subject.tracker? = some tracker) {latest : Int64} (newest : tracker.Newest latest)
    {acts : List (Act κ)} {clock : κ}
    (unstopped : ∀ outcome ∈ (subject.run acts clock).trace,
      outcome.result ≠ .error .clockFailure)
    (ordered : (latest :: subject.readings acts clock).Pairwise (· ≤ ·)) :
    ∃ later, (subject.run acts clock).state.tracker? = some later ∧
      later.Newest ((subject.readings acts clock).getLastD latest) := by
  induction acts generalizing subject tracker latest clock with
  | nil => exact ⟨tracker, own, newest⟩
  | cons act rest ih =>
      rw [readings] at ordered ⊢
      have first : ∀ time ∈ subject.reading? act clock, latest ≤ time := fun time read =>
        List.rel_of_pairwise_cons ordered (List.mem_append_left _ (Option.mem_toList.mpr read))
      rcases newest_act own newest (unstopped _ List.mem_cons_self) first with
        ⟨next, nextOwn, nextNewest⟩
      have others := fun outcome member => unstopped outcome (List.mem_cons_of_mem _ member)
      cases read : subject.reading? act clock with
      | none =>
          rw [read] at ordered nextNewest
          exact ih nextOwn nextNewest others ordered
      | some time =>
          rw [read] at ordered nextNewest
          have later := ih nextOwn nextNewest others (List.pairwise_cons.mp ordered).2
          rwa [Option.toList_some, List.singleton_append, List.getLastD_cons]

/-- A clock that works stops no act. -/
theorem unstopped_act {subject : Subject} {tracker : Tracker}
    (own : subject.tracker? = some tracker) {act : Act κ} {clock : κ} {now : Int64}
    (works : (Clock.read clock).1 = some now) :
    (subject.perform act clock).result ≠ .error .clockFailure := by
  cases calls : subject.callOf act with
  | some call =>
      have unstopped := tracker.unstopped_perform call works
      rw [(perform_carries calls own clock).result_eq]
      cases result : (tracker.perform call clock).result with
      | ok answer => simp [Except.map]
      | error fault =>
          rw [result] at unstopped
          simpa [Except.map] using unstopped
  | none =>
      cases act with
      | elapse change => simp [perform, tell]
      | ask question => simp [perform, tell]
      | track call => cases subject <;> contradiction
      | drive call => cases subject <;> first | contradiction | simp [perform, tell]
      | register attempt => cases subject <;> simp [perform, tell]

/-- Acts that enter no status leave the present one and all stamps as they are. -/
theorem view_run_of_entered_eq_nil {subject : Subject} {tracker : Tracker}
    (own : subject.tracker? = some tracker) {acts : List (Act κ)} {clock : κ}
    (silent : (subject.run acts clock).entered = []) :
    ∃ later, (subject.run acts clock).state.tracker? = some later ∧
      later.view = tracker.view := by
  induction acts generalizing subject tracker clock with
  | nil => exact ⟨tracker, own, rfl⟩
  | cons act rest ih =>
      rw [entered_run_cons, List.append_eq_nil_iff, entered_perform own] at silent
      have next := tracker?_perform own act clock
      rcases ih next silent.2 with ⟨later, reached, same⟩
      refine ⟨later, reached, same.trans ?_⟩
      cases calls : subject.callOf act with
      | none => rfl
      | some call =>
          rw [calls] at silent
          exact Tracker.view_perform_of_entered_eq_nil silent.1

/-! ## Runs on a manual clock -/

/-- The acts in which the clock is moved by certain spans, in this order, and
changed in no other way. -/
inductive Elapses : List (Act ManualClock) → List Int64 → Prop
  | nil : Elapses [] []
  | advance (span : Int64) {acts : List (Act ManualClock)} {spans : List Int64}
      (later : Elapses acts spans) :
      Elapses (.elapse (·.advance span) :: acts) (span :: spans)
  | other {act : Act ManualClock} {acts : List (Act ManualClock)} {spans : List Int64}
      (still : ∀ change, act ≠ .elapse change) (later : Elapses acts spans) :
      Elapses (act :: acts) spans

/-- A working clock is left as it is, unless the clock is what an act changes. -/
theorem clock_perform_of_working {subject : Subject} {tracker : Tracker}
    (own : subject.tracker? = some tracker) {clock : ManualClock}
    (working : clock.broken = false) {act : Act ManualClock}
    (still : ∀ change, act ≠ .elapse change) : (subject.perform act clock).clock = clock := by
  cases calls : subject.callOf act with
  | some call =>
      rw [(perform_carries calls own clock).clock_eq, Tracker.clock_perform,
        ManualClock.read_of_working working]
      split <;> rfl
  | none =>
      cases act with
      | elapse change => exact absurd rfl (still change)
      | ask question => rfl
      | track call => cases subject <;> contradiction
      | drive call => cases subject <;> first | contradiction | rfl
      | register attempt => cases subject <;> rfl

/-- What is read off a working clock is the time that it shows. -/
theorem reading?_of_working (subject : Subject) (act : Act ManualClock) {clock : ManualClock}
    (working : clock.broken = false) :
    subject.reading? act clock = none ∨ subject.reading? act clock = some clock.now := by
  rw [reading?, ManualClock.read_of_working working]
  split
  · exact .inl rfl
  · exact .inr rfl

/-- On a working clock that is only moved, no act is stopped by the clock. -/
theorem unstopped_of_elapses {acts : List (Act ManualClock)} {spans : List Int64}
    (elapses : Elapses acts spans) {subject : Subject} {tracker : Tracker}
    (own : subject.tracker? = some tracker) {clock : ManualClock}
    (working : clock.broken = false) :
    ∀ outcome ∈ (subject.run acts clock).trace, outcome.result ≠ .error .clockFailure := by
  induction elapses generalizing subject tracker clock with
  | nil => simp [run]
  | @advance span acts spans _ ih =>
      have works := congrArg Prod.fst (ManualClock.read_of_working working)
      rw [run, List.forall_mem_cons]
      constructor
      · exact unstopped_act own works
      · have moved : (clock.advance span).broken = false := working
        exact ih own moved
  | @other act acts spans still _ ih =>
      have works := congrArg Prod.fst (ManualClock.read_of_working working)
      rw [run, List.forall_mem_cons]
      constructor
      · exact unstopped_act own works
      · rw [clock_perform_of_working own working still]
        exact ih (tracker?_perform own act clock) working

/-- On a working clock that is moved forward only, and not too far, no reading
is before the time at the start or before an earlier reading. -/
theorem readings_of_elapses {acts : List (Act ManualClock)} {spans : List Int64}
    (elapses : Elapses acts spans) {subject : Subject} {tracker : Tracker}
    (own : subject.tracker? = some tracker) {clock : ManualClock}
    (working : clock.broken = false) (forward : ManualClock.Forward spans)
    (reaches : clock.Reaches spans) :
    (clock.now :: subject.readings acts clock).Pairwise (· ≤ ·) := by
  induction elapses generalizing subject tracker clock with
  | nil => simp [readings]
  | @advance span acts spans _ ih =>
      have unread : subject.reading? (.elapse (·.advance span)) clock = none := by
        rw [reading?_eq own]
        cases subject <;> rfl
      rcases List.forall_mem_cons.mp forward with ⟨positive, onwards⟩
      have first : ManualClock.Forward [span] := List.forall_mem_singleton.mpr positive
      have along : clock.Reaches ([span] ++ spans) := reaches
      have way := along.of_append forward
      have onward : clock.now ≤ (clock.advance span).now :=
        @ManualClock.now_le_now_advanceBy clock [span] first way.1
      have moved : (clock.advance span).broken = false := working
      have others := ih own moved onwards way.2
      rw [readings, unread]
      rcases List.pairwise_cons.mp others with ⟨least, ordered⟩
      apply List.pairwise_cons.mpr
      exact ⟨fun time read => Int64.le_trans onward (least time read), ordered⟩
  | @other act acts spans still _ ih =>
      have others := ih (tracker?_perform own act clock) working forward reaches
      rw [readings, clock_perform_of_working own working still]
      rcases subject.reading?_of_working act working with unread | read
      · rwa [unread]
      · rw [read]
        apply List.pairwise_cons.mpr
        refine ⟨fun time member => ?_, others⟩
        rcases List.mem_cons.mp member with rfl | later
        · exact Int64.le_refl _
        · exact List.rel_of_pairwise_cons others later

/-! ## The theorem -/

/-- **The present status carries the newest stamp.**  In a run from a new
subject in which no reading of the clock fails or goes back, the present status
was stamped with the last reading, or with the time of the creation if there was
none since, and no stamp is newer.  This stamp stays as long as no other status
is entered, whatever else is done and however the clock moves.

A manual clock shows the time at which it started plus all the spans by which it
was moved, wrapped around at 64 bits, in whatever order.  If it is moved forward
only and what it comes to fits, it never goes back, no run on it is stopped by
it, and the readings of a run never go back. -/
theorem present_stamp_is_newest :
    (∀ subject : Subject, subject.Made → ∃ now, subject.tracker? = some (.started now) ∧
      ∀ {κ : Type} [Clock κ] (acts : List (Act κ)) (clock : κ),
        let reached := subject.run acts clock
        (∀ outcome ∈ reached.trace, outcome.result ≠ .error .clockFailure) →
        (now :: subject.readings acts clock).Pairwise (· ≤ ·) →
        ∃ tracker newest, reached.state.tracker? = some tracker ∧
          newest = (subject.readings acts clock).getLastD now ∧
          tracker.enteredAt.get? tracker.status = some newest ∧
          (∀ status time, tracker.enteredAt.get? status = some time → time ≤ newest) ∧
          ∀ later : List (Act κ), (reached.state.run later reached.clock).entered = [] →
            ∃ same, (subject.run (acts ++ later) clock).state.tracker? = some same ∧
              same.status = tracker.status ∧ same.enteredAt = tracker.enteredAt) ∧
    ∀ (start : Int64) (spans : List Int64),
      let clock := ManualClock.starting start
      let total := start.toInt + ManualClock.distance spans
      ((Clock.read (clock.advanceBy spans)).1 = some (.ofInt total) ∧
        (Int64.ofInt total).toInt = total.bmod UInt64.size) ∧
      (∀ others, spans.Perm others → clock.advanceBy others = clock.advanceBy spans) ∧
      ((∀ span ∈ spans, 0 ≤ span) → total ≤ Int64.maxValue.toInt →
        (∀ earlier later, earlier <+: later → later <+: spans →
          (clock.advanceBy earlier).now ≤ (clock.advanceBy later).now) ∧
        ∀ subject : Subject, subject.tracker? = some (.started start) →
          ∀ acts, Elapses acts spans →
            (∀ outcome ∈ (subject.run acts clock).trace,
              outcome.result ≠ .error .clockFailure) ∧
            (start :: subject.readings acts clock).Pairwise (· ≤ ·)) := by
  constructor
  · intro subject made
    rcases made.tracker?_eq with ⟨now, own⟩
    refine ⟨now, own, ?_⟩
    intro κ _ acts clock reached unstopped ordered
    rcases newest_run own (Tracker.newest_started now) unstopped ordered with
      ⟨tracker, there, newest⟩
    refine ⟨tracker, _, there, rfl, newest.current, newest.le, ?_⟩
    intro later silent
    rcases view_run_of_entered_eq_nil there silent with ⟨same, reachedAgain, view_eq⟩
    rw [run_append]
    exact ⟨same, reachedAgain, congrArg Prod.fst view_eq, congrArg Prod.snd view_eq⟩
  · intro start spans clock total
    have working : clock.broken = false := rfl
    refine ⟨⟨?_, Int64.toInt_ofInt⟩, ?_, ?_⟩
    · rw [ManualClock.advanceBy_eq]
      rfl
    · intro others same
      exact ManualClock.advanceBy_perm clock same
    · intro forward fits
      have reaches : clock.Reaches spans := fits
      constructor
      · intro earlier later first second
        exact ManualClock.now_advanceBy_le_of_prefix forward reaches first second
      · intro subject own acts elapses
        exact ⟨unstopped_of_elapses elapses own working,
          readings_of_elapses elapses own working forward reaches⟩

/-- A job is deployed twice and fails while its clock moves forward.  Its stamp
of the failure stays when the clock is set back and both a second completion and
a request come too late. -/
theorem present_stamp_is_newest_after_redeployment :
    let owner : Job := .begun ⟨"word-count", .batch⟩ ⟨"job-1"⟩ 100
    let spans : List Int64 := [50, 25]
    let acts : List (Act ManualClock) :=
      [.drive .run, .elapse (·.advance 50), .drive .run, .elapse (·.advance 25),
        .drive (.terminate .failed)]
    let later : List (Act ManualClock) :=
      [.elapse (·.advance (-500)), .track (.tryComplete .finished), .drive .cancel]
    let clock := ManualClock.starting 100
    (job owner).Made ∧ Elapses acts spans ∧
      (∀ outcome ∈ ((job owner).run acts clock).trace, outcome.result ≠ .error .clockFailure) ∧
      (100 :: (job owner).readings acts clock).Pairwise (· ≤ ·) ∧
      ∃ tracker same, ((job owner).run acts clock).state.tracker? = some tracker ∧
        tracker.enteredAt.get? .failed = some 175 ∧
        (∀ status time, tracker.enteredAt.get? status = some time → time ≤ 175) ∧
        ((job owner).run (acts ++ later) clock).state.tracker? = some same ∧
        same.enteredAt = tracker.enteredAt := by
  intro owner spans acts later clock
  have made : (job owner).Made :=
    @Made.job ManualClock _ ⟨"word-count", .batch⟩ ⟨"job-1"⟩ clock owner rfl
  have elapses : Elapses acts spans :=
    .other nofun (.advance 50 (.other nofun (.advance 25 (.other nofun .nil))))
  have forward : ∀ span ∈ spans, 0 ≤ span :=
    List.forall_mem_cons.mpr ⟨by decide, List.forall_mem_singleton.mpr (by decide)⟩
  have fits : (100 : Int64).toInt + ManualClock.distance spans ≤ Int64.maxValue.toInt := by
    decide
  rcases present_stamp_is_newest.2 100 spans with ⟨_, _, onward⟩
  rcases (onward forward fits).2 (job owner) rfl acts elapses with ⟨unstopped, ordered⟩
  rcases present_stamp_is_newest.1 (job owner) made with ⟨now, own, newest⟩
  cases own
  rcases newest acts clock unstopped ordered with
    ⟨tracker, last, reached, last_eq, current, le, stays⟩
  have status_eq : tracker.status = .failed :=
    (Option.some.inj (congrArg (Option.map Tracker.status) reached)).symm
  have read : last = 175 := last_eq
  rw [status_eq, read] at current
  rw [read] at le
  rcases stays later rfl with ⟨same, reachedAgain, _, same_eq⟩
  exact ⟨made, elapses, unstopped, ordered, tracker, same, reached, current, le, reachedAgain,
    same_eq⟩

end Subject

end JobLedger
