import JobLedger.Proofs.Job.Creation
import JobLedger.Proofs.Registry.Contents
import JobLedger.Proofs.Subject.Absorption
import JobLedger.Proofs.Subject.Attempts
import JobLedger.Proofs.Subject.Coherence
import JobLedger.Proofs.Subject.Readings

/-!
# Successive reports

A report of a job is put together from two reads, and others may act between
them.  Still, of two reports that are taken one after the other, the second
never falls behind the first: the identity of the job is the same, attempts and
stamps only come in addition, and what was terminal stays as it was reported.
If the clock never goes back, no stamp does.
-/

namespace JobLedger

namespace Status

/-- Four statuses are terminal. -/
theorem isTerminal_iff (status : Status) :
    status.isTerminal = true ↔ status ∈ [canceled, failed, finished, suspended] := by
  cases status <;> decide

end Status

namespace Job

/-- Of two reports the one that counts the attempts later shows no fewer. -/
theorem Continues.attempts_le {first second counted later : Job} {attempts : List Attempt}
    (grows : counted.Continues attempts later) (fits : later.registry.size < UInt64.size) :
    (first.reportAcross counted).attempts ≤ (second.reportAcross later).attempts := by
  have sizes := counted.registry.size_le_size_insertAll attempts
  rw [← grows.registry_eq] at sizes
  rw [UInt64.le_iff_toNat_le]
  calc (first.reportAcross counted).attempts.toNat = counted.registry.size :=
        UInt64.toNat_ofNat_of_lt' (Nat.lt_of_le_of_lt sizes fits)
    _ ≤ later.registry.size := sizes
    _ = (second.reportAcross later).attempts.toNat := (UInt64.toNat_ofNat_of_lt' fits).symm

/-- How a job changes in a run that takes certain readings of the clock: its
identity stays, attempts are added, each stamp is kept or replaced by a reading,
and a terminal status is kept with all its stamps. -/
structure Advances (owner : Job) (attempts : List Attempt) (readings : List Int64)
    (later : Job) : Prop where
  continues : owner.Continues attempts later
  stamp : ∀ status,
    later.tracker.enteredAt.get? status = owner.tracker.enteredAt.get? status ∨
      ∃ time ∈ readings, later.tracker.enteredAt.get? status = some time
  frozen : owner.tracker.status.isTerminal = true → later.tracker.view = owner.tracker.view

namespace Advances

variable {owner moment later : Job} {past future : List Attempt} {before after : List Int64}

theorem trans (first : owner.Advances past before moment)
    (second : moment.Advances future after later) :
    owner.Advances (past ++ future) (before ++ after) later := by
  constructor
  · exact first.continues.trans second.continues
  · intro status
    rcases second.stamp status with same | ⟨time, read, stamped⟩
    · rw [same]
      rcases first.stamp status with kept | ⟨time, read, stamped⟩
      · exact .inl kept
      · exact .inr ⟨time, List.mem_append_left after read, stamped⟩
    · exact .inr ⟨time, List.mem_append_right before read, stamped⟩
  · intro terminal
    have same := first.frozen terminal
    have status_eq : moment.tracker.status = owner.tracker.status := congrArg Prod.fst same
    rw [second.frozen (status_eq ▸ terminal), same]

/-- No stamp is lost. -/
theorem has (advances : owner.Advances past before later) {status : Status}
    (stamped : owner.tracker.enteredAt.has status = true) :
    later.tracker.enteredAt.has status = true := by
  unfold Stamps.has at stamped ⊢
  rcases advances.stamp status with same | ⟨time, _, replaced⟩
  · rw [same, stamped]
  · rw [replaced, Option.isSome_some]

/-- A stamp that is a reading only moves forward, if the readings never go back. -/
theorem stamp_le {origin : List Int64} (advances : owner.Advances past before later)
    (ordered : (origin ++ before).Pairwise (· ≤ ·)) {status : Status} {earlier last : Int64}
    (read : earlier ∈ origin) (stamped : owner.tracker.enteredAt.get? status = some earlier)
    (restamped : later.tracker.enteredAt.get? status = some last) : earlier ≤ last := by
  rcases advances.stamp status with same | ⟨time, taken, replaced⟩
  · rw [same, stamped] at restamped
    cases restamped
    exact Int64.le_refl earlier
  · rw [replaced] at restamped
    cases restamped
    exact (List.pairwise_append.mp ordered).2.2 earlier read _ taken

/-- The readings from the creation of a job on hold all its stamps. -/
theorem mem_of_begun {settings : Settings} {id : JobId} {now : Int64}
    (advances : (begun settings id now).Advances past before later) {status : Status}
    {time : Int64} (stamped : later.tracker.enteredAt.get? status = some time) :
    time ∈ now :: before := by
  rcases advances.stamp status with same | ⟨taken, member, replaced⟩
  · rw [stamped, begun, Tracker.started, Stamps.get?_insert] at same
    split at same
    · cases same
      exact List.mem_cons_self
    · simp at same
  · rw [stamped] at replaced
    cases replaced
    exact List.mem_cons_of_mem now member

end Advances

end Job

namespace Subject

variable {κ : Type} [Clock κ]

/-- A job advances with every run. -/
theorem run_advances (owner : Job) (acts : List (Act κ)) (clock : κ) :
    ∃ later, ((job owner).run acts clock).state = job later ∧
      owner.Advances (acts.filterMap Act.registered?) ((job owner).readings acts clock) later := by
  have own : (job owner).tracker? = some owner.tracker := rfl
  obtain ⟨later, later_eq, continues, _⟩ := run_job owner acts clock
  refine ⟨later, later_eq, continues, ?_, ?_⟩
  · obtain ⟨tracker, reached, stamp⟩ := get?_run own acts clock
    rw [later_eq] at reached
    cases reached
    exact stamp
  · intro terminal
    obtain ⟨tracker, reached, status_eq, enteredAt_eq⟩ := run_of_terminal own terminal acts clock
    rw [later_eq] at reached
    cases reached
    rw [Tracker.view, Tracker.view, status_eq, enteredAt_eq]

/-- A run that goes on advances the job from where it has come to. -/
theorem run_advances_append {owner moment : Job} {past : List (Act κ)}
    (future : List (Act κ)) {clock : κ}
    (reached : ((job owner).run past clock).state = job moment) :
    ∃ later readings, ((job owner).run (past ++ future) clock).state = job later ∧
      moment.Advances (future.filterMap Act.registered?) readings later ∧
      (job owner).readings (past ++ future) clock =
        (job owner).readings past clock ++ readings := by
  obtain ⟨later, later_eq, advances⟩ :=
    run_advances moment future ((job owner).run past clock).clock
  refine ⟨later, _, ?_, advances, ?_⟩
  · rw [run_append]
    simp only [reached, later_eq]
  · rw [readings_append]
    simp only [reached]

/-- The report that is taken of a job in a run: status and stamps are read after
the acts `past`, and the attempts are counted when the acts `meanwhile` of
others have followed. -/
def reportTaken (subject : Subject) (past meanwhile : List (Act κ)) (clock : κ) : Option Report :=
  match (subject.run past clock).state, (subject.run (past ++ meanwhile) clock).state with
  | job first, job second => some (first.reportAcross second)
  | _, _ => none

/-- **Successive reports never go backwards.**  Two reports of a job are taken
in a run from its creation on, the first before the second, while others act
around and within them.  Then both exist and name one identity; the attempts
grow, as long as their number fits its field; every status that is stamped in
the first is stamped in the second; and if the first is terminal, so is the
second, in the same status with the same stamps.  If no reading of the clock
that was taken, from the creation of the job on, is before an earlier one, no
stamp is either.  A report is terminal exactly in four statuses. -/
theorem reports_never_go_back {settings : Settings} {id : JobId} {origin : κ} {owner : Job}
    (built : (Job.build settings id origin).1 = .ok owner)
    (before within between during : List (Act κ)) (clock : κ) :
    let past := before ++ within ++ between
    ∃ now first second, (Clock.read origin).1 = some now ∧
      (job owner).reportTaken before within clock = some first ∧
      (job owner).reportTaken past during clock = some second ∧
      first.jobId = second.jobId ∧ first.jobName = second.jobName ∧
      first.jobKind = second.jobKind ∧
      ((Registry.distinctIds ((past ++ during).filterMap Act.registered?)).card < UInt64.size →
        first.attempts ≤ second.attempts) ∧
      (∀ status, first.stamps.has status = true → second.stamps.has status = true) ∧
      (first.terminal = true →
        second.terminal = true ∧ second.status = first.status ∧ second.stamps = first.stamps) ∧
      ((now :: (job owner).readings past clock).Pairwise (· ≤ ·) →
        ∀ status earlier later, first.stamps.get? status = some earlier →
          second.stamps.get? status = some later → earlier ≤ later) ∧
      ∀ report ∈ [first, second],
        (report.terminal = true ↔ report.status ∈ [.canceled, .failed, .finished, .suspended]) := by
  intro past
  obtain ⟨now, read, rfl⟩ := (Job.build_eq_ok_iff _ _ _ _).mp built
  -- The four moments: each report reads the status at one and counts the attempts at the next.
  obtain ⟨shown, shown_eq, toShown⟩ := run_advances (.begun settings id now) before clock
  obtain ⟨counted, _, counted_eq, toCounted, countedReadings⟩ :=
    run_advances_append within shown_eq
  obtain ⟨shownAgain, _, shownAgain_eq, toShownAgain, pastReadings⟩ :=
    run_advances_append between counted_eq
  obtain ⟨countedAgain, _, countedAgain_eq, toCountedAgain, _⟩ :=
    run_advances_append during shownAgain_eq
  have toSecond := toCounted.trans toShownAgain
  refine ⟨now, shown.reportAcross counted, shownAgain.reportAcross countedAgain, read, ?_, ?_,
    ?_, ?_, ?_, ?_, ?_, ?_, ?_, ?_⟩
  · simp only [reportTaken, shown_eq, counted_eq]
  · simp only [reportTaken, past, shownAgain_eq, countedAgain_eq]
  · exact toSecond.continues.id_eq.symm
  · exact toSecond.continues.name_eq.symm
  · exact toSecond.continues.kind_eq.symm
  · intro fits
    have registry_eq := registry?_run (job (.begun settings id now)) (past ++ during) clock
    rw [countedAgain_eq] at registry_eq
    rw [← Registry.size_insertAll_empty] at fits
    apply (toShownAgain.trans toCountedAgain).continues.attempts_le
    rwa [Option.some.inj registry_eq]
  · intro status stamped
    exact toSecond.has stamped
  · intro terminal
    have same := toSecond.frozen terminal
    have status_eq : shownAgain.tracker.status = shown.tracker.status := congrArg Prod.fst same
    exact ⟨(congrArg Status.isTerminal status_eq).trans terminal, status_eq, congrArg Prod.snd same⟩
  · intro ordered status earlier later stamped restamped
    rw [pastReadings, countedReadings, List.append_assoc, ← List.cons_append] at ordered
    exact toSecond.stamp_le ordered (toShown.mem_of_begun stamped) stamped restamped
  · intro report member
    simp only [List.mem_cons, List.not_mem_nil, or_false] at member
    rcases member with rfl | rfl
    · exact shown.tracker.status.isTerminal_iff
    · exact shownAgain.tracker.status.isTerminal_iff

/-- A job is deployed twice, suspended while its clock fails, and requested to
finish; one attempt is registered again in the course of the first report, and
another one in the course of the second. -/
theorem reports_never_go_back_despite_fault :
    let owner : Job := .begun ⟨"word-count", .batch⟩ ⟨"job-1"⟩ 100
    let attempt : Attempt := .first ⟨"A1"⟩ ⟨"V1"⟩
    let before : List (Act ManualClock) := [.drive .run, .register attempt]
    let within : List (Act ManualClock) := [.register { attempt with vertex := ⟨"V2"⟩ }]
    let between : List (Act ManualClock) :=
      [.elapse (·.advance 50), .drive .run, .elapse ManualClock.failNext,
        .drive (.suspend "disk full")]
    let during : List (Act ManualClock) :=
      [.track (.request .finished), .register (.first ⟨"A2"⟩ ⟨"V1"⟩)]
    let past := before ++ within ++ between
    (Job.build ⟨"word-count", .batch⟩ ⟨"job-1"⟩ (ManualClock.starting 100)).1 = .ok owner ∧
      (job owner).readings past (.starting 100) = [100, 150] ∧
      ∃ first second, (job owner).reportTaken before within (.starting 100) = some first ∧
        (job owner).reportTaken past during (.starting 100) = some second ∧
        first.jobId = second.jobId ∧ first.attempts ≤ second.attempts ∧
        second.status = .suspended ∧ second.terminal = true ∧
        ∀ status earlier later, first.stamps.get? status = some earlier →
          second.stamps.get? status = some later → earlier ≤ later := by
  intro owner attempt before within between during past
  have built : (Job.build ⟨"word-count", .batch⟩ ⟨"job-1"⟩ (ManualClock.starting 100)).1 =
      .ok owner := rfl
  have readings_eq : (job owner).readings past (.starting 100) = [100, 150] := rfl
  obtain ⟨now, first, second, read, first_eq, second_eq, id_eq, _, _, attempts, _, _, ordered,
    terminal_iff⟩ := reports_never_go_back built before within between during (.starting 100)
  cases read
  have status_eq : second.status = .suspended :=
    (Option.some.inj (congrArg (Option.map Report.status) second_eq)).symm
  refine ⟨built, readings_eq, first, second, first_eq, second_eq, id_eq, attempts (by decide),
    status_eq, ?_, ordered ?_⟩
  · rw [terminal_iff second (by simp), status_eq]
    decide
  · rw [readings_eq]
    decide

end Subject

end JobLedger
