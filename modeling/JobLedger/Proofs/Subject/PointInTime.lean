import JobLedger.Proofs.Registry.Writes
import JobLedger.Proofs.Subject.Run

/-!
# Reports and moments

A report is put together from two reads: the status and the stamps are read
under the lock of the tracker, and after that the attempts are counted under
the lock of the registry.  Others may act between the two.

The report is still that of one moment if, at some time between the reads,
status and stamps were as at the first read and every attempt that was still to
be registered was known.  Otherwise it is of none: a status entered between the
reads, and a new attempt after that, give a report of a job that never was.
-/

namespace JobLedger

/-! ## Reads of one job at two moments -/

namespace Job

/-- The report on a job whose status is read at one moment and whose attempts
are counted at another. -/
def reportAcross (first second : Job) : Report :=
  first.reportOf first.tracker.view second.registry.size

/-- The job `later` is the job `owner` after some attempts were registered. -/
structure Continues (owner : Job) (attempts : List Attempt) (later : Job) : Prop where
  id_eq : later.id = owner.id
  name_eq : later.name = owner.name
  kind_eq : later.kind = owner.kind
  registry_eq : later.registry = owner.registry.insertAll attempts

namespace Continues

variable {owner moment later : Job} {past future : List Attempt}

theorem refl (owner : Job) : owner.Continues [] owner := ⟨rfl, rfl, rfl, rfl⟩

theorem trans (first : owner.Continues past moment) (second : moment.Continues future later) :
    owner.Continues (past ++ future) later := by
  constructor
  · exact second.id_eq.trans first.id_eq
  · exact second.name_eq.trans first.name_eq
  · exact second.kind_eq.trans first.kind_eq
  · rw [second.registry_eq, first.registry_eq, Registry.insertAll, Registry.insertAll,
      Registry.insertAll, List.foldl_append]

/-- A report is that of a moment between its reads exactly if status and stamps
were as at the first read, and no attempt was new afterwards. -/
theorem reportAcross_eq_report_iff (first : owner.Continues past moment)
    (second : moment.Continues future later) (fits : later.registry.size < UInt64.size) :
    owner.reportAcross later = moment.report ↔
      moment.tracker.view = owner.tracker.view ∧
        ∀ attempt ∈ future, moment.registry.knows attempt.id = true := by
  have growing := moment.registry.size_le_size_insertAll future
  rw [← Registry.size_insertAll_eq_iff, ← second.registry_eq]
  rw [← second.registry_eq] at growing
  have counts : UInt64.ofNat later.registry.size = UInt64.ofNat moment.registry.size ↔
      later.registry.size = moment.registry.size := by
    constructor
    · intro same
      have sizes := congrArg UInt64.toNat same
      rwa [UInt64.toNat_ofNat_of_lt' fits, UInt64.toNat_ofNat_of_lt' (by omega)] at sizes
    · exact congrArg UInt64.ofNat
  simp only [reportAcross, report, reportOf, Report.mk.injEq, first.id_eq, first.name_eq,
    first.kind_eq, counts, Tracker.view, Prod.mk.injEq]
  constructor
  · rintro ⟨-, -, -, status_eq, -, size_eq, stamps_eq⟩
    exact ⟨⟨status_eq.symm, stamps_eq.symm⟩, size_eq⟩
  · rintro ⟨⟨status_eq, stamps_eq⟩, size_eq⟩
    simp [status_eq, stamps_eq, size_eq]

end Continues

end Job

/-- A call that enters nothing leaves status and stamps as they are. -/
theorem Tracker.view_perform_of_entered_eq_nil {κ : Type} [Clock κ] {tracker : Tracker}
    {call : Call} {clock : κ} (silent : (tracker.perform call clock).entered = []) :
    (tracker.perform call clock).state.view = tracker.view := by
  rcases tracker.refused_or_absorbed_or_entering call with
    ⟨rejection, refused⟩ | ⟨granted, terminal⟩ | ⟨granted, moving⟩
  · rw [perform_of_refused refused]
  · rw [perform_of_absorbed granted terminal]
    simp [view]
  · simp [entered_perform, granted, moving] at silent

namespace Subject

variable {κ : Type} [Clock κ]

/-- The attempt that an act registers, if it does so. -/
def Act.registered? : Act κ → Option Attempt
  | register attempt => some attempt
  | _ => none

/-- An act leaves a job that has registered what the act registers, and that is
seen in the same status with the same stamps if the act enters nothing. -/
theorem perform_job (owner : Job) (act : Act κ) (clock : κ) :
    ∃ later, ((job owner).perform act clock).state = job later ∧
      owner.Continues act.registered?.toList later ∧
      (((job owner).perform act clock).entered = [] →
        later.tracker.view = owner.tracker.view) := by
  have own : (job owner).tracker? = some owner.tracker := rfl
  have entered_eq := entered_perform own act clock
  cases act with
  | track call =>
      refine ⟨_, rfl, ⟨rfl, rfl, rfl, rfl⟩, ?_⟩
      rw [entered_eq]
      exact Tracker.view_perform_of_entered_eq_nil
  | drive call =>
      have state_eq := (owner.perform_carries call clock).state_eq
      refine ⟨owner.withTracker (owner.tracker.perform call.onTracker clock).state, ?_,
        ⟨rfl, rfl, rfl, rfl⟩, ?_⟩
      · exact congrArg job state_eq
      · rw [entered_eq]
        exact Tracker.view_perform_of_entered_eq_nil
  | register attempt => exact ⟨_, rfl, ⟨rfl, rfl, rfl, rfl⟩, fun _ => rfl⟩
  | ask question => exact ⟨owner, rfl, .refl owner, fun _ => rfl⟩
  | elapse change => exact ⟨owner, rfl, .refl owner, fun _ => rfl⟩

/-- The same of a run. -/
theorem run_job (owner : Job) (acts : List (Act κ)) (clock : κ) :
    ∃ later, ((job owner).run acts clock).state = job later ∧
      owner.Continues (acts.filterMap Act.registered?) later ∧
      (((job owner).run acts clock).entered = [] →
        later.tracker.view = owner.tracker.view) := by
  induction acts generalizing owner clock with
  | nil => exact ⟨owner, rfl, .refl owner, fun _ => rfl⟩
  | cons act rest ih =>
      obtain ⟨next, next_eq, first, sameNext⟩ := perform_job owner act clock
      obtain ⟨later, later_eq, second, sameLater⟩ :=
        ih next ((job owner).perform act clock).clock
      refine ⟨later, ?_, ?_, ?_⟩
      · simp only [run, next_eq]
        exact later_eq
      · have both := first.trans second
        cases registers : act.registered? <;> simpa [registers] using both
      · intro silent
        rw [entered_run_cons, List.append_eq_nil_iff, next_eq] at silent
        exact (sameLater silent.2).trans (sameNext silent.1)

/-- A run of the job `owner` comes by the job `moment`, with `past` behind and
`future` ahead. -/
structure ComesBy (owner : Job) (acts : List (Act κ)) (clock : κ) (past future : List (Act κ))
    (moment : Job) : Prop where
  acts_eq : acts = past ++ future
  state_eq : ((job owner).run past clock).state = job moment

theorem ComesBy.continues {owner moment later : Job} {acts past future : List (Act κ)} {clock : κ}
    (passes : ComesBy owner acts clock past future moment)
    (reached : ((job owner).run acts clock).state = job later) :
    owner.Continues (past.filterMap Act.registered?) moment ∧
      moment.Continues (future.filterMap Act.registered?) later := by
  obtain ⟨acts_eq, state_eq⟩ := passes
  obtain ⟨first, first_eq, before, _⟩ := run_job owner past clock
  obtain rfl : moment = first := job.inj (state_eq.symm.trans first_eq)
  obtain ⟨last, last_eq, after, _⟩ := run_job moment future ((job owner).run past clock).clock
  rw [acts_eq, run_append] at reached
  simp only [state_eq] at reached
  obtain rfl : later = last := job.inj (reached.symm.trans last_eq)
  exact ⟨before, after⟩

/-- **When a report is a view of one moment.**  Let the status of a job be read,
and its attempts be counted after some acts of others.  The report is that of a
moment between the reads exactly if the run came by one at which status and
stamps were as at the first read, and all attempts were known that were still
to be registered.  So it is that of the second read if no status was entered in
between, and that of the first read if no new attempt was registered. -/
theorem report_of_one_moment_iff {owner later : Job} {acts : List (Act κ)} {clock : κ}
    (reached : ((job owner).run acts clock).state = job later)
    (fits : later.registry.size < UInt64.size) :
    ((∃ past future moment, ComesBy owner acts clock past future moment ∧
        owner.reportAcross later = moment.report) ↔
      ∃ past future moment, ComesBy owner acts clock past future moment ∧
        moment.tracker.view = owner.tracker.view ∧
        ∀ attempt ∈ future.filterMap Act.registered?, moment.registry.knows attempt.id = true) ∧
    (((job owner).run acts clock).entered = [] → owner.reportAcross later = later.report) ∧
    ((∀ attempt ∈ acts.filterMap Act.registered?, owner.registry.knows attempt.id = true) →
      owner.reportAcross later = owner.report) := by
  obtain ⟨same, state_eq, whole, calm⟩ := run_job owner acts clock
  obtain rfl : later = same := job.inj (reached.symm.trans state_eq)
  refine ⟨?_, ?_, ?_⟩
  · apply exists_congr
    intro past
    apply exists₂_congr
    intro future moment
    apply and_congr_right
    intro passes
    obtain ⟨first, second⟩ := passes.continues reached
    exact first.reportAcross_eq_report_iff second fits
  · intro silent
    exact (whole.reportAcross_eq_report_iff (.refl later) fits).mpr ⟨calm silent, by simp⟩
  · intro known
    exact ((Job.Continues.refl owner).reportAcross_eq_report_iff whole fits).mpr ⟨rfl, known⟩

/-- An attempt is registered between the reads, and after that the job is
deployed: the report is that of the moment in between. -/
theorem report_of_moment_before_deployment :
    let owner : Job :=
      { id := ⟨"job-1"⟩, name := "word-count", kind := .batch, tracker := .started 100
        registry := .empty }
    let attempt : Attempt := .first ⟨"A1"⟩ ⟨"V1"⟩
    let acts : List (Act ManualClock) := [.register attempt, .drive .run]
    ∃ later, ((job owner).run acts (.starting 100)).state = job later ∧
      ∃ past future moment, ComesBy owner acts (.starting 100) past future moment ∧
        owner.reportAcross later = moment.report := by
  intro owner attempt acts
  obtain ⟨later, reached, continues, _⟩ := run_job owner acts (.starting 100)
  have fits : later.registry.size < UInt64.size := by
    rw [continues.registry_eq]
    decide
  refine ⟨later, reached, (report_of_one_moment_iff reached fits).1.mpr ?_⟩
  refine ⟨[.register attempt], [.drive .run], (owner.register attempt).1, ⟨rfl, rfl⟩, rfl, ?_⟩
  intro other member
  contradiction

/-- A job is deployed between the reads, and after that an attempt is
registered: at no moment was it initializing with one attempt. -/
theorem report_of_no_moment :
    let owner : Job :=
      { id := ⟨"job-1"⟩, name := "word-count", kind := .batch, tracker := .started 100
        registry := .empty }
    let acts : List (Act ManualClock) := [.drive .run, .register (.first ⟨"A1"⟩ ⟨"V1"⟩)]
    (job owner).Made ∧ ∃ later, ((job owner).run acts (.starting 100)).state = job later ∧
      ∀ past future moment, ComesBy owner acts (.starting 100) past future moment →
        owner.reportAcross later ≠ moment.report := by
  intro owner acts
  refine ⟨@Made.job ManualClock _ ⟨"word-count", .batch⟩ ⟨"job-1"⟩ (.starting 100) owner rfl,
    _, rfl, ?_⟩
  rintro past future moment ⟨acts_eq, state_eq⟩ same
  change [Act.drive .run, .register (.first ⟨"A1"⟩ ⟨"V1"⟩)] = past ++ future at acts_eq
  -- The count differs before the attempt is registered, the status once the job is deployed.
  rcases past with _ | ⟨first, _ | ⟨second, _ | ⟨_, rest⟩⟩⟩
  · cases state_eq
    exact absurd (congrArg Report.attempts same) (by decide)
  · cases acts_eq
    cases state_eq
    exact absurd (congrArg Report.status same) (by decide)
  · cases acts_eq
    cases state_eq
    exact absurd (congrArg Report.status same) (by decide)
  · simp at acts_eq

end Subject

end JobLedger
