import JobLedger.Proofs.Job.Calls
import JobLedger.Proofs.Job.Creation
import JobLedger.Proofs.Registry.Contents
import JobLedger.Proofs.Subject.Attempts
import JobLedger.Report.Json

/-!
# Status and attempts do not interfere

A job owns a tracker and a registry, and the two share nothing.  What is timed,
that is, calls of the tracker and changes of the clock, goes the same way
whatever the registry holds, and what is registered or asked in between makes no
difference to it.  So two runs of a job with the same timed acts and the same
registrations end alike, however the ones are placed among the others.
-/

namespace JobLedger

/-- The job with another registry. -/
def Job.withRegistry (job : Job) (registry : Registry) : Job :=
  { job with registry }

/-- A report counts the attempts, as long as their number fits its field. -/
theorem Job.toNat_attempts_report {owner : Job} (fits : owner.registry.size < UInt64.size) :
    owner.report.attempts.toNat = owner.registry.size :=
  UInt64.toNat_ofNat_of_lt' fits

namespace Subject

/-- The subject with another registry, if it has one at all. -/
def withRegistry (subject : Subject) (changed : Registry) : Subject :=
  match subject with
  | tracker own => tracker own
  | registry _ => registry changed
  | job owner => job (owner.withRegistry changed)

/-- Putting the registry of a subject in its own place changes nothing. -/
theorem withRegistry_self {subject : Subject} {own : Registry}
    (has : subject.registry? = some own) : subject.withRegistry own = subject := by
  cases subject <;> cases has <;> rfl

@[simp]
theorem withRegistry_withRegistry (subject : Subject) (before after : Registry) :
    (subject.withRegistry before).withRegistry after = subject.withRegistry after := by
  cases subject <;> rfl

/-- A subject with a registry is fixed by it and by what else there is. -/
theorem ext_registry {first second : Subject} {own : Registry} (changed : Registry)
    (rest : first.withRegistry changed = second.withRegistry changed)
    (has : first.registry? = some own) (alsoHas : second.registry? = some own) :
    first = second :=
  calc first = (first.withRegistry changed).withRegistry own := by
        rw [withRegistry_withRegistry, withRegistry_self has]
    _ = (second.withRegistry changed).withRegistry own := by rw [rest]
    _ = second := by rw [withRegistry_withRegistry, withRegistry_self alsoHas]

variable {κ : Type}

/-- An act that calls the tracker or changes the clock. -/
def Act.isTimed : Act κ → Bool
  | track _ | drive _ | elapse _ => true
  | register _ | ask _ => false

variable [Clock κ]

/-- What is timed goes the same way whatever the registry holds. -/
theorem perform_withRegistry {act : Act κ} (timed : act.isTimed = true) (subject : Subject)
    (changed : Registry) (clock : κ) :
    (subject.withRegistry changed).perform act clock =
      (subject.perform act clock).within fun state => state.withRegistry changed := by
  cases act with
  | track call => cases subject <;> rfl
  | elapse change => rfl
  | drive call =>
      cases subject with
      | tracker own => rfl
      | registry own => rfl
      | job owner =>
          simp only [perform, withRegistry]
          rw [Job.perform_eq, Job.perform_eq]
          rfl
  | register attempt => contradiction
  | ask question => contradiction

/-- What is not timed changes the registry at most. -/
theorem perform_of_not_timed {act : Act κ} (untimed : act.isTimed = false) (subject : Subject)
    (changed : Registry) (clock : κ) :
    (subject.perform act clock).state.withRegistry changed = subject.withRegistry changed ∧
      (subject.perform act clock).clock = clock := by
  cases act with
  | register attempt => cases subject <;> exact ⟨rfl, rfl⟩
  | ask question => exact ⟨rfl, rfl⟩
  | track call => contradiction
  | drive call => contradiction
  | elapse change => contradiction

/-- How the timed acts of a run ended, and what they logged. -/
def timedEnds (acts : List (Act κ)) (run : Run κ) :
    List (Except Fault Answer × List Event) :=
  ((acts.zip run.trace).filter fun entry => entry.1.isTimed).map fun entry =>
    (entry.2.result, entry.2.log)

theorem timedEnds_run_cons (subject : Subject) (act : Act κ) (rest : List (Act κ)) (clock : κ) :
    let outcome := subject.perform act clock
    let later := outcome.state.run rest outcome.clock
    timedEnds (act :: rest) (subject.run (act :: rest) clock) =
      if act.isTimed then (outcome.result, outcome.log) :: timedEnds rest later
      else timedEnds rest later := by
  cases timed : act.isTimed <;> simp [timedEnds, run, timed]

/-- The timed acts of a run go as they would on their own, and with any other
registry. -/
theorem run_timed (subject : Subject) (changed : Registry) (acts : List (Act κ)) (clock : κ) :
    let whole := subject.run acts clock
    let part := (subject.withRegistry changed).run (acts.filter Act.isTimed) clock
    timedEnds acts whole = part.trace.map (fun outcome => (outcome.result, outcome.log)) ∧
      whole.state.withRegistry changed = part.state ∧ whole.clock = part.clock := by
  induction acts generalizing subject clock with
  | nil => exact ⟨rfl, rfl, rfl⟩
  | cons act rest ih =>
      obtain ⟨ends, state_eq, clock_eq⟩ :=
        ih (subject.perform act clock).state (subject.perform act clock).clock
      dsimp only
      rw [timedEnds_run_cons]
      cases timed : act.isTimed with
      | true =>
          rw [List.filter_cons_of_pos timed, if_pos rfl]
          simp only [run, perform_withRegistry timed, List.map_cons]
          exact ⟨congrArg _ ends, state_eq, clock_eq⟩
      | false =>
          obtain ⟨same, still⟩ := perform_of_not_timed timed subject changed clock
          rw [same, still] at ends state_eq clock_eq
          rw [List.filter_cons_of_neg (by simp [timed]), if_neg Bool.false_ne_true]
          simp only [run, still]
          exact ⟨ends, state_eq, clock_eq⟩

/-- What is known of a job after a run, apart from its tracker. -/
theorem run_built {settings : Settings} {id : JobId} {origin : κ} {owner : Job}
    (built : (Job.build settings id origin).1 = .ok owner) (acts : List (Act κ)) (clock : κ) :
    ∃ later, ((job owner).run acts clock).state = job later ∧ later.id = id ∧
      later.name = settings.jobName ∧ later.kind = settings.jobKind ∧
      later.registry = Registry.empty.insertAll (acts.filterMap Act.registered?) := by
  obtain ⟨now, _, rfl⟩ := (Job.build_eq_ok_iff _ _ _ _).mp built
  obtain ⟨later, state_eq, continues, _⟩ := run_job (Job.begun settings id now) acts clock
  exact ⟨later, state_eq, continues.id_eq, continues.name_eq, continues.kind_eq,
    continues.registry_eq⟩

/-- One more attempt of a job is always registered, and counted if it is new. -/
theorem perform_register {owner : Job} {history : List Attempt}
    (registry_eq : owner.registry = Registry.empty.insertAll history) (attempt : Attempt)
    (clock : κ) :
    let outcome := (job owner).perform (.register attempt) clock
    outcome.result = .ok (.told (.count (Registry.distinctIds (history ++ [attempt])).card)) ∧
      ∃ next, outcome.state = job next ∧ next.tracker = owner.tracker ∧
        next.registry.find? attempt.id = some attempt := by
  have registered : (owner.register attempt).1.registry = owner.registry.insert attempt := rfl
  have extended :
      owner.registry.insert attempt = Registry.empty.insertAll (history ++ [attempt]) := by
    rw [Registry.insertAll_concat, registry_eq]
  refine ⟨?_, (owner.register attempt).1, rfl, rfl, ?_⟩
  · simp only [perform, tell]
    rw [registered, extended, Registry.size_insertAll_empty]
  · rw [registered, Registry.find?_insert, if_pos rfl]

/-- **Status and attempts do not interfere.**  Two runs of a job from its
creation on have the same timed acts and the same registrations, each in the
same order, but place them among each other and among questions as they like.
Then each timed act ends in both with the same result or the same fault and
with the same log, and in the end the jobs are the same: whatever is asked, the
answers are equal, and so are the texts of the reports.

The job has kept its identity, and it has as many attempts as there were
identifiers registered.  One more attempt is registered without fail, be the
status terminal or not, and counts if its identifier is new. -/
theorem status_and_attempts_independent {settings : Settings} {id : JobId} {origin : κ}
    {owner : Job} (built : (Job.build settings id origin).1 = .ok owner)
    {first second : List (Act κ)}
    (sameTimed : first.filter Act.isTimed = second.filter Act.isTimed)
    (sameAttempts : first.filterMap Act.registered? = second.filterMap Act.registered?)
    (clock : κ) :
    let one := (job owner).run first clock
    let other := (job owner).run second clock
    let history := first.filterMap Act.registered?
    let count := (Registry.distinctIds history).card
    timedEnds first one = timedEnds second other ∧ one.clock = other.clock ∧
      ∃ later another, one.state = job later ∧ other.state = job another ∧ later = another ∧
        (∀ question, Session.answer (job later) question = Session.answer (job another) question) ∧
        later.report.toJson = another.report.toJson ∧
        later.report.jobId = id ∧ later.report.jobName = settings.jobName ∧
        later.report.jobKind = settings.jobKind ∧ later.registry.size = count ∧
        (count < UInt64.size → later.report.attempts.toNat = count) ∧
        ∀ attempt (moment : κ),
          let outcome := (job later).perform (.register attempt) moment
          outcome.result =
              .ok (.told (.count (Registry.distinctIds (history ++ [attempt])).card)) ∧
            ∃ next, outcome.state = job next ∧ next.tracker = later.tracker ∧
              next.registry.find? attempt.id = some attempt := by
  intro one other history count
  obtain ⟨firstEnds, firstState, firstClock⟩ := run_timed (job owner) .empty first clock
  obtain ⟨secondEnds, secondState, secondClock⟩ := run_timed (job owner) .empty second clock
  rw [← sameTimed] at secondEnds secondState secondClock
  have state_eq : one.state = other.state := by
    apply ext_registry .empty (firstState.trans secondState.symm) (registry?_run _ _ _)
    rw [sameAttempts]
    exact registry?_run _ _ _
  obtain ⟨later, later_eq, id_eq, name_eq, kind_eq, registry_eq⟩ := run_built built first clock
  have size_eq : later.registry.size = count := by
    rw [registry_eq, Registry.size_insertAll_empty]
  refine ⟨firstEnds.trans secondEnds.symm, firstClock.trans secondClock.symm, later, later,
    later_eq, state_eq.symm.trans later_eq, rfl, fun _ => rfl, rfl, id_eq, name_eq, kind_eq,
    size_eq, ?_, fun attempt => perform_register registry_eq attempt⟩
  intro fits
  rw [← size_eq] at fits ⊢
  exact Job.toNat_attempts_report fits

/-- A job is suspended while its clock fails, then terminated, and its attempts
are registered before, in between and after, or all at the end. -/
theorem status_and_attempts_independent_despite_fault :
    let owner : Job := .begun ⟨"word-count", .batch⟩ ⟨"job-1"⟩ 100
    let attempt : Attempt := .first ⟨"A1"⟩ ⟨"V1"⟩
    let moved : Attempt := { attempt with vertex := ⟨"V2"⟩ }
    let other : Attempt := .first ⟨"B1"⟩ ⟨"V1"⟩
    let timed : List (Act ManualClock) :=
      [.elapse ManualClock.failNext, .drive (.suspend "disk full"), .drive (.terminate .finished)]
    let scattered : List (Act ManualClock) :=
      [.register attempt, .elapse ManualClock.failNext, .ask .report,
        .drive (.suspend "disk full"), .register moved, .drive (.terminate .finished),
        .register other]
    let gathered := timed ++ [.register attempt, .register moved, .register other]
    let one := (job owner).run scattered (.starting 100)
    (Job.build ⟨"word-count", .batch⟩ ⟨"job-1"⟩ (ManualClock.starting 100)).1 = .ok owner ∧
      scattered.filter Act.isTimed = gathered.filter Act.isTimed ∧
      scattered.filterMap Act.registered? = gathered.filterMap Act.registered? ∧
      (timedEnds scattered one).map Prod.fst =
        [.ok (.told .done), .error .clockFailure, .ok (.called (.ok false))] ∧
      ∃ later, one.state = job later ∧
        ((job owner).run gathered (.starting 100)).state = job later ∧
        later.report.status = .suspended ∧ later.report.terminal = true ∧
        later.report.attempts.toNat = 2 ∧
        ((job later).perform (.register (.first ⟨"C1"⟩ ⟨"V1"⟩)) one.clock).result =
          .ok (.told (.count 3)) := by
  intro owner attempt moved other timed scattered gathered one
  have built : (Job.build ⟨"word-count", .batch⟩ ⟨"job-1"⟩ (ManualClock.starting 100)).1 =
      .ok owner := rfl
  have sameTimed : scattered.filter Act.isTimed = gathered.filter Act.isTimed := rfl
  have sameAttempts :
      scattered.filterMap Act.registered? = gathered.filterMap Act.registered? := rfl
  obtain ⟨_, _, later, another, later_eq, another_eq, same, _, _, _, _, _, _, counted, next⟩ :=
    status_and_attempts_independent built sameTimed sameAttempts (.starting 100)
  refine ⟨built, sameTimed, sameAttempts, rfl, later, later_eq, same ▸ another_eq, ?_, ?_,
    counted (by decide), (next _ one.clock).1⟩
  · cases later_eq
    rfl
  · cases later_eq
    rfl

end Subject

end JobLedger
