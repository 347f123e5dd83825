import JobLedger.Proofs.Subject.Run

/-!
# How a job comes to be

A job is refused for a name of white space only, before anything else happens.
Otherwise an identifier is taken and the creation is logged, and after that the
clock is read: if it fails, there is no job, and the identifier is gone.
-/

namespace JobLedger

namespace Settings

/-- The name is white space only. -/
def IsBlank (settings : Settings) : Prop :=
  ∀ c ∈ settings.jobName.toList, Text.isWhiteSpace c = true

instance (settings : Settings) : Decidable settings.IsBlank :=
  decidable_of_iff (settings.jobName.toList.all Text.isWhiteSpace = true) List.all_eq_true

theorem not_isBlank_iff (settings : Settings) :
    ¬ settings.IsBlank ↔ ∃ c ∈ settings.jobName.toList, Text.isWhiteSpace c = false := by
  simp [IsBlank]

end Settings

namespace Job

/-- The job that is created from settings, under an identifier, at a time. -/
def begun (settings : Settings) (id : JobId) (now : Int64) : Job :=
  { id
    name := settings.jobName
    kind := settings.jobKind
    tracker := .started now
    registry := .empty }

variable {κ : Type} [Clock κ]

/-- What building a job leaves, by what the clock reads. -/
theorem build_eq (settings : Settings) (id : JobId) (clock : κ) :
    build settings id clock =
      ((Clock.read clock).1.elim (.error .clockFailure) fun now => .ok (begun settings id now),
        (Clock.read clock).2, [.created id settings.jobName settings.jobKind]) := by
  unfold build Tracker.start
  obtain ⟨reading, next⟩ := Clock.read clock
  cases reading <;> rfl

theorem build_eq_ok_iff (settings : Settings) (id : JobId) (clock : κ) (job : Job) :
    (build settings id clock).1 = .ok job ↔
      ∃ now, (Clock.read clock).1 = some now ∧ job = begun settings id now := by
  rw [build_eq]
  cases (Clock.read clock).1 with
  | none => simp
  | some now => simp [eq_comm]

/-- A blank name is refused, and that is all. -/
theorem create_of_blank {settings : Settings} (blank : settings.IsBlank) (ids : IdSource)
    (clock : κ) :
    create settings ids clock = { job := .error .blankJobName, ids, clock, log := [] } := by
  have refused : settings.validate = .error .blankJobName := by
    rw [Settings.validate, if_pos ((Text.isBlank_iff _).mpr blank)]
  rw [create, refused]

/-- Any other name is good for a job, if the clock can be read. -/
theorem create_of_named {settings : Settings} (named : ¬ settings.IsBlank) (ids : IdSource)
    (clock : κ) :
    create settings ids clock =
      { job := .ok ((Clock.read clock).1.elim (.error .clockFailure) fun now =>
          .ok (begun settings ids.nextJobId.1 now))
        ids := ids.nextJobId.2
        clock := (Clock.read clock).2
        log := [.created ids.nextJobId.1 settings.jobName settings.jobKind] } := by
  rw [create, (Settings.validate_eq_ok_iff settings).mpr (settings.not_isBlank_iff.mp named)]
  simp only [build_eq]

/-- What creating a job does, by its name: a blank one is refused before
anything happens, and any other takes one identifier and one reading of the
clock, on which it depends whether there is a job. -/
theorem create_by_name (settings : Settings) (ids : IdSource) (clock : κ) :
    let creation := create settings ids clock
    ((∃ refusal, creation.job = .error refusal) ↔ settings.IsBlank) ∧
    (settings.IsBlank → creation = { job := .error .blankJobName, ids, clock, log := [] }) ∧
    (¬ settings.IsBlank →
      creation.ids = ids.draw.2 ∧ creation.clock = (Clock.read clock).2 ∧
        creation.log = [.created ids.nextJobId.1 settings.jobName settings.jobKind] ∧
        ((Clock.read clock).1 = none → creation.job = .ok (.error .clockFailure)) ∧
        ∀ now, (Clock.read clock).1 = some now →
          creation.job = .ok (.ok (begun settings ids.nextJobId.1 now))) := by
  refine ⟨?_, fun blank => create_of_blank blank ids clock, fun named => ?_⟩
  · by_cases blank : settings.IsBlank
    · simp [create_of_blank blank, blank]
    · simp [create_of_named blank, blank]
  · rw [create_of_named named]
    refine ⟨rfl, rfl, rfl, ?_, ?_⟩
    · intro failed
      rw [failed]
      rfl
    · intro now read
      rw [read]
      rfl

end Job

end JobLedger
