import JobLedger.Fault
import JobLedger.Identity
import JobLedger.Text.WhiteSpace

/-!
# Settings of a new job

What a job is to be called and how it is executed.  A name must not be blank;
it is kept as it is given, white space around it included.
-/

namespace JobLedger

/-- What a job is created from. -/
structure Settings where
  jobName : String
  jobKind : JobKind
  deriving DecidableEq

namespace Settings

/-- The settings of a job that asks for nothing. -/
def usual : Settings :=
  { jobName := "job", jobKind := .usual }

/-- Refuses a blank name. -/
def validate (settings : Settings) : Except Refusal Unit :=
  if Text.isBlank settings.jobName then .error .blankJobName else .ok ()

theorem validate_eq_ok_iff (settings : Settings) :
    settings.validate = .ok () ↔ ∃ c ∈ settings.jobName.toList, Text.isWhiteSpace c = false := by
  have blank := Text.isBlank_iff settings.jobName
  unfold validate
  split
  · next given =>
    have spaces := blank.mp given
    simp only [reduceCtorEq, false_iff, not_exists, not_and]
    intro c member
    simp [spaces c member]
  · next given =>
    have some := mt blank.mpr given
    simpa using some

end Settings

end JobLedger
