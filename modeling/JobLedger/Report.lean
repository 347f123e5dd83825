import JobLedger.Identity
import JobLedger.Stamps

/-!
# Reports on a job

A report says who a job is, where it stands, how many attempts it has and when
it entered each status.
-/

namespace JobLedger

/-- What is reported of a job. -/
structure Report where
  jobId : JobId
  jobName : String
  jobKind : JobKind
  status : Status
  terminal : Bool
  attempts : UInt64
  stamps : Stamps
  deriving DecidableEq

end JobLedger
