import JobLedger.Clock
import JobLedger.Ids
import Std.Time.DateTime.Timestamp

/-!
# The machine a job runs on

The clock of the machine, and identifiers made from its random numbers.
-/

namespace JobLedger.Host

/-- The time of the machine in milliseconds since the epoch. -/
def now : IO Reading := do
  let timestamp ← Std.Time.Timestamp.now
  return some (.ofInt timestamp.toMillisecondsSinceUnixEpoch.val)

/-- A random identifier. -/
def uuid : IO String := do
  let high ← IO.rand 0 (UInt64.size - 1)
  let low ← IO.rand 0 (UInt64.size - 1)
  return Uuid.ofBits (high * UInt64.size + low)

end JobLedger.Host
