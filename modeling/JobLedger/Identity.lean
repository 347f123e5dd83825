/-!
# The identity of a job

A job has an identifier, a name and a kind.  They are fixed when it is created.
-/

namespace JobLedger

/-- Identifies one job. -/
structure JobId where
  text : String
  deriving DecidableEq

/-- How a job is executed. -/
inductive JobKind where
  | batch
  | streaming
  deriving DecidableEq

namespace JobKind

/-- Every kind, in order. -/
def all : List JobKind := [batch, streaming]

/-- The kind of a job that asks for none. -/
def usual : JobKind := streaming

/-- The name of a kind in texts. -/
def name : JobKind → String
  | batch => "BATCH"
  | streaming => "STREAMING"

/-- The name of a kind in debug texts. -/
def label : JobKind → String
  | batch => "Batch"
  | streaming => "Streaming"

theorem mem_all (kind : JobKind) : kind ∈ all := by
  cases kind <;> decide

theorem name_injective {first second : JobKind} (equal : first.name = second.name) :
    first = second := by
  cases first <;> cases second <;> simp_all [name]

end JobKind

end JobLedger
