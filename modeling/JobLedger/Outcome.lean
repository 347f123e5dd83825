import JobLedger.Clock
import JobLedger.Event
import JobLedger.Fault

/-!
# Outcomes of operations

An operation on a state, which may read a clock, ends with a result or with a
fault.  Either way it leaves a state, a clock and the events it logged: a fault
takes nothing back.
-/

namespace JobLedger

/-- What an operation on a state of type `σ` with a clock of type `κ` leaves. -/
structure Outcome (σ κ α : Type) where
  result : Except Fault α
  state : σ
  clock : κ
  log : List Event

namespace Outcome

variable {σ τ κ α β : Type}

/-- The same outcome with another result, unless a fault ended it. -/
def map (f : α → β) (outcome : Outcome σ κ α) : Outcome σ κ β :=
  { outcome with result := outcome.result.map f }

/-- The same outcome for a state that holds the state of `outcome`. -/
def within (outcome : Outcome σ κ α) (embed : σ → τ) : Outcome τ κ α :=
  { outcome with state := embed outcome.state }

/-- The same outcome after an event that was logged before. -/
def after (event : Event) (outcome : Outcome σ κ α) : Outcome σ κ α :=
  { outcome with log := event :: outcome.log }

/-- The same outcome followed by an event. -/
def andThen (outcome : Outcome σ κ α) (event : Event) : Outcome σ κ α :=
  { outcome with log := outcome.log ++ [event] }

end Outcome

end JobLedger
