import JobLedger.Status

/-!
# Cancelling a wait

A cancel channel joins one handle and any number of tokens.  Cancelling through
the handle wakes every wait on a token, at once or whenever it starts.  Letting
the handle go without cancelling wakes nobody, then or ever.
-/

namespace JobLedger

/-- The state that the handle and the tokens of one channel share. -/
structure CancelChannel where
  cancelled : Bool
  /-- Whether the handle is still held. -/
  held : Bool
  deriving DecidableEq

namespace CancelChannel

/-- A new channel: its handle is held and nothing is cancelled. -/
def fresh : CancelChannel := ⟨false, true⟩

/-- Cancels, which only the holder of the handle can do. -/
def cancel (channel : CancelChannel) : CancelChannel :=
  if channel.held then { channel with cancelled := true } else channel

/-- Lets the handle go.  What is cancelled stays so. -/
def release (channel : CancelChannel) : CancelChannel :=
  { channel with held := false }

end CancelChannel

end JobLedger
