/-!
# Clocks

A clock is read for the time in milliseconds since the epoch, and reading it
may fail.  Whatever works on a clock works on every type of the class `Clock`.
A `ManualClock` stands still until it is moved, a `ScriptedClock` gives
readings that are laid down in advance.
-/

namespace JobLedger

/-- What a clock answers: the time, or nothing if reading it failed. -/
abbrev Reading := Option Int64

/-- A thing that can be read for the time.  Reading it may change it. -/
class Clock (κ : Type) where
  read : κ → Reading × κ

/-- A clock that moves only when it is told to. -/
structure ManualClock where
  now : Int64
  /-- Whether the next reading fails. -/
  broken : Bool
  deriving DecidableEq

namespace ManualClock

/-- A clock that shows `now`. -/
def starting (now : Int64) : ManualClock := ⟨now, false⟩

/-- Moves the clock by a span of either sign; times wrap around at 64 bits. -/
def advance (clock : ManualClock) (span : Int64) : ManualClock :=
  { clock with now := clock.now + span }

/-- Makes the next reading fail, and only that one. -/
def failNext (clock : ManualClock) : ManualClock :=
  { clock with broken := true }

instance : Clock ManualClock where
  read clock :=
    if clock.broken then (none, { clock with broken := false }) else (some clock.now, clock)

end ManualClock

/-- A clock with all its readings laid down; `used` of them have been taken. -/
structure ScriptedClock where
  script : Nat → Reading
  used : Nat

instance : Clock ScriptedClock where
  read clock := (clock.script clock.used, { clock with used := clock.used + 1 })

/-- A clock that gives one reading for ever. -/
instance : Clock Reading where
  read reading := (reading, reading)

end JobLedger
