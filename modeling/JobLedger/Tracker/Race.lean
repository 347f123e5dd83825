import JobLedger.Tracker

/-!
# Many callers on one tracker

Several callers make one call each on a fresh tracker.  The calls take effect
one after another in an order nobody controls.  A verdict keeps what does not
depend on that order.
-/

namespace JobLedger.Race

/-- The clock of a race stands still: no fault comes from it. -/
def clock : ManualClock := .starting 0

/-- A tracker that nobody has called. -/
def fresh : Tracker :=
  { status := .initial
    completion := none
    signal := none
    enteredAt := Stamps.empty.insert .initial clock.now }

/-- What is true of a race of requests in every order. -/
structure RequestVerdict where
  /-- How many requests for a terminal status were granted. -/
  terminalWins : Nat
  finalTerminal : Bool
  /-- Each terminal status that was granted is the final one. -/
  consistent : Bool
  completed : Bool
  deriving DecidableEq

/-- Whether a request was granted. -/
def granted : Except Fault Tracker.Answer → Bool
  | .ok (.ok applied) => applied
  | _ => false

/-- Lets callers request one target each. -/
def requests (targets : List Status) : RequestVerdict :=
  let run := fresh.run (targets.map .request) clock
  let wins := (targets.zip run.answers).filter fun (target, answer) =>
    target.isTerminal && granted answer
  { terminalWins := wins.length
    finalTerminal := run.state.status.isTerminal
    consistent := wins.all fun (target, _) => target = run.state.status
    completed := run.state.completion.isSome }

/-- What is true of a race of completions in every order. -/
structure CompletionVerdict where
  /-- How many completions were accepted. -/
  resolved : Nat
  completed : Bool
  /-- The accepted one is the completion and the final status. -/
  consistent : Bool
  deriving DecidableEq

/-- Whether a completion was accepted. -/
def accepted : Except Fault Tracker.Answer → Bool
  | .ok (.ok _) => true
  | _ => false

/-- Lets callers complete with one target each. -/
def completions (targets : List Status) : CompletionVerdict :=
  let run := fresh.run (targets.map .tryComplete) clock
  let winners := (targets.zip run.answers).filter fun (_, answer) => accepted answer
  { resolved := winners.length
    completed := run.state.completion.isSome
    consistent := winners.all fun (target, _) =>
      run.state.completion = some target && run.state.status = target }

end JobLedger.Race
