import JobLedger.Proofs.Subject.Absorption
import JobLedger.Proofs.Threads.Machine

/-!
# One operation at a time

Operations can also be carried out one at a time, each in one piece.  A list of
records is serial if that gives every response on record.

In a serial list whoever has seen a completion comes after the call that
resolved it, and finds the job ended if the completion is terminal.
-/

namespace JobLedger

namespace Threads

/-- Carries operations out one at a time; nothing if an await is among them
that would not end. -/
def oneByOne (tracker : Tracker) : List Operation → Option (List Response × Tracker)
  | [] => some ([], tracker)
  | operation :: rest =>
    (operation.perform tracker).bind fun (response, next) =>
      (oneByOne next rest).map fun (responses, last) => (response :: responses, last)

variable {ι : Type} {first last : Tracker} {record : Record ι} {before after : List (Record ι)}

/-- Carried out one at a time, the operations on record are answered as the
records say, and leave the tracker `last`. -/
def Serial (first : Tracker) (records : List (Record ι)) (last : Tracker) : Prop :=
  oneByOne first (records.map Record.operation) = some (records.map Record.response, last)

theorem serial_nil_iff : Serial first ([] : List (Record ι)) last ↔ last = first := by
  simp [Serial, oneByOne, eq_comm]

theorem serial_cons_iff :
    Serial first (record :: after) last ↔
      ∃ next, record.operation.perform first = some (record.response, next) ∧
        Serial next after last := by
  simp only [Serial, List.map_cons, oneByOne, Option.bind_eq_some_iff, Option.map_eq_some_iff,
    Prod.exists, Prod.mk.injEq, List.cons.injEq]
  constructor
  · rintro ⟨response, next, performed, responses, final, rest, ⟨rfl, rfl⟩, rfl⟩
    exact ⟨next, performed, rest⟩
  · rintro ⟨next, performed, rest⟩
    exact ⟨_, next, performed, _, _, rest, ⟨rfl, rfl⟩, rfl⟩

theorem serial_append_iff :
    Serial first (before ++ after) last ↔
      ∃ middle, Serial first before middle ∧ Serial middle after last := by
  induction before generalizing first with
  | nil => simp [serial_nil_iff]
  | cons record rest ih =>
      simp only [List.cons_append, serial_cons_iff, ih]
      constructor
      · rintro ⟨next, performed, middle, front, back⟩
        exact ⟨middle, ⟨next, performed, front⟩, back⟩
      · rintro ⟨middle, ⟨next, performed, front⟩, back⟩
        exact ⟨next, performed, middle, front, back⟩

/-- An operation is a call that may change the tracker, or changes nothing. -/
theorem Operation.eq_change_or_eq_of_perform {operation : Operation} {tracker next : Tracker}
    {response : Response} (performed : operation.perform tracker = some (response, next)) :
    (∃ call reading, operation = .locked (.change call reading) ∧
      next = (tracker.perform call reading).state) ∨ next = tracker := by
  cases operation with
  | await =>
      obtain ⟨found, _, same⟩ := Option.map_eq_some_iff.mp performed
      cases same
      exact .inr rfl
  | locked call =>
      cases call with
      | change call reading =>
          cases performed
          exact .inl ⟨call, reading, rfl, rfl⟩
      | ask query =>
          cases performed
          exact .inr rfl

/-- An invariant of the calls of a tracker is one of serial lists. -/
theorem Serial.invariant {P : Tracker → Prop}
    (keeps : ∀ (tracker : Tracker) call (reading : Reading), P tracker →
      P (tracker.perform call reading).state)
    {records : List (Record ι)} (serial : Serial first records last) (holds : P first) :
    P last := by
  induction records generalizing first with
  | nil =>
      rw [serial_nil_iff.mp serial]
      exact holds
  | cons record rest ih =>
      obtain ⟨next, performed, restSerial⟩ := serial_cons_iff.mp serial
      apply ih restSerial
      rcases Operation.eq_change_or_eq_of_perform performed with ⟨call, reading, _, rfl⟩ | rfl
      · exact keeps first call reading holds
      · exact holds

/-- Completion stays as it is. -/
theorem Serial.completion_eq {records : List (Record ι)} (serial : Serial first records last)
    {final : Status} (completed : first.completion = some final) :
    last.completion = some final := by
  apply serial.invariant (P := fun tracker => tracker.completion = some final) _ completed
  intro tracker call reading completed
  rw [Tracker.completion_perform, completed, Option.some_or]

/-- After the operations `before`, completion is open, and the call on record
resolves it with `final`. -/
structure Resolves (first : Tracker) (before : List (Record ι)) (completing : Record ι)
    (final : Status) : Prop where
  unresolved : ∃ tracker, Serial first before tracker ∧ tracker.completion = none
  completes : ∃ call reading, completing.operation = .locked (.change call reading) ∧
    call.final? = some final

/-- If completion is there in the end and was not at first, some call has
resolved it. -/
theorem Serial.exists_resolves {records : List (Record ι)} (serial : Serial first records last)
    (fresh : first.completion = none) {final : Status} (completed : last.completion = some final) :
    ∃ before completing after, records = before ++ completing :: after ∧
      Resolves first before completing final := by
  induction records generalizing first with
  | nil =>
      rw [serial_nil_iff.mp serial, fresh] at completed
      contradiction
  | cons record rest ih =>
      obtain ⟨next, performed, restSerial⟩ := serial_cons_iff.mp serial
      -- The record after which completion is there for the first time is the one.
      cases reached : next.completion with
      | none =>
          obtain ⟨before, completing, after, rfl, ⟨tracker, serialBefore, unresolved⟩, completes⟩ :=
            ih restSerial reached
          refine ⟨record :: before, completing, after, rfl, ⟨tracker, ?_, unresolved⟩, completes⟩
          exact serial_cons_iff.mpr ⟨next, performed, serialBefore⟩
      | some early =>
          obtain rfl : early = final :=
            Option.some.inj ((restSerial.completion_eq reached).symm.trans completed)
          rcases Operation.eq_change_or_eq_of_perform performed with
            ⟨call, reading, operation_eq, rfl⟩ | rfl
          · rw [Tracker.completion_perform, fresh, Option.none_or] at reached
            exact ⟨[], record, rest, rfl, ⟨first, serial_nil_iff.mpr rfl, fresh⟩,
              ⟨call, reading, operation_eq, reached⟩⟩
          · rw [fresh] at reached
            contradiction

/-! ## What a completion entails -/

/-- Completion is signalled, and if it is terminal the job has ended. -/
structure Concluded (tracker : Tracker) : Prop where
  signalled : tracker.signal = tracker.completion
  ended : ∀ final, tracker.completion = some final → final.isTerminal = true →
    tracker.status.isTerminal = true

theorem Concluded.perform {tracker : Tracker} (concluded : Concluded tracker)
    (call : Tracker.Call) (reading : Reading) :
    Concluded (tracker.perform call reading).state := by
  constructor
  · exact Tracker.signal_perform concluded.signalled call reading
  · intro final completed ends
    cases terminal : tracker.status.isTerminal with
    | true => rw [(Tracker.perform_of_terminal terminal call reading).1, terminal]
    | false =>
        rw [Tracker.completion_perform] at completed
        cases resolved : tracker.completion with
        | some existing =>
            rw [resolved, Option.some_or] at completed
            rw [concluded.ended final (resolved.trans completed) ends] at terminal
            contradiction
        | none =>
            rw [resolved, Option.none_or] at completed
            have granted := Tracker.refusal?_of_unresolved resolved call
            rw [Tracker.status_perform_of_granted granted, terminal,
              Tracker.Call.target_of_final? completed]
            exact ends

theorem Serial.concluded {records : List (Record ι)} (serial : Serial first records last)
    (concluded : Concluded first) : Concluded last :=
  serial.invariant (fun _ call reading before => before.perform call reading) concluded

/-- Who is answered with a completion comes after the call that resolved it, and
what comes later finds that completion, and an ended job if it is terminal. -/
theorem Serial.after_awaited {awaited : Record ι} {between : List (Record ι)} {final : Status}
    (serial : Serial first (before ++ awaited :: between) last) (concluded : Concluded first)
    (fresh : first.completion = none)
    (heard : awaited.response = .awaited (.completed final)) :
    last.completion = some final ∧ (final.isTerminal = true → last.status.isTerminal = true) ∧
      ∃ early completing late, before = early ++ completing :: late ∧
        Resolves first early completing final := by
  have concludedLast := serial.concluded concluded
  obtain ⟨middle, front, back⟩ := serial_append_iff.mp serial
  obtain ⟨next, performed, rest⟩ := serial_cons_iff.mp back
  rw [heard] at performed
  have operation_eq := Operation.eq_await_of_perform performed
  rw [operation_eq, Operation.perform, awaited?_eq] at performed
  obtain ⟨found, found_eq, pair_eq⟩ := Option.map_eq_some_iff.mp performed
  obtain ⟨seen, signalled, rfl⟩ := Option.map_eq_some_iff.mp found_eq
  cases pair_eq
  have completed : middle.completion = some final :=
    (front.concluded concluded).signalled.symm.trans signalled
  have completedLast : last.completion = some final := rest.completion_eq completed
  exact ⟨completedLast, concludedLast.ended final completedLast,
    front.exists_resolves fresh completed⟩

end Threads

end JobLedger
