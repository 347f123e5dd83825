import JobLedger.Proofs.Subject.Run

/-!
# The readings of a run

A run reads the clock once for every status that it enters, and at no other
time.  A reading that succeeds stamps the status; one that fails leaves the
stamps alone.  So every stamp stays what it was until the run takes a reading
that takes its place, and no stamp is ever lost.
-/

namespace JobLedger

namespace Tracker

variable {κ : Type} [Clock κ]

/-- The time that a call reads off the clock, if it reads the clock and that
does not fail. -/
def reading? (tracker : Tracker) (call : Call) (clock : κ) : Option Int64 :=
  if (tracker.perform call clock).entered = [] then none else (Clock.read clock).1

/-- A call reads the clock, once, exactly if it enters a status. -/
theorem clock_perform (tracker : Tracker) (call : Call) (clock : κ) :
    (tracker.perform call clock).clock =
      if (tracker.perform call clock).entered = [] then clock else (Clock.read clock).2 := by
  rw [entered_perform]
  rcases tracker.refused_or_absorbed_or_entering call with
    ⟨rejection, refused⟩ | ⟨granted, terminal⟩ | ⟨granted, moving⟩
  · simp [perform_of_refused refused, refused]
  · simp [perform_of_absorbed granted terminal, terminal]
  · simp [perform_of_entering granted moving, granted, moving]

/-- A call reads the clock if it is neither refused nor absorbed. -/
theorem reading?_eq (tracker : Tracker) (call : Call) (clock : κ) :
    tracker.reading? call clock =
      if tracker.refusal? call = none ∧ tracker.status.isTerminal = false then (Clock.read clock).1
      else none := by
  rw [reading?, entered_perform]
  split <;> rfl

/-- A call stamps its target with the time that it reads, and nothing else. -/
theorem get?_perform (tracker : Tracker) (call : Call) (clock : κ) (status : Status) :
    (tracker.perform call clock).state.enteredAt.get? status =
      if status = call.target then (tracker.reading? call clock).or (tracker.enteredAt.get? status)
      else tracker.enteredAt.get? status := by
  have read_eq := tracker.reading?_eq call clock
  rcases tracker.refused_or_absorbed_or_entering call with
    ⟨rejection, refused⟩ | ⟨granted, terminal⟩ | ⟨granted, moving⟩
  · simp [read_eq, perform_of_refused refused, refused]
  · simp [read_eq, perform_of_absorbed granted terminal, terminal]
  · rw [if_pos ⟨granted, moving⟩] at read_eq
    rw [read_eq, perform_of_entering granted moving]
    cases (Clock.read clock).1 with
    | none => simp [entered]
    | some now => simp [entered, Stamps.get?_insert]

end Tracker

namespace Subject

variable {κ : Type} [Clock κ]

/-- The time that an act reads off the clock, if it reads the clock and that
does not fail. -/
def reading? (subject : Subject) (act : Act κ) (clock : κ) : Option Int64 :=
  if (subject.perform act clock).entered = [] then none else (Clock.read clock).1

/-- The times that a run reads off the clock, in order. -/
def readings (subject : Subject) : List (Act κ) → κ → List Int64
  | [], _ => []
  | act :: rest, clock =>
    let outcome := subject.perform act clock
    (subject.reading? act clock).toList ++ outcome.state.readings rest outcome.clock

theorem readings_append (subject : Subject) (before after : List (Act κ)) (clock : κ) :
    subject.readings (before ++ after) clock =
      let reached := subject.run before clock
      subject.readings before clock ++ reached.state.readings after reached.clock := by
  induction before generalizing subject clock with
  | nil => rfl
  | cons act rest ih =>
      simp only [List.cons_append, readings, run]
      rw [ih, List.append_assoc]

/-- An act that calls the tracker reads what its call reads. -/
theorem reading?_eq {subject : Subject} {tracker : Tracker}
    (own : subject.tracker? = some tracker) (act : Act κ) (clock : κ) :
    subject.reading? act clock =
      (subject.callOf act).bind fun call => tracker.reading? call clock := by
  rw [reading?, entered_perform own]
  cases subject.callOf act <;> rfl

/-- A stamp is what it was before an act, or the time that the act reads. -/
theorem get?_act {subject : Subject} {tracker : Tracker}
    (own : subject.tracker? = some tracker) (act : Act κ) (clock : κ) :
    ∃ later, (subject.perform act clock).state.tracker? = some later ∧
      ∀ status, later.enteredAt.get? status = tracker.enteredAt.get? status ∨
        ∃ time ∈ subject.reading? act clock, later.enteredAt.get? status = some time := by
  rw [tracker?_perform own, reading?_eq own]
  cases subject.callOf act with
  | none => exact ⟨tracker, rfl, fun _ => .inl rfl⟩
  | some call =>
      refine ⟨_, rfl, fun status => ?_⟩
      rw [Option.elim_some, Option.bind_some, Tracker.get?_perform]
      by_cases targeted : status = call.target
      · rw [if_pos targeted]
        cases tracker.reading? call clock with
        | none => exact .inl rfl
        | some time => exact .inr ⟨time, rfl, rfl⟩
      · rw [if_neg targeted]
        exact .inl rfl

/-- A stamp is what it was before a run, or a time that the run reads. -/
theorem get?_run {subject : Subject} {tracker : Tracker}
    (own : subject.tracker? = some tracker) (acts : List (Act κ)) (clock : κ) :
    ∃ later, (subject.run acts clock).state.tracker? = some later ∧
      ∀ status, later.enteredAt.get? status = tracker.enteredAt.get? status ∨
        ∃ time ∈ subject.readings acts clock, later.enteredAt.get? status = some time := by
  induction acts generalizing subject tracker clock with
  | nil => exact ⟨tracker, own, fun _ => .inl rfl⟩
  | cons act rest ih =>
      obtain ⟨next, nextOwn, nextStamp⟩ := get?_act own act clock
      obtain ⟨later, laterOwn, laterStamp⟩ := ih nextOwn (subject.perform act clock).clock
      refine ⟨later, laterOwn, fun status => ?_⟩
      simp only [readings, List.mem_append, Option.mem_toList]
      rcases laterStamp status with same | ⟨time, read, stamped⟩
      · rcases nextStamp status with before | ⟨time, read, stamped⟩
        · exact .inl (same.trans before)
        · exact .inr ⟨time, .inl read, same.trans stamped⟩
      · exact .inr ⟨time, .inr read, stamped⟩

end Subject

end JobLedger
