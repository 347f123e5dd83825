import JobLedger.Proofs.Registry.Vertex
import JobLedger.Proofs.Subject.Attempts

/-!
# Clients that register at the same time

Any number of clients work on one subject.  Each has a program of acts, and a
schedule says in what order the acts of all of them happen.  The clients that
register keep apart: no two of them register under one identifier.

Under an identifier, a schedule then writes what its one writer writes, in the
order of the writer.  So the registry is the same in the end for all schedules,
and whoever asks for an attempt is told something that its writer registered,
and never anything older than what was told before.
-/

namespace JobLedger

namespace Subject

variable {κ ω : Type}

/-! ## Schedules -/

section Schedules

variable [DecidableEq ω]

/-- The acts of one client in a schedule. -/
def actsOf (schedule : List (ω × Act κ)) (client : ω) : List (Act κ) :=
  (schedule.filter fun turn => turn.1 = client).map Prod.snd

/-- A schedule in which every client carries out its program. -/
def Interleaves (programs : ω → List (Act κ)) (schedule : List (ω × Act κ)) : Prop :=
  ∀ client, actsOf schedule client = programs client

theorem actsOf_append (first second : List (ω × Act κ)) (client : ω) :
    actsOf (first ++ second) client = actsOf first client ++ actsOf second client := by
  simp [actsOf]

theorem mem_actsOf_iff {schedule : List (ω × Act κ)} {client : ω} {act : Act κ} :
    act ∈ actsOf schedule client ↔ (client, act) ∈ schedule := by
  simp [actsOf]

theorem Interleaves.mem_iff {programs : ω → List (Act κ)} {schedule : List (ω × Act κ)}
    (interleaves : Interleaves programs schedule) {client : ω} {act : Act κ} :
    (client, act) ∈ schedule ↔ act ∈ programs client := by
  rw [← interleaves client, mem_actsOf_iff]

/-- The programs of some clients one after another. -/
def inTurn (programs : ω → List (Act κ)) (order : List ω) : List (ω × Act κ) :=
  order.flatMap fun client => (programs client).map fun act => (client, act)

omit [DecidableEq ω] in
theorem map_snd_inTurn (programs : ω → List (Act κ)) (order : List ω) :
    (inTurn programs order).map Prod.snd = order.flatMap programs := by
  simp [inTurn, List.map_flatMap, Function.comp_def]

theorem actsOf_program (program : List (Act κ)) (owner client : ω) :
    actsOf (program.map fun act => (owner, act)) client =
      if owner = client then program else [] := by
  by_cases own : owner = client <;> simp [actsOf, own, List.filter_map, Function.comp_def]

theorem actsOf_inTurn (programs : ω → List (Act κ)) {order : List ω} (once : order.Nodup)
    (client : ω) :
    actsOf (inTurn programs order) client = if client ∈ order then programs client else [] := by
  induction order with
  | nil => rfl
  | cons first rest ih =>
      obtain ⟨absent, restOnce⟩ := List.nodup_cons.mp once
      rw [inTurn, List.flatMap_cons, actsOf_append, actsOf_program]
      change _ ++ actsOf (inTurn programs rest) client = _
      rw [ih restOnce]
      by_cases own : first = client
      · subst own
        simp [absent]
      · simp [own, Ne.symm own]

/-- To carry out the programs one after another is one way to interleave them. -/
theorem interleaves_inTurn {programs : ω → List (Act κ)} {order : List ω} (once : order.Nodup)
    (all : ∀ client, programs client ≠ [] → client ∈ order) :
    Interleaves programs (inTurn programs order) := by
  intro client
  rw [actsOf_inTurn programs once]
  split
  · rfl
  · next absent =>
    exact (not_ne_iff.mp fun busy => absent (all client busy)).symm

end Schedules

/-! ## Clients that keep apart -/

/-- No two clients register under one identifier. -/
def Apart (programs : ω → List (Act κ)) : Prop :=
  ∀ first second one other, .register one ∈ programs first → .register other ∈ programs second →
    one.id = other.id → first = second

section Apart

variable [DecidableEq ω]

/-- What only one client writes is written in the order of that client. -/
theorem writes_of_only {schedule : List (ω × Act κ)} {client : ω} {id : AttemptId}
    (only : ∀ other attempt, (other, .register attempt) ∈ schedule → attempt.id = id →
      other = client) :
    writes (schedule.map Prod.snd) id = writes (actsOf schedule client) id := by
  induction schedule with
  | nil => rfl
  | cons turn rest ih =>
      obtain ⟨other, act⟩ := turn
      have later := ih fun other attempt member =>
        only other attempt (List.mem_cons_of_mem _ member)
      have split : actsOf ((other, act) :: rest) client =
          actsOf [(other, act)] client ++ actsOf rest client :=
        actsOf_append [(other, act)] rest client
      rw [split, List.map_cons, ← List.singleton_append, writes_append, writes_append, later]
      congr 1
      by_cases own : other = client
      · simp [actsOf, own]
      · -- A turn of another client writes nothing under this identifier.
        have silent : writes [act] id = [] := by
          rw [List.eq_nil_iff_forall_not_mem]
          intro attempt member
          obtain ⟨registers, same⟩ := mem_writes_iff.mp member
          obtain rfl := List.mem_singleton.mp registers
          exact own (only other attempt List.mem_cons_self same)
        have absent : actsOf [(other, act)] client = [] := by simp [actsOf, own]
        rw [absent]
        exact silent

variable {programs : ω → List (Act κ)} {schedule : List (ω × Act κ)}

/-- Under an identifier, a schedule writes what the writer of it writes. -/
theorem Interleaves.writes_eq (interleaves : Interleaves programs schedule)
    (apart : Apart programs) {writer : ω} {attempt : Attempt}
    (registers : .register attempt ∈ programs writer) :
    writes (schedule.map Prod.snd) attempt.id = writes (programs writer) attempt.id := by
  rw [← interleaves writer]
  apply writes_of_only
  intro other another member same
  exact apart other writer another attempt (interleaves.mem_iff.mp member) registers same

/-- What a schedule writes is registered by a client. -/
theorem Interleaves.exists_writer (interleaves : Interleaves programs schedule) {id : AttemptId}
    {attempt : Attempt} (written : attempt ∈ writes (schedule.map Prod.snd) id) :
    ∃ writer, .register attempt ∈ programs writer := by
  obtain ⟨⟨writer, act⟩, member, registers⟩ := List.mem_map.mp (mem_writes_iff.mp written).1
  exact ⟨writer, interleaves.mem_iff.mp (registers ▸ member)⟩

/-- All schedules write the same under an identifier. -/
theorem Interleaves.writes_congr (interleaves : Interleaves programs schedule)
    (apart : Apart programs) {other : List (ω × Act κ)} (others : Interleaves programs other)
    (id : AttemptId) :
    writes (schedule.map Prod.snd) id = writes (other.map Prod.snd) id := by
  by_cases used : ∃ writer attempt, .register attempt ∈ programs writer ∧ attempt.id = id
  · obtain ⟨writer, attempt, registers, rfl⟩ := used
    rw [interleaves.writes_eq apart registers, others.writes_eq apart registers]
  · have unwritten {some : List (ω × Act κ)} (carried : Interleaves programs some) :
        writes (some.map Prod.snd) id = [] := by
      rw [List.eq_nil_iff_forall_not_mem]
      intro attempt written
      obtain ⟨writer, registers⟩ := carried.exists_writer written
      exact used ⟨writer, attempt, registers, (mem_writes_iff.mp written).2⟩
    rw [unwritten interleaves, unwritten others]

/-! ## What becomes of a new registry -/

variable [Clock κ]

/-- All schedules lead to one registry. -/
theorem Interleaves.registry?_run_congr {subject : Subject}
    (new : subject.registry? = some .empty) (interleaves : Interleaves programs schedule)
    (apart : Apart programs) {other : List (ω × Act κ)} (others : Interleaves programs other)
    (first second : κ) :
    (subject.run (schedule.map Prod.snd) first).state.registry? =
      (subject.run (other.map Prod.snd) second).state.registry? := by
  obtain ⟨one, one_eq, foundInOne⟩ := find?_run new (schedule.map Prod.snd) first
  obtain ⟨another, another_eq, foundInOther⟩ := find?_run new (other.map Prod.snd) second
  rw [one_eq, another_eq]
  congr 1
  apply Registry.ext_find?
  intro id
  rw [foundInOne, foundInOther, interleaves.writes_congr apart others]

/-- **Registering at the same time loses and mixes nothing.**  Clients with
programs that keep apart work on a new registry, or on a job with one.  In the
end every schedule has led to one and the same registry, the one to which the
programs lead one after another.  In it, every identifier leads to the last
attempt that its writer registers, and whatever the order in which the
attempts are gone through, those of a vertex are listed alike but for ties.

Meanwhile, who asks for an attempt is told the last one that was registered
under its identifier in the turns before.  What was registered there is an
attempt of that identifier, from the program of its writer, and in the order of
that program; and it only gets more.  So nobody is told something older than
before, or nothing again. -/
theorem registry_of_every_schedule {subject : Subject} (new : subject.registry? = some .empty)
    (apart : Apart programs) (interleaves : Interleaves programs schedule) (clock : κ) :
    let run := subject.run (schedule.map Prod.snd) clock
    let executed (place : Nat) (id : AttemptId) := writes ((schedule.map Prod.snd).take place) id
    (∃ registry, run.state.registry? = some registry ∧
      (∀ other origin, Interleaves programs other →
        (subject.run (other.map Prod.snd) origin).state.registry? = some registry) ∧
      (∀ (order : List ω) origin, order.Nodup → (∀ client, programs client ≠ [] → client ∈ order) →
        (subject.run (order.flatMap programs) origin).state.registry? = some registry) ∧
      (∀ writer attempt, .register attempt ∈ programs writer →
        registry.find? attempt.id = (writes (programs writer) attempt.id).getLast?) ∧
      ∀ listing vertex, listing.Perm registry.snapshot →
        (Registry.ofVertex listing vertex).Perm (registry.attemptsFor vertex) ∧
        (Registry.ofVertex listing vertex).map Attempt.number =
          (registry.attemptsFor vertex).map Attempt.number) ∧
    (∀ (place : Nat) reader id, schedule[place]? = some (reader, .ask (.find id)) →
      run.trace[place]?.map Outcome.result =
        some (.ok (.told (.found (executed place id).getLast?)))) ∧
    (∀ place id attempt, attempt ∈ executed place id → attempt.id = id ∧
      ∃ writer, .register attempt ∈ programs writer ∧
        executed place id <+: writes (programs writer) id) ∧
    ∀ earlier later id, earlier ≤ later → executed earlier id <+: executed later id ∧
      ((executed earlier id).getLast?.isSome → (executed later id).getLast?.isSome) := by
  intro run executed
  have complete (place : Nat) (id : AttemptId) :
      executed place id <+: writes (schedule.map Prod.snd) id :=
    writes_prefix (List.take_prefix _ _) id
  refine ⟨?_, ?_, ?_, ?_⟩
  · obtain ⟨registry, own, found⟩ := find?_run new (schedule.map Prod.snd) clock
    have same (other : List (ω × Act κ)) (origin : κ) (others : Interleaves programs other) :
        (subject.run (other.map Prod.snd) origin).state.registry? = some registry :=
      (others.registry?_run_congr new apart interleaves origin clock).trans own
    refine ⟨registry, own, same, ?_, ?_, ?_⟩
    · intro order origin once all
      rw [← map_snd_inTurn]
      exact same _ origin (interleaves_inTurn once all)
    · intro writer attempt registers
      rw [found, interleaves.writes_eq apart registers]
    · intro listing vertex listed
      exact ⟨Registry.ofVertex_perm listed vertex, Registry.map_number_ofVertex listed vertex⟩
  · intro place reader id asked
    have act : (schedule.map Prod.snd)[place]? = some (.ask (.find id)) := by
      rw [List.getElem?_map, asked]
      rfl
    exact found_in_run new act clock
  · intro place id attempt written
    have inSchedule := (complete place id).subset written
    obtain ⟨writer, registers⟩ := interleaves.exists_writer inSchedule
    obtain rfl : attempt.id = id := (mem_writes_iff.mp written).2
    exact ⟨rfl, writer, registers, interleaves.writes_eq apart registers ▸ complete place _⟩
  · intro earlier later id order
    have grows : executed earlier id <+: executed later id :=
      writes_prefix (List.take_prefix_take_left order) id
    exact ⟨grows, isSome_getLast?_of_prefix grows⟩

/-- Two writers, one of which registers an attempt twice, and a reader who asks
for that attempt in between and in the end. -/
theorem registry_of_schedule_with_replacement :
    let first : Attempt := .first ⟨"A1"⟩ ⟨"V1"⟩
    let again : Attempt := { first with vertex := ⟨"V2"⟩, state := .running }
    let other : Attempt := .first ⟨"B1"⟩ ⟨"V1"⟩
    let programs : Fin 3 → List (Act ManualClock)
      | 0 => [.register first, .register again]
      | 1 => [.register other]
      | 2 => [.ask (.find ⟨"A1"⟩), .ask (.find ⟨"A1"⟩)]
    let schedule : List (Fin 3 × Act ManualClock) :=
      [(0, .register first), (2, .ask (.find ⟨"A1"⟩)), (1, .register other),
        (0, .register again), (2, .ask (.find ⟨"A1"⟩))]
    let subject := registry .empty
    let run := subject.run (schedule.map Prod.snd) (.starting 0)
    subject.registry? = some .empty ∧ Apart programs ∧ Interleaves programs schedule ∧
      (subject.run ([1, 2, 0].flatMap programs) (.starting 0)).state.registry? =
        run.state.registry? ∧
      run.trace[1]?.map Outcome.result = some (.ok (.told (.found (some first)))) ∧
      run.trace[4]?.map Outcome.result = some (.ok (.told (.found (some again)))) := by
  intro first again other programs schedule subject run
  have everyone : ∀ client : Fin 3, client ∈ [1, 2, 0] := by decide
  -- The identifier of an attempt tells who registers it.
  have writer (client : Fin 3) (attempt : Attempt)
      (registers : .register attempt ∈ programs client) :
      client = if attempt.id = ⟨"A1"⟩ then 0 else 1 := by
    match client with
    | 0 =>
      rcases List.mem_pair.mp registers with here | here <;> cases here <;> rfl
    | 1 =>
      cases List.mem_singleton.mp registers
      rfl
    | 2 =>
      rcases List.mem_pair.mp registers with here | here <;> cases here
  have apart : Apart programs := by
    intro one two attempt another registers alsoRegisters same
    rw [writer one attempt registers, writer two another alsoRegisters, same]
  have interleaves : Interleaves programs schedule := by
    intro client
    match client with
    | 0 => rfl
    | 1 => rfl
    | 2 => rfl
  have new : subject.registry? = some .empty := rfl
  obtain ⟨⟨last, own, _, inOrder, _⟩, told, _⟩ :=
    registry_of_every_schedule new apart interleaves (.starting 0)
  refine ⟨new, apart, interleaves, ?_, told 1 2 ⟨"A1"⟩ rfl, told 4 2 ⟨"A1"⟩ rfl⟩
  rw [own]
  exact inOrder [1, 2, 0] (.starting 0) (by decide) fun client _ => everyone client

end Apart

end Subject

end JobLedger
