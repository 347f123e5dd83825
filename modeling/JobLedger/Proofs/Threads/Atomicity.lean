import JobLedger.Proofs.Threads.OneByOne

/-!
# The lock makes calls atomic

The signal is sent while the lock is held, to awaits that take no lock.  All the
same, whatever threads do to a tracker could as well have been done one
operation at a time: a call takes effect when it gets the lock, an await when it
sees the signal, and in this order the operations give the responses that they
gave.  An operation that ended before another began comes before it.

The point is an await that sees the signal half way through a call.  The call
has taken effect by then, and the status it has not yet entered is seen by
nobody before the call is over, for the status is read under the lock.
-/

namespace JobLedger

namespace Threads

variable {ι : Type} [DecidableEq ι]

/-- An order in which what has taken effect could have been done, one operation
at a time. -/
structure Machine.Explains (machine : Machine ι) (first : Tracker) (stop : Nat)
    (order : List (Record ι)) : Prop where
  perm : order.Perm (machine.records stop)
  own : ∀ thread, order.filter (fun record => record.thread = thread) =
    (machine.records stop).filter fun record => record.thread = thread
  acted : order.Pairwise fun earlier later => earlier.acted < later.acted
  timely : ∀ record ∈ order, record.began ≤ record.acted ∧ record.acted ≤ record.ended ∧
    record.acted < machine.time
  serial : Serial first order machine.settled

namespace Machine

namespace Explains

variable {machine moved : Machine ι} {first : Tracker} {stop : Nat} {order : List (Record ι)}

/-- Nothing takes effect: the order explains the machine as before. -/
theorem silent {ending : Nat} (explains : machine.Explains first ending order)
    (records_eq : moved.records stop = machine.records ending)
    (settled_eq : moved.settled = machine.settled) (time_le : machine.time ≤ moved.time) :
    moved.Explains first stop order := by
  constructor
  · rw [records_eq]
    exact explains.perm
  · rw [records_eq]
    exact explains.own
  · exact explains.acted
  · intro record member
    obtain ⟨began_le, acted_le, acted_lt⟩ := explains.timely record member
    exact ⟨began_le, acted_le, Nat.lt_of_lt_of_le acted_lt time_le⟩
  · rw [settled_eq]
    exact explains.serial

/-- An operation takes effect: it is the last one in the order. -/
theorem acts {record : Record ι} (explains : machine.Explains first stop order)
    (records_eq : moved.records stop = machine.ended ++ record :: machine.held stop)
    (others : ∀ other ∈ machine.held stop, other.thread ≠ record.thread)
    (performed : record.operation.perform machine.settled =
      some (record.response, moved.settled))
    (began_le : record.began ≤ machine.time) (acted_eq : record.acted = machine.time)
    (le_ended : machine.time ≤ record.ended) (time_lt : machine.time < moved.time) :
    moved.Explains first stop (order ++ [record]) := by
  constructor
  · rw [records_eq]
    exact (List.perm_append_singleton record order).trans
      ((explains.perm.cons record).trans List.perm_middle.symm)
  · intro thread
    rw [filter_records records_eq others, List.filter_append, explains.own]
    by_cases mine : thread = record.thread <;> simp [mine, eq_comm]
  · refine List.pairwise_append.mpr ⟨explains.acted, List.pairwise_singleton _ _, ?_⟩
    intro earlier member later isLast
    rw [List.mem_singleton.mp isLast, acted_eq]
    exact (explains.timely earlier member).2.2
  · intro other member
    rcases List.mem_append.mp member with old | new
    · obtain ⟨other_began_le, other_acted_le, acted_lt⟩ := explains.timely other old
      exact ⟨other_began_le, other_acted_le, Nat.lt_trans acted_lt time_lt⟩
    · rw [List.mem_singleton.mp new, acted_eq]
      exact ⟨began_le, le_ended, time_lt⟩
  · apply serial_append_iff.mpr
    exact ⟨machine.settled, explains.serial,
      serial_cons_iff.mpr ⟨moved.settled, performed, serial_nil_iff.mpr rfl⟩⟩

/-- What ended before another operation began does not come after it. -/
theorem realTime (explains : machine.Explains first stop order) :
    order.Pairwise fun earlier later => ¬ later.ended < earlier.began := by
  apply explains.acted.imp_of_mem
  intro earlier later earlierMember laterMember acted_lt
  have began_le := (explains.timely earlier earlierMember).1
  have acted_le := (explains.timely later laterMember).2.1
  omega

/-- An operation that ended before another began comes before it. -/
theorem exists_split (explains : machine.Explains first stop order) {earlier later : Record ι}
    (earlierMember : earlier ∈ order) (laterMember : later ∈ order)
    (precedes : earlier.ended < later.began) :
    ∃ before between after, order = before ++ earlier :: between ++ later :: after := by
  have acted_le := (explains.timely earlier earlierMember).2.1
  have began_le := (explains.timely later laterMember).1
  have acted := explains.acted
  obtain ⟨before, rest, rfl⟩ := List.append_of_mem earlierMember
  have across := (List.pairwise_append.mp acted).2.2
  rcases List.mem_append.mp laterMember with front | back
  · have acted_lt := across later front earlier List.mem_cons_self
    omega
  · rcases List.mem_cons.mp back with rfl | deeper
    · omega
    · obtain ⟨between, after, rfl⟩ := List.append_of_mem deeper
      exact ⟨before, between, after, by simp⟩

end Explains

/-- What holds of a machine at every step: how its lock stands, that its threads
follow their programs, and that what has taken effect is explained. -/
structure Sound (first : Tracker) (programs : ι → List Operation) (machine : Machine ι) :
    Prop where
  fits : machine.Fits
  inTurn : machine.InTurn
  follows : machine.Follows programs
  explained : ∀ stop, machine.time ≤ stop → ∃ order, machine.Explains first stop order

theorem sound_start {first : Tracker} (agree : first.signal = first.completion)
    (programs : ι → List Operation) : (start first programs).Sound first programs := by
  refine ⟨agree, .start first programs, fun _ _ => rfl, ?_⟩
  intro stop _
  refine ⟨[], .refl _, fun _ => rfl, .nil, ?_, serial_nil_iff.mpr rfl⟩
  intro record member
  contradiction

theorem Sound.step {first : Tracker} {programs : ι → List Operation} {machine : Machine ι}
    (sound : machine.Sound first programs) (thread : ι) :
    (machine.step thread).Sound first programs := by
  have moves := step_moves machine thread
  have effect := moves.effect sound.fits
  refine ⟨sound.fits.of_moves moves, sound.inTurn.of_moves sound.fits moves,
    sound.follows.of_effect effect, ?_⟩
  intro stop later
  have time_lt : machine.time < (machine.step thread).time := Nat.lt_succ_self _
  -- The call that has the lock may have ended at this very step, so the order is
  -- taken for that end, and not for `stop`.
  cases effect stop with
  | silent ending ending_eq records_eq settled_eq remaining_eq =>
      obtain ⟨order, explains⟩ := sound.explained ending (by omega)
      exact ⟨order, explains.silent records_eq settled_eq (Nat.le_of_lt time_lt)⟩
  | acts record pending acted_eq ended_eq records_eq others performed remaining_eq =>
      obtain ⟨order, explains⟩ := sound.explained stop (by omega)
      have began_le := Nat.le_of_lt (sound.inTurn.begun record.thread _ pending)
      exact ⟨order ++ [record], explains.acts records_eq others performed began_le acted_eq
        (by omega) time_lt⟩

theorem sound_run {first : Tracker} (agree : first.signal = first.completion)
    (programs : ι → List Operation) (schedule : List ι) :
    ((start first programs).run schedule).Sound first programs :=
  run_invariant (fun _ thread sound => sound.step thread) (sound_start agree programs) schedule

end Machine

theorem concluded_started (now : Int64) : Concluded (.started now) := by
  constructor
  · rfl
  · intro final completed
    contradiction

/-- A call of which the lock was taken after an await had ended finds what the
completing call or a later one has left. -/
theorem Machine.Explains.after_awaited {machine : Machine ι} {now : Int64} {stop : Nat}
    {order : List (Record ι)} (explains : machine.Explains (.started now) stop order)
    {awaited later : Record ι} (awaitedMember : awaited ∈ order) (laterMember : later ∈ order)
    (precedes : awaited.ended < later.began) {final : Status}
    (heard : awaited.response = .awaited (.completed final)) :
    ∃ before completing between after reached next,
      order = before ++ completing :: between ++ later :: after ∧
      Resolves (.started now) before completing final ∧
      Serial (.started now) (before ++ completing :: between) reached ∧
      reached.completion = some final ∧
      (final.isTerminal = true → reached.status.isTerminal = true) ∧
      later.operation.perform reached = some (later.response, next) := by
  obtain ⟨before, between, after, rfl⟩ :=
    explains.exists_split awaitedMember laterMember precedes
  obtain ⟨reached, front, back⟩ := serial_append_iff.mp explains.serial
  obtain ⟨next, performed, _⟩ := serial_cons_iff.mp back
  obtain ⟨completed, ended, early, completing, late, rfl, resolves⟩ :=
    front.after_awaited (concluded_started now) rfl heard
  refine ⟨early, completing, late ++ awaited :: between, after, reached, next, ?_, resolves, ?_,
    completed, ended, performed⟩
  · simp
  · simpa using front

/-- **The lock makes calls atomic.**  Let any threads carry out their programs on
a new tracker, step by step under any schedule.  There is an order in which the
operations that have taken effect could have been carried out one at a time:
they give the responses that they gave, and leave the same tracker.  While
nobody has the lock, these are the operations that have ended; else the call
that has it is taken to its end.  The order keeps to which operations ended
before others began, and so to the program of each thread.

Who is told of a completion and then asks for it is told the same again; who
then asks for the status is told one that the completing call or a later one has
left, and so a terminal one if the completion is terminal. -/
theorem interleaving_is_one_by_one (now : Int64) (programs : ι → List Operation)
    (schedule : List ι) :
    let machine := (Machine.start (.started now) programs).run schedule
    ∃ order : List (Record ι),
      order.Perm (machine.records machine.time) ∧
      Serial (.started now) order machine.settled ∧
      (machine.lock = none →
        order.Perm machine.ended ∧ machine.settled = machine.tracker) ∧
      order.Pairwise (fun earlier later => ¬ later.ended < earlier.began) ∧
      (∀ thread,
        let own := order.filter fun record => record.thread = thread
        own.map Record.operation ++ machine.remaining thread = programs thread ∧
          own.Pairwise fun earlier later => earlier.ended < later.began) ∧
      ∀ awaited ∈ machine.ended, ∀ later ∈ machine.ended, awaited.ended < later.began →
        ∀ final, awaited.response = .awaited (.completed final) →
          (later.operation = .locked (.ask .completion) →
            later.response = .completion (some final)) ∧
          (later.operation = .locked (.ask .status) →
            ∃ before completing between after reached,
              order = before ++ completing :: between ++ later :: after ∧
              Resolves (.started now) before completing final ∧
              Serial (.started now) (before ++ completing :: between) reached ∧
              later.response = .status reached.status ∧
              (final.isTerminal = true → reached.status.isTerminal = true)) := by
  intro machine
  have agree : (Tracker.started now).signal = (Tracker.started now).completion := rfl
  obtain ⟨_, inTurn, follows, explained⟩ := Machine.sound_run agree programs schedule
  obtain ⟨order, explains⟩ := explained machine.time (Nat.le_refl _)
  have member : ∀ record ∈ machine.ended, record ∈ order := by
    intro record ended
    exact explains.perm.mem_iff.mpr (List.mem_append_left _ ended)
  refine ⟨order, explains.perm, explains.serial, ?_, explains.realTime, ?_, ?_⟩
  · intro unlocked
    have perm := explains.perm
    rw [Machine.records_of_unlocked unlocked] at perm
    exact ⟨perm, Machine.settled_of_unlocked unlocked⟩
  · intro thread
    rw [explains.own]
    refine ⟨follows machine.time thread, ?_⟩
    have turns := (inTurn.pairwise machine.time).filter fun record => record.thread = thread
    apply turns.imp_of_mem
    intro earlier later earlierMember laterMember precedes
    have same := (of_decide_eq_true (List.mem_filter.mp earlierMember).2).trans
      (of_decide_eq_true (List.mem_filter.mp laterMember).2).symm
    exact precedes same
  · intro awaited awaitedEnded later laterEnded precedes final heard
    obtain ⟨before, completing, between, after, reached, next, split, resolves, serial, completed,
      ends, performed⟩ :=
      explains.after_awaited (member awaited awaitedEnded) (member later laterEnded) precedes heard
    constructor
    · intro asks
      rw [asks] at performed
      rw [Operation.response_of_ask performed, Query.answer, completed]
    · intro asks
      rw [asks] at performed
      exact ⟨before, completing, between, after, reached, split, resolves, serial,
        Operation.response_of_ask performed, ends⟩

/-- An await sees the signal of a completing call half way through that call,
before the status is entered.  The thread is then told the completion, and a
terminal status, for it gets the lock after the call. -/
theorem interleaving_with_signal_half_way :
    let completes : Operation := .locked (.change (.tryComplete .finished) (some 200))
    let programs : Bool → List Operation := fun waits =>
      if waits then [.await, .locked (.ask .completion), .locked (.ask .status)] else [completes]
    let schedule := List.replicate 5 false ++ List.replicate 4 true ++ List.replicate 5 false ++
      List.replicate 7 true
    let machine := (Machine.start (.started 100) programs).run schedule
    machine.lock = none ∧
    ∃ awaited ∈ machine.ended, ∃ completing ∈ machine.ended, ∃ told ∈ machine.ended,
      ∃ asked ∈ machine.ended,
        completing.operation = completes ∧ completing.acted < awaited.ended ∧
        awaited.ended < completing.ended ∧ told.response = .completion (some .finished) ∧
        ∃ status, asked.response = .status status ∧ status.isTerminal = true := by
  intro completes programs schedule machine
  let awaited : Record Bool := ⟨true, .await, 5, 6, 6, .awaited (.completed .finished)⟩
  let completing : Record Bool := ⟨false, completes, 0, 1, 13, .changed (.ok (.ok true))⟩
  let told : Record Bool :=
    ⟨true, .locked (.ask .completion), 7, 14, 16, .completion (some .finished)⟩
  let asked : Record Bool := ⟨true, .locked (.ask .status), 17, 18, 20, .status .finished⟩
  have unlocked : machine.lock = none := by cbv
  have ended_eq : machine.ended = [awaited, completing, told, asked] := by cbv
  have awaitedEnded : awaited ∈ machine.ended := by simp [ended_eq]
  have completingEnded : completing ∈ machine.ended := by simp [ended_eq]
  have toldEnded : told ∈ machine.ended := by simp [ended_eq]
  have askedEnded : asked ∈ machine.ended := by simp [ended_eq]
  obtain ⟨order, _, _, _, _, _, heard⟩ := interleaving_is_one_by_one 100 programs schedule
  have told_eq := (heard awaited awaitedEnded told toldEnded (by decide) .finished rfl).1 rfl
  obtain ⟨_, _, _, _, reached, _, _, _, asked_eq, ends⟩ :=
    (heard awaited awaitedEnded asked askedEnded (by decide) .finished rfl).2 rfl
  exact ⟨unlocked, awaited, awaitedEnded, completing, completingEnded, told, toldEnded, asked,
    askedEnded, rfl, by decide, by decide, told_eq, reached.status, asked_eq, ends rfl⟩

end Threads

end JobLedger
