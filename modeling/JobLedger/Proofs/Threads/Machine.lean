import JobLedger.Proofs.Threads.Statement
import Mathlib.Logic.Function.Basic

/-!
# Threads that share a tracker

Each thread carries out its program, one operation after another.  A schedule
says which thread makes the next step, and every schedule is allowed.  A step
begins an operation, takes the lock, carries out one statement or lets go of the
lock; a thread that finds the lock taken, or no signal, stays where it is.

The lock is in one hand at most, by construction: it holds the call that is
under way with its next statement.  What has ended is kept on record, in the
order of the endings.
-/

namespace JobLedger

namespace Threads

/-- An operation that was begun, but has neither taken the lock nor ended. -/
structure Pending where
  operation : Operation
  began : Nat

/-- A thread outside the lock. -/
structure Thread where
  pending : Option Pending
  /-- What is left of its program. -/
  todo : List Operation

/-- The lock in the hand of a thread: the call for which it was taken, and how
far the call has come. -/
structure Hold (ι : Type) where
  thread : ι
  call : Locked
  began : Nat
  acquired : Nat
  next : Statement

/-- An operation that has ended. -/
structure Record (ι : Type) where
  thread : ι
  operation : Operation
  began : Nat
  /-- When it took the lock, or saw the signal. -/
  acted : Nat
  ended : Nat
  response : Response

/-- The record of a call that has the lock, if it ends so. -/
def Hold.record {ι : Type} (hold : Hold ι) (response : Response) (ended : Nat) : Record ι :=
  { thread := hold.thread
    operation := .locked hold.call
    began := hold.began
    acted := hold.acquired
    ended
    response }

/-- Some threads and the tracker that they share. -/
structure Machine (ι : Type) where
  tracker : Tracker
  lock : Option (Hold ι)
  threads : ι → Thread
  /-- How many steps were made. -/
  time : Nat
  ended : List (Record ι)

namespace Machine

variable {ι : Type}

/-- The threads before their first step. -/
def start (tracker : Tracker) (programs : ι → List Operation) : Machine ι :=
  { tracker
    lock := none
    threads := fun thread => { pending := none, todo := programs thread }
    time := 0
    ended := [] }

/-! ## What has taken effect -/

/-- The record of the call that has the lock, if it is finished and ends at
`stop`. -/
def held (machine : Machine ι) (stop : Nat) : List (Record ι) :=
  (machine.lock.map fun hold => hold.record (hold.next.finish machine.tracker).1 stop).toList

/-- The records of all operations that have taken effect: of those that have
ended, and of the call that has the lock, if it is finished and ends at `stop`. -/
def records (machine : Machine ι) (stop : Nat) : List (Record ι) :=
  machine.ended ++ machine.held stop

/-- The tracker as the call that has the lock leaves it, if it is finished. -/
def settled (machine : Machine ι) : Tracker :=
  machine.lock.elim machine.tracker fun hold => (hold.next.finish machine.tracker).2

/-- The operations of a thread that have not taken effect. -/
def remaining (machine : Machine ι) (thread : ι) : List Operation :=
  ((machine.threads thread).pending.map Pending.operation).toList ++ (machine.threads thread).todo

/-- While nobody has the lock, only what has ended has taken effect. -/
theorem records_of_unlocked {machine : Machine ι} (unlocked : machine.lock = none) (stop : Nat) :
    machine.records stop = machine.ended := by
  simp [records, held, unlocked]

theorem settled_of_unlocked {machine : Machine ι} (unlocked : machine.lock = none) :
    machine.settled = machine.tracker := by
  simp [settled, unlocked]

/-- Completion and signal stand as the call that has the lock has come to
expect, and agree while nobody has it. -/
def Fits (machine : Machine ι) : Prop :=
  match machine.lock with
  | none => machine.tracker.signal = machine.tracker.completion
  | some hold => hold.next.Fits machine.tracker

/-- What an await finds half way through a call, it would find at its end. -/
theorem Fits.awaited?_settled {machine : Machine ι} (fits : machine.Fits) {response : Response}
    (heard : awaited? machine.tracker = some response) :
    awaited? machine.settled = some response := by
  unfold settled
  cases held : machine.lock with
  | none => exact heard
  | some hold =>
      simp only [Fits, held] at fits
      rw [awaited?_eq] at heard ⊢
      obtain ⟨final, signalled, response_eq⟩ := Option.map_eq_some_iff.mp heard
      rw [Option.elim_some, fits.signal_finish signalled, Option.map_some, response_eq]

/-! ## Steps -/

variable [DecidableEq ι]

/-- The thread that holds the lock carries out its next statement. -/
def advance (machine : Machine ι) (hold : Hold ι) : Machine ι :=
  match hold.next with
  | .leave response =>
    { machine with
      lock := none
      ended := machine.ended ++ [hold.record response machine.time] }
  | next =>
    let (next, tracker) := next.step machine.tracker
    { machine with tracker, lock := some { hold with next } }

/-- A thread that does not hold the lock goes on as far as it can. -/
def proceed (machine : Machine ι) (thread : ι) : Machine ι :=
  match machine.threads thread with
  | ⟨none, []⟩ => machine
  | ⟨none, operation :: todo⟩ =>
    let pending := some { operation, began := machine.time }
    { machine with threads := Function.update machine.threads thread { pending, todo } }
  | ⟨some ⟨.locked call, began⟩, todo⟩ =>
    match machine.lock with
    | some _ => machine
    | none =>
      { machine with
        lock := some { thread, call, began, acquired := machine.time, next := call.first }
        threads := Function.update machine.threads thread { pending := none, todo } }
  | ⟨some ⟨.await, began⟩, todo⟩ =>
    match awaited? machine.tracker with
    | none => machine
    | some response =>
      { machine with
        threads := Function.update machine.threads thread { pending := none, todo }
        ended := machine.ended ++
          [{ thread
             operation := .await
             began
             acted := machine.time
             ended := machine.time
             response }] }

/-- One step of a thread. -/
def step (machine : Machine ι) (thread : ι) : Machine ι :=
  let moved :=
    match machine.lock with
    | some hold => if hold.thread = thread then machine.advance hold else machine.proceed thread
    | none => machine.proceed thread
  { moved with time := machine.time + 1 }

/-- The steps of a schedule. -/
def run (machine : Machine ι) (schedule : List ι) : Machine ι :=
  schedule.foldl step machine

theorem run_invariant {P : Machine ι → Prop}
    (keeps : ∀ machine thread, P machine → P (machine.step thread)) {machine : Machine ι}
    (holds : P machine) (schedule : List ι) : P (machine.run schedule) := by
  induction schedule generalizing machine with
  | nil => exact holds
  | cons thread rest ih => exact ih (keeps machine thread holds)

/-! ## What a step can be -/

/-- The machine `moved` is what a step of a thread leaves. -/
inductive Moves (machine : Machine ι) (thread : ι) : Machine ι → Prop
  /-- The thread is at its end, or has to wait. -/
  | rest : Moves machine thread { machine with time := machine.time + 1 }
  | begin {operation : Operation} {todo : List Operation}
      (idle : machine.threads thread = ⟨none, operation :: todo⟩)
      (elsewhere : ∀ hold, machine.lock = some hold → hold.thread ≠ thread) :
      Moves machine thread
        { machine with
          threads :=
            Function.update machine.threads thread ⟨some ⟨operation, machine.time⟩, todo⟩
          time := machine.time + 1 }
  | acquire {call : Locked} {began : Nat} {todo : List Operation}
      (waiting : machine.threads thread = ⟨some ⟨.locked call, began⟩, todo⟩)
      (unlocked : machine.lock = none) :
      Moves machine thread
        { machine with
          lock := some ⟨thread, call, began, machine.time, call.first⟩
          threads := Function.update machine.threads thread ⟨none, todo⟩
          time := machine.time + 1 }
  | execute {hold : Hold ι} (held : machine.lock = some hold) :
      Moves machine thread
        { machine with
          tracker := (hold.next.step machine.tracker).2
          lock := some { hold with next := (hold.next.step machine.tracker).1 }
          time := machine.time + 1 }
  | release {hold : Hold ι} {response : Response} (held : machine.lock = some hold)
      (leaving : hold.next = .leave response) :
      Moves machine thread
        { machine with
          lock := none
          ended := machine.ended ++ [hold.record response machine.time]
          time := machine.time + 1 }
  | hear {began : Nat} {todo : List Operation} {response : Response}
      (waiting : machine.threads thread = ⟨some ⟨.await, began⟩, todo⟩)
      (elsewhere : ∀ hold, machine.lock = some hold → hold.thread ≠ thread)
      (heard : awaited? machine.tracker = some response) :
      Moves machine thread
        { machine with
          threads := Function.update machine.threads thread ⟨none, todo⟩
          ended := machine.ended ++ [⟨thread, .await, began, machine.time, machine.time, response⟩]
          time := machine.time + 1 }

theorem advance_moves {machine : Machine ι} {hold : Hold ι} (held : machine.lock = some hold)
    (thread : ι) :
    machine.Moves thread { machine.advance hold with time := machine.time + 1 } := by
  unfold advance
  split
  · next response leaving => exact .release held leaving
  · exact .execute held

theorem proceed_moves {machine : Machine ι} {thread : ι}
    (elsewhere : ∀ hold, machine.lock = some hold → hold.thread ≠ thread) :
    machine.Moves thread { machine.proceed thread with time := machine.time + 1 } := by
  unfold proceed
  split
  · exact .rest
  · next operation todo idle => exact .begin idle elsewhere
  · next call began todo waiting =>
    split
    · exact .rest
    · next unlocked => exact .acquire waiting unlocked
  · next began todo waiting =>
    split
    · exact .rest
    · next response heard => exact .hear waiting elsewhere heard

theorem step_moves (machine : Machine ι) (thread : ι) :
    machine.Moves thread (machine.step thread) := by
  unfold step
  cases held : machine.lock with
  | none => exact proceed_moves (by simp [held])
  | some hold =>
      by_cases mine : hold.thread = thread
      · simp only [mine, if_true]
        exact advance_moves held thread
      · simp only [mine, if_false]
        exact proceed_moves (by simpa [held] using mine)

/-! ## What a step brings about -/

theorem Fits.of_moves {machine moved : Machine ι} {thread : ι} (fits : machine.Fits)
    (moves : machine.Moves thread moved) : moved.Fits := by
  cases moves with
  | rest => exact fits
  | begin idle elsewhere => exact fits
  | acquire waiting unlocked =>
      simp only [Fits, unlocked] at fits
      exact Statement.fits_first fits _
  | execute held =>
      simp only [Fits, held] at fits
      exact fits.step
  | release held leaving =>
      simp only [Fits, held, leaving] at fits
      exact fits
  | hear waiting elsewhere heard => exact fits

/-- What a step does to what has taken effect: nothing, or one operation that
was pending takes effect, at this moment and in one piece.  The call that has
the lock may have ended just now. -/
inductive Effect (machine moved : Machine ι) (stop : Nat) : Prop
  | silent (ending : Nat) (ending_eq : ending = stop ∨ ending = machine.time)
      (records_eq : moved.records stop = machine.records ending)
      (settled_eq : moved.settled = machine.settled)
      (remaining_eq : ∀ thread, moved.remaining thread = machine.remaining thread)
  | acts (record : Record ι)
      (pending : (machine.threads record.thread).pending = some ⟨record.operation, record.began⟩)
      (acted_eq : record.acted = machine.time)
      (ended_eq : record.ended = stop ∨ record.ended = machine.time)
      (records_eq : moved.records stop = machine.ended ++ record :: machine.held stop)
      (others : ∀ other ∈ machine.held stop, other.thread ≠ record.thread)
      (performed : record.operation.perform machine.settled =
        some (record.response, moved.settled))
      (remaining_eq : ∀ thread, machine.remaining thread =
        if thread = record.thread then record.operation :: moved.remaining thread
        else moved.remaining thread)

/-- When a pending operation takes effect, its thread has one less to do. -/
theorem remaining_of_turn {machine moved : Machine ι} {thread : ι} {operation : Operation}
    {began : Nat} {todo : List Operation}
    (waiting : machine.threads thread = ⟨some ⟨operation, began⟩, todo⟩)
    (threads_eq : moved.threads = Function.update machine.threads thread ⟨none, todo⟩)
    (other : ι) :
    machine.remaining other =
      if other = thread then operation :: moved.remaining other else moved.remaining other := by
  unfold remaining
  rw [threads_eq]
  by_cases mine : other = thread
  · subst mine
    simp [waiting]
  · simp [mine]

theorem Moves.effect {machine moved : Machine ι} {thread : ι} (moves : machine.Moves thread moved)
    (fits : machine.Fits) (stop : Nat) : machine.Effect moved stop := by
  cases moves with
  | rest => exact .silent stop (.inl rfl) rfl rfl fun _ => rfl
  | begin idle elsewhere =>
      refine .silent stop (.inl rfl) rfl rfl ?_
      intro other
      by_cases mine : other = thread
      · subst mine
        simp [remaining, idle]
      · simp [remaining, mine]
  | @acquire call began todo waiting unlocked =>
      refine .acts ⟨thread, .locked call, began, machine.time, stop,
        (call.first.finish machine.tracker).1⟩ ?_ rfl (.inl rfl) ?_ ?_ ?_ ?_
      · exact congrArg Thread.pending waiting
      · simp [records, held, unlocked, Hold.record]
      · simp [held, unlocked]
      · rw [settled_of_unlocked unlocked]
        simp [settled, Operation.perform, Statement.finish_first]
      · exact remaining_of_turn waiting rfl
  | @execute hold locked =>
      refine .silent stop (.inl rfl) ?_ ?_ fun _ => rfl
      · simp [records, held, locked, Statement.finish_step, Hold.record]
      · simp [settled, locked, Statement.finish_step]
  | @release hold response locked leaving =>
      refine .silent machine.time (.inr rfl) ?_ ?_ fun _ => rfl
      · simp [records, held, locked, leaving, Statement.finish]
      · simp [settled, locked, leaving, Statement.finish]
  | @hear began todo response waiting elsewhere heard =>
      refine .acts ⟨thread, .await, began, machine.time, machine.time, response⟩ ?_ rfl (.inr rfl)
        ?_ ?_ ?_ ?_
      · exact congrArg Thread.pending waiting
      · simp [records, held]
      · intro other member
        simp only [held, Option.mem_toList, Option.map_eq_some_iff] at member
        obtain ⟨hold, locked, rfl⟩ := member
        exact elsewhere hold locked
      · simp only [Operation.perform, fits.awaited?_settled heard]
        rfl
      · exact remaining_of_turn waiting rfl

/-- The records of a thread after a step: one more if the thread acted. -/
theorem filter_records {machine moved : Machine ι} {stop : Nat} {record : Record ι}
    (records_eq : moved.records stop = machine.ended ++ record :: machine.held stop)
    (others : ∀ other ∈ machine.held stop, other.thread ≠ record.thread) (thread : ι) :
    (moved.records stop).filter (fun other => other.thread = thread) =
      (machine.records stop).filter (fun other => other.thread = thread) ++
        if thread = record.thread then [record] else [] := by
  rw [records_eq, records, List.filter_append, List.filter_append]
  by_cases mine : thread = record.thread
  · have none_held : (machine.held stop).filter (fun other => other.thread = thread) = [] := by
      rw [List.filter_eq_nil_iff]
      intro other member
      simpa [mine] using others other member
    simp [mine ▸ none_held, mine]
  · simp [Ne.symm mine, mine]

/-! ## The operations of one thread -/

/-- Each thread carries out its program, and nothing else. -/
def Follows (machine : Machine ι) (programs : ι → List Operation) : Prop :=
  ∀ stop thread,
    ((machine.records stop).filter fun record => record.thread = thread).map Record.operation ++
      machine.remaining thread = programs thread

theorem Follows.of_effect {machine moved : Machine ι} {programs : ι → List Operation}
    (follows : machine.Follows programs) (effect : ∀ stop, machine.Effect moved stop) :
    moved.Follows programs := by
  intro stop thread
  cases effect stop with
  | silent ending ending_eq records_eq settled_eq remaining_eq =>
      rw [records_eq, remaining_eq]
      exact follows ending thread
  | acts record pending acted_eq ended_eq records_eq others performed remaining_eq =>
      rw [filter_records records_eq others, ← follows stop thread, remaining_eq]
      split <;> simp

/-- The operations of each thread follow each other. -/
structure InTurn (machine : Machine ι) : Prop where
  pairwise : ∀ stop, (machine.records stop).Pairwise fun first second =>
    first.thread = second.thread → first.ended < second.began
  pending : ∀ record ∈ machine.ended, ∀ pending,
    (machine.threads record.thread).pending = some pending → record.ended < pending.began
  holder : ∀ hold, machine.lock = some hold → (machine.threads hold.thread).pending = none
  past : ∀ record ∈ machine.ended, record.ended < machine.time
  begun : ∀ thread pending, (machine.threads thread).pending = some pending →
    pending.began < machine.time

namespace InTurn

omit [DecidableEq ι] in
theorem start (tracker : Tracker) (programs : ι → List Operation) :
    (Machine.start tracker programs).InTurn := by
  constructor
  · exact fun _ => .nil
  · simp [Machine.start]
  · simp [Machine.start]
  · simp [Machine.start]
  · simp [Machine.start]

theorem pairwise_of_effect {machine moved : Machine ι} (inTurn : machine.InTurn) {stop : Nat}
    (effect : machine.Effect moved stop) :
    (moved.records stop).Pairwise fun first second =>
      first.thread = second.thread → first.ended < second.began := by
  cases effect with
  | silent ending ending_eq records_eq settled_eq remaining_eq =>
      rw [records_eq]
      exact inTurn.pairwise ending
  | acts record pending acted_eq ended_eq records_eq others performed remaining_eq =>
      obtain ⟨ended, held, across⟩ := List.pairwise_append.mp (inTurn.pairwise stop)
      rw [records_eq]
      refine List.pairwise_append.mpr ⟨ended, List.pairwise_cons.mpr ⟨?_, held⟩, ?_⟩
      · intro other member same
        exact absurd same.symm (others other member)
      · intro first earlier second member
        rcases List.mem_cons.mp member with rfl | there
        · intro same
          exact inTurn.pending first earlier _ (same ▸ pending)
        · exact across first earlier second there

/-- What is pending once a thread has changed is pending there, or elsewhere as
before. -/
theorem pending_of_update {threads : ι → Thread} {thread other : ι} {changed : Thread}
    {pending : Pending}
    (has : (Function.update threads thread changed other).pending = some pending) :
    other = thread ∧ changed.pending = some pending ∨
      other ≠ thread ∧ (threads other).pending = some pending := by
  by_cases same : other = thread
  · subst same
    rw [Function.update_self] at has
    exact .inl ⟨rfl, has⟩
  · rw [Function.update_of_ne same] at has
    exact .inr ⟨same, has⟩

theorem of_moves {machine moved : Machine ι} {thread : ι} (inTurn : machine.InTurn)
    (fits : machine.Fits) (moves : machine.Moves thread moved) : moved.InTurn := by
  have pairwise := fun stop => inTurn.pairwise_of_effect (moves.effect fits stop)
  have past : ∀ record ∈ machine.ended, record.ended < machine.time + 1 :=
    fun record member => Nat.lt_succ_of_lt (inTurn.past record member)
  have pastWith : ∀ new : Record ι, new.ended = machine.time →
      ∀ record ∈ machine.ended ++ [new], record.ended < machine.time + 1 := by
    intro new ended_eq record member
    rcases List.mem_append.mp member with old | isNew
    · exact past record old
    · rw [List.mem_singleton.mp isNew, ended_eq]
      exact Nat.lt_succ_self _
  have begun : ∀ other pending, (machine.threads other).pending = some pending →
      pending.began < machine.time + 1 :=
    fun other pending waiting => Nat.lt_succ_of_lt (inTurn.begun other pending waiting)
  cases moves with
  | rest => exact ⟨pairwise, inTurn.pending, inTurn.holder, past, begun⟩
  | @begin operation todo idle elsewhere =>
      refine ⟨pairwise, ?_, ?_, past, ?_⟩
      · intro record member pending waiting
        rcases pending_of_update waiting with ⟨_, ⟨⟩⟩ | ⟨_, old⟩
        · exact inTurn.past record member
        · exact inTurn.pending record member pending old
      · intro hold held
        simp only [Function.update_of_ne (elsewhere hold held)]
        exact inTurn.holder hold held
      · intro other pending waiting
        rcases pending_of_update waiting with ⟨_, ⟨⟩⟩ | ⟨_, old⟩
        · exact Nat.lt_succ_self _
        · exact begun other pending old
  | acquire waiting unlocked =>
      refine ⟨pairwise, ?_, ?_, past, ?_⟩
      · intro record member pending stillWaiting
        obtain ⟨_, ⟨⟩⟩ | ⟨_, old⟩ := pending_of_update stillWaiting
        exact inTurn.pending record member pending old
      · intro hold held
        cases held
        simp only [Function.update_self]
      · intro other pending stillWaiting
        obtain ⟨_, ⟨⟩⟩ | ⟨_, old⟩ := pending_of_update stillWaiting
        exact begun other pending old
  | @execute hold held =>
      refine ⟨pairwise, inTurn.pending, ?_, past, begun⟩
      intro other taken
      cases taken
      exact inTurn.holder hold held
  | @release hold response held leaving =>
      refine ⟨pairwise, ?_, ?_, ?_, begun⟩
      · intro record member pending waiting
        rcases List.mem_append.mp member with old | new
        · exact inTurn.pending record old pending waiting
        · cases List.mem_singleton.mp new
          exact absurd (waiting.symm.trans (inTurn.holder hold held)) (by simp)
      · intro other taken
        contradiction
      · exact pastWith _ rfl
  | hear waiting elsewhere heard =>
      refine ⟨pairwise, ?_, ?_, ?_, ?_⟩
      · intro record member pending stillWaiting
        obtain ⟨_, ⟨⟩⟩ | ⟨others, old⟩ := pending_of_update stillWaiting
        rcases List.mem_append.mp member with earlier | new
        · exact inTurn.pending record earlier pending old
        · cases List.mem_singleton.mp new
          exact absurd rfl others
      · intro hold held
        simp only [Function.update_of_ne (elsewhere hold held)]
        exact inTurn.holder hold held
      · exact pastWith _ rfl
      · intro other pending stillWaiting
        obtain ⟨_, ⟨⟩⟩ | ⟨_, old⟩ := pending_of_update stillWaiting
        exact begun other pending old

end InTurn

end Machine

end Threads

end JobLedger
