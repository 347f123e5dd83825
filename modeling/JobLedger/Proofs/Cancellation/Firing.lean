import JobLedger.Proofs.Cancellation.Tokens
import JobLedger.Proofs.Session.Cancels
import JobLedger.Proofs.Session.Handles

/-!
# A token fires just if its handle cancelled

Any number of channels are opened, and the calls on their handles and tokens come
in any order.  What a channel comes to is what the calls on it make of it, so a
wait ends just if the handle of its own channel has cancelled before.
-/

namespace JobLedger

namespace Tokens

/-- Channels in the order in which they were opened. -/
structure Board (watch : Watch Bool) where
  channels : List (Channel watch)

inductive Act where
  /-- Opens a channel. -/
  | opens
  /-- A call on the channel at a place. -/
  | on (place : Nat) (call : Call)
  deriving DecidableEq

namespace Act

/-- The call that an act is on the channel at a place. -/
def callOn (place : Nat) : Act → Option Call
  | .opens => none
  | .on other call => if other = place then some call else none

end Act

/-- The calls on the channel at a place. -/
def callsOn (place : Nat) (acts : List Act) : List Call :=
  acts.filterMap (Act.callOn place)

theorem callsOn_append (place : Nat) (acts later : List Act) :
    callsOn place (acts ++ later) = callsOn place acts ++ callsOn place later :=
  List.filterMap_append

theorem mem_callsOn_iff {place : Nat} {acts : List Act} {call : Call} :
    call ∈ callsOn place acts ↔ .on place call ∈ acts := by
  rw [callsOn, List.mem_filterMap]
  constructor
  · rintro ⟨_ | ⟨other, made⟩, member, same⟩
    · contradiction
    · rcases Option.ite_none_right_eq_some.mp same with ⟨rfl, ⟨⟩⟩
      exact member
  · intro member
    exact ⟨_, member, if_pos rfl⟩

theorem callsOn_concat_opens (place : Nat) (acts : List Act) :
    callsOn place (acts ++ [.opens]) = callsOn place acts := by
  simp [callsOn, Act.callOn]

theorem callsOn_concat_same (place : Nat) (acts : List Act) (call : Call) :
    callsOn place (acts ++ [.on place call]) = callsOn place acts ++ [call] := by
  simp [callsOn, Act.callOn]

theorem callsOn_concat_of_ne {place other : Nat} (different : other ≠ place) (acts : List Act)
    (call : Call) : callsOn place (acts ++ [.on other call]) = callsOn place acts := by
  simp [callsOn, Act.callOn, different]

variable {watch : Watch Bool}

namespace Board

def empty : Board watch := ⟨[]⟩

/-- Carries out an act, if it can be done. -/
def step (board : Board watch) : Act → Option (Board watch × Answer)
  | .opens => some (⟨board.channels ++ [.fresh]⟩, .done)
  | .on place call => board.channels[place]?.bind fun channel =>
    (channel.step call).map fun stepped => (⟨board.channels.set place stepped.1⟩, stepped.2)

/-- Carries out acts one after another. -/
def run (board : Board watch) (acts : List Act) : Option (Board watch) :=
  acts.foldlM (fun board act => (board.step act).map Prod.fst) board

variable {board after : Board watch} {acts later : List Act} {place : Nat} {call : Call}
  {channel : Channel watch} {answer : Answer}

theorem run_append_eq_some_iff :
    board.run (acts ++ later) = some after ↔
      ∃ before, board.run acts = some before ∧ before.run later = some after := by
  rw [run, List.foldlM_append]
  exact Option.bind_eq_some_iff

theorem run_concat_eq_some_iff {act : Act} :
    board.run (acts ++ [act]) = some after ↔
      ∃ before answer, board.run acts = some before ∧ before.step act = some (after, answer) := by
  simp [run, Option.bind_eq_some_iff]

/-- A call is carried out on its channel and leaves the others as they are. -/
theorem step_on_eq_some_iff :
    board.step (.on place call) = some (after, answer) ↔
      ∃ channel next, board.channels[place]? = some channel ∧
        channel.step call = some (next, answer) ∧ after = ⟨board.channels.set place next⟩ := by
  simp only [step, Option.bind_eq_some_iff, Option.map_eq_some_iff]
  constructor
  · rintro ⟨channel, there, ⟨next, _⟩, stepped, ⟨⟩⟩
    exact ⟨channel, next, there, stepped, rfl⟩
  · rintro ⟨channel, next, there, stepped, rfl⟩
    exact ⟨channel, there, _, stepped, rfl⟩

theorem step_on_of_step (there : board.channels[place]? = some channel)
    {next : Channel watch} (stepped : channel.step call = some (next, answer)) :
    board.step (.on place call) = some (⟨board.channels.set place next⟩, answer) :=
  step_on_eq_some_iff.mpr ⟨channel, next, there, stepped, rfl⟩

/-- There were no calls on a channel that is not there. -/
theorem callsOn_eq_nil (ran : empty.run acts = some board)
    (beyond : board.channels.length ≤ place) : callsOn place acts = [] := by
  induction acts using List.reverseRecOn generalizing board with
  | nil => rfl
  | append_singleton rest act ih =>
      rcases run_concat_eq_some_iff.mp ran with ⟨before, answer, ranBefore, stepped⟩
      cases act with
      | opens =>
          cases stepped
          rw [List.length_append] at beyond
          rw [callsOn_concat_opens]
          exact ih ranBefore (Nat.le_of_succ_le beyond)
      | on other call =>
          rcases step_on_eq_some_iff.mp stepped with ⟨channel, next, there, _, rfl⟩
          rw [List.length_set] at beyond
          have different : other ≠ place := by
            rintro rfl
            rw [List.getElem?_eq_none beyond] at there
            contradiction
          rw [callsOn_concat_of_ne different]
          exact ih ranBefore beyond

/-- A channel is what the calls on it have made of it. -/
theorem run_callsOn (ran : empty.run acts = some board)
    (there : board.channels[place]? = some channel) :
    Channel.fresh.run (callsOn place acts) = some channel := by
  induction acts using List.reverseRecOn generalizing board channel with
  | nil =>
      cases ran
      contradiction
  | append_singleton rest act ih =>
      rcases run_concat_eq_some_iff.mp ran with ⟨before, answer, ranBefore, stepped⟩
      cases act with
      | opens =>
          cases stepped
          rw [callsOn_concat_opens]
          rcases Nat.lt_or_ge place before.channels.length with inside | beyond
          · rw [List.getElem?_append_left inside] at there
            exact ih ranBefore there
          · -- the place is that of the new channel, on which nothing was called yet
            rw [List.getElem?_append_right beyond, List.getElem?_singleton] at there
            rcases Option.ite_none_right_eq_some.mp there with ⟨_, ⟨⟩⟩
            rw [callsOn_eq_nil ranBefore beyond]
            rfl
      | on other call =>
          rcases step_on_eq_some_iff.mp stepped with ⟨earlier, next, earlierThere, made, rfl⟩
          by_cases same : other = place
          · subst same
            have inside := (List.getElem?_eq_some_iff.mp earlierThere).1
            rw [List.getElem?_set_self inside] at there
            cases there
            rw [callsOn_concat_same]
            exact Channel.run_concat_eq_some_iff.mpr
              ⟨earlier, answer, ih ranBefore earlierThere, made⟩
          · rw [List.getElem?_set_ne same] at there
            rw [callsOn_concat_of_ne same]
            exact ih ranBefore there

/-! ## What is answered -/

/-- The handle and the tokens of the channel at a place answer as the handle has
cancelled or not. -/
structure FiresRightly (board : Board watch) (acts : List Act) (place : Nat)
    (channel : Channel watch) : Prop where
  /-- A wait that is polled ends just if the handle has cancelled, be the handle
  dropped or not. -/
  polled : ∀ token listening, channel.tokens[token]? = some (.lent listening) →
    ∃ next, board.step (.on place (.poll token)) =
      some (next, if .on place .cancel ∈ acts then .ready else .pending)
  /-- Every token says whether the handle has cancelled. -/
  flagged : ∀ token receiver, channel.tokens[token]? = some (.idle receiver) →
    ∃ next, board.step (.on place (.isCancelled token)) =
      some (next, .flag (decide (.on place .cancel ∈ acts)))
  /-- No token ever takes back that the handle has cancelled. -/
  lasting : .on place .cancel ∈ acts → ∀ later after, board.run later = some after →
    ∀ token next answer, after.step (.on place (.isCancelled token)) = some (next, answer) →
      answer = .flag true
  /-- After the handle was dropped without a cancel, no wait ends. -/
  dropped : .on place .drop ∈ acts → .on place .cancel ∉ acts →
    ∀ later after, board.run later = some after →
      ∀ token next, after.step (.on place (.poll token)) ≠ some (next, .ready)
  /-- When the handle is dropped, the tokens go on saying what they said. -/
  kept : ∀ next answer, board.step (.on place .drop) = some (next, answer) →
    ∀ token receiver, channel.tokens[token]? = some (.idle receiver) →
      ∃ last, next.step (.on place (.isCancelled token)) =
        some (last, .flag (decide (.on place .cancel ∈ acts)))
  /-- Until the handle is dropped, it can cancel and be dropped. -/
  held : ∀ call, call = .cancel ∨ call = .drop →
    ((board.step (.on place call)).isSome = true ↔ .on place .drop ∉ acts)
  /-- A call on another channel changes nothing here. -/
  apart : ∀ other call next answer, other ≠ place →
    board.step (.on other call) = some (next, answer) → next.channels[place]? = some channel
  /-- Every call answers what a cancel channel says after the calls so far. -/
  agrees : ∀ call next answer, board.step (.on place call) = some (next, answer) →
    answer = call.answer (following (callsOn place acts))

variable {view : watch.View} (documented : view.Documented)
include documented

theorem cancelled_following_eq (ran : empty.run acts = some board)
    (there : board.channels[place]? = some channel) :
    (following (callsOn place acts)).cancelled = decide (.on place .cancel ∈ acts) := by
  rw [Bool.eq_iff_iff, Channel.cancelled_following_iff documented (run_callsOn ran there),
    mem_callsOn_iff, decide_eq_true_iff]

theorem answer_eq (ran : empty.run acts = some board)
    (stepped : board.step (.on place call) = some (after, answer)) :
    answer = call.answer (following (callsOn place acts)) := by
  rcases step_on_eq_some_iff.mp stepped with ⟨channel, next, there, made, rfl⟩
  have sound := Channel.sound_run documented (run_callsOn ran there)
  exact (sound.step documented made).2

theorem exists_step_poll (ran : empty.run acts = some board)
    (there : board.channels[place]? = some channel) {token : Nat} {listening : Listening watch}
    (lent : channel.tokens[token]? = some (.lent listening)) :
    ∃ next, board.step (.on place (.poll token)) =
      some (next, if .on place .cancel ∈ acts then .ready else .pending) := by
  rcases Channel.exists_step_poll lent with ⟨next, answer, polled⟩
  have stepped := step_on_of_step there polled
  have answer_is := answer_eq documented ran stepped
  rw [Call.answer_poll, cancelled_following_eq documented ran there] at answer_is
  simp only [decide_eq_true_iff] at answer_is
  exact ⟨_, answer_is ▸ stepped⟩

theorem exists_step_isCancelled (ran : empty.run acts = some board)
    (there : board.channels[place]? = some channel) {token : Nat} {receiver : watch.Receiver}
    (idle : channel.tokens[token]? = some (.idle receiver)) :
    ∃ next, board.step (.on place (.isCancelled token)) =
      some (next, .flag (decide (.on place .cancel ∈ acts))) := by
  rcases Channel.exists_step_isCancelled idle with ⟨next, answer, asked⟩
  have stepped := step_on_of_step there asked
  have answer_is := answer_eq documented ran stepped
  rw [Call.answer, cancelled_following_eq documented ran there] at answer_is
  exact ⟨_, answer_is ▸ stepped⟩

/-- After a drop without a cancel there is no cancel. -/
theorem not_cancel_of_dropped (ran : empty.run (acts ++ later) = some board)
    (there : board.channels[place]? = some channel) (drops : .on place .drop ∈ acts)
    (uncancelled : .on place .cancel ∉ acts) : .on place .cancel ∉ acts ++ later := by
  have ranCalls := run_callsOn ran there
  rw [callsOn_append] at ranCalls
  have never := Channel.not_cancel_of_dropped documented (mem_callsOn_iff.mpr drops) ranCalls
  rw [mem_callsOn_iff] at never
  rw [List.mem_append]
  exact not_or.mpr ⟨uncancelled, never⟩

theorem firesRightly (ran : empty.run acts = some board)
    (there : board.channels[place]? = some channel) :
    board.FiresRightly acts place channel where
  polled _ _ lent := exists_step_poll documented ran there lent
  flagged _ _ idle := exists_step_isCancelled documented ran there idle
  lasting cancels later last ranLater token next answer stepped := by
    have ranAll := run_append_eq_some_iff.mpr ⟨board, ran, ranLater⟩
    rcases step_on_eq_some_iff.mp stepped with ⟨_, _, lastThere, _, rfl⟩
    rw [answer_eq documented ranAll stepped, Call.answer,
      cancelled_following_eq documented ranAll lastThere,
      decide_eq_true (List.mem_append_left later cancels)]
  dropped drops uncancelled later last ranLater token next stepped := by
    have ranAll := run_append_eq_some_iff.mpr ⟨board, ran, ranLater⟩
    rcases step_on_eq_some_iff.mp stepped with ⟨_, _, lastThere, _, rfl⟩
    have never := not_cancel_of_dropped documented ranAll lastThere drops uncancelled
    have answer_is := answer_eq documented ranAll stepped
    rw [Call.answer_poll, cancelled_following_eq documented ranAll lastThere,
      decide_eq_false never] at answer_is
    contradiction
  kept next answer stepped token receiver idle := by
    have ranNext := run_concat_eq_some_iff.mpr ⟨board, answer, ran, stepped⟩
    rcases step_on_eq_some_iff.mp stepped with ⟨same, dropped, sameThere, drops, rfl⟩
    obtain rfl : same = channel := Option.some.inj (sameThere.symm.trans there)
    rcases Option.ite_none_right_eq_some.mp drops with ⟨_, ⟨⟩⟩
    have inside := (List.getElem?_eq_some_iff.mp there).1
    have asked := exists_step_isCancelled documented ranNext (List.getElem?_set_self inside) idle
    simpa using asked
  held call byHandle := by
    have sound := Channel.sound_run documented (run_callsOn ran there)
    rw [← mem_callsOn_iff, ← held_following_iff, ← sound.held_eq]
    constructor
    · intro possible
      rcases Option.isSome_iff_exists.mp possible with ⟨⟨next, answer⟩, stepped⟩
      rcases step_on_eq_some_iff.mp stepped with ⟨same, _, sameThere, made, _⟩
      obtain rfl : same = channel := Option.some.inj (sameThere.symm.trans there)
      exact Channel.held_of_step byHandle made
    · intro held
      rcases Channel.exists_step_of_held held byHandle with ⟨next, answer, made⟩
      exact Option.isSome_of_eq_some (step_on_of_step there made)
  apart other call next answer different stepped := by
    rcases step_on_eq_some_iff.mp stepped with ⟨_, _, _, _, rfl⟩
    rw [List.getElem?_set_ne different]
    exact there
  agrees _ _ _ stepped := answer_eq documented ran stepped

end Board

end Tokens

/-! ## The theorem -/

/-- **A token fires just if its handle cancelled.**  Over watch channels that keep
what is documented, in every run of opening channels, cloning tokens, waiting,
polling, giving up, cancelling and dropping: a wait that is polled ends just if
the handle of its channel has cancelled before, and otherwise goes on, for ever
if the handle was dropped; every token of the channel says whether the handle has
cancelled, and none takes it back; no call on another channel matters.

A cancel channel of a session says what there is to see of a handle and its tokens
on which the same calls are made, so the waits and the questions of every session
come to the same. -/
theorem tokens_fire_just_if_cancelled {watch : Watch Bool} {view : watch.View}
    (documented : view.Documented) :
    (∀ (acts : List Tokens.Act) (board : Tokens.Board watch),
      Tokens.Board.empty.run acts = some board → ∀ (place : Nat) (channel : Tokens.Channel watch),
        board.channels[place]? = some channel → board.FiresRightly acts place channel) ∧
    ∀ (now : Int64) (requests : List Request) (place : Nat),
      (∃ made : Tokens.Channel watch,
        Tokens.Channel.fresh.run ((Session.starting now).handleCallsOf place requests) =
          some made ∧
        ∀ channel, (Session.reached now requests).channels.get? place = some channel →
          made.Sound view channel) ∧
      Session.FiresRightly now requests place := by
  constructor
  · intro acts board ran place channel there
    exact Tokens.Board.firesRightly documented ran there
  · intro now requests place
    constructor
    · exact Session.exists_run_handleCallsOf documented now requests place
    · exact Session.firesRightly now requests place

/-- A handle cancels twice and is dropped: a wait that was pending ends, and so
does one that a late clone starts.  The handle of another channel is dropped
only: its wait goes on. -/
theorem tokens_fire_after_drop :
    let acts : List Tokens.Act :=
      [.opens, .opens, .on 0 (.clone 0), .on 0 (.listen 1), .on 0 (.poll 1), .on 1 (.listen 0),
        .on 1 (.poll 0), .on 0 .cancel, .on 0 .cancel, .on 0 .drop, .on 1 .drop,
        .on 0 (.clone 0), .on 0 (.listen 2)]
    ∃ board : Tokens.Board (Watch.counting Bool), Tokens.Board.empty.run acts = some board ∧
      (∃ next, board.step (.on 0 (.poll 1)) = some (next, .ready)) ∧
      (∃ next, board.step (.on 0 (.poll 2)) = some (next, .ready)) ∧
      (∃ next, board.step (.on 0 (.isCancelled 0)) = some (next, .flag true)) ∧
      ∀ later after, board.run later = some after →
        ∀ token next, after.step (.on 1 (.poll token)) ≠ some (next, .ready) := by
  intro acts
  have fires := (tokens_fire_just_if_cancelled (Watch.counting.documented Bool)).1 acts _ rfl
  have first := fires 0 _ rfl
  exact ⟨_, rfl, first.polled 1 _ rfl, first.polled 2 _ rfl, first.flagged 0 _ rfl,
    (fires 1 _ rfl).dropped (by decide) (by decide)⟩

end JobLedger
