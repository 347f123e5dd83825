import JobLedger.Proofs.Cancellation.Watch
import JobLedger.Wait
import Mathlib.Data.List.Induction

/-!
# Tokens over a watch channel

A handle is the sender of a watch channel of truth values, and its tokens are
the receivers.  Cancelling sends that it is true.  A wait of a token waits for
the value to be true; if that fails because the handle is gone, it goes on
waiting for nothing.

A token is lent to its wait: until the wait ends or is abandoned, nothing else
can be done with the token.  The handle can cancel any number of times and be
dropped once.
-/

namespace JobLedger.Tokens

/-- A wait for the cancel. -/
inductive Listening (watch : Watch Bool) where
  /-- It waits for the value to be true. -/
  | waits (wait : watch.Waiting)
  /-- That has failed, and it waits for nothing. -/
  | parked (receiver : watch.Receiver)

/-- A token, at rest or lent to a wait. -/
inductive Token (watch : Watch Bool) where
  | idle (receiver : watch.Receiver)
  | lent (listening : Listening watch)

/-- What is done with a handle or with one of its tokens. -/
inductive Call where
  | clone (token : Nat)
  /-- Starts a wait. -/
  | listen (token : Nat)
  /-- Polls the wait that the token is lent to. -/
  | poll (token : Nat)
  /-- Gives up the wait that the token is lent to. -/
  | abandon (token : Nat)
  | isCancelled (token : Nat)
  | cancel
  | drop
  deriving DecidableEq

inductive Answer where
  | done
  | pending
  | ready
  | flag (cancelled : Bool)
  deriving DecidableEq

/-- A handle and its tokens. -/
structure Channel (watch : Watch Bool) where
  shared : watch.Shared
  /-- Whether the handle is still held. -/
  held : Bool
  tokens : List (Token watch)

variable {watch : Watch Bool}

namespace Listening

def start (receiver : watch.Receiver) : Listening watch :=
  .waits (watch.waitFor receiver fun cancelled => cancelled)

/-- One poll: the token is at rest again if the wait ends. -/
def poll (shared : watch.Shared) : Listening watch → watch.Shared × Token watch
  | .parked receiver => (shared, .lent (.parked receiver))
  | .waits wait =>
    let polled := watch.poll shared wait
    match polled.2 with
    | .pending wait => (polled.1, .lent (.waits wait))
    | .ready receiver _ => (polled.1, .idle receiver)
    | .closed receiver => (polled.1, .lent (.parked receiver))

def abandon (shared : watch.Shared) : Listening watch → watch.Shared × watch.Receiver
  | .parked receiver => (shared, receiver)
  | .waits wait => watch.abandon shared wait

end Listening

namespace Token

def idle? : Token watch → Option watch.Receiver
  | .idle receiver => some receiver
  | .lent _ => none

def lent? : Token watch → Option (Listening watch)
  | .idle _ => none
  | .lent listening => some listening

/-- What the poll answers that leaves the token so. -/
def answer : Token watch → Answer
  | .idle _ => .ready
  | .lent _ => .pending

end Token

namespace Channel

/-- A new channel: its handle is held, and it has one token. -/
def fresh : Channel watch :=
  let made := watch.channel false
  { shared := made.1, held := true, tokens := [.idle made.2] }

def idle? (channel : Channel watch) (token : Nat) : Option watch.Receiver :=
  channel.tokens[token]?.bind Token.idle?

def lent? (channel : Channel watch) (token : Nat) : Option (Listening watch) :=
  channel.tokens[token]?.bind Token.lent?

/-- Carries out a call, if it can be made. -/
def step (channel : Channel watch) : Call → Option (Channel watch × Answer)
  | .clone token => (channel.idle? token).map fun receiver =>
    let cloned := watch.clone channel.shared receiver
    let tokens := channel.tokens ++ [.idle cloned.2]
    ({ channel with shared := cloned.1, tokens }, .done)
  | .listen token => (channel.idle? token).map fun receiver =>
    ({ channel with tokens := channel.tokens.set token (.lent (.start receiver)) }, .done)
  | .poll token => (channel.lent? token).map fun listening =>
    let polled := listening.poll channel.shared
    let tokens := channel.tokens.set token polled.2
    ({ channel with shared := polled.1, tokens }, polled.2.answer)
  | .abandon token => (channel.lent? token).map fun listening =>
    let abandoned := listening.abandon channel.shared
    let tokens := channel.tokens.set token (.idle abandoned.2)
    ({ channel with shared := abandoned.1, tokens }, .done)
  | .isCancelled token => (channel.idle? token).map fun receiver =>
    (channel, .flag (watch.borrow channel.shared receiver))
  | .cancel =>
    if channel.held then
      some ({ channel with shared := watch.replace channel.shared true }, .done)
    else
      none
  | .drop =>
    if channel.held then
      some ({ channel with shared := watch.dropSender channel.shared, held := false }, .done)
    else
      none

/-- Carries out calls one after another. -/
def run (channel : Channel watch) (calls : List Call) : Option (Channel watch) :=
  calls.foldlM (fun channel call => (channel.step call).map Prod.fst) channel

theorem idle?_eq_some_iff {channel : Channel watch} {token : Nat} {receiver : watch.Receiver} :
    channel.idle? token = some receiver ↔ channel.tokens[token]? = some (.idle receiver) := by
  rw [idle?, Option.bind_eq_some_iff]
  constructor
  · rintro ⟨_ | _, there, same⟩
    · cases same
      exact there
    · contradiction
  · intro there
    exact ⟨_, there, rfl⟩

theorem lent?_eq_some_iff {channel : Channel watch} {token : Nat} {listening : Listening watch} :
    channel.lent? token = some listening ↔ channel.tokens[token]? = some (.lent listening) := by
  rw [lent?, Option.bind_eq_some_iff]
  constructor
  · rintro ⟨_ | _, there, same⟩
    · contradiction
    · cases same
      exact there
  · intro there
    exact ⟨_, there, rfl⟩

/-- A wait can be polled. -/
theorem exists_step_poll {channel : Channel watch} {token : Nat} {listening : Listening watch}
    (lent : channel.tokens[token]? = some (.lent listening)) :
    ∃ next answer, channel.step (.poll token) = some (next, answer) := by
  rw [step, lent?_eq_some_iff.mpr lent]
  exact ⟨_, _, rfl⟩

/-- A token at rest can be asked. -/
theorem exists_step_isCancelled {channel : Channel watch} {token : Nat}
    {receiver : watch.Receiver} (idle : channel.tokens[token]? = some (.idle receiver)) :
    ∃ next answer, channel.step (.isCancelled token) = some (next, answer) := by
  rw [step, idle?_eq_some_iff.mpr idle]
  exact ⟨_, _, rfl⟩

/-- A handle that is held can cancel and be dropped. -/
theorem exists_step_of_held {channel : Channel watch} (held : channel.held = true) {call : Call}
    (byHandle : call = .cancel ∨ call = .drop) :
    ∃ next answer, channel.step call = some (next, answer) := by
  rcases byHandle with rfl | rfl
  · exact ⟨_, _, if_pos held⟩
  · exact ⟨_, _, if_pos held⟩

theorem held_of_step {channel next : Channel watch} {call : Call} {answer : Answer}
    (byHandle : call = .cancel ∨ call = .drop) (stepped : channel.step call = some (next, answer)) :
    channel.held = true := by
  rcases byHandle with rfl | rfl
  · exact (Option.ite_none_right_eq_some.mp stepped).1
  · exact (Option.ite_none_right_eq_some.mp stepped).1

theorem run_append_eq_some_iff {channel after : Channel watch} {calls later : List Call} :
    channel.run (calls ++ later) = some after ↔
      ∃ before, channel.run calls = some before ∧ before.run later = some after := by
  rw [run, List.foldlM_append]
  exact Option.bind_eq_some_iff

theorem run_concat_eq_some_iff {channel after : Channel watch} {calls : List Call} {call : Call} :
    channel.run (calls ++ [call]) = some after ↔
      ∃ before answer, channel.run calls = some before ∧
        before.step call = some (after, answer) := by
  simp [run, Option.bind_eq_some_iff]

end Channel

/-! ## What a cancel channel makes of the calls -/

namespace Call

/-- What a call does to a cancel channel. -/
def change : Call → CancelChannel → CancelChannel
  | .cancel => CancelChannel.cancel
  | .drop => CancelChannel.release
  | _ => id

/-- What a call answers if a cancel channel says what there is to see. -/
def answer (own : CancelChannel) : Call → Answer
  | .poll _ => if (Wait.cancel.poll none own.cancelled).isSome then .ready else .pending
  | .isCancelled _ => .flag own.cancelled
  | _ => .done

theorem answer_poll (own : CancelChannel) (token : Nat) :
    (Call.poll token).answer own = if own.cancelled then .ready else .pending := by
  rcases own with ⟨_ | _, held⟩ <;> rfl

end Call

/-- What calls make of a new cancel channel. -/
def following (calls : List Call) : CancelChannel :=
  calls.foldl (fun own call => call.change own) .fresh

theorem following_concat (calls : List Call) (call : Call) :
    following (calls ++ [call]) = call.change (following calls) := by
  simp [following]

theorem Call.held_change_iff (own : CancelChannel) (call : Call) :
    (call.change own).held = true ↔ own.held = true ∧ call ≠ .drop := by
  cases call with
  | cancel =>
      rw [change, CancelChannel.cancel]
      split <;> simp
  | drop => simp [change, CancelChannel.release]
  | clone _ => simp [change]
  | listen _ => simp [change]
  | poll _ => simp [change]
  | abandon _ => simp [change]
  | isCancelled _ => simp [change]

/-- The handle is held until it is dropped. -/
theorem held_following_iff {calls : List Call} :
    (following calls).held = true ↔ .drop ∉ calls := by
  induction calls using List.reverseRecOn with
  | nil => simp [following, CancelChannel.fresh]
  | append_singleton rest call ih =>
      rw [following_concat, Call.held_change_iff, ih]
      simp [eq_comm]

/-! ## What is kept -/

variable {view : watch.View}

/-- A wait that has looked at the present value has not seen a cancel, and a wait
is parked only where no cancel can follow. -/
def Listening.Sound (view : watch.View) (state : Watch.State Bool) : Listening watch → Prop
  | .waits wait => (view.progress wait).condition = (fun cancelled => cancelled) ∧
    ∀ sent, (view.progress wait).looked = some sent →
      sent ≤ state.sent ∧ (sent = state.sent → state.value = false)
  | .parked _ => state.isOpen = false ∧ state.value = false

def Token.Sound (view : watch.View) (state : Watch.State Bool) : Token watch → Prop
  | .idle _ => True
  | .lent listening => listening.Sound view state

/-- A cancel channel says of a handle and its tokens what there is to see. -/
structure Channel.Sound (view : watch.View) (channel : Channel watch) (own : CancelChannel) :
    Prop where
  held_eq : channel.held = own.held
  isOpen_eq : (view.state channel.shared).isOpen = own.held
  value_eq : (view.state channel.shared).value = own.cancelled
  tokens : ∀ token ∈ channel.tokens, token.Sound view (view.state channel.shared)

section

variable (documented : view.Documented)
include documented

theorem Listening.sound_start (state : Watch.State Bool) (receiver : watch.Receiver) :
    (Listening.start receiver).Sound view state := by
  rw [start, Sound, documented.progress_waitFor]
  exact ⟨rfl, nofun⟩

/-- A poll ends the wait just if the value is true. -/
theorem Listening.poll_spec {shared : watch.Shared} {listening : Listening watch}
    (sound : listening.Sound view (view.state shared)) :
    view.state (listening.poll shared).1 = view.state shared ∧
      (listening.poll shared).2.Sound view (view.state shared) ∧
      (listening.poll shared).2.answer =
        if (view.state shared).value then .ready else .pending := by
  cases listening with
  | parked receiver =>
      rw [sound.2]
      exact ⟨rfl, sound, rfl⟩
  | waits wait =>
      rcases sound with ⟨condition_eq, looked⟩
      have same := documented.state_poll shared wait
      cases value_eq : (view.state shared).value with
      | true =>
          have finds : (view.progress wait).Finds (view.state shared) := by
            constructor
            · -- a value that was looked at is not true
              intro seen
              rw [(looked _ seen).2 rfl] at value_eq
              contradiction
            · rw [condition_eq, value_eq]
          rcases documented.poll_ready shared wait finds with ⟨receiver, ready⟩
          simp only [poll, ready]
          exact ⟨same, trivial, rfl⟩
      | false =>
          have finds : ¬ (view.progress wait).Finds (view.state shared) := by
            rintro ⟨_, satisfied⟩
            rw [condition_eq, value_eq] at satisfied
            contradiction
          cases isOpen_eq : (view.state shared).isOpen with
          | true =>
              rcases documented.poll_pending shared wait finds isOpen_eq with
                ⟨next, pending, progress⟩
              simp only [poll, pending]
              refine ⟨same, ?_, rfl⟩
              rw [Token.Sound, Sound, progress]
              refine ⟨condition_eq, ?_⟩
              rintro sent ⟨⟩
              exact ⟨Nat.le_refl _, fun _ => value_eq⟩
          | false =>
              rcases documented.poll_closed shared wait finds isOpen_eq with ⟨receiver, closed⟩
              simp only [poll, closed]
              exact ⟨same, ⟨isOpen_eq, value_eq⟩, rfl⟩

theorem Listening.state_abandon (shared : watch.Shared) (listening : Listening watch) :
    view.state (listening.abandon shared).1 = view.state shared := by
  cases listening with
  | parked receiver => rfl
  | waits wait => exact documented.state_abandon shared wait

end

namespace Token

variable {token : Token watch} {state : Watch.State Bool}

/-- A value that is sent has been looked at by nobody. -/
theorem Sound.sent (sound : token.Sound view state) (isOpen : state.isOpen = true)
    (value : Bool) : token.Sound view ⟨value, state.sent + 1, true⟩ := by
  rcases token with receiver | wait | receiver
  · trivial
  · refine ⟨sound.1, ?_⟩
    intro sent looked
    have le := (sound.2 sent looked).1
    exact ⟨Nat.le_succ_of_le le, fun same => absurd same (Nat.ne_of_lt (Nat.lt_succ_of_le le))⟩
  · exact absurd isOpen (by simp [sound.1])

theorem Sound.dropped (sound : token.Sound view state) :
    token.Sound view { state with isOpen := false } := by
  rcases token with receiver | wait | receiver
  · trivial
  · exact sound
  · exact ⟨rfl, sound.2⟩

end Token

namespace Channel

variable {channel next : Channel watch} {own : CancelChannel} {call : Call} {answer : Answer}

theorem Sound.with_tokens (sound : channel.Sound view own) {shared : watch.Shared}
    (same : view.state shared = view.state channel.shared) {tokens : List (Token watch)}
    (each : ∀ token ∈ tokens, token.Sound view (view.state channel.shared)) :
    { channel with shared, tokens : Channel watch }.Sound view own where
  held_eq := sound.held_eq
  isOpen_eq := same ▸ sound.isOpen_eq
  value_eq := same ▸ sound.value_eq
  tokens := same ▸ each

/-- A channel stays sound if one of its tokens changes. -/
theorem Sound.set (sound : channel.Sound view own) {shared : watch.Shared}
    (same : view.state shared = view.state channel.shared) (index : Nat) {token : Token watch}
    (tokenSound : token.Sound view (view.state channel.shared)) :
    { channel with shared, tokens := channel.tokens.set index token : Channel watch }.Sound view
      own := by
  apply sound.with_tokens same
  intro other member
  rcases List.mem_or_eq_of_mem_set member with before | rfl
  · exact sound.tokens other before
  · exact tokenSound

/-- Only a cancel cancels. -/
theorem Sound.cancelled_change (sound : channel.Sound view own)
    (stepped : channel.step call = some (next, answer)) :
    (call.change own).cancelled = true ↔ own.cancelled = true ∨ call = .cancel := by
  cases call with
  | cancel =>
      rcases Option.ite_none_right_eq_some.mp stepped with ⟨held, _⟩
      rw [Call.change, CancelChannel.cancel, if_pos (sound.held_eq.symm.trans held)]
      simp
  | drop => simp [Call.change, CancelChannel.release]
  | clone _ => simp [Call.change]
  | listen _ => simp [Call.change]
  | poll _ => simp [Call.change]
  | abandon _ => simp [Call.change]
  | isCancelled _ => simp [Call.change]

variable (documented : view.Documented)
include documented

theorem sound_fresh : (fresh : Channel watch).Sound view .fresh := by
  have made := documented.state_channel false
  constructor
  · rfl
  · simp only [fresh, made]
    rfl
  · simp only [fresh, made]
    rfl
  · rintro token (_ | ⟨_, ⟨⟩⟩)
    trivial

/-- Every call answers what the cancel channel says, and does to it what it
does. -/
theorem Sound.step (sound : channel.Sound view own)
    (stepped : channel.step call = some (next, answer)) :
    next.Sound view (call.change own) ∧ answer = call.answer own := by
  cases call with
  | clone token =>
      rcases Option.map_eq_some_iff.mp stepped with ⟨receiver, _, ⟨⟩⟩
      refine ⟨sound.with_tokens (documented.state_clone _ _) ?_, rfl⟩
      intro other member
      rcases List.mem_append.mp member with before | made
      · exact sound.tokens other before
      · cases List.mem_singleton.mp made
        trivial
  | listen token =>
      rcases Option.map_eq_some_iff.mp stepped with ⟨receiver, _, ⟨⟩⟩
      exact ⟨sound.set rfl token (Listening.sound_start documented _ receiver), rfl⟩
  | poll token =>
      rcases Option.map_eq_some_iff.mp stepped with ⟨listening, lent, ⟨⟩⟩
      have there := List.mem_of_getElem? (lent?_eq_some_iff.mp lent)
      rcases Listening.poll_spec documented (sound.tokens _ there) with ⟨same, polled, answer_eq⟩
      refine ⟨sound.set same token polled, answer_eq.trans ?_⟩
      rw [sound.value_eq, Call.answer_poll]
  | abandon token =>
      rcases Option.map_eq_some_iff.mp stepped with ⟨listening, _, ⟨⟩⟩
      exact ⟨sound.set (listening.state_abandon documented _) token trivial, rfl⟩
  | isCancelled token =>
      rcases Option.map_eq_some_iff.mp stepped with ⟨receiver, _, ⟨⟩⟩
      refine ⟨sound, congrArg Answer.flag ?_⟩
      exact (documented.borrow_eq _ receiver).trans sound.value_eq
  | cancel =>
      rcases Option.ite_none_right_eq_some.mp stepped with ⟨held, ⟨⟩⟩
      have isHeld : own.held = true := sound.held_eq.symm.trans held
      have isOpen := sound.isOpen_eq.trans isHeld
      have state_eq := documented.state_replace channel.shared true isOpen
      refine ⟨?_, rfl⟩
      rw [Call.change, CancelChannel.cancel, if_pos isHeld]
      constructor
      · exact sound.held_eq
      · exact (congrArg Watch.State.isOpen state_eq).trans isHeld.symm
      · exact congrArg Watch.State.value state_eq
      · intro token member
        rw [state_eq]
        exact (sound.tokens token member).sent isOpen true
  | drop =>
      rcases Option.ite_none_right_eq_some.mp stepped with ⟨held, ⟨⟩⟩
      have state_eq := documented.state_dropSender channel.shared
      refine ⟨?_, rfl⟩
      constructor
      · rfl
      · exact congrArg Watch.State.isOpen state_eq
      · exact (congrArg Watch.State.value state_eq).trans sound.value_eq
      · intro token member
        rw [state_eq]
        exact (sound.tokens token member).dropped

/-- After every run of calls that can be made, the cancel channel says what there
is to see. -/
theorem sound_run {calls : List Call} (ran : fresh.run calls = some channel) :
    channel.Sound view (following calls) := by
  induction calls using List.reverseRecOn generalizing channel with
  | nil =>
      cases ran
      exact sound_fresh documented
  | append_singleton rest call ih =>
      rcases run_concat_eq_some_iff.mp ran with ⟨before, answer, ranBefore, stepped⟩
      rw [following_concat]
      exact ((ih ranBefore).step documented stepped).1

/-- It is cancelled just if the handle has cancelled. -/
theorem cancelled_following_iff {calls : List Call} (ran : fresh.run calls = some channel) :
    (following calls).cancelled = true ↔ .cancel ∈ calls := by
  induction calls using List.reverseRecOn generalizing channel with
  | nil => simp [following, CancelChannel.fresh]
  | append_singleton rest call ih =>
      rcases run_concat_eq_some_iff.mp ran with ⟨before, answer, ranBefore, stepped⟩
      have sound := sound_run documented ranBefore
      rw [following_concat, sound.cancelled_change stepped, ih ranBefore]
      simp [eq_comm]

/-- A handle that was dropped cannot cancel. -/
theorem not_cancel_of_dropped {calls later : List Call} (dropped : .drop ∈ calls)
    (ran : fresh.run (calls ++ later) = some channel) : .cancel ∉ later := by
  intro cancels
  rcases List.append_of_mem cancels with ⟨earlier, others, rfl⟩
  -- when the cancel is made, the handle is held; but it was dropped before
  have split : calls ++ (earlier ++ .cancel :: others) =
      (calls ++ earlier ++ [.cancel]) ++ others := by simp
  rw [split] at ran
  rcases run_append_eq_some_iff.mp ran with ⟨cancelled, ranCancelled, _⟩
  rcases run_concat_eq_some_iff.mp ranCancelled with ⟨before, answer, ranBefore, stepped⟩
  rcases Option.ite_none_right_eq_some.mp stepped with ⟨held, _⟩
  have sound := sound_run documented ranBefore
  exact held_following_iff.mp (sound.held_eq.symm.trans held) (List.mem_append_left _ dropped)

end Channel

end JobLedger.Tokens
