import JobLedger.Proofs.Cancellation.Tokens
import JobLedger.Proofs.Session.History

/-!
# Handles of a session

Few requests do something to a channel: one to fire its handle, one to drop it,
and one that takes the name of the handle for a new channel.  They make calls on
the handle, and a channel of a session is what these calls make of a new one.
-/

namespace JobLedger.Session

open Tokens (Call following)

/-! ## Calls on handles -/

/-- The name of the handle on which a request makes a call, and the call. -/
def calledHandle : Request → Option (String × Call)
  | .fire token => some (token, .cancel)
  | .dropHandle token => some (token, .drop)
  | .newToken name => some (name, .drop)
  | _ => none

/-- The calls that a request makes on the handle of the channel at a place. -/
def handleCalls (session : Session) (place : Nat) (request : Request) : List Call :=
  match calledHandle request with
  | some (token, call) => if session.handles.lookup token = some place then [call] else []
  | none => []

/-- The calls that requests make on the handle of the channel at a place. -/
def handleCallsOf (session : Session) (place : Nat) : List Request → List Call
  | [] => []
  | request :: rest =>
    session.handleCalls place request ++ (session.step request).1.handleCallsOf place rest

theorem handleCallsOf_append (session : Session) (place : Nat) (requests later : List Request) :
    session.handleCallsOf place (requests ++ later) =
      session.handleCallsOf place requests ++
        (session.run requests).1.handleCallsOf place later := by
  induction requests generalizing session with
  | nil => rfl
  | cons request rest ih => simp [handleCallsOf, run, ih]

/-- The channel at a place is what the calls on its handle have made of a new one;
there were none while there was no channel. -/
def Follows (channels : Directory CancelChannel) (place : Nat) (calls : List Call) : Prop :=
  match channels.get? place with
  | some channel => channel = following calls
  | none => calls = []

variable {channels : Directory CancelChannel} {place : Nat} {calls : List Call}

/-- A call on the handle of one channel is the last of the calls on it. -/
theorem Follows.set (follows : Follows channels place calls) {changed : Nat}
    {channel : CancelChannel} (there : channels.get? changed = some channel) (call : Call) :
    Follows (channels.set changed (call.change channel)) place
      (calls ++ if changed = place then [call] else []) := by
  unfold Follows at *
  rw [Directory.get?_set]
  by_cases same : changed = place
  · subst same
    rw [there] at follows ⊢
    simp [follows, Tokens.following_concat]
  · simpa [same] using follows

theorem Follows.add (follows : Follows channels place calls) (name : String) :
    Follows (channels.add name .fresh) place calls := by
  unfold Follows at *
  rw [Directory.get?_add]
  by_cases next : place = channels.items.length
  · have free : channels.get? place = none := by simp [Directory.get?, next]
    rw [free] at follows
    rw [if_pos next, show calls = [] from follows]
    rfl
  · rw [if_neg next]
    exact follows

/-! ## One request -/

theorem startWait_channels (session : Session) (name : String) (wait : Wait)
    (subject channel : Option Nat) :
    (session.startWait name wait subject channel).session.channels = session.channels := by
  simp only [startWait, startWaiter]
  split <;> rfl

variable {session : Session}

/-- A request that is not made on a handle leaves the channels. -/
theorem get?_channels_perform (request : Request) (place : Nat)
    (other : ∀ token, request ≠ .fire token ∧ request ≠ .dropHandle token ∧
      request ≠ .newToken token) :
    (session.perform request).session.channels.get? place = session.channels.get? place := by
  cases request with
  | fire token => exact absurd rfl (other token).1
  | dropHandle token => exact absurd rfl (other token).2.1
  | newToken name => exact absurd rfl (other name).2.2
  | advance span => rfl
  | failNextReading => rfl
  | nextJobId => rfl
  | nextAttemptId => rfl
  | newRegistry name => rfl
  | newTracker name =>
      simp only [perform, newTracker]
      split <;> rfl
  | newJob name settings =>
      simp only [perform, newJob]
      split <;> rfl
  | track name call =>
      simp only [perform, track]
      split
      · rfl
      · split <;> rfl
  | drive name call =>
      simp only [perform, drive]
      split <;> rfl
  | register name attempt =>
      simp only [perform, register]
      split <;> rfl
  | ask name question =>
      simp only [perform, ask]
      split <;> rfl
  | cloneToken token name =>
      simp only [perform, cloneToken]
      split <;> rfl
  | isCancelled token =>
      simp only [perform, isCancelled]
      split <;> rfl
  | awaitCompletion subject name =>
      simp only [perform, awaitCompletion]
      split
      · rfl
      · rw [startWait_channels]
  | awaitCompletionOrCancel subject token name =>
      simp only [perform, awaitCompletionOrCancel]
      split
      · rw [startWait_channels]
      · rfl
  | awaitCancel token name =>
      simp only [perform, awaitCancel]
      split
      · rfl
      · rw [startWait_channels]
  | hook subject token name failure =>
      simp only [perform, startHook]
      split
      · rw [startWait_channels]
      · rfl

/-- Whoever holds a handle can use it. -/
theorem exists_withHandle (handles : session.HandlesHeld) {token : String}
    (named : session.handles.lookup token = some place) (change : CancelChannel → CancelChannel) :
    ∃ changed, session.withHandle token change = some changed := by
  rcases handles.held named with ⟨channel, there, _⟩
  exact ⟨_, (withHandle_eq_some_iff _ _ _ _).mpr ⟨place, channel, named, there, rfl⟩⟩

theorem lookup_ne_of_withHandle_eq_none (handles : session.HandlesHeld) {token : String}
    {change : CancelChannel → CancelChannel} (without : session.withHandle token change = none)
    (place : Nat) : session.handles.lookup token ≠ some place := by
  intro named
  rcases exists_withHandle handles named change with ⟨changed, found⟩
  rw [without] at found
  contradiction

theorem lookup_ne_of_release_eq_none (handles : session.HandlesHeld) {token : String}
    (without : session.release token = none) (place : Nat) :
    session.handles.lookup token ≠ some place :=
  lookup_ne_of_withHandle_eq_none handles (Option.map_eq_none_iff.mp without) place

theorem Follows.release (handles : session.HandlesHeld)
    (follows : Follows session.channels place calls) (token : String) :
    Follows ((session.release token).getD session).channels place
      (calls ++ if session.handles.lookup token = some place then [.drop] else []) := by
  cases releases : session.release token with
  | none =>
      rw [if_neg (lookup_ne_of_release_eq_none handles releases place), List.append_nil]
      exact follows
  | some changed =>
      rcases (release_eq_some_iff _ _ _).mp releases with ⟨released, channel, named, there, rfl⟩
      simp only [named, Option.some.injEq]
      exact follows.set there .drop

theorem channels_dropHandle (session : Session) (token : String) :
    (session.dropHandle token).session.channels =
      ((session.release token).getD session).channels := by
  unfold dropHandle
  cases session.release token <;> rfl

/-- A request does to a channel what its calls on the handle do. -/
theorem Follows.perform (handles : session.HandlesHeld)
    (follows : Follows session.channels place calls) (request : Request) :
    Follows (session.perform request).session.channels place
      (calls ++ session.handleCalls place request) := by
  cases request with
  | fire token =>
      simp only [Session.perform, fire, handleCalls, calledHandle]
      cases cancels : session.withHandle token CancelChannel.cancel with
      | none =>
          rw [if_neg (lookup_ne_of_withHandle_eq_none handles cancels place), List.append_nil]
          exact follows
      | some changed =>
          rcases (withHandle_eq_some_iff _ _ _ _).mp cancels with
            ⟨fired, channel, named, there, rfl⟩
          simp only [named, Option.some.injEq]
          exact follows.set there .cancel
  | dropHandle token =>
      rw [Session.perform, channels_dropHandle]
      exact follows.release handles token
  | newToken name => exact (follows.release handles name).add name
  | _ =>
      change Follows _ place (calls ++ [])
      unfold Follows
      rw [get?_channels_perform _ place (by simp), List.append_nil]
      exact follows

/-! ## Runs -/

theorem handleCallsOf_concat (now : Int64) (place : Nat) (requests : List Request)
    (request : Request) :
    (starting now).handleCallsOf place (requests ++ [request]) =
      (starting now).handleCallsOf place requests ++
        (reached now requests).handleCalls place request := by
  rw [handleCallsOf_append, handleCallsOf, handleCallsOf, List.append_nil]
  rfl

/-- The channels of a session are what the calls on their handles have made of
them. -/
theorem follows_reached (now : Int64) (requests : List Request) (place : Nat) :
    Follows (reached now requests).channels place
      ((starting now).handleCallsOf place requests) := by
  induction requests using List.reverseRecOn with
  | nil => rfl
  | append_singleton rest request ih =>
      rw [handleCallsOf_concat, reached_concat]
      exact ih.perform (reached_handlesHeld now rest) request

theorem byHandle_of_calledHandle {request : Request} {token : String} {call : Call}
    (called : calledHandle request = some (token, call)) : call = .cancel ∨ call = .drop := by
  cases request with
  | fire _ =>
      cases called
      exact .inl rfl
  | dropHandle _ =>
      cases called
      exact .inr rfl
  | newToken _ =>
      cases called
      exact .inr rfl
  | _ => contradiction

/-- A call on a handle is made by whoever holds it. -/
theorem handleCalls_cases (session : Session) (place : Nat) (request : Request) :
    session.handleCalls place request = [] ∨
      ∃ call token, (call = .cancel ∨ call = .drop) ∧
        session.handles.lookup token = some place ∧
          session.handleCalls place request = [call] := by
  unfold handleCalls
  split
  · next token call called =>
    split
    · next named => exact .inr ⟨call, token, byHandle_of_calledHandle called, named, rfl⟩
    · exact .inl rfl
  · exact .inl rfl

/-- The calls on a handle can be made of a handle over a watch channel, and of what
they make of it the channel of the session says what there is to see. -/
theorem exists_run_handleCallsOf {watch : Watch Bool} {view : watch.View}
    (documented : view.Documented) (now : Int64) (requests : List Request) (place : Nat) :
    ∃ made : Tokens.Channel watch,
      Tokens.Channel.fresh.run ((starting now).handleCallsOf place requests) = some made ∧
        ∀ channel, (reached now requests).channels.get? place = some channel →
          made.Sound view channel := by
  have exists_run : ∃ made : Tokens.Channel watch,
      Tokens.Channel.fresh.run ((starting now).handleCallsOf place requests) = some made := by
    induction requests using List.reverseRecOn with
    | nil => exact ⟨_, rfl⟩
    | append_singleton rest request ih =>
        rcases ih with ⟨made, ran⟩
        rw [handleCallsOf_concat]
        rcases (reached now rest).handleCalls_cases place request with
          silent | ⟨call, token, byHandle, named, calls_eq⟩
        · rw [silent, List.append_nil]
          exact ⟨made, ran⟩
        · -- a handle with a name is held in the session, and so it is over the watch
          rcases (reached_handlesHeld now rest).held named with ⟨channel, there, held⟩
          have follows := follows_reached now rest place
          rw [Follows, there] at follows
          have sound := Tokens.Channel.sound_run documented ran
          rw [← follows] at sound
          rcases Tokens.Channel.exists_step_of_held (sound.held_eq.trans held) byHandle with
            ⟨next, answer, stepped⟩
          rw [calls_eq]
          exact ⟨next, Tokens.Channel.run_concat_eq_some_iff.mpr ⟨made, answer, ran, stepped⟩⟩
  rcases exists_run with ⟨made, ran⟩
  refine ⟨made, ran, ?_⟩
  intro channel there
  have follows := follows_reached now requests place
  rw [Follows, there] at follows
  rw [show channel = following _ from follows]
  exact Tokens.Channel.sound_run documented ran

end JobLedger.Session
