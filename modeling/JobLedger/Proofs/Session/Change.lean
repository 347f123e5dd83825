import JobLedger.Proofs.Subject.Run

/-!
# What a request changes

A request changes one thing of a session at most: it makes a subject or acts on
one, it opens, fires or lets go of a channel, or it starts a waiter.  `Change`
lists all that a request can do, with the conditions under which it is done, so
that nothing else has to open the definition of a step.
-/

namespace JobLedger

/-- A wait looks at no signal if completion does not concern it, and at no
channel if a cancel does not. -/
structure Waiter.Shaped (waiter : Waiter) : Prop where
  subject_eq : waiter.wait.heedsCompletion = false → waiter.subject = none
  channel_eq : waiter.wait.heedsCancel = false → waiter.channel = none

namespace Session

/-! ## Handles and channels -/

/-- The session in which the handle of a name, one of the channel at a place, is
let go. -/
def letGo (session : Session) (token : String) (place : Nat) (channel : CancelChannel) :
    Session :=
  { session with
    channels := session.channels.set place channel.release
    handles := session.handles.filter fun handle => handle.1 != token }

/-- The session with one more channel, whose handle a name holds. -/
def withChannel (session : Session) (name : String) : Session :=
  { session with
    channels := session.channels.add name .fresh
    handles := (name, session.channels.items.length) :: session.handles }

theorem withHandle_eq_some_iff (session : Session) (token : String)
    (change : CancelChannel → CancelChannel) (changed : Session) :
    session.withHandle token change = some changed ↔
      ∃ place channel, session.handles.lookup token = some place ∧
        session.channels.get? place = some channel ∧
        changed = { session with channels := session.channels.set place (change channel) } := by
  simp only [withHandle, Option.bind_eq_bind, Option.bind_eq_some_iff, Option.pure_def,
    Option.some.injEq]
  constructor
  · rintro ⟨place, named, channel, there, rfl⟩
    exact ⟨place, channel, named, there, rfl⟩
  · rintro ⟨place, channel, named, there, rfl⟩
    exact ⟨place, named, channel, there, rfl⟩

theorem release_eq_some_iff (session : Session) (token : String) (changed : Session) :
    session.release token = some changed ↔
      ∃ place channel, session.handles.lookup token = some place ∧
        session.channels.get? place = some channel ∧
        changed = session.letGo token place channel := by
  simp only [release, Option.map_eq_some_iff, withHandle_eq_some_iff]
  constructor
  · rintro ⟨_, ⟨place, channel, named, there, rfl⟩, rfl⟩
    exact ⟨place, channel, named, there, rfl⟩
  · rintro ⟨place, channel, named, there, rfl⟩
    exact ⟨_, ⟨place, channel, named, there, rfl⟩, rfl⟩

/-! ## Requests -/

/-- What a request can make of a session before any waiter looks. -/
inductive Change (session : Session) (request : Request) : Session → Prop where
  /-- At most the clock and the source of identifiers change. -/
  | idle (clock : ManualClock) (ids : IdSource) :
      Change session request { session with clock, ids }
  /-- A subject is made. -/
  | made (clock : ManualClock) (ids : IdSource) (name : String) (subject : Subject)
      (new : subject.tracker? = none ∨ subject.Made) :
      Change session request
        { session with clock, ids, subjects := session.subjects.add name subject }
  /-- A subject is acted on. -/
  | acted (clock : ManualClock) (place : Nat) (subject : Subject)
      (act : Subject.Act ManualClock) (found : session.subjects.get? place = some subject) :
      Change session request
        { session with
          clock
          subjects := session.subjects.set place (subject.perform act session.clock).state }
  /-- A channel gets one more name. -/
  | linked (name : String) (place : Nat) :
      Change session request { session with channels := session.channels.link name place }
  /-- A channel is cancelled through its handle. -/
  | fired (token : String) (place : Nat) (channel : CancelChannel)
      (asked : request = .fire token) (named : session.handles.lookup token = some place)
      (found : session.channels.get? place = some channel) :
      Change session request
        { session with channels := session.channels.set place channel.cancel }
  /-- A handle is let go. -/
  | released (token : String) (place : Nat) (channel : CancelChannel)
      (named : session.handles.lookup token = some place)
      (found : session.channels.get? place = some channel) :
      Change session request (session.letGo token place channel)
  /-- A channel is opened. -/
  | opened (name : String) : Change session request (session.withChannel name)
  /-- A channel is opened, and the handle that its name held before is let go. -/
  | reopened (name : String) (place : Nat) (channel : CancelChannel)
      (named : session.handles.lookup name = some place)
      (found : session.channels.get? place = some channel) :
      Change session request ((session.letGo name place channel).withChannel name)
  /-- A waiter is started that does not see a completion and a cancel at once. -/
  | started (waiter : Waiter) (waits : waiter.ending = none) (shaped : waiter.Shaped)
      (unambiguous : session.signalFor waiter = none ∨ session.cancelledFor waiter = false) :
      Change session request { session with waiters := session.waiters ++ [waiter] }

theorem startWait_change (session : Session) (request : Request) (name : String) (wait : Wait)
    (subject channel : Option Nat) (shaped : Waiter.Shaped ⟨name, wait, subject, channel, none⟩) :
    Change session request (session.startWait name wait subject channel).session := by
  simp only [startWait, startWaiter]
  split
  · exact .idle _ _
  · next free =>
    apply Change.started
    · rfl
    · exact shaped
    · cases signalled : session.signalFor ⟨name, wait, subject, channel, none⟩ with
      | none => exact .inl rfl
      | some final => exact .inr (by simpa [signalled] using free)

theorem newTracker_change (session : Session) (request : Request) (name : String) :
    Change session request (session.newTracker name).session := by
  unfold newTracker
  cases started : Tracker.start session.clock with
  | mk result clock =>
      cases result with
      | error fault => exact .idle _ _
      | ok own => exact .made _ _ _ _ (.inr (.tracker (congrArg Prod.fst started)))

theorem newJob_change (session : Session) (request : Request) (name : String)
    (settings : Settings) : Change session request (session.newJob name settings).session := by
  simp only [newJob]
  cases created : (Job.create settings session.ids session.clock).job with
  | error refusal => exact .idle _ _
  | ok built =>
      cases built with
      | error fault => exact .idle _ _
      | ok owner =>
          apply Change.made
          right
          simp only [Job.create] at created
          split at created
          · contradiction
          · exact .job (Except.ok.inj created)

theorem track_change (session : Session) (request : Request) (name : String)
    (call : Tracker.Call) : Change session request (session.track name call).session := by
  unfold track
  cases found : session.subjects.find? name with
  | none => exact .idle _ _
  | some there =>
      obtain ⟨place, subject⟩ := there
      cases has : subject.tracker? with
      | none =>
          simp only [has]
          exact .idle _ _
      | some own =>
          have change := @Change.acted session request
            (own.perform call session.clock).clock place subject (.track call)
            (Directory.get?_of_find? found)
          simpa [Subject.perform, has, Outcome.within, Outcome.map] using change

theorem drive_change (session : Session) (request : Request) (name : String)
    (call : Job.Call) : Change session request (session.drive name call).session := by
  unfold drive
  cases found : session.subjects.find? name with
  | none => exact .idle _ _
  | some there =>
      obtain ⟨place, subject⟩ := there
      cases subject with
      | tracker _ => exact .idle _ _
      | registry _ => exact .idle _ _
      | job owner => exact .acted _ place (.job owner) (.drive call) (Directory.get?_of_find? found)

theorem register_change (session : Session) (request : Request) (name : String)
    (attempt : Attempt) : Change session request (session.register name attempt).session := by
  unfold register
  cases found : session.subjects.find? name with
  | none => exact .idle _ _
  | some there =>
      obtain ⟨place, subject⟩ := there
      have there := Directory.get?_of_find? found
      cases subject with
      | tracker _ => exact .idle _ _
      | registry own => exact .acted session.clock place (.registry own) (.register attempt) there
      | job owner => exact .acted session.clock place (.job owner) (.register attempt) there

theorem ask_change (session : Session) (request : Request) (name : String)
    (question : Question) : Change session request (session.ask name question).session := by
  unfold ask
  cases session.subjects.find? name <;> exact .idle _ _

theorem newToken_change (session : Session) (request : Request) (name : String) :
    Change session request (session.newToken name).session := by
  unfold newToken
  cases releases : session.release name with
  | none => exact .opened name
  | some base =>
      obtain ⟨place, channel, named, found, rfl⟩ := (release_eq_some_iff _ _ _).mp releases
      exact .reopened name place channel named found

theorem dropHandle_change (session : Session) (request : Request) (token : String) :
    Change session request (session.dropHandle token).session := by
  unfold dropHandle
  cases releases : session.release token with
  | none => exact .idle _ _
  | some changed =>
      obtain ⟨place, channel, named, found, rfl⟩ := (release_eq_some_iff _ _ _).mp releases
      exact .released token place channel named found

theorem fire_change (session : Session) (token : String) :
    Change session (.fire token) (session.fire token).session := by
  unfold fire
  cases cancels : session.withHandle token CancelChannel.cancel with
  | none => exact .idle _ _
  | some changed =>
      obtain ⟨place, channel, named, found, rfl⟩ := (withHandle_eq_some_iff _ _ _ _).mp cancels
      exact .fired token place channel rfl named found

theorem startHook_change (session : Session) (request : Request) (subject token name : String)
    (failure : Option String) :
    Change session request (session.startHook subject token name failure).session := by
  unfold startHook
  cases session.subjects.find? subject with
  | none => exact .idle _ _
  | some there =>
      obtain ⟨place, found⟩ := there
      cases found with
      | tracker _ => exact .idle _ _
      | registry _ => exact .idle _ _
      | job owner =>
          cases session.channels.place? token with
          | none => exact .idle _ _
          | some channel => exact session.startWait_change _ _ _ _ _ ⟨nofun, nofun⟩

theorem awaitCompletionOrCancel_change (session : Session) (request : Request)
    (subject token name : String) :
    Change session request (session.awaitCompletionOrCancel subject token name).session := by
  unfold awaitCompletionOrCancel
  cases session.subjects.place? subject with
  | none => exact .idle _ _
  | some place =>
      cases session.channels.place? token with
      | none => exact .idle _ _
      | some channel => exact session.startWait_change _ _ _ _ _ ⟨nofun, nofun⟩

/-- Every request does one of the listed things. -/
theorem perform_change (session : Session) (request : Request) :
    Change session request (session.perform request).session := by
  cases request with
  | advance span => exact .idle _ _
  | failNextReading => exact .idle _ _
  | nextJobId => exact .idle _ _
  | nextAttemptId => exact .idle _ _
  | newTracker name => exact session.newTracker_change _ name
  | newRegistry name => exact .made _ _ _ _ (.inl rfl)
  | newJob name settings => exact session.newJob_change _ name settings
  | track name call => exact session.track_change _ name call
  | drive name call => exact session.drive_change _ name call
  | ask name question => exact session.ask_change _ name question
  | register name attempt => exact session.register_change _ name attempt
  | newToken name => exact session.newToken_change _ name
  | cloneToken token name =>
      simp only [perform, cloneToken]
      cases session.channels.place? token with
      | none => exact .idle _ _
      | some place => exact .linked name place
  | fire token => exact session.fire_change token
  | dropHandle token => exact session.dropHandle_change _ token
  | isCancelled token =>
      simp only [perform, isCancelled]
      cases session.channels.find? token <;> exact .idle _ _
  | awaitCompletion subject name =>
      simp only [perform, awaitCompletion]
      cases session.subjects.place? subject with
      | none => exact .idle _ _
      | some place => exact session.startWait_change _ _ _ _ _ ⟨nofun, fun _ => rfl⟩
  | awaitCompletionOrCancel subject token name =>
      exact session.awaitCompletionOrCancel_change _ subject token name
  | awaitCancel token name =>
      simp only [perform, awaitCancel]
      cases session.channels.place? token with
      | none => exact .idle _ _
      | some channel => exact session.startWait_change _ _ _ _ _ ⟨fun _ => rfl, nofun⟩
  | hook subject token name failure =>
      exact session.startHook_change _ subject token name failure

end Session

end JobLedger
