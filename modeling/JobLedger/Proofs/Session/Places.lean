import JobLedger.Proofs.Session.Change

/-!
# What the places of a session hold

A waiter keeps to the place of a tracker and to the place of a channel.  A
request makes a tracker there, or calls the one that is there, or leaves the
place as it is; and a channel is cancelled by the request that fires the handle
of its place, and by no other.  No request does something to a tracker and to
a channel at once.
-/

namespace JobLedger

/-- What a request can make of a place of a tracker. -/
inductive Tracker.Evolves : Option Tracker → Option Tracker → Prop where
  | same (own : Option Tracker) : Evolves own own
  | starts (now : Int64) : Evolves none (some (started now))
  | called (tracker : Tracker) (call : Call) (clock : ManualClock) :
      Evolves (some tracker) (some (tracker.perform call clock).state)

/-- An act does to the tracker of a subject what a call does, or nothing. -/
theorem Subject.evolves_perform (subject : Subject) (act : Act ManualClock)
    (clock : ManualClock) :
    Tracker.Evolves subject.tracker? (subject.perform act clock).state.tracker? := by
  cases own : subject.tracker? with
  | none =>
      have silent : subject.callOf act = none := by
        cases subject <;> first | rfl | contradiction
      rw [(perform_of_callOf_eq_none silent clock).1, own]
      exact .same none
  | some tracker =>
      rw [tracker?_perform own act clock]
      cases subject.callOf act with
      | none => exact .same (some tracker)
      | some call => exact .called tracker call clock

namespace Session

/-- The tracker at a place. -/
def trackerAt (session : Session) (place : Nat) : Option Tracker :=
  (session.subjects.get? place).bind Subject.tracker?

/-- Whether the channel at a place is cancelled. -/
def cancelledAt (session : Session) (place : Nat) : Bool :=
  ((session.channels.get? place).map CancelChannel.cancelled).getD false

/-! ## Handles -/

/-- Every handle is the one of a channel that is still held, and no two of them
are handles of one channel. -/
structure HandlesHeld (session : Session) : Prop where
  held : ∀ {token place}, session.handles.lookup token = some place →
    ∃ channel, session.channels.get? place = some channel ∧ channel.held = true
  apart : ∀ {token other place}, session.handles.lookup token = some place →
    session.handles.lookup other = some place → token = other

theorem handlesHeld_starting (now : Int64) : (starting now).HandlesHeld :=
  ⟨nofun, nofun⟩

theorem lookup_cons_eq (handles : List (String × Nat)) (name other : String) (place : Nat) :
    ((name, place) :: handles).lookup other =
      if other = name then some place else handles.lookup other := by
  rw [List.lookup_cons]
  by_cases same : other = name
  · simp [same]
  · simp [same, beq_false_of_ne same]

theorem lookup_filter_ne (handles : List (String × Nat)) (token other : String) :
    (handles.filter fun handle => handle.1 != token).lookup other =
      if other = token then none else handles.lookup other := by
  induction handles with
  | nil => simp
  | cons handle rest ih =>
      obtain ⟨name, place⟩ := handle
      by_cases dropped : name = token
      · subst dropped
        rw [List.filter_cons_of_neg (by simp), ih, lookup_cons_eq]
        split <;> rfl
      · rw [List.filter_cons_of_pos (by simpa using dropped), lookup_cons_eq, lookup_cons_eq, ih]
        by_cases same : other = name
        · simp [same, dropped]
        · simp [same]

theorem letGo_handlesHeld {session : Session} {token : String} {place : Nat}
    (handles : session.HandlesHeld) (named : session.handles.lookup token = some place)
    (channel : CancelChannel) : (session.letGo token place channel).HandlesHeld := by
  unfold letGo
  constructor
  · intro other otherPlace found
    rw [lookup_filter_ne] at found
    split at found
    · contradiction
    · next different =>
      -- the handle that goes is of another channel, so this one is still held
      have elsewhere : place ≠ otherPlace := by
        rintro rfl
        exact different (handles.apart found named)
      simpa [elsewhere] using handles.held found
  · intro first second shared firstFound secondFound
    rw [lookup_filter_ne] at firstFound secondFound
    split at firstFound
    · contradiction
    · split at secondFound
      · contradiction
      · exact handles.apart firstFound secondFound

theorem withChannel_handlesHeld {session : Session} (handles : session.HandlesHeld)
    (name : String) : (session.withChannel name).HandlesHeld := by
  unfold withChannel
  have inside {token place} (found : session.handles.lookup token = some place) :
      place < session.channels.items.length := by
    obtain ⟨channel, there, _⟩ := handles.held found
    exact (List.getElem?_eq_some_iff.mp there).1
  constructor
  · intro token place found
    rw [lookup_cons_eq] at found
    split at found
    · cases found
      exact ⟨.fresh, by simp, rfl⟩
    · have before := inside found
      simpa [Nat.ne_of_lt before] using handles.held found
  · intro token other place found otherFound
    rw [lookup_cons_eq] at found otherFound
    split at found <;> split at otherFound
    · next same otherSame => rw [same, otherSame]
    · cases found
      exact absurd (inside otherFound) (Nat.lt_irrefl _)
    · cases otherFound
      exact absurd (inside found) (Nat.lt_irrefl _)
    · exact handles.apart found otherFound

namespace Change

variable {session after : Session} {request : Request}

/-- The tracker at a place after a request. -/
theorem evolves (change : Change session request after) (place : Nat) :
    Tracker.Evolves (session.trackerAt place) (after.trackerAt place) := by
  cases change with
  | idle _ _ => exact .same _
  | linked _ _ => exact .same _
  | fired _ _ _ _ _ _ => exact .same _
  | released _ _ _ _ _ => exact .same _
  | opened _ => exact .same _
  | reopened _ _ _ _ _ => exact .same _
  | started _ _ _ _ => exact .same _
  | made _ _ _ subject new =>
      simp only [trackerAt, Directory.get?_add]
      split
      · next next =>
        have free : session.subjects.get? place = none := by simp [Directory.get?, next]
        rw [free]
        rcases new with without | made
        · rw [Option.bind_some, without]
          exact .same _
        · obtain ⟨now, own⟩ := made.tracker?_eq
          rw [Option.bind_some, own]
          exact .starts now
      · exact .same _
  | acted _ _ subject act found =>
      simp only [trackerAt, Directory.get?_set]
      split
      · next same =>
        subst same
        rw [found]
        exact subject.evolves_perform act session.clock
      · exact .same _

/-- A request does nothing to the trackers or nothing to the channels. -/
theorem trackers_or_channels (change : Change session request after) :
    after.trackerAt = session.trackerAt ∨ after.cancelledAt = session.cancelledAt := by
  cases change with
  | idle _ _ => exact .inr rfl
  | made _ _ _ _ _ => exact .inr rfl
  | acted _ _ _ _ _ => exact .inr rfl
  | linked _ _ => exact .inr rfl
  | started _ _ _ _ => exact .inr rfl
  | fired _ _ _ _ _ _ => exact .inl rfl
  | released _ _ _ _ _ => exact .inl rfl
  | opened _ => exact .inl rfl
  | reopened _ _ _ _ _ => exact .inl rfl

/-- Handles stay apart and held. -/
theorem handlesHeld (change : Change session request after) (handles : session.HandlesHeld) :
    after.HandlesHeld := by
  cases change with
  | idle _ _ => exact ⟨handles.held, handles.apart⟩
  | made _ _ _ _ _ => exact ⟨handles.held, handles.apart⟩
  | acted _ _ _ _ _ => exact ⟨handles.held, handles.apart⟩
  | linked _ _ => exact ⟨handles.held, handles.apart⟩
  | started _ _ _ _ => exact ⟨handles.held, handles.apart⟩
  | released _ _ channel named _ => exact letGo_handlesHeld handles named channel
  | opened name => exact withChannel_handlesHeld handles name
  | reopened name _ channel named _ =>
      exact withChannel_handlesHeld (letGo_handlesHeld handles named channel) name
  | fired token place channel _ named there =>
      constructor
      · intro other otherPlace found
        obtain ⟨otherChannel, otherThere, held⟩ := handles.held found
        by_cases same : place = otherPlace
        · subst same
          obtain rfl : channel = otherChannel := Option.some.inj (there.symm.trans otherThere)
          exact ⟨channel.cancel, by simp [there], by simp [CancelChannel.cancel, held]⟩
        · exact ⟨otherChannel, by simp [same, otherThere], held⟩
      · exact handles.apart

/-- The waiters after a request: those before it, and one that it may start. -/
theorem waiters_eq (change : Change session request after) :
    after.waiters = session.waiters ∨
      ∃ waiter : Waiter, waiter.ending = none ∧ waiter.Shaped ∧
        (after.signalFor waiter = none ∨ after.cancelledFor waiter = false) ∧
        after.waiters = session.waiters ++ [waiter] := by
  cases change with
  | started waiter waits shaped unambiguous =>
      exact .inr ⟨waiter, waits, shaped, unambiguous, rfl⟩
  | idle _ _ => exact .inl rfl
  | made _ _ _ _ _ => exact .inl rfl
  | acted _ _ _ _ _ => exact .inl rfl
  | linked _ _ => exact .inl rfl
  | fired _ _ _ _ _ _ => exact .inl rfl
  | released _ _ _ _ _ => exact .inl rfl
  | opened _ => exact .inl rfl
  | reopened _ _ _ _ _ => exact .inl rfl

theorem mem_waiters (change : Change session request after) {waiter : Waiter}
    (there : waiter ∈ after.waiters) :
    waiter ∈ session.waiters ∨
      waiter.ending = none ∧ waiter.Shaped ∧
        (after.signalFor waiter = none ∨ after.cancelledFor waiter = false) := by
  rcases change.waiters_eq with same | ⟨started, waits, shaped, unambiguous, more⟩
  · left
    rwa [same] at there
  · rw [more, List.mem_append, List.mem_singleton] at there
    rcases there with before | rfl
    · exact .inl before
    · exact .inr ⟨waits, shaped, unambiguous⟩

end Change

/-! ## What cancels a channel -/

/-- The request cancels the channel at a place through its handle. -/
def Fires (session : Session) (request : Request) (place : Nat) : Prop :=
  ∃ token, request = .fire token ∧ session.handles.lookup token = some place

theorem cancelledAt_letGo {session : Session} {released : Nat} {channel : CancelChannel}
    (found : session.channels.get? released = some channel) (token : String) (place : Nat) :
    (session.letGo token released channel).cancelledAt place = session.cancelledAt place := by
  by_cases same : released = place
  · subst same
    simp [cancelledAt, letGo, found, CancelChannel.release]
  · simp [cancelledAt, letGo, same]

theorem cancelledAt_withChannel (session : Session) (name : String) (place : Nat) :
    (session.withChannel name).cancelledAt place = session.cancelledAt place := by
  simp only [cancelledAt, withChannel, Directory.get?_add]
  split
  · next next => simp [Directory.get?, next, CancelChannel.fresh]
  · rfl

/-- Only a request to fire cancels a channel. -/
theorem Change.cancelledAt_eq {session after : Session} {request : Request}
    (change : Change session request after) (other : ∀ token, request ≠ .fire token)
    (place : Nat) : after.cancelledAt place = session.cancelledAt place := by
  cases change with
  | idle _ _ => rfl
  | made _ _ _ _ _ => rfl
  | acted _ _ _ _ _ => rfl
  | linked _ _ => rfl
  | started _ _ _ _ => rfl
  | fired token _ _ asked _ _ => exact absurd asked (other token)
  | released token _ _ _ found => exact cancelledAt_letGo found token place
  | opened name => exact cancelledAt_withChannel session name place
  | reopened name _ _ _ found =>
      rw [cancelledAt_withChannel, cancelledAt_letGo found]

/-- A channel is cancelled after a request if it was before, or if the request
fires its handle. -/
theorem cancelledAt_perform {session : Session} (handles : session.HandlesHeld)
    (request : Request) (place : Nat) :
    (session.perform request).session.cancelledAt place = true ↔
      session.cancelledAt place = true ∨ session.Fires request place := by
  by_cases asked : ∃ token, request = .fire token
  · obtain ⟨token, rfl⟩ := asked
    have fires (other : Nat) :
        session.Fires (.fire token) other ↔ session.handles.lookup token = some other := by
      simp [Fires]
    rw [fires]
    cases named : session.handles.lookup token with
    | none => simp [perform, fire, withHandle, named, reply]
    | some firedPlace =>
        obtain ⟨channel, there, held⟩ := handles.held named
        have cancels := (withHandle_eq_some_iff session token .cancel _).mpr
          ⟨firedPlace, channel, named, there, rfl⟩
        simp only [perform, fire, cancels, reply, Option.some.injEq]
        by_cases same : firedPlace = place
        · subst same
          simp [cancelledAt, there, CancelChannel.cancel, held]
        · simp [cancelledAt, same]
  · have other (token : String) : request ≠ .fire token := fun same => asked ⟨token, same⟩
    rw [(perform_change session request).cancelledAt_eq other]
    constructor
    · exact .inl
    · rintro (cancelled | ⟨token, same, _⟩)
      · exact cancelled
      · exact absurd same (other token)

end Session

end JobLedger
