import JobLedger.Session.Directory
import JobLedger.Session.Request

/-!
# Sessions

A session holds trackers, registries, jobs, cancel channels and waiters by
name.  All of them share one manual clock and one source of identifiers.

A step carries out one request and then lets every waiter look once.  A look
changes nothing that another waiter looks at, so the order does not matter and
one look is enough.
-/

namespace JobLedger

/-- What a name of a session can refer to, tokens and waiters aside. -/
inductive Subject where
  | tracker (tracker : Tracker)
  | registry (registry : Registry)
  | job (job : Job)

namespace Subject

/-- The tracker of a subject. -/
def tracker? : Subject → Option Tracker
  | tracker own => some own
  | job owner => some owner.tracker
  | registry _ => none

/-- The registry of a subject. -/
def registry? : Subject → Option Registry
  | registry own => some own
  | job owner => some owner.registry
  | tracker _ => none

def job? : Subject → Option Job
  | job own => some own
  | _ => none

/-- The subject with another tracker, if it has one at all. -/
def withTracker (subject : Subject) (changed : Tracker) : Subject :=
  match subject with
  | tracker _ => tracker changed
  | job owner => job (owner.withTracker changed)
  | registry own => registry own

end Subject

/-- A waiter of a session: what it waits for and where it looks. -/
structure Waiter where
  name : String
  wait : Wait
  /-- The place of the tracker whose signal it looks at. -/
  subject : Option Nat
  /-- The place of the channel it looks at. -/
  channel : Option Nat
  ending : Option Ending
  deriving DecidableEq

/-- Everything that a session holds. -/
structure Session where
  clock : ManualClock
  ids : IdSource
  subjects : Directory Subject
  channels : Directory CancelChannel
  /-- The names through which handles are held, with the places of their
  channels. -/
  handles : List (String × Nat)
  waiters : List Waiter

namespace Session

/-- A session without objects whose clock shows `now`. -/
def starting (now : Int64) : Session :=
  { clock := .starting now
    ids := .fresh
    subjects := .empty
    channels := .empty
    handles := []
    waiters := [] }

/-- What carrying out a request leaves, before any waiter looks. -/
structure Effect where
  session : Session
  reply : Reply
  log : List Event

/-- Nothing but a reply. -/
def reply (session : Session) (reply : Reply) : Effect :=
  { session, reply, log := [] }

/-! ## Trackers, registries and jobs -/

def newTracker (session : Session) (name : String) : Effect :=
  match Tracker.start session.clock with
  | (.error fault, clock) => { session with clock }.reply (.stopped fault)
  | (.ok tracker, clock) =>
    let subjects := session.subjects.add name (.tracker tracker)
    { session with clock, subjects }.reply
      (.state tracker.status tracker.completion tracker.enteredAt)

def newRegistry (session : Session) (name : String) : Effect :=
  { session with subjects := session.subjects.add name (.registry .empty) }.reply (.size 0)

/-- The reply that identifies a job. -/
def identify (job : Job) : Reply :=
  .identity job.id job.name job.kind job.tracker.status

def newJob (session : Session) (name : String) (settings : Settings) : Effect :=
  let creation := Job.create settings session.ids session.clock
  let session := { session with clock := creation.clock, ids := creation.ids }
  let effect := match creation.job with
    | .error refusal => session.reply (.refused refusal)
    | .ok (.error fault) => session.reply (.stopped fault)
    | .ok (.ok job) =>
      { session with subjects := session.subjects.add name (.job job) }.reply (identify job)
  { effect with log := creation.log }

/-- The reply to a call that may have moved a tracker. -/
def outcomeReply (result : Except Fault Tracker.Answer) (tracker : Tracker) : Reply :=
  match result with
  | .ok (.ok applied) => .outcome applied tracker.status tracker.completion
  | .ok (.error rejection) => .refused (.domain (.alreadyCompleted rejection))
  | .error fault => .stopped fault

def track (session : Session) (name : String) (call : Tracker.Call) : Effect :=
  match session.subjects.find? name with
  | none => session.reply .unknown
  | some (place, subject) =>
    match subject.tracker? with
    | none => session.reply .unknown
    | some tracker =>
      let outcome := tracker.perform call session.clock
      { session :=
          { session with
            clock := outcome.clock
            subjects := session.subjects.set place (subject.withTracker outcome.state) }
        reply := outcomeReply outcome.result outcome.state
        log := outcome.log }

def drive (session : Session) (name : String) (call : Job.Call) : Effect :=
  match session.subjects.find? name with
  | some (place, .job job) =>
    let outcome := job.perform call session.clock
    { session :=
        { session with
          clock := outcome.clock
          subjects := session.subjects.set place (.job outcome.state) }
      reply := outcomeReply (outcome.result.map .ok) outcome.state.tracker
      log := outcome.log }
  | _ => session.reply .unknown

def register (session : Session) (name : String) (attempt : Attempt) : Effect :=
  match session.subjects.find? name with
  | some (place, .registry registry) =>
    let (registry, event) := registry.register attempt
    { session := { session with subjects := session.subjects.set place (.registry registry) }
      reply := .count registry.size
      log := [event] }
  | some (place, .job job) =>
    let (job, event) := job.register attempt
    { session := { session with subjects := session.subjects.set place (.job job) }
      reply := .count job.registry.size
      log := [event] }
  | _ => session.reply .unknown

/-- The reply to a question about a subject. -/
def answer (subject : Subject) (question : Question) : Reply :=
  let ofTracker (f : Tracker → Reply) := (subject.tracker?.map f).getD .unknown
  let ofRegistry (f : Registry → Reply) := (subject.registry?.map f).getD .unknown
  let ofJob (f : Job → Reply) := (subject.job?.map f).getD .unknown
  match question with
  | .status => ofTracker fun tracker => .status tracker.status
  | .completion => ofTracker fun tracker => .completion tracker.completion
  | .stamps => ofTracker fun tracker => .stamps tracker.enteredAt
  | .stamp status => ofTracker fun tracker => .time (tracker.stamp status)
  | .state => ofTracker fun tracker =>
      .state tracker.status tracker.completion tracker.enteredAt
  | .description lines => ofTracker fun tracker =>
      .description (if lines then tracker.describeLines else tracker.describe)
  | .identity => ofJob identify
  | .report => ofJob fun job => .report job.report
  | .executions => ofJob fun job => .attempts job.registry.snapshot
  | .find id => ofRegistry fun registry => .found (registry.find? id)
  | .vertexOf id => ofRegistry fun registry => .vertex (registry.vertexOf? id)
  | .attemptsFor vertex => ofRegistry fun registry => .attempts (registry.attemptsFor vertex)
  | .snapshot => ofRegistry fun registry => .attempts registry.snapshot
  | .size => ofRegistry fun registry => .size registry.size

def ask (session : Session) (name : String) (question : Question) : Effect :=
  match session.subjects.find? name with
  | none => session.reply .unknown
  | some (_, subject) => session.reply (answer subject question)

/-! ## Cancel channels -/

/-- Changes the channel of a handle, if the name holds one. -/
def withHandle (session : Session) (token : String) (change : CancelChannel → CancelChannel) :
    Option Session := do
  let place ← session.handles.lookup token
  let channel ← session.channels.get? place
  return { session with channels := session.channels.set place (change channel) }

/-- Lets go of the handle that a name holds. -/
def release (session : Session) (token : String) : Option Session :=
  (session.withHandle token CancelChannel.release).map fun session =>
    { session with handles := session.handles.filter fun handle => handle.1 != token }

/-- A new channel.  A handle that the name held before is let go. -/
def newToken (session : Session) (name : String) : Effect :=
  let session := (session.release name).getD session
  let place := session.channels.items.length
  { session with
    channels := session.channels.add name .fresh
    handles := (name, place) :: session.handles }.reply .done

def cloneToken (session : Session) (token name : String) : Effect :=
  match session.channels.place? token with
  | none => session.reply .unknown
  | some place =>
    { session with channels := session.channels.link name place }.reply .done

def fire (session : Session) (token : String) : Effect :=
  match session.withHandle token CancelChannel.cancel with
  | none => session.reply .unknown
  | some changed => changed.reply .done

def dropHandle (session : Session) (token : String) : Effect :=
  match session.release token with
  | none => session.reply (.flag false)
  | some changed => changed.reply (.flag true)

def isCancelled (session : Session) (token : String) : Effect :=
  match session.channels.find? token with
  | none => session.reply .unknown
  | some (_, channel) => session.reply (.flag channel.cancelled)

/-! ## Waiters -/

/-- The signal that a waiter sees. -/
def signalFor (session : Session) (waiter : Waiter) : Option Status := do
  let place ← waiter.subject
  let subject ← session.subjects.get? place
  let tracker ← subject.tracker?
  tracker.signal

/-- Whether the channel of a waiter is cancelled. -/
def cancelledFor (session : Session) (waiter : Waiter) : Bool :=
  (do
    let place ← waiter.channel
    let channel ← session.channels.get? place
    return channel.cancelled : Option Bool).getD false

/-- Adds a waiter, unless it would see a completion and a cancel at once.
Waiters may share a name. -/
def startWaiter (session : Session) (waiter : Waiter) : Effect :=
  if (session.signalFor waiter).isSome && session.cancelledFor waiter then
    session.reply .ambiguous
  else
    { session with waiters := session.waiters ++ [waiter] }.reply .waiting

/-- Starts a wait on a subject, on a token, or on both. -/
def startWait (session : Session) (name : String) (wait : Wait) (subject : Option Nat)
    (channel : Option Nat) : Effect :=
  session.startWaiter { name, wait, subject, channel, ending := none }

def awaitCompletion (session : Session) (subject name : String) : Effect :=
  match session.subjects.place? subject with
  | none => session.reply .unknown
  | some place => session.startWait name .completion (some place) none

def awaitCompletionOrCancel (session : Session) (subject token name : String) : Effect :=
  match session.subjects.place? subject, session.channels.place? token with
  | some place, some channel =>
    session.startWait name .completionOrCancel (some place) (some channel)
  | _, _ => session.reply .unknown

def awaitCancel (session : Session) (token name : String) : Effect :=
  match session.channels.place? token with
  | none => session.reply .unknown
  | some channel => session.startWait name .cancel none (some channel)

def startHook (session : Session) (subject token name : String) (failure : Option String) :
    Effect :=
  match session.subjects.find? subject, session.channels.place? token with
  | some (place, .job job), some channel =>
    session.startWait name (.hook job.id failure) (some place) (some channel)
  | _, _ => session.reply .unknown

/-! ## Steps -/

/-- Carries out a request; no waiter looks yet. -/
def perform (session : Session) : Request → Effect
  | .advance span =>
    let clock := session.clock.advance span
    { session with clock }.reply (.time clock.now)
  | .failNextReading => { session with clock := session.clock.failNext }.reply .done
  | .nextJobId =>
    let (id, ids) := session.ids.nextJobId
    { session with ids }.reply (.jobId id)
  | .nextAttemptId =>
    let (id, ids) := session.ids.nextAttemptId
    { session with ids }.reply (.attemptId id)
  | .newTracker name => session.newTracker name
  | .newRegistry name => session.newRegistry name
  | .newJob name settings => session.newJob name settings
  | .track subject call => session.track subject call
  | .drive subject call => session.drive subject call
  | .ask subject question => session.ask subject question
  | .register subject attempt => session.register subject attempt
  | .newToken name => session.newToken name
  | .cloneToken token name => session.cloneToken token name
  | .fire token => session.fire token
  | .dropHandle token => session.dropHandle token
  | .isCancelled token => session.isCancelled token
  | .awaitCompletion subject name => session.awaitCompletion subject name
  | .awaitCompletionOrCancel subject token name =>
    session.awaitCompletionOrCancel subject token name
  | .awaitCancel token name => session.awaitCancel token name
  | .hook subject token name failure => session.startHook subject token name failure

/-- Lets a waiter look once, unless it has ended. -/
def look (session : Session) (waiter : Waiter) : Waiter × List Event :=
  match waiter.ending with
  | some _ => (waiter, [])
  | none =>
    match waiter.wait.poll (session.signalFor waiter) (session.cancelledFor waiter) with
    | none => (waiter, [])
    | some (ending, log) => ({ waiter with ending := some ending }, log)

/-- Lets every waiter look once. -/
def settle (session : Session) : Session × List Event :=
  let looks := session.waiters.map session.look
  ({ session with waiters := looks.map Prod.fst }, looks.flatMap Prod.snd)

/-- What is told of a step. -/
structure Turn where
  reply : Reply
  /-- The waiters that ended in this step, by name; of one name, the older first. -/
  ended : List Waiter
  log : List Event
  /-- What the waiters logged, in the order in which it is shown. -/
  waiterLog : List Event

/-- The waiters of `after` that had not ended in `before`. -/
def newlyEnded (before after : List Waiter) : List Waiter :=
  ((before.zip after).filter fun (old, new) =>
    old.ending.isNone && new.ending.isSome).map Prod.snd

/-- Carries out a request and lets every waiter look. -/
def step (session : Session) (request : Request) : Session × Turn :=
  let effect := session.perform request
  let (settled, waiterLog) := effect.session.settle
  (settled,
    { reply := effect.reply
      ended := (newlyEnded effect.session.waiters settled.waiters).mergeSort
        fun first second => first.name ≤ second.name
      log := effect.log
      waiterLog := waiterLog.mergeSort Event.le })

/-- Carries out requests one after another. -/
def run (session : Session) : List Request → Session × List Turn
  | [] => (session, [])
  | request :: rest =>
    let (next, turn) := session.step request
    let (last, turns) := run next rest
    (last, turn :: turns)

/-- The names of the waiters that still wait, in order. -/
def pending (session : Session) : List String :=
  ((session.waiters.filter fun waiter => waiter.ending.isNone).map Waiter.name).mergeSort
    (· ≤ ·)

end Session

end JobLedger
