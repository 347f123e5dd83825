import JobLedger.Proofs.Session.History

/-!
# What a look brings a waiter

A waiter that has not ended looks at its signal first and at its channel then.
A look ends it with the completion, ends it with the cancel, or leaves it as it
is.  It keeps its place, and its end once it has one, and it has logged what
its end logs.  No request brings it a completion and a cancel at once.
-/

namespace JobLedger

namespace Wait

theorem poll_signal {wait : Wait} (heeds : wait.heedsCompletion = true) (final : Status)
    (cancelled : Bool) : wait.poll (some final) cancelled = some (wait.complete final) := by
  unfold poll
  rw [heeds]

theorem poll_no_signal (wait : Wait) (cancelled : Bool) :
    wait.poll none cancelled =
      if wait.heedsCancel && cancelled then some wait.giveUp else none := by
  rw [poll]
  nofun

/-- How a wait ends that the completion `final` came to first.  Who waits for a
completion is given it.  A hook is called with it, and fails if its action does. -/
inductive EndsCompleted (final : Status) : Wait → Ending → Prop where
  | completion : EndsCompleted final .completion (.completed final)
  | completionOrCancel : EndsCompleted final .completionOrCancel (.completed final)
  | hook (job : JobId) : EndsCompleted final (.hook job none) (.completed final)
  | failingHook (job : JobId) (text : String) :
      EndsCompleted final (.hook job (some text)) (.failed final (.hookFailure text))

/-- How a wait ends that a cancel came to first.  Who could have been given a
completion is given none. -/
inductive EndsCancelled : Wait → Ending → Prop where
  | cancel : EndsCancelled .cancel .fired
  | completionOrCancel : EndsCancelled .completionOrCancel .cancelled
  | hook (job : JobId) (failure : Option String) : EndsCancelled (.hook job failure) .cancelled

/-- What a wait logs with its end: a hook tells that it runs or that it never
will, and a wait for whichever comes first that it was cancelled. -/
def endLog : Wait → Ending → List Event
  | hook job _, .completed final => [.hookRunning job final]
  | hook job _, .failed final _ => [.hookRunning job final]
  | hook job _, .cancelled => [.watchCancelled job]
  | completionOrCancel, .cancelled => [.waitCancelled]
  | _, _ => []

theorem endsCompleted_complete {wait : Wait} (heeds : wait.heedsCompletion = true)
    (final : Status) : wait.EndsCompleted final (wait.complete final).1 := by
  cases wait with
  | completion => exact .completion
  | completionOrCancel => exact .completionOrCancel
  | cancel => contradiction
  | hook job failure =>
      cases failure with
      | none => exact .hook job
      | some text => exact .failingHook job text

theorem endsCancelled_giveUp {wait : Wait} (heeds : wait.heedsCancel = true) :
    wait.EndsCancelled wait.giveUp.1 := by
  cases wait with
  | completion => contradiction
  | completionOrCancel => exact .completionOrCancel
  | cancel => exact .cancel
  | hook job failure => exact .hook job failure

theorem endLog_complete (wait : Wait) (final : Status) :
    wait.endLog (wait.complete final).1 = (wait.complete final).2 := by
  rcases wait with _ | _ | _ | ⟨job, _ | text⟩ <;> rfl

namespace EndsCompleted

variable {wait : Wait} {final : Status} {ending other : Ending}

theorem unique (ends : wait.EndsCompleted final ending)
    (otherEnds : wait.EndsCompleted final other) : ending = other := by
  cases ends <;> cases otherEnds <;> rfl

/-- Who is told of a completion is told of it once. -/
theorem calls_eq (ends : wait.EndsCompleted final ending) : ending.calls = [final] := by
  cases ends <;> rfl

end EndsCompleted

namespace EndsCancelled

variable {wait : Wait} {ending other : Ending}

theorem unique (ends : wait.EndsCancelled ending) (otherEnds : wait.EndsCancelled other) :
    ending = other := by
  cases ends <;> cases otherEnds <;> rfl

theorem calls_eq (ends : wait.EndsCancelled ending) : ending.calls = [] := by
  cases ends <;> rfl

end EndsCancelled

/-- A look at a completion ends every wait but one for nothing but a cancel. -/
theorem poll_completed {wait : Wait} (awaits : wait ≠ .cancel) (final : Status)
    (cancelled : Bool) :
    ∃ ending, wait.poll (some final) cancelled = some (ending, wait.endLog ending) ∧
      wait.EndsCompleted final ending := by
  have heeds : wait.heedsCompletion = true := by
    cases wait with
    | cancel => contradiction
    | _ => rfl
  refine ⟨(wait.complete final).1, ?_, endsCompleted_complete heeds final⟩
  rw [poll_signal heeds, endLog_complete]

end Wait

namespace Waiter

/-- The waiter `later` is the waiter some time afterwards: it may have ended,
unless it had ended before. -/
inductive Becomes (waiter : Waiter) : Waiter → Prop where
  | same : Becomes waiter waiter
  | ends (ending : Ending) (waits : waiter.ending = none) :
      Becomes waiter { waiter with ending := some ending }

theorem Becomes.trans {first second third : Waiter} (earlier : first.Becomes second)
    (later : second.Becomes third) : first.Becomes third := by
  cases earlier with
  | same => exact later
  | ends ending waits =>
      cases later with
      | same => exact .ends ending waits
      | ends _ ended => contradiction

/-- What a waiter has logged: what its end logs, once it has ended. -/
def logged (waiter : Waiter) : List Event :=
  match waiter.ending with
  | none => []
  | some ending => waiter.wait.endLog ending

/-- The statuses with which the action of a hook was called. -/
def calls (waiter : Waiter) : List Status :=
  match waiter.wait, waiter.ending with
  | .hook .., some ending => ending.calls
  | _, _ => []

theorem calls_of_isHook (waiter : Waiter) (hook : waiter.wait.isHook = true) :
    waiter.calls = (waiter.ending.map Ending.calls).getD [] := by
  obtain ⟨_, wait, _, _, ending⟩ := waiter
  cases wait with
  | hook _ _ => cases ending <;> rfl
  | completion => contradiction
  | completionOrCancel => contradiction
  | cancel => contradiction

/-- The waiter with an end, and what it logs with it. -/
def endWith (waiter : Waiter) (result : Ending × List Event) : Waiter × List Event :=
  ({ waiter with ending := some result.1 }, result.2)

end Waiter

namespace Session

/-! ## One look -/

/-- The completion of the tracker of a waiter. -/
def completionFor (session : Session) (waiter : Waiter) : Option Status :=
  waiter.subject.bind session.completionAt

theorem signalFor_eq (session : Session) (waiter : Waiter) :
    session.signalFor waiter = waiter.subject.bind session.signalAt := by
  unfold signalFor signalAt trackerAt
  cases waiter.subject with
  | none => rfl
  | some place =>
      simp only [Option.bind_eq_bind, Option.bind_some, Option.bind_assoc]

theorem cancelledFor_eq (session : Session) (waiter : Waiter) :
    session.cancelledFor waiter = (waiter.channel.map session.cancelledAt).getD false := by
  unfold cancelledFor cancelledAt
  cases waiter.channel with
  | none => rfl
  | some place =>
      simp only [Option.bind_eq_bind, Option.bind_some, Option.map_some, Option.getD_some]
      cases session.channels.get? place <;> rfl

variable {session : Session} {waiter : Waiter}

theorem look_of_ended {ending : Ending} (ended : waiter.ending = some ending) :
    session.look waiter = (waiter, []) := by
  unfold look
  rw [ended]

theorem look_of_waiting (waits : waiter.ending = none) :
    session.look waiter =
      ((waiter.wait.poll (session.signalFor waiter) (session.cancelledFor waiter)).map
        waiter.endWith).getD (waiter, []) := by
  unfold look
  rw [waits]
  cases waiter.wait.poll (session.signalFor waiter) (session.cancelledFor waiter) <;> rfl

/-- Only who heeds completions looks at a tracker. -/
theorem heedsCompletion_of_signal {final : Status} (shaped : waiter.Shaped)
    (signalled : session.signalFor waiter = some final) : waiter.wait.heedsCompletion = true := by
  cases heeds : waiter.wait.heedsCompletion with
  | true => rfl
  | false => simp [signalFor_eq, shaped.subject_eq heeds] at signalled

/-- Only who heeds cancels looks at a channel. -/
theorem heedsCancel_of_cancelled (shaped : waiter.Shaped)
    (cancelled : session.cancelledFor waiter = true) : waiter.wait.heedsCancel = true := by
  cases heeds : waiter.wait.heedsCancel with
  | true => rfl
  | false => simp [cancelledFor, shaped.channel_eq heeds] at cancelled

theorem look_of_signal {final : Status} (waits : waiter.ending = none) (shaped : waiter.Shaped)
    (signalled : session.signalFor waiter = some final) :
    session.look waiter = waiter.endWith (waiter.wait.complete final) := by
  have heeds := heedsCompletion_of_signal shaped signalled
  rw [look_of_waiting waits, signalled, Wait.poll_signal heeds]
  rfl

theorem look_of_cancel (waits : waiter.ending = none) (shaped : waiter.Shaped)
    (unsignalled : session.signalFor waiter = none)
    (cancelled : session.cancelledFor waiter = true) :
    session.look waiter = waiter.endWith waiter.wait.giveUp := by
  have heeds := heedsCancel_of_cancelled shaped cancelled
  rw [look_of_waiting waits, unsignalled, cancelled, Wait.poll_no_signal, heeds]
  rfl

theorem look_of_neither (waits : waiter.ending = none)
    (unsignalled : session.signalFor waiter = none)
    (uncancelled : session.cancelledFor waiter = false) :
    session.look waiter = (waiter, []) := by
  rw [look_of_waiting waits, unsignalled, uncancelled, Wait.poll_no_signal, Bool.and_false]
  rfl

theorem waiters_step (session : Session) (request : Request) :
    (session.step request).1.waiters =
      (session.perform request).session.waiters.map
        fun waiter => ((session.perform request).session.look waiter).1 := by
  simp [step, settle]

@[simp]
theorem signalFor_step (session : Session) (request : Request) (waiter : Waiter) :
    (session.step request).1.signalFor waiter =
      (session.perform request).session.signalFor waiter := rfl

@[simp]
theorem cancelledFor_step (session : Session) (request : Request) (waiter : Waiter) :
    (session.step request).1.cancelledFor waiter =
      (session.perform request).session.cancelledFor waiter := rfl

@[simp]
theorem look_step (session : Session) (request : Request) (waiter : Waiter) :
    (session.step request).1.look waiter = (session.perform request).session.look waiter := rfl

/-- A request brings no unfinished waiter a completion and a cancel at once. -/
theorem not_both_perform {session : Session} (request : Request)
    (neither : ∀ waiter ∈ session.waiters, waiter.ending = none →
      session.signalFor waiter = none ∧ session.cancelledFor waiter = false)
    {waiter : Waiter} (there : waiter ∈ (session.perform request).session.waiters)
    (waits : waiter.ending = none) :
    (session.perform request).session.signalFor waiter = none ∨
      (session.perform request).session.cancelledFor waiter = false := by
  have change := perform_change session request
  rcases change.mem_waiters there with before | ⟨_, _, unambiguous⟩
  · obtain ⟨unsignalled, uncancelled⟩ := neither waiter before waits
    rcases change.trackers_or_channels with same | same
    · left
      rw [signalFor_eq] at unsignalled ⊢
      unfold signalAt at unsignalled ⊢
      rw [same, unsignalled]
    · right
      rw [cancelledFor_eq, same, ← cancelledFor_eq, uncancelled]
  · exact unambiguous

end Session

end JobLedger
