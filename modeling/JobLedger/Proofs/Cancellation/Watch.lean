import JobLedger.Cancellation

/-!
# Watch channels

A watch channel keeps the value that was sent most recently.  Its sender sends
values and may be dropped; each of its receivers looks at the value, or waits
for one that satisfies a condition.

The channels themselves are not part of this library.  `Watch` lists what is
called of them, over states of which nothing is known, and `Watch.Documented`
says what they promise in terms of what can be told about these states: what was
sent, whether the sender is still there, and at what a wait has looked.
-/

namespace JobLedger

/-- What a poll of a wait brings. -/
inductive Watch.Poll (Waiting Receiver α : Type) where
  | pending (wait : Waiting)
  /-- The wait has ended with a value that satisfies the condition. -/
  | ready (receiver : Receiver) (value : α)
  /-- The wait has failed: no more values can be sent. -/
  | closed (receiver : Receiver)

/-- Watch channels of values of type `α`. -/
structure Watch (α : Type) where
  /-- What the ends of a channel share. -/
  Shared : Type
  /-- What a receiver keeps for itself. -/
  Receiver : Type
  /-- What a wait that is under way keeps, its receiver included. -/
  Waiting : Type
  /-- A new channel with a first value, and its first receiver. -/
  channel : α → Shared × Receiver
  /-- Sends a value, whether or not there is anyone to receive it. -/
  replace : Shared → α → Shared
  dropSender : Shared → Shared
  /-- One more receiver like the given one. -/
  clone : Shared → Receiver → Shared × Receiver
  /-- What a receiver sees. -/
  borrow : Shared → Receiver → α
  /-- The wait of a receiver for a value that satisfies a condition; nothing is
  done before the first poll. -/
  waitFor : Receiver → (α → Bool) → Waiting
  poll : Shared → Waiting → Shared × Watch.Poll Waiting Receiver α
  /-- Gives up a wait. -/
  abandon : Shared → Waiting → Shared × Receiver

namespace Watch

variable {α : Type}

/-- What has become of a channel. -/
structure State (α : Type) where
  /-- The value that was sent most recently. -/
  value : α
  /-- How many values were sent after the first one. -/
  sent : Nat
  /-- Whether the sender is still there. -/
  isOpen : Bool

/-- How far a wait has come. -/
structure Progress (α : Type) where
  condition : α → Bool
  /-- How many values had been sent when the condition was called last; nothing
  before the first call. -/
  looked : Option Nat

/-- The wait has not looked at the value that is there, and it satisfies the
condition. -/
def Progress.Finds (progress : Progress α) (state : State α) : Prop :=
  progress.looked ≠ some state.sent ∧ progress.condition state.value = true

instance (progress : Progress α) (state : State α) : Decidable (progress.Finds state) :=
  inferInstanceAs (Decidable (_ ∧ _))

/-- What the states of channels and waits stand for. -/
structure View (watch : Watch α) where
  state : watch.Shared → State α
  progress : watch.Waiting → Progress α

/-- What is documented of watch channels. -/
structure View.Documented {watch : Watch α} (view : watch.View) : Prop where
  state_channel : ∀ value, view.state (watch.channel value).1 = ⟨value, 0, true⟩
  state_replace : ∀ shared value, (view.state shared).isOpen = true →
    view.state (watch.replace shared value) = ⟨value, (view.state shared).sent + 1, true⟩
  state_dropSender : ∀ shared,
    view.state (watch.dropSender shared) = { view.state shared with isOpen := false }
  state_clone : ∀ shared receiver, view.state (watch.clone shared receiver).1 = view.state shared
  state_poll : ∀ shared wait, view.state (watch.poll shared wait).1 = view.state shared
  state_abandon : ∀ shared wait, view.state (watch.abandon shared wait).1 = view.state shared
  /-- A receiver sees the most recent value. -/
  borrow_eq : ∀ shared receiver, watch.borrow shared receiver = (view.state shared).value
  progress_waitFor : ∀ receiver condition,
    view.progress (watch.waitFor receiver condition) = ⟨condition, none⟩
  /-- The condition is called with the most recent value, first of all and
  whenever something was sent.  As soon as it holds, the wait ends. -/
  poll_ready : ∀ shared wait, (view.progress wait).Finds (view.state shared) →
    ∃ receiver, (watch.poll shared wait).2 = .ready receiver (view.state shared).value
  /-- Until then the wait goes on, while something can be sent. -/
  poll_pending : ∀ shared wait, ¬ (view.progress wait).Finds (view.state shared) →
    (view.state shared).isOpen = true → ∃ next, (watch.poll shared wait).2 = .pending next ∧
      view.progress next = { view.progress wait with looked := some (view.state shared).sent }
  /-- Once nothing can be sent any more, a wait fails whose condition the last value
  does not satisfy. -/
  poll_closed : ∀ shared wait, ¬ (view.progress wait).Finds (view.state shared) →
    (view.state shared).isOpen = false → ∃ receiver, (watch.poll shared wait).2 = .closed receiver

/-! ## Channels that count -/

/-- Watch channels that count the values that are sent.  A receiver knows how
many had been sent when it looked last. -/
def counting (α : Type) : Watch α where
  Shared := State α
  Receiver := Nat
  Waiting := Nat × Progress α
  channel value := (⟨value, 0, true⟩, 0)
  replace shared value := { shared with value, sent := shared.sent + 1 }
  dropSender shared := { shared with isOpen := false }
  clone shared seen := (shared, seen)
  borrow shared _ := shared.value
  waitFor seen condition := (seen, ⟨condition, none⟩)
  poll shared wait := (shared,
    if wait.2.Finds shared then .ready shared.sent shared.value
    else if shared.isOpen then
      .pending (shared.sent, { wait.2 with looked := some shared.sent })
    else .closed shared.sent)
  abandon shared wait := (shared, wait.1)

def counting.view (α : Type) : (counting α).View := ⟨id, Prod.snd⟩

/-- Counting is enough to keep what is documented. -/
theorem counting.documented (α : Type) : (counting.view α).Documented where
  state_channel _ := rfl
  state_replace shared value isOpen := congrArg (State.mk value (shared.sent + 1)) isOpen
  state_dropSender _ := rfl
  state_clone _ _ := rfl
  state_poll _ _ := rfl
  state_abandon _ _ := rfl
  borrow_eq _ _ := rfl
  progress_waitFor _ _ := rfl
  poll_ready _ _ finds := ⟨_, if_pos finds⟩
  poll_pending _ _ finds isOpen := ⟨_, (if_neg finds).trans (if_pos isOpen), rfl⟩
  poll_closed _ _ finds closed := ⟨_, (if_neg finds).trans <| if_neg fun isOpen =>
    Bool.false_ne_true (closed.symm.trans isOpen)⟩

end Watch

end JobLedger
