import JobLedger.Proofs.Session.Places
import JobLedger.Proofs.Subject.Completion
import Mathlib.Data.List.Induction

/-!
# Runs of a session

Whatever a session has come to, it came to from an empty one by a list of
requests.  Along every such list the signal of each tracker is its completion,
a completion that is there stays, and a channel is cancelled exactly if one of
the requests fired its handle.
-/

namespace JobLedger.Session

/-- A run goes on from where it has come to. -/
theorem run_append (session : Session) (before after : List Request) :
    session.run (before ++ after) =
      (((session.run before).1.run after).1,
        (session.run before).2 ++ ((session.run before).1.run after).2) := by
  induction before generalizing session with
  | nil => rfl
  | cons request rest ih =>
      simp only [List.cons_append, run]
      rw [ih]

/-- What requests make of a session that starts at a time. -/
def reached (now : Int64) (requests : List Request) : Session :=
  ((starting now).run requests).1

/-- What is told of the requests, one turn each. -/
def told (now : Int64) (requests : List Request) : List Turn :=
  ((starting now).run requests).2

@[simp]
theorem reached_nil (now : Int64) : reached now [] = starting now := rfl

theorem reached_concat (now : Int64) (requests : List Request) (request : Request) :
    reached now (requests ++ [request]) = ((reached now requests).step request).1 := by
  rw [reached, run_append]
  rfl

/-- What every request keeps, the requests that follow keep. -/
theorem reached_append_of_step {P : Session → Prop}
    (keeps : ∀ session request, P session → P (session.step request).1) {now : Int64}
    (before : List Request) (holds : P (reached now before)) (later : List Request) :
    P (reached now (before ++ later)) := by
  induction later using List.reverseRecOn with
  | nil => rwa [List.append_nil]
  | append_singleton rest request ih =>
      rw [← List.append_assoc, reached_concat]
      exact keeps _ _ ih

/-! ## A step and the looks at its end -/

@[simp]
theorem trackerAt_starting (now : Int64) (place : Nat) :
    (starting now).trackerAt place = none := rfl

@[simp]
theorem cancelledAt_starting (now : Int64) (place : Nat) :
    (starting now).cancelledAt place = false := rfl

@[simp]
theorem cancelledAt_step (session : Session) (request : Request) (place : Nat) :
    (session.step request).1.cancelledAt place =
      (session.perform request).session.cancelledAt place := rfl

theorem evolves_step (session : Session) (request : Request) (place : Nat) :
    Tracker.Evolves (session.trackerAt place) ((session.step request).1.trackerAt place) :=
  (perform_change session request).evolves place

theorem handlesHeld_step {session : Session} (handles : session.HandlesHeld)
    (request : Request) : (session.step request).1.HandlesHeld := by
  obtain ⟨held, apart⟩ := (perform_change session request).handlesHeld handles
  exact ⟨held, apart⟩

theorem reached_handlesHeld (now : Int64) (requests : List Request) :
    (reached now requests).HandlesHeld :=
  reached_append_of_step (P := HandlesHeld)
    (fun _ request handles => handlesHeld_step handles request) [] (handlesHeld_starting now)
    requests

/-! ## Completions -/

/-- The completion of the tracker at a place. -/
def completionAt (session : Session) (place : Nat) : Option Status :=
  (session.trackerAt place).bind Tracker.completion

/-- The signal of the tracker at a place. -/
def signalAt (session : Session) (place : Nat) : Option Status :=
  (session.trackerAt place).bind Tracker.signal

/-- A completion that is there stays. -/
theorem completionAt_step {session : Session} {place : Nat} {final : Status}
    (completed : session.completionAt place = some final) (request : Request) :
    (session.step request).1.completionAt place = some final := by
  unfold completionAt at completed ⊢
  have evolves := session.evolves_step request place
  generalize (session.step request).1.trackerAt place = later at evolves ⊢
  generalize session.trackerAt place = earlier at evolves completed
  cases evolves with
  | same own => exact completed
  | starts now => contradiction
  | called tracker call clock =>
      rw [Option.bind_some] at completed ⊢
      rw [Tracker.completion_perform, completed, Option.some_or]

theorem completionAt_append {now : Int64} {before : List Request} {place : Nat}
    {final : Status} (completed : (reached now before).completionAt place = some final)
    (later : List Request) : (reached now (before ++ later)).completionAt place = some final :=
  reached_append_of_step (P := fun session => session.completionAt place = some final)
    (fun _ request completed => completionAt_step completed request) before completed later

/-- The signal that waiters see is the completion. -/
theorem signalAt_reached (now : Int64) (requests : List Request) (place : Nat) :
    (reached now requests).signalAt place = (reached now requests).completionAt place := by
  have agree : ∀ tracker, (reached now requests).trackerAt place = some tracker →
      tracker.signal = tracker.completion := by
    induction requests using List.reverseRecOn with
    | nil => simp
    | append_singleton rest request ih =>
        rw [reached_concat]
        have evolves := (reached now rest).evolves_step request place
        generalize ((reached now rest).step request).1.trackerAt place = later at evolves
        generalize (reached now rest).trackerAt place = earlier at evolves ih
        rintro tracker rfl
        cases evolves with
        | same _ => exact ih tracker rfl
        | starts now => rfl
        | called before call clock => exact Tracker.signal_perform (ih before rfl) call clock
  unfold signalAt completionAt
  cases own : (reached now requests).trackerAt place with
  | none => rfl
  | some tracker => exact agree tracker own

/-! ## Cancels -/

/-- One of the requests fired the handle of the channel at a place. -/
def Fired (now : Int64) (requests : List Request) (place : Nat) : Prop :=
  ∃ before request, before ++ [request] <+: requests ∧
    (reached now before).Fires request place

theorem not_fired_nil (now : Int64) (place : Nat) : ¬ Fired now [] place := by
  rintro ⟨before, request, initial, _⟩
  simp at initial

theorem fired_concat_iff (now : Int64) (requests : List Request) (request : Request)
    (place : Nat) :
    Fired now (requests ++ [request]) place ↔
      Fired now requests place ∨ (reached now requests).Fires request place := by
  simp only [Fired, List.prefix_concat_iff]
  constructor
  · rintro ⟨before, other, whole | initial, fires⟩
    · obtain ⟨rfl, same⟩ := List.append_inj' whole rfl
      cases same
      exact .inr fires
    · exact .inl ⟨before, other, initial, fires⟩
  · rintro (⟨before, other, initial, fires⟩ | fires)
    · exact ⟨before, other, .inr initial, fires⟩
    · exact ⟨requests, request, .inl rfl, fires⟩

/-- What was fired stays so. -/
theorem Fired.mono {now : Int64} {before requests : List Request} {place : Nat}
    (fired : Fired now before place) (initial : before <+: requests) :
    Fired now requests place := by
  obtain ⟨first, request, within, fires⟩ := fired
  exact ⟨first, request, within.trans initial, fires⟩

/-- A channel is cancelled exactly if its handle was fired. -/
theorem cancelledAt_reached_iff (now : Int64) (requests : List Request) (place : Nat) :
    (reached now requests).cancelledAt place = true ↔ Fired now requests place := by
  induction requests using List.reverseRecOn with
  | nil =>
      have unfired := not_fired_nil now place
      simp [unfired]
  | append_singleton rest request ih =>
      rw [fired_concat_iff, reached_concat, cancelledAt_step,
        cancelledAt_perform (reached_handlesHeld now rest), ih]

end JobLedger.Session
