import JobLedger.Proofs.Session.Ends

/-!
# Cancels of a session

The tokens of a session are names of places of channels.  What waits and
questions find at a place depends on whether its handle was fired, and on
nothing else that happens to handles and tokens.
-/

namespace JobLedger.Session

/-! ## Handles that are gone -/

/-- There is a channel at the place, and no name holds its handle. -/
def Unheld (session : Session) (place : Nat) : Prop :=
  place < session.channels.items.length ∧ ∀ token, session.handles.lookup token ≠ some place

variable {session : Session} {place : Nat}

theorem Unheld.letGo (unheld : session.Unheld place) (token : String) (released : Nat)
    (channel : CancelChannel) : (session.letGo token released channel).Unheld place := by
  rcases unheld with ⟨inside, elsewhere⟩
  constructor
  · simpa [Session.letGo, Directory.set] using inside
  · intro other
    rw [Session.letGo, lookup_filter_ne]
    split
    · exact (Option.some_ne_none place).symm
    · exact elsewhere other

theorem Unheld.withChannel (unheld : session.Unheld place) (name : String) :
    (session.withChannel name).Unheld place := by
  rcases unheld with ⟨inside, elsewhere⟩
  constructor
  · simpa [Session.withChannel, Directory.add] using Nat.lt_succ_of_lt inside
  · intro other
    rw [Session.withChannel, lookup_cons_eq]
    split
    · exact fun same => absurd (Option.some.inj same) (Nat.ne_of_gt inside)
    · exact elsewhere other

/-- A handle that is gone does not come back. -/
theorem Unheld.step (unheld : session.Unheld place) (request : Request) :
    (session.step request).1.Unheld place := by
  have change := perform_change session request
  change (session.perform request).session.Unheld place
  generalize (session.perform request).session = after at change
  cases change with
  | idle _ _ => exact unheld
  | made _ _ _ _ _ => exact unheld
  | acted _ _ _ _ _ => exact unheld
  | linked _ _ => exact unheld
  | started _ _ _ _ => exact unheld
  | fired _ _ _ _ _ _ => exact ⟨by simpa [Directory.set] using unheld.1, unheld.2⟩
  | released token other channel _ _ => exact unheld.letGo token other channel
  | opened name => exact unheld.withChannel name
  | reopened name other channel _ _ => exact (unheld.letGo name other channel).withChannel name

variable {now : Int64} {requests : List Request}

theorem Unheld.append (unheld : (reached now requests).Unheld place) (later : List Request) :
    (reached now (requests ++ later)).Unheld place :=
  reached_append_of_step (P := fun session => session.Unheld place)
    (fun _ request unheld => unheld.step request) requests unheld later

/-- Nobody fires a handle that is gone. -/
theorem Unheld.not_fired (unheld : (reached now requests).Unheld place)
    (unfired : ¬ Fired now requests place) (later : List Request) :
    ¬ Fired now (requests ++ later) place := by
  induction later using List.reverseRecOn with
  | nil => rwa [List.append_nil]
  | append_singleton rest request ih =>
      rw [← List.append_assoc, fired_concat_iff]
      rintro (fired | ⟨token, _, held⟩)
      · exact ih fired
      · exact (unheld.append rest).2 token held

/-! ## What waits and questions find -/

/-- The requests are answered at the place of a channel as its handle was fired or
not. -/
structure FiresRightly (now : Int64) (requests : List Request) (place : Nat) : Prop where
  /-- A waiter at the place that no completion has reached waits just as long as
  the handle is not fired. -/
  waits : ∀ waiter ∈ (reached now requests).waiters, waiter.channel = some place →
    (reached now requests).completionFor waiter = none →
      (waiter.ending = none ↔ ¬ Fired now requests place) ∧
        ∀ ending, waiter.ending = some ending → waiter.wait.EndsCancelled ending
  /-- Every token of the place is answered the same. -/
  flags : ∀ token channel,
    (reached now requests).channels.find? token = some (place, channel) →
      ((reached now requests).perform (.isCancelled token)).reply = .flag channel.cancelled ∧
        (channel.cancelled = true ↔ Fired now requests place)
  lasting : Fired now requests place → ∀ later, Fired now (requests ++ later) place
  /-- A handle that has gone without being fired is never fired. -/
  dropped : (reached now requests).Unheld place → ¬ Fired now requests place →
    ∀ later, ¬ Fired now (requests ++ later) place

theorem firesRightly (now : Int64) (requests : List Request) (place : Nat) :
    FiresRightly now requests place where
  waits waiter there watched incomplete := by
    have rightly := endsRightly_reached now requests waiter there
    have fired : CancelFired now requests waiter ↔ Fired now requests place := by
      simp [CancelFired, watched]
    constructor
    · rw [rightly.ending_eq_none_iff, fired]
      exact and_iff_right incomplete
    · intro ending ended
      rcases rightly.ends ended with ⟨completed, _⟩ | ⟨_, gaveUp⟩
      · exact absurd incomplete completed.completionFor_ne_none
      · exact gaveUp
  flags token channel found := by
    have there := Directory.get?_of_find? found
    constructor
    · simp only [perform, isCancelled, found]
      rfl
    · rw [← cancelledAt_reached_iff, cancelledAt, there]
      rfl
  lasting fired later := fired.mono (List.prefix_append _ _)
  dropped unheld unfired later := unheld.not_fired unfired later

end JobLedger.Session
