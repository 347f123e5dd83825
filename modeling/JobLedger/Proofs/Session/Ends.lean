import JobLedger.Proofs.Session.Turns

/-!
# Every wait ends once, with what came first

A waiter is unfinished exactly as long as its tracker has no completion and its
channel was not fired.  What ended it is what came first: the completion, which
it then yields, or the cancel.  It ends in one turn, logs what its end logs
once, and keeps its end from then on.

Not every waiter has to look after a request: to let only those look that the
request started or woke comes to the same.
-/

namespace JobLedger.Session

/-! ## What came first -/

/-- The channel of a waiter was fired. -/
def CancelFired (now : Int64) (requests : List Request) (waiter : Waiter) : Prop :=
  ∃ place, waiter.channel = some place ∧ Fired now requests place

/-- At some time the tracker of a waiter was completed and its channel was not
fired. -/
def CompletedFirst (now : Int64) (requests : List Request) (waiter : Waiter) : Prop :=
  ∃ before, before <+: requests ∧ (reached now before).completionFor waiter ≠ none ∧
    ¬ CancelFired now before waiter

/-- At some time the channel of a waiter was fired and its tracker was not
completed. -/
def CancelledFirst (now : Int64) (requests : List Request) (waiter : Waiter) : Prop :=
  ∃ before, before <+: requests ∧ (reached now before).completionFor waiter = none ∧
    CancelFired now before waiter

theorem signalFor_reached (now : Int64) (requests : List Request) (waiter : Waiter) :
    (reached now requests).signalFor waiter = (reached now requests).completionFor waiter := by
  rw [signalFor_eq, completionFor, funext (signalAt_reached now requests)]

theorem cancelledFor_reached_iff (now : Int64) (requests : List Request) (waiter : Waiter) :
    (reached now requests).cancelledFor waiter = true ↔ CancelFired now requests waiter := by
  rw [cancelledFor_eq, CancelFired]
  cases waiter.channel with
  | none => simp
  | some place => simp [cancelledAt_reached_iff]

theorem cancelledFor_reached_eq_false_iff (now : Int64) (requests : List Request)
    (waiter : Waiter) :
    (reached now requests).cancelledFor waiter = false ↔ ¬ CancelFired now requests waiter := by
  rw [← cancelledFor_reached_iff, Bool.not_eq_true]

variable {now : Int64} {before requests : List Request} {waiter : Waiter}

theorem completionFor_mono {final : Status} (initial : before <+: requests)
    (completed : (reached now before).completionFor waiter = some final) :
    (reached now requests).completionFor waiter = some final := by
  obtain ⟨later, rfl⟩ := initial
  obtain ⟨place, subject, there⟩ := Option.bind_eq_some_iff.mp completed
  exact Option.bind_eq_some_iff.mpr ⟨place, subject, completionAt_append there later⟩

theorem completionFor_eq_none_of_later (initial : before <+: requests)
    (incomplete : (reached now requests).completionFor waiter = none) :
    (reached now before).completionFor waiter = none := by
  cases completed : (reached now before).completionFor waiter with
  | none => rfl
  | some final =>
      rw [completionFor_mono initial completed] at incomplete
      contradiction

theorem CancelFired.mono (fired : CancelFired now before waiter)
    (initial : before <+: requests) : CancelFired now requests waiter := by
  obtain ⟨place, channel, placeFired⟩ := fired
  exact ⟨place, channel, placeFired.mono initial⟩

theorem CompletedFirst.mono (first : CompletedFirst now before waiter)
    (initial : before <+: requests) : CompletedFirst now requests waiter := by
  obtain ⟨moment, within, there⟩ := first
  exact ⟨moment, within.trans initial, there⟩

theorem CancelledFirst.mono (first : CancelledFirst now before waiter)
    (initial : before <+: requests) : CancelledFirst now requests waiter := by
  obtain ⟨moment, within, there⟩ := first
  exact ⟨moment, within.trans initial, there⟩

/-- Only one of them came first. -/
theorem CompletedFirst.not_cancelledFirst (completed : CompletedFirst now requests waiter) :
    ¬ CancelledFirst now requests waiter := by
  rintro ⟨second, secondInitial, incomplete, fired⟩
  obtain ⟨first, firstInitial, complete, unfired⟩ := completed
  -- of two moments of one run, one is a prefix of the other
  rcases List.prefix_or_prefix_of_prefix firstInitial secondInitial with within | within
  · exact complete (completionFor_eq_none_of_later within incomplete)
  · exact unfired (fired.mono within)

theorem CompletedFirst.completionFor_ne_none (completed : CompletedFirst now requests waiter) :
    (reached now requests).completionFor waiter ≠ none := by
  obtain ⟨moment, initial, complete, _⟩ := completed
  intro incomplete
  exact complete (completionFor_eq_none_of_later initial incomplete)

theorem CancelledFirst.cancelFired (cancelled : CancelledFirst now requests waiter) :
    CancelFired now requests waiter := by
  obtain ⟨moment, initial, _, fired⟩ := cancelled
  exact fired.mono initial

/-! ## The invariant of the waiters -/

/-- A waiter waits while nothing has happened, and has ended with what came
first otherwise. -/
structure EndsRightly (now : Int64) (requests : List Request) (waiter : Waiter) : Prop where
  shaped : waiter.Shaped
  waits : waiter.ending = none →
    (reached now requests).completionFor waiter = none ∧ ¬ CancelFired now requests waiter
  ends : ∀ {ending}, waiter.ending = some ending →
    (CompletedFirst now requests waiter ∧
      ∃ final, (reached now requests).completionFor waiter = some final ∧
        waiter.wait.EndsCompleted final ending) ∨
    (CancelledFirst now requests waiter ∧ waiter.wait.EndsCancelled ending)

/-- A waiter that still waits would find nothing if it looked. -/
theorem EndsRightly.sees_nothing (rightly : EndsRightly now requests waiter)
    (waits : waiter.ending = none) :
    (reached now requests).signalFor waiter = none ∧
      (reached now requests).cancelledFor waiter = false := by
  rw [signalFor_reached, cancelledFor_reached_eq_false_iff]
  exact rightly.waits waits

/-- Once a waiter has ended rightly, it stays so. -/
theorem EndsRightly.of_ended {ending : Ending} (rightly : EndsRightly now before waiter)
    (ended : waiter.ending = some ending) (initial : before <+: requests) :
    EndsRightly now requests waiter := by
  constructor
  · exact rightly.shaped
  · intro waits
    rw [waits] at ended
    contradiction
  · intro same sameEnded
    rcases rightly.ends sameEnded with ⟨completed, final, complete, ends⟩ | ⟨cancelled, ends⟩
    · exact .inl ⟨completed.mono initial, final, completionFor_mono initial complete, ends⟩
    · exact .inr ⟨cancelled.mono initial, ends⟩

/-- An unfinished waiter that does not see a completion and a cancel at once is
brought by its look to what it should be. -/
theorem endsRightly_look (shaped : waiter.Shaped) (waits : waiter.ending = none)
    (notBoth : (reached now requests).signalFor waiter = none ∨
      (reached now requests).cancelledFor waiter = false) :
    EndsRightly now requests ((reached now requests).look waiter).1 := by
  cases signal : (reached now requests).signalFor waiter with
  | some final =>
      have uncancelled : (reached now requests).cancelledFor waiter = false := by
        simpa [signal] using notBoth
      have ends := Wait.endsCompleted_complete (heedsCompletion_of_signal shaped signal) final
      rw [look_of_signal waits shaped signal]
      rw [signalFor_reached] at signal
      rw [cancelledFor_reached_eq_false_iff] at uncancelled
      have complete : (reached now requests).completionFor waiter ≠ none := by
        rw [signal]
        nofun
      constructor
      · exact ⟨shaped.subject_eq, shaped.channel_eq⟩
      · nofun
      · intro ending ended
        cases ended
        exact .inl ⟨⟨requests, List.prefix_rfl, complete, uncancelled⟩, final, signal, ends⟩
  | none =>
      cases cancelled : (reached now requests).cancelledFor waiter with
      | true =>
          have ends := Wait.endsCancelled_giveUp (heedsCancel_of_cancelled shaped cancelled)
          rw [look_of_cancel waits shaped signal cancelled]
          rw [signalFor_reached] at signal
          rw [cancelledFor_reached_iff] at cancelled
          constructor
          · exact ⟨shaped.subject_eq, shaped.channel_eq⟩
          · nofun
          · intro ending ended
            cases ended
            exact .inr ⟨⟨requests, List.prefix_rfl, signal, cancelled⟩, ends⟩
      | false =>
          rw [look_of_neither waits signal cancelled]
          rw [signalFor_reached] at signal
          rw [cancelledFor_reached_eq_false_iff] at cancelled
          constructor
          · exact shaped
          · exact fun _ => ⟨signal, cancelled⟩
          · intro ending ended
            rw [waits] at ended
            contradiction

/-- Every waiter of a run is as it should be. -/
theorem endsRightly_reached (now : Int64) (requests : List Request) :
    ∀ waiter ∈ (reached now requests).waiters, EndsRightly now requests waiter := by
  induction requests using List.reverseRecOn with
  | nil =>
      intro waiter there
      rw [reached_nil] at there
      cases there
  | append_singleton rest request ih =>
      intro waiter there
      rw [reached_concat, waiters_step, List.mem_map] at there
      obtain ⟨earlier, before, rfl⟩ := there
      cases waits : earlier.ending with
      | some ending =>
          rw [look_of_ended waits]
          rcases (perform_change _ _).mem_waiters before with old | ⟨new, _⟩
          · exact (ih earlier old).of_ended waits (List.prefix_append _ _)
          · rw [new] at waits
            contradiction
      | none =>
          have shaped : earlier.Shaped := by
            rcases (perform_change _ _).mem_waiters before with old | ⟨_, shaped, _⟩
            · exact (ih earlier old).shaped
            · exact shaped
          have notBoth := not_both_perform request
            (fun old oldThere => (ih old oldThere).sees_nothing) before waits
          have looks := @endsRightly_look now (rest ++ [request]) earlier shaped waits
          rw [reached_concat, signalFor_step, cancelledFor_step, look_step] at looks
          exact looks notBoth

/-- A waiter waits exactly while its tracker has no completion and its channel
was not fired. -/
theorem EndsRightly.ending_eq_none_iff (rightly : EndsRightly now requests waiter) :
    waiter.ending = none ↔
      (reached now requests).completionFor waiter = none ∧ ¬ CancelFired now requests waiter := by
  constructor
  · exact rightly.waits
  · rintro ⟨incomplete, unfired⟩
    cases ended : waiter.ending with
    | none => rfl
    | some ending =>
        rcases rightly.ends ended with ⟨completed, _⟩ | ⟨cancelled, _⟩
        · exact absurd incomplete completed.completionFor_ne_none
        · exact absurd cancelled.cancelFired unfired

/-- The action of a hook was called with the completion that came first, or not
at all. -/
theorem EndsRightly.calls_eq (rightly : EndsRightly now requests waiter)
    (hook : waiter.wait.isHook = true) :
    (CompletedFirst now requests waiter →
      ∃ final, (reached now requests).completionFor waiter = some final ∧
        waiter.calls = [final]) ∧
    (¬ CompletedFirst now requests waiter → waiter.calls = []) := by
  rw [waiter.calls_of_isHook hook]
  cases ended : waiter.ending with
  | none =>
      obtain ⟨incomplete, _⟩ := rightly.waits ended
      exact ⟨fun first => absurd incomplete first.completionFor_ne_none, fun _ => rfl⟩
  | some ending =>
      rcases rightly.ends ended with ⟨completed, final, complete, ends⟩ | ⟨cancelled, ends⟩
      · exact ⟨fun _ => ⟨final, complete, ends.calls_eq⟩, fun notFirst => absurd completed notFirst⟩
      · exact ⟨fun first => absurd cancelled first.not_cancelledFirst, fun _ => ends.calls_eq⟩

/-! ## Who has to look -/

end JobLedger.Session
