import JobLedger.Proofs.Subject.Run
import JobLedger.Tracker.Race

/-!
# The verdict of a race

Callers that each request one target, or complete with it, get to a new tracker
in some order.  Which of them wins depends on the order.  The verdict does not:
it follows from what the targets are, however they are arranged.

A race of requests is decided by the first terminal target, and what comes
later is absorbed.  A race of completions is decided by whoever comes first,
and all others are refused.
-/

namespace JobLedger

namespace Tracker

variable {κ : Type} [Clock κ]

/-- Every call is answered. -/
theorem length_answers_run (tracker : Tracker) (calls : List Call) (clock : κ) :
    (tracker.run calls clock).answers.length = calls.length := by
  induction calls generalizing tracker clock with
  | nil => rfl
  | cons call rest ih => simp [run, ih]

/-- Requests that meet a terminal status are absorbed, all of them. -/
theorem run_requests_of_terminal {tracker : Tracker} (terminal : tracker.status.isTerminal = true)
    (order : List Status) (clock : κ) :
    (tracker.run (order.map .request) clock).answers = order.map (fun _ => .ok (.ok false)) ∧
      (tracker.run (order.map .request) clock).state = tracker := by
  induction order generalizing clock with
  | nil => exact ⟨rfl, rfl⟩
  | cons target rest ih =>
      have absorbed : tracker.perform (.request target) clock = _ :=
        perform_of_absorbed rfl terminal clock
      obtain ⟨answers, state⟩ := ih clock
      simp only [List.map_cons, run, absorbed]
      exact ⟨congrArg _ answers, state⟩

/-- Completions that meet a resolved one are refused, all of them. -/
theorem run_completions_of_resolved {tracker : Tracker} {existing : Status}
    (resolved : tracker.completion = some existing) (order : List Status) (clock : κ) :
    (tracker.run (order.map .tryComplete) clock).answers =
        order.map (fun attempted => .ok (.error { existing, attempted })) ∧
      (tracker.run (order.map .tryComplete) clock).state = tracker := by
  induction order generalizing clock with
  | nil => exact ⟨rfl, rfl⟩
  | cons attempted rest ih =>
      have refused : tracker.perform (.tryComplete attempted) clock = _ :=
        perform_of_refused ((refusal?_eq_some_iff _ _ ⟨existing, attempted⟩).mpr ⟨rfl, resolved⟩)
          clock
      obtain ⟨answers, state⟩ := ih clock
      simp only [List.map_cons, run, refused]
      exact ⟨congrArg _ answers, state⟩

/-- A call that is granted and meets no terminal status enters its target,
unless the clock stops it. -/
theorem perform_of_unstopped {tracker : Tracker} {call : Call}
    (granted : tracker.refusal? call = none) (moving : tracker.status.isTerminal = false)
    {clock : κ} (unstopped : (tracker.perform call clock).result ≠ .error .clockFailure) :
    (tracker.perform call clock).result = .ok (.ok true) ∧
      (tracker.perform call clock).state.status = call.target ∧
      (tracker.perform call clock).state.completion = (tracker.signalled call).completion := by
  rw [perform_of_entering granted moving] at unstopped ⊢
  refine ⟨?_, entered_status _ _ _, entered_completion _ _ _⟩
  cases reading : (Clock.read clock).1 with
  | none =>
      rw [reading] at unstopped
      exact absurd rfl unstopped
  | some now => rfl

end Tracker

namespace Race

variable {κ : Type}

/-! ## Requests -/

/-- The requests for a terminal status that were granted, with their targets. -/
def terminalWins (order : List Status) (answers : List (Except Fault Tracker.Answer)) :
    List (Status × Except Fault Tracker.Answer) :=
  (order.zip answers).filter fun (target, answer) => target.isTerminal && granted answer

theorem terminalWins_cons (target : Status) (order : List Status)
    (answer : Except Fault Tracker.Answer) (answers : List (Except Fault Tracker.Answer)) :
    terminalWins (target :: order) (answer :: answers) =
      if target.isTerminal && granted answer then (target, answer) :: terminalWins order answers
      else terminalWins order answers := by
  simp [terminalWins, List.filter_cons]

theorem terminalWins_absorbed (order : List Status) :
    terminalWins order (order.map fun _ => .ok (.ok false)) = [] := by
  rw [terminalWins, List.filter_eq_nil_iff]
  rintro ⟨target, answer⟩ member
  obtain ⟨_, absorbed⟩ := List.of_mem_zip member
  obtain ⟨_, _, rfl⟩ := List.mem_map.mp absorbed
  simp [granted]

variable [Clock κ]

/-- On a tracker that has not ended, the first request for a terminal status is
the only one that is granted, and it gives the final status. -/
theorem run_requests {tracker : Tracker} (moving : tracker.status.isTerminal = false)
    (unresolved : tracker.completion = none) (order : List Status) (clock : κ)
    (unstopped : .error .clockFailure ∉ (tracker.run (order.map .request) clock).answers) :
    let run := tracker.run (order.map .request) clock
    (terminalWins order run.answers).map Prod.fst =
        (if order.any Status.isTerminal then [run.state.status] else []) ∧
      run.state.status.isTerminal = order.any Status.isTerminal ∧
      run.state.completion = none := by
  induction order generalizing tracker clock with
  | nil => exact ⟨rfl, moving, unresolved⟩
  | cons target rest ih =>
      simp only [List.map_cons, Tracker.run, List.mem_cons, not_or] at unstopped ⊢
      obtain ⟨result, status, completion⟩ :=
        Tracker.perform_of_unstopped rfl moving (Ne.symm unstopped.1)
      replace status : _ = target := status
      replace completion : _ = none := completion.trans unresolved
      generalize tracker.perform (.request target) clock = outcome at *
      cases terminal : target.isTerminal with
      | true =>
          have ended : outcome.state.status.isTerminal = true := status ▸ terminal
          obtain ⟨answers, state⟩ := Tracker.run_requests_of_terminal ended rest outcome.clock
          rw [answers, state, terminalWins_cons, terminalWins_absorbed]
          simp [terminal, result, granted, status, completion]
      | false =>
          have going : outcome.state.status.isTerminal = false := status ▸ terminal
          have later := ih going completion outcome.clock unstopped.2
          rw [terminalWins_cons]
          simpa [terminal] using later

/-! ## Completions -/

/-- The completions that were accepted, with their targets. -/
def winners (order : List Status) (answers : List (Except Fault Tracker.Answer)) :
    List (Status × Except Fault Tracker.Answer) :=
  (order.zip answers).filter fun (_, answer) => accepted answer

/-- Where all completions are refused, each is refused with its own target. -/
theorem eq_refusal_of_mem_zip {existing attempted : Status}
    {answer : Except Fault Tracker.Answer} {order : List Status}
    (member : (attempted, answer) ∈
      order.zip (order.map fun attempted => .ok (.error { existing, attempted }))) :
    answer = .ok (.error { existing, attempted }) := by
  induction order with
  | nil => contradiction
  | cons first rest ih =>
      rw [List.map_cons, List.zip_cons_cons, List.mem_cons] at member
      rcases member with here | later
      · cases here
        rfl
      · exact ih later

theorem winners_refused (existing : Status) (order : List Status) :
    winners order (order.map fun attempted => .ok (.error { existing, attempted })) = [] := by
  rw [winners, List.filter_eq_nil_iff]
  rintro ⟨target, answer⟩ member
  simp [eq_refusal_of_mem_zip member, accepted]

/-- The first of several completions is accepted, and all others are refused on
account of it. -/
theorem run_completions {tracker : Tracker} (moving : tracker.status.isTerminal = false)
    (unresolved : tracker.completion = none) (first : Status) (rest : List Status) (clock : κ) :
    let run := tracker.run ((first :: rest).map .tryComplete) clock
    .error .clockFailure ∉ run.answers →
      run.answers = .ok (.ok true) ::
          rest.map (fun attempted => .ok (.error { existing := first, attempted })) ∧
        run.state.completion = some first ∧ run.state.status = first := by
  intro run unstopped
  simp only [run, List.map_cons, Tracker.run, List.mem_cons, not_or] at unstopped ⊢
  have granted := Tracker.refusal?_of_unresolved unresolved (.tryComplete first)
  obtain ⟨result, status, completion⟩ :=
    Tracker.perform_of_unstopped granted moving (Ne.symm unstopped.1)
  obtain ⟨answers, state⟩ := Tracker.run_completions_of_resolved completion rest
    (tracker.perform (.tryComplete first) clock).clock
  rw [answers, state, result]
  exact ⟨rfl, completion, status⟩

/-- The completion that is accepted is the one that comes first. -/
theorem winners_eq_of_answers {first : Status} {rest : List Status}
    {answers : List (Except Fault Tracker.Answer)} (decided : answers = .ok (.ok true) ::
      rest.map fun attempted => .ok (.error { existing := first, attempted })) :
    winners (first :: rest) answers = [(first, .ok (.ok true))] := by
  have others := winners_refused first rest
  rw [winners] at others ⊢
  rw [decided, List.zip_cons_cons, List.filter_cons_of_pos rfl, others]

/-! ## Races on a clock that stands still -/

/-- A manual clock that is not told to fail stops no call. -/
theorem unstopped_of_working (tracker : Tracker) (calls : List Tracker.Call) {clock : ManualClock}
    (working : clock.broken = false) :
    .error .clockFailure ∉ (tracker.run calls clock).answers := by
  have read : Clock.read clock = (some clock.now, clock) := by
    simp [Clock.read, working]
  induction calls generalizing tracker with
  | nil => exact List.not_mem_nil
  | cons call rest ih =>
      simp only [Tracker.run, List.mem_cons, not_or]
      rcases tracker.refused_or_absorbed_or_entering call with
        ⟨rejection, refused⟩ | ⟨granted, terminal⟩ | ⟨granted, moving⟩
      · rw [Tracker.perform_of_refused refused]
        exact ⟨by cases call <;> exact nofun, ih _⟩
      · rw [Tracker.perform_of_absorbed granted terminal]
        exact ⟨nofun, ih _⟩
      · rw [Tracker.perform_of_entering granted moving, read]
        exact ⟨nofun, ih _⟩

/-- The verdict on requests follows from whether any target is terminal. -/
theorem requests_eq (targets : List Status) :
    requests targets =
      { terminalWins := if targets.any Status.isTerminal then 1 else 0
        finalTerminal := targets.any Status.isTerminal
        consistent := true
        completed := false } := by
  have moving : fresh.status.isTerminal = false := rfl
  obtain ⟨wins, terminal, unresolved⟩ :=
    run_requests moving rfl targets clock (unstopped_of_working fresh _ rfl)
  have count := congrArg List.length wins
  rw [List.length_map] at count
  have same : ∀ win ∈ terminalWins targets (fresh.run (targets.map .request) clock).answers,
      win.1 = (fresh.run (targets.map .request) clock).state.status := by
    intro win member
    have won := List.mem_map_of_mem (f := Prod.fst) member
    rw [wins] at won
    split at won
    · exact List.mem_singleton.mp won
    · contradiction
  simp only [requests, RequestVerdict.mk.injEq]
  refine ⟨?_, terminal, ?_, ?_⟩
  · rw [terminalWins] at count
    rw [count]
    split <;> rfl
  · rw [List.all_eq_true]
    intro win member
    exact decide_eq_true (same win member)
  · rw [unresolved]
    rfl

/-- The verdict on completions follows from whether there are any. -/
theorem completions_eq (targets : List Status) :
    completions targets =
      { resolved := if targets.isEmpty then 0 else 1
        completed := !targets.isEmpty
        consistent := true } := by
  cases targets with
  | nil => rfl
  | cons first rest =>
      obtain ⟨answers, completion, status⟩ :=
        run_completions (show fresh.status.isTerminal = false from rfl) rfl first rest clock
          (unstopped_of_working fresh _ rfl)
      have accepted_first := winners_eq_of_answers answers
      rw [winners] at accepted_first
      simp only [completions]
      rw [accepted_first, completion, status]
      simp

/-! ## Verdicts -/

/-- **A race has one verdict.**  Callers with some targets get to a new tracker
in any order, and the clock stops none of them.  If they request their targets,
there is a request for a terminal status that is granted exactly if there is
one at all; it is the only one, it gives the final status, and completion stays
open.  If they complete with their targets, one call is accepted as soon as
there are any; its target is the completion and the final status, and all other
calls are refused on account of it.  The verdicts on two orders are the same. -/
theorem verdict_in_every_order {origin : κ} {initial : Tracker}
    (started : (Tracker.start origin).1 = .ok initial) {order targets : List Status}
    (reordered : order.Perm targets) (clock : κ) :
    let requested := initial.run (order.map .request) clock
    let completed := initial.run (order.map .tryComplete) clock
    (.error .clockFailure ∉ requested.answers →
      requested.answers.length = targets.length ∧
      (terminalWins order requested.answers).map Prod.fst =
        (if targets.any Status.isTerminal then [requested.state.status] else []) ∧
      requested.state.status.isTerminal = targets.any Status.isTerminal ∧
      requested.state.completion = none) ∧
    (.error .clockFailure ∉ completed.answers →
      completed.answers.length = targets.length ∧
      (winners order completed.answers).map Prod.fst = completed.state.completion.toList ∧
      (completed.state.completion = none ↔ targets = []) ∧
      ∀ final, completed.state.completion = some final →
        completed.state.status = final ∧
        ∀ attempted answer, (attempted, answer) ∈ order.zip completed.answers →
          accepted answer = false → answer = .ok (.error { existing := final, attempted })) ∧
    requests order = requests targets ∧ completions order = completions targets := by
  intro requested completed
  obtain ⟨now, _, rfl⟩ := (Tracker.start_eq_ok_iff _ _).mp started
  have moving : (Tracker.started now).status.isTerminal = false := rfl
  refine ⟨?_, ?_, ?_, ?_⟩
  · intro unstopped
    have decided := run_requests moving rfl order clock unstopped
    rw [reordered.any_eq] at decided
    exact ⟨by simp [requested, Tracker.length_answers_run, reordered.length_eq], decided⟩
  · intro unstopped
    refine ⟨by simp [completed, Tracker.length_answers_run, reordered.length_eq], ?_⟩
    cases order with
    | nil =>
        have nobody : targets = [] := reordered.nil_eq.symm
        exact ⟨rfl, by simp [completed, Tracker.run, Tracker.started, nobody], nofun⟩
    | cons first rest =>
        have decided : completed.answers = .ok (.ok true) ::
              rest.map (fun attempted => .ok (.error { existing := first, attempted })) ∧
            completed.state.completion = some first ∧ completed.state.status = first :=
          run_completions moving rfl first rest clock unstopped
        obtain ⟨answers, completion, status⟩ := decided
        have somebody : targets ≠ [] := by
          rintro rfl
          exact List.cons_ne_nil _ _ reordered.eq_nil
        refine ⟨?_, by simp [completion, somebody], ?_⟩
        · rw [winners_eq_of_answers answers, completion]
          rfl
        · intro final resolved
          obtain rfl : first = final := Option.some.inj (completion.symm.trans resolved)
          refine ⟨status, ?_⟩
          intro attempted answer member refused
          rw [answers, List.zip_cons_cons, List.mem_cons] at member
          rcases member with winner | other
          · cases winner
            contradiction
          · exact eq_refusal_of_mem_zip other
  · rw [requests_eq, requests_eq, reordered.any_eq]
  · rw [completions_eq, completions_eq, reordered.isEmpty_eq]

/-- Three callers meet a clock that goes back and then would fail.  Of their
requests the second ends the job, so the clock is not read any more; of their
completions the first is accepted, with a status that is not terminal. -/
theorem verdict_of_three_callers :
    let origin : ScriptedClock := ⟨fun _ => some 100, 0⟩
    let clock : ScriptedClock :=
      ⟨fun used => if used < 2 then some (50 - .ofNat used) else none, 0⟩
    let order := [Status.running, .failed, .finished]
    let targets := [Status.finished, .running, .failed]
    let requested := (Tracker.started 100).run (order.map .request) clock
    let completed := (Tracker.started 100).run (order.map .tryComplete) clock
    (Tracker.start origin).1 = .ok (.started 100) ∧ order.Perm targets ∧
      .error .clockFailure ∉ requested.answers ∧ .error .clockFailure ∉ completed.answers ∧
      (terminalWins order requested.answers).map Prod.fst = [requested.state.status] ∧
      requested.state.status.isTerminal = true ∧
      completed.state.completion = some .running ∧ completed.state.status = .running ∧
      requests order = requests targets := by
  intro origin clock order targets requested completed
  have reordered : order.Perm targets := by decide
  have granted : .error .clockFailure ∉ requested.answers := by
    have answers : requested.answers = [.ok (.ok true), .ok (.ok true), .ok (.ok false)] := rfl
    simp [answers]
  have accepted : .error .clockFailure ∉ completed.answers := by
    have answers : completed.answers = [.ok (.ok true), .ok (.error ⟨.running, .failed⟩),
        .ok (.error ⟨.running, .finished⟩)] := rfl
    simp [answers]
  have started : (Tracker.start origin).1 = .ok (.started 100) := rfl
  obtain ⟨ofRequests, ofCompletions, same, _⟩ := verdict_in_every_order started reordered clock
  obtain ⟨_, wins, terminal, _⟩ := ofRequests granted
  obtain ⟨_, _, _, resolved⟩ := ofCompletions accepted
  exact ⟨rfl, reordered, granted, accepted, wins, terminal, rfl, (resolved .running rfl).1, same⟩

end Race

end JobLedger
