import JobLedger.Proofs.Subject.PointInTime

/-!
# What a run registers

The registry of a subject takes in what is registered and is left alone by all
other acts.  So after a run it is what it was, with the attempts of the run
added one after another.
-/

namespace JobLedger

namespace Subject

variable {κ : Type}

/-- The attempts that acts register under an identifier, the oldest first. -/
def writes (acts : List (Act κ)) (id : AttemptId) : List Attempt :=
  Registry.written (acts.filterMap Act.registered?) id

theorem Act.registered?_eq_some_iff {act : Act κ} {attempt : Attempt} :
    act.registered? = some attempt ↔ act = .register attempt := by
  cases act <;> simp [registered?]

theorem mem_writes_iff {acts : List (Act κ)} {id : AttemptId} {attempt : Attempt} :
    attempt ∈ writes acts id ↔ .register attempt ∈ acts ∧ attempt.id = id := by
  simp [writes, Act.registered?_eq_some_iff]

theorem writes_append (first second : List (Act κ)) (id : AttemptId) :
    writes (first ++ second) id = writes first id ++ writes second id := by
  simp [writes, Registry.written]

/-- The longer acts go on, the more is written. -/
theorem writes_prefix {first second : List (Act κ)} (earlier : first <+: second)
    (id : AttemptId) : writes first id <+: writes second id :=
  (earlier.filterMap Act.registered?).filter _

theorem isSome_getLast?_of_prefix {first second : List Attempt} (earlier : first <+: second)
    (found : first.getLast?.isSome) : second.getLast?.isSome := by
  obtain ⟨later, rfl⟩ := earlier
  simp only [List.getLast?_append, Option.isSome_or, found, Bool.or_true]

variable [Clock κ]

/-- The registry of a subject after an act. -/
theorem registry?_perform (subject : Subject) (act : Act κ) (clock : κ) :
    (subject.perform act clock).state.registry? =
      subject.registry?.map fun registry => registry.insertAll act.registered?.toList := by
  cases subject with
  | tracker own => cases act <;> rfl
  | registry own => cases act <;> rfl
  | job owner =>
      obtain ⟨later, later_eq, continues, _⟩ := perform_job owner act clock
      rw [later_eq]
      exact congrArg some continues.registry_eq

/-- The registry of a subject after a run. -/
theorem registry?_run (subject : Subject) (acts : List (Act κ)) (clock : κ) :
    (subject.run acts clock).state.registry? =
      subject.registry?.map fun registry =>
        registry.insertAll (acts.filterMap Act.registered?) := by
  induction acts generalizing subject clock with
  | nil => exact Option.map_id'.symm
  | cons act rest ih =>
      simp only [run]
      rw [ih, registry?_perform, Option.map_map]
      congr 1
      funext registry
      cases registers : act.registered? with
      | none =>
          rw [List.filterMap_cons_none registers]
          rfl
      | some attempt =>
          rw [List.filterMap_cons_some registers]
          rfl

/-- What is found in the registry of a subject that was new before a run. -/
theorem find?_run {subject : Subject} (new : subject.registry? = some .empty)
    (acts : List (Act κ)) (clock : κ) :
    ∃ registry, (subject.run acts clock).state.registry? = some registry ∧
      ∀ id, registry.find? id = (writes acts id).getLast? := by
  refine ⟨Registry.empty.insertAll (acts.filterMap Act.registered?), ?_, ?_⟩
  · rw [registry?_run, new]
    rfl
  · exact Registry.find?_insertAll_empty _

/-- Who asks for an attempt in a run is told the last one that was registered
until then. -/
theorem found_in_run {subject : Subject} (new : subject.registry? = some .empty)
    {acts : List (Act κ)} {place : Nat} {id : AttemptId}
    (asked : acts[place]? = some (.ask (.find id))) (clock : κ) :
    (subject.run acts clock).trace[place]?.map Outcome.result =
      some (.ok (.told (.found (writes (acts.take place) id).getLast?))) := by
  obtain ⟨registry, own, found⟩ := find?_run new (acts.take place) clock
  rw [getElem?_trace_run asked, Option.map_some]
  simp [perform, tell, Session.answer, own, found]

end Subject

end JobLedger
