import JobLedger.Registry
import Mathlib.Data.List.Nodup

/-!
# Registering attempts one after another

A history is a list of attempts, the oldest first.  After they were registered
one after another, an identifier leads to the last attempt that the history has
under it, and to what it led to before if there is none.  A registry is fixed by
what its identifiers lead to.
-/

namespace JobLedger

namespace Registry

/-- The registry with some attempts added one after another. -/
def insertAll (registry : Registry) (attempts : List Attempt) : Registry :=
  attempts.foldl insert registry

/-- Whether there is an attempt under an identifier. -/
def knows (registry : Registry) (id : AttemptId) : Bool :=
  (registry.find? id).isSome

/-! ## How the size changes -/

@[simp]
theorem knows_insert (registry : Registry) (attempt : Attempt) (id : AttemptId) :
    (registry.insert attempt).knows id = (id = attempt.id || registry.knows id) := by
  unfold knows
  rw [find?_insert]
  by_cases same : id = attempt.id <;> simp [same]

theorem size_insert_eq_iff (registry : Registry) (attempt : Attempt) :
    (registry.insert attempt).size = registry.size ↔ registry.knows attempt.id = true := by
  rw [size_insert]
  unfold knows
  split
  · next known => simp [known]
  · next unknown => simp [unknown]

theorem size_le_size_insert (registry : Registry) (attempt : Attempt) :
    registry.size ≤ (registry.insert attempt).size := by
  rw [size_insert]
  split <;> omega

theorem size_le_size_insertAll (registry : Registry) (attempts : List Attempt) :
    registry.size ≤ (registry.insertAll attempts).size := by
  induction attempts generalizing registry with
  | nil => exact Nat.le_refl _
  | cons attempt rest ih =>
      exact Nat.le_trans (registry.size_le_size_insert attempt) (ih (registry.insert attempt))

/-- A registry stays of one size exactly if it knows all that is registered. -/
theorem size_insertAll_eq_iff (registry : Registry) (attempts : List Attempt) :
    (registry.insertAll attempts).size = registry.size ↔
      ∀ attempt ∈ attempts, registry.knows attempt.id = true := by
  induction attempts generalizing registry with
  | nil => simp [insertAll]
  | cons attempt rest ih =>
      have first := registry.size_le_size_insert attempt
      have others := (registry.insert attempt).size_le_size_insertAll rest
      have split : (registry.insertAll (attempt :: rest)).size = registry.size ↔
          (registry.insert attempt).size = registry.size ∧
            ((registry.insert attempt).insertAll rest).size = (registry.insert attempt).size := by
        change ((registry.insert attempt).insertAll rest).size = registry.size ↔ _
        omega
      rw [split, size_insert_eq_iff, ih, List.forall_mem_cons]
      apply and_congr_right
      intro known
      apply forall₂_congr
      intro other _
      by_cases same : other.id = attempt.id <;> simp [same, known]

/-! ## The last write under an identifier -/

/-- The attempts of a history under one identifier, the oldest first. -/
def written (history : List Attempt) (id : AttemptId) : List Attempt :=
  history.filter fun attempt => attempt.id = id

/-- The attempt that a history has last under an identifier. -/
def lastWritten (history : List Attempt) (id : AttemptId) : Option Attempt :=
  (written history id).getLast?

@[simp]
theorem mem_written_iff {history : List Attempt} {id : AttemptId} {attempt : Attempt} :
    attempt ∈ written history id ↔ attempt ∈ history ∧ attempt.id = id := by
  simp [written]

theorem lastWritten_cons (attempt : Attempt) (history : List Attempt) (id : AttemptId) :
    lastWritten (attempt :: history) id =
      (lastWritten history id).or (if id = attempt.id then some attempt else none) := by
  unfold lastWritten written
  by_cases same : attempt.id = id
  · rw [List.filter_cons_of_pos (by simpa using same), List.getLast?_cons, if_pos same.symm]
    cases (history.filter fun attempt => attempt.id = id).getLast? <;> rfl
  · rw [List.filter_cons_of_neg (by simpa using same), if_neg (Ne.symm same), Option.or_none]

theorem mem_of_lastWritten {history : List Attempt} {id : AttemptId} {attempt : Attempt}
    (last : lastWritten history id = some attempt) : attempt ∈ history ∧ attempt.id = id :=
  mem_written_iff.mp (List.mem_of_getLast? last)

theorem isSome_lastWritten_iff (history : List Attempt) (id : AttemptId) :
    (lastWritten history id).isSome ↔ id ∈ history.map Attempt.id := by
  simp [lastWritten, written, Option.isSome_iff_ne_none]

/-- An identifier leads to what was written under it last. -/
theorem find?_insertAll (registry : Registry) (history : List Attempt) (id : AttemptId) :
    (registry.insertAll history).find? id = (lastWritten history id).or (registry.find? id) := by
  induction history generalizing registry with
  | nil => rfl
  | cons attempt rest ih =>
      change ((registry.insert attempt).insertAll rest).find? id = _
      rw [ih, find?_insert, lastWritten_cons, Option.or_assoc]
      by_cases same : id = attempt.id <;> simp [same]

/-- In a new registry that is all there is. -/
theorem find?_insertAll_empty (history : List Attempt) (id : AttemptId) :
    (empty.insertAll history).find? id = lastWritten history id := by
  rw [find?_insertAll, find?_empty, Option.or_none]

/-! ## What is listed -/

theorem nodup_ids (registry : Registry) : (registry.snapshot.map Attempt.id).Nodup := by
  apply List.pairwise_map.mpr
  apply registry.ordered.imp
  intro first second before same
  rw [same] at before
  exact String.lt_irrefl _ before

theorem nodup_snapshot (registry : Registry) : registry.snapshot.Nodup :=
  registry.nodup_ids.of_map Attempt.id

/-- The attempts that are listed are those that are found. -/
theorem mem_snapshot_iff (registry : Registry) (attempt : Attempt) :
    attempt ∈ registry.snapshot ↔ registry.find? attempt.id = some attempt := by
  constructor
  · intro member
    cases found : registry.find? attempt.id with
    | none => simpa using List.find?_eq_none.mp found attempt member
    | some other =>
        have same : other.id = attempt.id := by simpa using List.find?_some found
        have listed : other ∈ registry.snapshot := List.mem_of_find?_eq_some found
        rw [List.inj_on_of_nodup_map registry.nodup_ids listed member same]
  · exact List.mem_of_find?_eq_some

/-- Registries in which the same is found are the same. -/
theorem ext_find? {first second : Registry} (same : ∀ id, first.find? id = second.find? id) :
    first = second := by
  have listed : first.snapshot.Perm second.snapshot := by
    rw [List.perm_ext_iff_of_nodup first.nodup_snapshot second.nodup_snapshot]
    intro attempt
    rw [mem_snapshot_iff, mem_snapshot_iff, same]
  have equal : first.attempts = second.attempts :=
    List.Perm.eq_of_pairwise (fun _ _ _ _ before behind => absurd before (String.lt_asymm behind))
      first.ordered second.ordered listed
  cases first
  cases second
  congr

end Registry

end JobLedger
