import JobLedger.Proofs.Registry.Writes
import Mathlib.Data.Finmap
import Mathlib.Data.Finset.Card

/-!
# What a registry holds

A registry keeps its attempts in a table under keys of their own.  Every attempt
is put under its own identifier and takes the place of what was there, so all
that can be read of the registry follows from the last write under each
identifier: what is found, what is listed, how many there are, and whether the
next attempt is logged as a new one or as a replacement.
-/

namespace JobLedger

namespace Registry

/-! ## How many there are -/

/-- The identifiers of a history, each of them once. -/
def distinctIds (history : List Attempt) : Finset AttemptId :=
  (history.map Attempt.id).toFinset

@[simp]
theorem mem_distinctIds_iff {history : List Attempt} {id : AttemptId} :
    id ∈ distinctIds history ↔ id ∈ history.map Attempt.id :=
  List.mem_toFinset

theorem knows_insertAll_empty (history : List Attempt) (id : AttemptId) :
    (empty.insertAll history).knows id = true ↔ id ∈ distinctIds history := by
  rw [knows, find?_insertAll_empty, isSome_lastWritten_iff, mem_distinctIds_iff]

/-- The identifiers of the attempts that are listed are those that are known. -/
theorem mem_distinctIds_snapshot_iff (registry : Registry) (id : AttemptId) :
    id ∈ distinctIds registry.snapshot ↔ registry.knows id = true := by
  rw [mem_distinctIds_iff, List.mem_map, knows, Option.isSome_iff_exists]
  constructor
  · rintro ⟨attempt, member, rfl⟩
    exact ⟨attempt, (registry.mem_snapshot_iff attempt).mp member⟩
  · rintro ⟨attempt, found⟩
    exact ⟨attempt, List.mem_of_find?_eq_some found, by simpa using List.find?_some found⟩

theorem size_eq_card (registry : Registry) :
    registry.size = (distinctIds registry.snapshot).card := by
  rw [distinctIds, List.toFinset_card_of_nodup registry.nodup_ids, List.length_map]
  rfl

/-- A registry counts the identifiers that were registered, each of them once. -/
theorem size_insertAll_empty (history : List Attempt) :
    (empty.insertAll history).size = (distinctIds history).card := by
  rw [size_eq_card]
  congr 1
  ext id
  rw [mem_distinctIds_snapshot_iff, knows_insertAll_empty]

/-! ## Keys beside the attempts -/

/-- The table in which the attempts of a history were put under their
identifiers one after another, each in place of what was there. -/
def keyed (history : List Attempt) : Finmap fun _ : AttemptId => Attempt :=
  history.foldl (fun table attempt => table.insert attempt.id attempt) ∅

theorem lookup_foldl_insert (table : Finmap fun _ : AttemptId => Attempt)
    (history : List Attempt) (id : AttemptId) :
    (history.foldl (fun table attempt => table.insert attempt.id attempt) table).lookup id =
      (lastWritten history id).or (table.lookup id) := by
  induction history generalizing table with
  | nil => rfl
  | cons attempt rest ih =>
      rw [List.foldl_cons, ih, lastWritten_cons, Option.or_assoc]
      by_cases same : id = attempt.id
      · rw [same, Finmap.lookup_insert, if_pos rfl, Option.some_or]
      · rw [Finmap.lookup_insert_of_ne _ same, if_neg same, Option.none_or]

/-- A key leads to what was written under it last. -/
theorem lookup_keyed (history : List Attempt) (id : AttemptId) :
    (keyed history).lookup id = lastWritten history id := by
  rw [keyed, lookup_foldl_insert, Finmap.lookup_empty, Option.or_none]

/-- Every key is the identifier of the attempt under it. -/
theorem key_eq_id {history : List Attempt} {entry : Sigma fun _ : AttemptId => Attempt}
    (stored : entry ∈ (keyed history).entries) : entry.1 = entry.2.id := by
  have found := Finmap.lookup_eq_some_iff.mpr stored
  rw [lookup_keyed] at found
  exact (mem_of_lastWritten found).2.symm

/-- The attempts of the table are those that the registry lists. -/
theorem values_keyed (history : List Attempt) :
    (keyed history).entries.map Sigma.snd = (empty.insertAll history).snapshot := by
  have nodup : ((keyed history).entries.map Sigma.snd).Nodup := by
    apply Multiset.Nodup.map_on _ (keyed history).nodup_entries
    rintro ⟨firstKey, attempt⟩ first ⟨secondKey, _⟩ second rfl
    obtain rfl : firstKey = attempt.id := key_eq_id first
    obtain rfl : secondKey = attempt.id := key_eq_id second
    rfl
  rw [Multiset.Nodup.ext nodup (Multiset.coe_nodup.mpr (nodup_snapshot _))]
  intro attempt
  rw [Multiset.mem_coe, mem_snapshot_iff, find?_insertAll_empty, ← lookup_keyed,
    Finmap.lookup_eq_some_iff, Multiset.mem_map]
  constructor
  · rintro ⟨⟨key, other⟩, stored, same⟩
    obtain rfl : other = attempt := same
    obtain rfl : key = other.id := key_eq_id stored
    exact stored
  · intro stored
    exact ⟨_, stored, rfl⟩

/-! ## One more attempt -/

/-- Registering adds the attempt, and tells whether its identifier was known. -/
theorem register_eq (registry : Registry) (attempt : Attempt) :
    registry.register attempt =
      (registry.insert attempt,
        if registry.knows attempt.id then .replaced attempt.id attempt.vertex
        else .registered attempt.id attempt.vertex) := by
  unfold register knows
  cases registry.find? attempt.id <;> rfl

theorem insertAll_concat (registry : Registry) (history : List Attempt) (attempt : Attempt) :
    registry.insertAll (history ++ [attempt]) = (registry.insertAll history).insert attempt := by
  rw [insertAll, insertAll, List.foldl_concat]

/-- **A registry holds the last write of every identifier.**  After any history
of attempts is registered, an identifier leads to the last attempt with it and
to its vertex; the attempts are listed once each, namely those that are the
last with their identifiers; they are as many as there are identifiers; and in
the table that the registry is kept in, every attempt is under its own
identifier.  One more attempt changes what is found under no other identifier
and drops none.  It is logged as a replacement exactly if its identifier was
registered before, and exactly if not, it is logged as new and counted. -/
theorem contents_are_last_writes (history : List Attempt) :
    let registry := empty.insertAll history
    (∀ id, registry.find? id = lastWritten history id ∧
      registry.vertexOf? id = (lastWritten history id).map Attempt.vertex) ∧
    registry.snapshot.Nodup ∧
    (∀ attempt, attempt ∈ registry.snapshot ↔ lastWritten history attempt.id = some attempt) ∧
    registry.size = (distinctIds history).card ∧
    (registry.isEmpty = true ↔ history = []) ∧
    (∀ id, (keyed history).lookup id = registry.find? id) ∧
    (keyed history).entries.map Sigma.snd = registry.snapshot ∧
    (∀ entry ∈ (keyed history).entries, entry.1 = entry.2.id) ∧
    ∀ attempt,
      let (next, event) := registry.register attempt
      next = empty.insertAll (history ++ [attempt]) ∧
      (∀ id, id ≠ attempt.id → next.find? id = registry.find? id) ∧
      (∀ id, registry.knows id = true → next.knows id = true) ∧
      (event.message = "Replaced registered attempt" ↔ attempt.id ∈ distinctIds history) ∧
      (event.message = "Registered attempt" ↔ attempt.id ∉ distinctIds history) ∧
      event.fields = [("attempt_id", attempt.id.text), ("vertex", attempt.vertex.text)] ∧
      next.size = registry.size + if attempt.id ∈ distinctIds history then 0 else 1 := by
  intro registry
  have found (id : AttemptId) : registry.find? id = lastWritten history id :=
    find?_insertAll_empty history id
  have counted : registry.size = (distinctIds history).card := size_insertAll_empty history
  refine ⟨fun id => ⟨found id, by rw [vertexOf?, found]⟩, registry.nodup_snapshot, ?_, counted, ?_,
    fun id => (lookup_keyed history id).trans (found id).symm, values_keyed history,
    fun entry stored => key_eq_id stored, ?_⟩
  · intro attempt
    rw [mem_snapshot_iff, found]
  · rw [isEmpty, decide_eq_true_eq, counted, Finset.card_eq_zero, distinctIds,
      List.toFinset_eq_empty_iff, List.map_eq_nil_iff]
  · intro attempt
    have known : registry.knows attempt.id = true ↔ attempt.id ∈ distinctIds history :=
      knows_insertAll_empty history attempt.id
    rw [register_eq]
    refine ⟨(insertAll_concat empty history attempt).symm, ?_, ?_, ?_, ?_, ?_, ?_⟩
    · intro id other
      rw [find?_insert, if_neg other]
    · intro id before
      simp [before]
    · rw [← known]
      by_cases before : registry.knows attempt.id = true <;> simp [before, Event.message]
    · rw [← known]
      by_cases before : registry.knows attempt.id = true <;> simp [before, Event.message]
    · by_cases before : registry.knows attempt.id = true <;> simp [before, Event.fields]
    · rw [size_insert, ← knows]
      by_cases before : registry.knows attempt.id = true
      · rw [if_pos before, if_pos (known.mp before)]
        rfl
      · rw [if_neg before, if_neg (mt known.mpr before)]

end Registry

end JobLedger
