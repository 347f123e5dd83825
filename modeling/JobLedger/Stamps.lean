import JobLedger.Status

/-!
# Time stamps of statuses

`Stamps` keeps, for each status, when it was last entered, if ever.  There is
one slot a status, in the order of the statuses, so two collections with the
same stamps are equal however they came about, and `toList` lists them in
order.
-/

namespace JobLedger

/-- The time of the last entry of each status entered so far. -/
structure Stamps where
  slots : Vector (Option Int64) 10
  deriving DecidableEq

namespace Stamps

/-- No status entered yet. -/
def empty : Stamps := ⟨Vector.replicate 10 none⟩

/-- When a status was last entered. -/
def get? (stamps : Stamps) (status : Status) : Option Int64 :=
  stamps.slots[status.rank]

/-- Stamps a status, in place of its earlier stamp if it has one. -/
def insert (stamps : Stamps) (status : Status) (time : Int64) : Stamps :=
  ⟨stamps.slots.set status.rank (some time)⟩

/-- The stamps in the order of their statuses. -/
def toList (stamps : Stamps) : List (Status × Int64) :=
  Status.all.filterMap fun status => (stamps.get? status).map fun time => (status, time)

/-- Stamps entered one after another; the last one of a status stays. -/
def ofList (entries : List (Status × Int64)) : Stamps :=
  entries.foldl (fun stamps entry => stamps.insert entry.1 entry.2) empty

/-! ## What is found where -/

@[simp]
theorem get?_empty (status : Status) : empty.get? status = none := by
  simp [empty, get?]

theorem get?_insert (stamps : Stamps) (status other : Status) (time : Int64) :
    (stamps.insert status time).get? other =
      if other = status then some time else stamps.get? other := by
  by_cases same : other = status
  · subst same
    simp [insert, get?]
  · have apart : (status.rank : Nat) ≠ other.rank := fun equal =>
      same (Status.rank_injective (Fin.ext equal)).symm
    simp [insert, get?, same, Vector.getElem_set_ne, apart]

theorem exists_rank_eq (index : Fin 10) : ∃ status : Status, status.rank = index := by
  match index with
  | 0 => exact ⟨.initializing, rfl⟩
  | 1 => exact ⟨.running, rfl⟩
  | 2 => exact ⟨.cancelling, rfl⟩
  | 3 => exact ⟨.canceled, rfl⟩
  | 4 => exact ⟨.failing, rfl⟩
  | 5 => exact ⟨.failed, rfl⟩
  | 6 => exact ⟨.finished, rfl⟩
  | 7 => exact ⟨.suspended, rfl⟩
  | 8 => exact ⟨.reconciling, rfl⟩
  | 9 => exact ⟨.restarting, rfl⟩

/-- Stamps are equal when they say the same of every status. -/
@[ext]
theorem ext {first second : Stamps} (same : ∀ status, first.get? status = second.get? status) :
    first = second := by
  obtain ⟨firstSlots⟩ := first
  obtain ⟨secondSlots⟩ := second
  congr
  apply Vector.ext
  intro index bound
  obtain ⟨status, position⟩ := exists_rank_eq ⟨index, bound⟩
  have equal := same status
  simpa [get?, position] using equal

theorem get?_foldl_insert (stamps : Stamps) (entries : List (Status × Int64)) (status : Status) :
    (entries.foldl (fun stamps entry => stamps.insert entry.1 entry.2) stamps).get? status =
      (entries.reverse.lookup status).or (stamps.get? status) := by
  induction entries generalizing stamps with
  | nil => rfl
  | cons entry rest ih =>
    obtain ⟨entered, time⟩ := entry
    rw [List.foldl_cons, ih, get?_insert, List.reverse_cons, List.lookup_append, Option.or_assoc,
      List.lookup_cons]
    by_cases same : status = entered
    · simp [same]
    · simp [beq_eq_false_iff_ne.mpr same, same]

/-- Of several entries of a status the last one stays. -/
theorem get?_ofList (entries : List (Status × Int64)) (status : Status) :
    (ofList entries).get? status = entries.reverse.lookup status := by
  rw [ofList, get?_foldl_insert, get?_empty, Option.or_none]

theorem mem_toList_iff (stamps : Stamps) (status : Status) (time : Int64) :
    (status, time) ∈ stamps.toList ↔ stamps.get? status = some time := by
  simp [toList, Status.mem_all]

/-- Stamps are what is listed of them. -/
@[simp]
theorem ofList_toList (stamps : Stamps) : ofList stamps.toList = stamps := by
  ext1 status
  rw [get?_ofList]
  cases found : stamps.toList.reverse.lookup status with
  | none =>
      cases stamped : stamps.get? status with
      | none => rfl
      | some time =>
          have member := (mem_toList_iff stamps status time).mpr stamped
          have missing := List.lookup_eq_none_iff.mp found _ (List.mem_reverse.mpr member)
          simp at missing
  | some time =>
      obtain ⟨before, after, split, _⟩ := List.lookup_eq_some_iff.mp found
      have member : (status, time) ∈ stamps.toList := by
        rw [← List.mem_reverse, split]
        simp
      exact ((mem_toList_iff stamps status time).mp member).symm

end Stamps

end JobLedger
