import JobLedger.Stamps
import Mathlib.Data.List.Sort

/-!
# Stamps in order

Stamps that are entered one after another, in any order and with repetitions,
come to one list: the statuses in order, each once, with the time at its last
place.  There is only one such list, so it does not matter how it came about;
in particular it is the list that is kept in order while each stamp is inserted
at its place, in place of an earlier one of the same status.
-/

namespace JobLedger.Stamps

variable {list first second : List (Status × Int64)} {status : Status} {time : Int64}

/-! ## The last stamp of a status -/

/-- `time` stands with the status at the last place of the status. -/
def IsLast (list : List (Status × Int64)) (status : Status) (time : Int64) : Prop :=
  ∃ before after, list = before ++ (status, time) :: after ∧ ∀ entry ∈ after, entry.1 ≠ status

theorem isLast_iff_lookup_reverse :
    IsLast list status time ↔ list.reverse.lookup status = some time := by
  rw [List.lookup_eq_some_iff]
  constructor
  · rintro ⟨before, after, rfl, others⟩
    refine ⟨after.reverse, before.reverse, by simp, ?_⟩
    intro entry member
    exact bne_iff_ne.mpr (others entry (List.mem_reverse.mp member)).symm
  · rintro ⟨after, before, reversed, others⟩
    refine ⟨before.reverse, after.reverse, ?_, ?_⟩
    · have straight := congrArg List.reverse reversed
      simpa using straight
    · intro entry member same
      have apart := others entry (List.mem_reverse.mp member)
      exact bne_iff_ne.mp apart same.symm

/-- Of what is entered one after another the last one stays, and nothing else. -/
theorem get?_ofList_eq_some_iff :
    (ofList list).get? status = some time ↔ IsLast list status time := by
  rw [get?_ofList, isLast_iff_lookup_reverse]

theorem get?_ofList_eq_none_iff :
    (ofList list).get? status = none ↔ status ∉ list.map Prod.fst := by
  rw [get?_ofList, List.lookup_eq_none_iff, List.mem_map]
  constructor
  · rintro missing ⟨entry, member, rfl⟩
    exact bne_iff_ne.mp (missing entry (List.mem_reverse.mpr member)) rfl
  · intro absent entry member
    apply bne_iff_ne.mpr
    rintro rfl
    exact absent ⟨entry, List.mem_reverse.mp member, rfl⟩

/-- Lists with the same last stamps come to the same. -/
theorem ofList_eq_ofList_iff :
    ofList first = ofList second ↔
      ∀ status time, IsLast first status time ↔ IsLast second status time := by
  constructor
  · intro same status time
    rw [← get?_ofList_eq_some_iff, ← get?_ofList_eq_some_iff, same]
  · intro same
    ext1 status
    apply Option.ext
    intro time
    rw [get?_ofList_eq_some_iff, get?_ofList_eq_some_iff]
    exact same status time

/-! ## The one list in order -/

/-- The stamps stand in the order of their statuses, so each status stands there
once at most. -/
def Ordered (list : List (Status × Int64)) : Prop :=
  list.Pairwise fun first second => first.1.rank < second.1.rank

/-- There is only one way to put stamps in order. -/
theorem Ordered.eq_of_mem_iff (ordered : Ordered first) (other : Ordered second)
    (same : ∀ entry, entry ∈ first ↔ entry ∈ second) : first = second := by
  have irrefl : Std.Irrefl fun first second : Status × Int64 =>
      first.1.rank < second.1.rank :=
    ⟨fun entry => lt_irrefl entry.1.rank⟩
  have antisymm : Std.Antisymm fun first second : Status × Int64 =>
      first.1.rank < second.1.rank :=
    ⟨fun _ _ forth back => absurd forth (not_lt_of_gt back)⟩
  exact List.Pairwise.eq_of_mem_iff ordered other same

theorem ordered_toList (stamps : Stamps) : Ordered stamps.toList := by
  rw [Ordered, toList, List.pairwise_filterMap]
  apply Status.pairwise_all.imp
  intro status other before entry stamped others another
  rcases Option.map_eq_some_iff.mp stamped with ⟨time, _, rfl⟩
  rcases Option.map_eq_some_iff.mp another with ⟨later, _, rfl⟩
  exact before

/-- The statuses that are stamped are listed in order, each once. -/
theorem map_fst_toList (stamps : Stamps) :
    stamps.toList.map Prod.fst = Status.all.filter fun status => (stamps.get? status).isSome := by
  rw [toList, List.map_filterMap]
  induction Status.all with
  | nil => rfl
  | cons status others ih =>
      rw [List.filterMap_cons, List.filter_cons]
      cases stamps.get? status with
      | none => exact ih
      | some time => exact congrArg (status :: ·) ih

/-! ## Inserting in order -/

/-- The list with a stamp at its place, in place of an earlier one of the same
status. -/
def insertOrdered (status : Status) (time : Int64) :
    List (Status × Int64) → List (Status × Int64)
  | [] => [(status, time)]
  | (other, earlier) :: rest =>
    if status.rank < other.rank then (status, time) :: (other, earlier) :: rest
    else if status = other then (status, time) :: rest
    else (other, earlier) :: insertOrdered status time rest

theorem mem_insertOrdered (ordered : Ordered list) (entry : Status × Int64) :
    entry ∈ insertOrdered status time list ↔
      entry = (status, time) ∨ entry ∈ list ∧ entry.1 ≠ status := by
  induction list with
  | nil => simp [insertOrdered]
  | cons head rest ih =>
      rcases head with ⟨other, earlier⟩
      rcases List.pairwise_cons.mp ordered with ⟨least, others⟩
      -- Nothing from a place on has a status that is less than that of the place.
      have behind : ∀ bound : Status, bound.rank ≤ other.rank → entry ∈ rest →
          entry.1 ≠ bound := by
        rintro _ bounded member rfl
        exact absurd (least entry member) (not_lt_of_ge bounded)
      rw [insertOrdered]
      split_ifs with before same
      · have head_ne : other ≠ status := by
          rintro rfl
          exact lt_irrefl _ before
        have rest_ne := behind status (le_of_lt before)
        rw [List.mem_cons, List.mem_cons]
        constructor
        · rintro (rfl | rfl | member)
          · exact .inl rfl
          · exact .inr ⟨.inl rfl, head_ne⟩
          · exact .inr ⟨.inr member, rest_ne member⟩
        · rintro (rfl | ⟨member, _⟩)
          · exact .inl rfl
          · exact .inr member
      · subst same
        have rest_ne := behind status le_rfl
        rw [List.mem_cons, List.mem_cons]
        constructor
        · rintro (rfl | member)
          · exact .inl rfl
          · exact .inr ⟨.inr member, rest_ne member⟩
        · rintro (rfl | ⟨rfl | member, apart⟩)
          · exact .inl rfl
          · exact absurd rfl apart
          · exact .inr member
      · rw [List.mem_cons, List.mem_cons, ih others]
        constructor
        · rintro (rfl | rfl | ⟨member, apart⟩)
          · exact .inr ⟨.inl rfl, Ne.symm same⟩
          · exact .inl rfl
          · exact .inr ⟨.inr member, apart⟩
        · rintro (rfl | ⟨rfl | member, apart⟩)
          · exact .inr (.inl rfl)
          · exact .inl rfl
          · exact .inr (.inr ⟨member, apart⟩)

/-- Inserting keeps the order. -/
theorem Ordered.insertOrdered (ordered : Ordered list) (status : Status) (time : Int64) :
    Ordered (insertOrdered status time list) := by
  induction list with
  | nil => exact List.pairwise_singleton _ _
  | cons head rest ih =>
      rcases head with ⟨other, earlier⟩
      rcases List.pairwise_cons.mp ordered with ⟨least, others⟩
      rw [Stamps.insertOrdered]
      split_ifs with before same
      · apply List.pairwise_cons.mpr
        refine ⟨?_, ordered⟩
        intro entry member
        rcases List.mem_cons.mp member with rfl | later
        · exact before
        · exact lt_trans before (least entry later)
      · subst same
        exact List.pairwise_cons.mpr ⟨least, others⟩
      · apply List.pairwise_cons.mpr
        refine ⟨?_, ih others⟩
        intro entry member
        rcases (mem_insertOrdered others entry).mp member with rfl | ⟨later, _⟩
        · have apart : other.rank ≠ status.rank := fun equal =>
            same (Status.rank_injective equal).symm
          exact lt_of_le_of_ne (le_of_not_gt before) apart
        · exact least entry later

/-- A stamp is entered at its place in the order. -/
theorem toList_insert (stamps : Stamps) (status : Status) (time : Int64) :
    (stamps.insert status time).toList = insertOrdered status time stamps.toList := by
  apply (ordered_toList _).eq_of_mem_iff ((ordered_toList stamps).insertOrdered status time)
  rintro ⟨other, moment⟩
  rw [mem_insertOrdered (ordered_toList stamps), mem_toList_iff, mem_toList_iff, get?_insert]
  by_cases same : other = status
  · simp [same, eq_comm]
  · simp [same]

/-- What is entered one after another is kept in order all the while. -/
theorem toList_ofList (list : List (Status × Int64)) :
    (ofList list).toList =
      list.foldl (fun kept entry => insertOrdered entry.1 entry.2 kept) [] := by
  have kept : ∀ stamps : Stamps,
      (list.foldl (fun stamps entry => stamps.insert entry.1 entry.2) stamps).toList =
        list.foldl (fun kept entry => insertOrdered entry.1 entry.2 kept) stamps.toList := by
    induction list with
    | nil => exact fun _ => rfl
    | cons entry rest ih =>
        intro stamps
        rw [List.foldl_cons, List.foldl_cons, ih, toList_insert]
  exact kept empty

/-- The stamps are the last ones of a list, in order. -/
structure LastOf (list : List (Status × Int64)) (stamps : Stamps) : Prop where
  get?_iff : ∀ status time, stamps.get? status = some time ↔ IsLast list status time
  listed_iff : ∀ status time, (status, time) ∈ stamps.toList ↔ IsLast list status time
  statuses_eq : stamps.toList.map Prod.fst =
    Status.all.filter fun status => status ∈ list.map Prod.fst
  inserted : stamps.toList = list.foldl (fun kept entry => insertOrdered entry.1 entry.2 kept) []

theorem lastOf_ofList (list : List (Status × Int64)) : LastOf list (ofList list) where
  get?_iff _ _ := get?_ofList_eq_some_iff
  listed_iff status time := by rw [mem_toList_iff, get?_ofList_eq_some_iff]
  statuses_eq := by
    rw [map_fst_toList]
    apply List.filter_congr
    intro status _
    rw [Bool.eq_iff_iff, decide_eq_true_eq, Option.isSome_iff_ne_none, Ne,
      get?_ofList_eq_none_iff, Decidable.not_not]
  inserted := toList_ofList list

end JobLedger.Stamps
