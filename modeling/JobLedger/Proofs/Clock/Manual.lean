import JobLedger.Clock

/-!
# Moving a manual clock

A manual clock that was moved shows the time at which it started plus all the
spans by which it was moved, wrapped around at 64 bits; so their order makes no
difference.  It never goes back as long as it is moved forward and the time that
it comes to in the end fits: then the times on the way there fit as well.
-/

namespace JobLedger.ManualClock

/-- How far spans lead in all, without a bound. -/
def distance : List Int64 → Int
  | [] => 0
  | span :: rest => span.toInt + distance rest

/-- The clock after it was moved by spans, one after another. -/
def advanceBy (clock : ManualClock) (spans : List Int64) : ManualClock :=
  spans.foldl advance clock

@[simp]
theorem advanceBy_nil (clock : ManualClock) : clock.advanceBy [] = clock := rfl

@[simp]
theorem advanceBy_cons (clock : ManualClock) (span : Int64) (rest : List Int64) :
    clock.advanceBy (span :: rest) = (clock.advance span).advanceBy rest := rfl

theorem advanceBy_append (clock : ManualClock) (spans others : List Int64) :
    clock.advanceBy (spans ++ others) = (clock.advanceBy spans).advanceBy others :=
  List.foldl_append

theorem distance_append (spans others : List Int64) :
    distance (spans ++ others) = distance spans + distance others := by
  induction spans with
  | nil => simp [distance]
  | cons span rest ih => simp only [List.cons_append, distance, ih, Int.add_assoc]

theorem distance_perm {spans others : List Int64} (same : spans.Perm others) :
    distance spans = distance others := by
  induction same with
  | nil => rfl
  | cons span _ ih => simp only [distance, ih]
  | swap first second rest => simp only [distance, Int.add_left_comm]
  | trans _ _ first second => exact first.trans second

/-- A moved clock shows where it started plus how far it was moved, wrapped
around at 64 bits. -/
theorem advanceBy_eq (clock : ManualClock) (spans : List Int64) :
    clock.advanceBy spans =
      { clock with now := .ofInt (clock.now.toInt + distance spans) } := by
  induction spans generalizing clock with
  | nil => simp [distance]
  | cons span rest ih =>
      have moved : Int64.ofInt ((clock.now + span).toInt + distance rest) =
          Int64.ofInt (clock.now.toInt + (span.toInt + distance rest)) := by
        rw [Int64.ofInt_add, Int64.ofInt_add, Int64.ofInt_add, Int64.ofInt_toInt,
          Int64.ofInt_toInt, Int64.ofInt_toInt, Int64.add_assoc]
      rw [advanceBy_cons, ih, distance, advance, moved]

/-- The order in which a clock is moved makes no difference. -/
theorem advanceBy_perm (clock : ManualClock) {spans others : List Int64}
    (same : spans.Perm others) : clock.advanceBy others = clock.advanceBy spans := by
  rw [advanceBy_eq, advanceBy_eq, distance_perm same]

/-- A working clock gives the time that it shows, and stays as it is. -/
theorem read_of_working {clock : ManualClock} (working : clock.broken = false) :
    Clock.read clock = (some clock.now, clock) := by
  simp [Clock.read, working]

/-! ## Forward only -/

/-- None of the spans leads back. -/
def Forward (spans : List Int64) : Prop :=
  ∀ span ∈ spans, 0 ≤ span

/-- The time that the spans lead to fits 64 bits. -/
def Reaches (clock : ManualClock) (spans : List Int64) : Prop :=
  clock.now.toInt + distance spans ≤ Int64.maxValue.toInt

theorem distance_nonneg {spans : List Int64} (forward : Forward spans) : 0 ≤ distance spans := by
  induction spans with
  | nil => exact Int.le_refl 0
  | cons span rest ih =>
      have first : 0 ≤ span.toInt := Int64.le_iff_toInt_le.mp (forward span List.mem_cons_self)
      have others := ih fun other member => forward other (List.mem_cons_of_mem span member)
      exact Int.add_nonneg first others

theorem toInt_now_advanceBy {clock : ManualClock} {spans : List Int64} (forward : Forward spans)
    (reaches : clock.Reaches spans) :
    (clock.advanceBy spans).now.toInt = clock.now.toInt + distance spans := by
  have positive := distance_nonneg forward
  have least := clock.now.le_toInt
  rw [advanceBy_eq]
  apply Int64.toInt_ofInt_of_le
  · omega
  · exact Int.lt_of_le_of_lt reaches (by decide)

/-- Forward spans that fit lead nowhere back. -/
theorem now_le_now_advanceBy {clock : ManualClock} {spans : List Int64}
    (forward : Forward spans) (reaches : clock.Reaches spans) :
    clock.now ≤ (clock.advanceBy spans).now := by
  have positive := distance_nonneg forward
  rw [Int64.le_iff_toInt_le, toInt_now_advanceBy forward reaches]
  omega

/-- What fits in the end fits on the way there, and is reached from there. -/
theorem Reaches.of_append {clock : ManualClock} {spans others : List Int64}
    (forward : Forward (spans ++ others)) (reaches : clock.Reaches (spans ++ others)) :
    clock.Reaches spans ∧ (clock.advanceBy spans).Reaches others := by
  have before : Forward spans := fun span member =>
    forward span (List.mem_append_left others member)
  have after := distance_nonneg fun span member =>
    forward span (List.mem_append_right spans member)
  unfold Reaches at reaches ⊢
  rw [distance_append] at reaches
  have way : clock.now.toInt + distance spans ≤ Int64.maxValue.toInt := by omega
  constructor
  · exact way
  · rw [toInt_now_advanceBy before way]
    omega

/-- Of two times on the way the earlier one is not after the later one. -/
theorem now_advanceBy_le_of_prefix {clock : ManualClock} {spans earlier later : List Int64}
    (forward : Forward spans) (reaches : clock.Reaches spans) (first : earlier <+: later)
    (second : later <+: spans) : (clock.advanceBy earlier).now ≤ (clock.advanceBy later).now := by
  rcases first with ⟨between, rfl⟩
  rcases second with ⟨rest, rfl⟩
  have way := (reaches.of_append forward).1
  have onward : Forward (earlier ++ between) := fun span member =>
    forward span (List.mem_append_left rest member)
  rw [advanceBy_append]
  apply now_le_now_advanceBy
  · intro span member
    exact onward span (List.mem_append_right earlier member)
  · exact (way.of_append onward).2

end JobLedger.ManualClock
