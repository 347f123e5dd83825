import JobLedger.Registry

/-!
# The attempts of one vertex

The attempts of a vertex are listed by number.  In what order they are gone
through before that matters for attempts with one number only: whichever it is,
the same attempts are listed, with the same numbers in the same places.
-/

namespace JobLedger

namespace Registry

theorem ofVertex_perm {first second : List Attempt} (reordered : first.Perm second)
    (vertex : VertexRef) : (ofVertex first vertex).Perm (ofVertex second vertex) := by
  have filtered := reordered.filter fun attempt => attempt.vertex = vertex
  exact ((List.mergeSort_perm _ _).trans filtered).trans (List.mergeSort_perm _ _).symm

theorem pairwise_ofVertex (attempts : List Attempt) (vertex : VertexRef) :
    (ofVertex attempts vertex).Pairwise fun earlier later => earlier.number ≤ later.number := by
  have transitive (first second third : Attempt)
      (below : decide (first.number ≤ second.number) = true)
      (above : decide (second.number ≤ third.number) = true) :
      decide (first.number ≤ third.number) = true :=
    decide_eq_true (UInt32.le_trans (of_decide_eq_true below) (of_decide_eq_true above))
  have total (first second : Attempt) :
      (decide (first.number ≤ second.number) || decide (second.number ≤ first.number)) = true := by
    simpa using UInt32.le_total first.number second.number
  exact (List.pairwise_mergeSort transitive total _).imp of_decide_eq_true

/-- Two ways through the same attempts differ in ties only. -/
theorem map_number_ofVertex {first second : List Attempt} (reordered : first.Perm second)
    (vertex : VertexRef) :
    (ofVertex first vertex).map Attempt.number = (ofVertex second vertex).map Attempt.number := by
  have sorted (attempts : List Attempt) :
      ((ofVertex attempts vertex).map Attempt.number).Pairwise (· ≤ ·) :=
    List.pairwise_map.mpr (pairwise_ofVertex attempts vertex)
  refine List.Perm.eq_of_pairwise ?_ (sorted first) (sorted second)
    ((ofVertex_perm reordered vertex).map Attempt.number)
  intro _ _ _ _ below above
  exact UInt32.le_antisymm below above

end Registry

end JobLedger
