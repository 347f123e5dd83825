import JobLedger.Proofs.Registry.Contents
import JobLedger.Proofs.Registry.Vertex
import Mathlib.Data.List.Permutation

/-!
# Listing the attempts of a vertex

A table may be gone through in any order, and the attempts of a vertex are
picked on the way and sorted by their numbers.  Whatever the order, the listing
of a vertex holds the last attempts of their identifiers that belong to it,
each of them once and the oldest first.  The listings of all vertices share the
attempts out, and only the places of attempts with one number are left open.
-/

namespace JobLedger

namespace Registry

/-! ## Ways through the table -/

/-- A way through the table that a history leaves: it comes by every attempt in
the table once, in any order. -/
def Visits (history visit : List Attempt) : Prop :=
  (visit : Multiset Attempt) = (keyed history).entries.map Sigma.snd

theorem visits_iff_perm {history visit : List Attempt} :
    Visits history visit ↔ visit.Perm (empty.insertAll history).snapshot := by
  rw [Visits, values_keyed, Multiset.coe_eq_coe]

/-- The attempts in the order of their identifiers are one way through. -/
theorem visits_snapshot (history : List Attempt) :
    Visits history (empty.insertAll history).snapshot :=
  visits_iff_perm.mpr (.refl _)

namespace Visits

variable {history visit : List Attempt}

theorem nodup (visits : Visits history visit) : visit.Nodup :=
  (visits_iff_perm.mp visits).nodup_iff.mpr (nodup_snapshot _)

/-- What is come by is what was written last. -/
theorem mem_iff (visits : Visits history visit) (attempt : Attempt) :
    attempt ∈ visit ↔ lastWritten history attempt.id = some attempt := by
  rw [(visits_iff_perm.mp visits).mem_iff, mem_snapshot_iff, find?_insertAll_empty]

/-- Histories that leave the same are gone through in the same ways, up to the
order. -/
theorem perm {otherHistory otherVisit : List Attempt} (visits : Visits history visit)
    (otherVisits : Visits otherHistory otherVisit)
    (same : ∀ id, lastWritten otherHistory id = lastWritten history id) :
    visit.Perm otherVisit := by
  have contents : empty.insertAll otherHistory = empty.insertAll history := by
    apply ext_find?
    intro id
    rw [find?_insertAll_empty, find?_insertAll_empty, same]
  have other := visits_iff_perm.mp otherVisits
  rw [contents] at other
  exact (visits_iff_perm.mp visits).trans other.symm

end Visits

/-! ## One listing -/

theorem mem_ofVertex_iff (attempts : List Attempt) (vertex : VertexRef) (attempt : Attempt) :
    attempt ∈ ofVertex attempts vertex ↔ attempt ∈ attempts ∧ attempt.vertex = vertex := by
  rw [ofVertex, List.mem_mergeSort, List.mem_filter, decide_eq_true_eq]

theorem nodup_ofVertex {attempts : List Attempt} (distinct : attempts.Nodup) (vertex : VertexRef) :
    (ofVertex attempts vertex).Nodup :=
  (List.mergeSort_perm _ _).nodup_iff.mpr (distinct.filter _)

/-- Without ties the attempts have one order only. -/
theorem ofVertex_eq_of_nodup {first second : List Attempt} (reordered : first.Perm second)
    {vertex : VertexRef} (distinct : ((ofVertex first vertex).map Attempt.number).Nodup) :
    ofVertex first vertex = ofVertex second vertex := by
  have listed := ofVertex_perm reordered vertex
  refine List.Perm.eq_of_pairwise ?_ (pairwise_ofVertex first vertex)
    (pairwise_ofVertex second vertex) listed
  intro one other member otherMember below above
  apply List.inj_on_of_nodup_map distinct member (listed.mem_iff.mpr otherMember)
  exact UInt32.le_antisymm below above

/-! ## All listings -/

/-- The listings of different vertices have nothing in common. -/
theorem disjoint_ofVertex {first second : VertexRef} (apart : first ≠ second)
    (attempts : List Attempt) :
    List.Disjoint (ofVertex attempts first) (ofVertex attempts second) := by
  intro attempt here there
  have firstVertex := ((mem_ofVertex_iff _ _ _).mp here).2
  have secondVertex := ((mem_ofVertex_iff _ _ _).mp there).2
  exact apart (firstVertex.symm.trans secondVertex)

/-- The listings of all vertices share the attempts out between them. -/
theorem Visits.flatMap_perm {history visit : List Attempt} (visits : Visits history visit)
    {vertices : List VertexRef} (distinct : vertices.Nodup)
    (covered : ∀ attempt ∈ visit, attempt.vertex ∈ vertices) :
    (vertices.flatMap (ofVertex visit)).Perm visit := by
  have unique : (vertices.flatMap (ofVertex visit)).Nodup := by
    rw [List.nodup_flatMap]
    constructor
    · intro vertex _
      exact nodup_ofVertex visits.nodup vertex
    · exact distinct.imp fun apart => disjoint_ofVertex apart visit
  rw [List.perm_ext_iff_of_nodup unique visits.nodup]
  intro attempt
  simp only [List.mem_flatMap, mem_ofVertex_iff]
  constructor
  · rintro ⟨vertex, _, visited, _⟩
    exact visited
  · intro visited
    exact ⟨attempt.vertex, covered attempt visited, visited, rfl⟩

/-- **The attempts of a vertex are listed completely, once each, the oldest
first.**  Take a history of registrations and any way through the table that it
leaves.  The listing of a vertex holds exactly the attempts that are the last
with their identifiers and belong to the vertex, each of them once, and their
numbers never go down.  The listings of all vertices share the attempts of the
registry out between them.  An attempt that is registered next is listed under
its vertex, and its identifier under no other one.  Any other way through, also
after another history that leaves the same attempts, gives a listing with the
same numbers in the same places and with the same attempts of each number: the
same listing, if no two attempts of the vertex have one number.  The listing of
the registry itself is that of one of these ways. -/
theorem vertex_listings_are_complete {history visit : List Attempt}
    (visits : Visits history visit) :
    (∀ vertex,
      let listed := ofVertex visit vertex
      listed.Nodup ∧
      (∀ attempt, attempt ∈ listed ↔
        lastWritten history attempt.id = some attempt ∧ attempt.vertex = vertex) ∧
      listed.Pairwise fun earlier later => earlier.number ≤ later.number) ∧
    (∀ vertices : List VertexRef, vertices.Nodup →
      (∀ attempt ∈ (empty.insertAll history).snapshot, attempt.vertex ∈ vertices) →
      (vertices.flatMap (ofVertex visit)).Perm (empty.insertAll history).snapshot) ∧
    (∀ attempt next, Visits (history ++ [attempt]) next →
      attempt ∈ ofVertex next attempt.vertex ∧
      ∀ other, other ≠ attempt.vertex → ∀ listed ∈ ofVertex next other, listed.id ≠ attempt.id) ∧
    (∀ otherHistory otherVisit, Visits otherHistory otherVisit →
      (∀ id, lastWritten otherHistory id = lastWritten history id) → ∀ vertex,
      let one := ofVertex visit vertex
      let other := ofVertex otherVisit vertex
      one.map Attempt.number = other.map Attempt.number ∧
      (∀ number, (one.filter fun attempt => attempt.number = number).Perm
        (other.filter fun attempt => attempt.number = number)) ∧
      ((one.map Attempt.number).Nodup → one = other)) ∧
    ∀ vertex, ∃ way, Visits history way ∧
      (empty.insertAll history).attemptsFor vertex = ofVertex way vertex := by
  have through := visits_iff_perm.mp visits
  refine ⟨?_, ?_, ?_, ?_, fun vertex => ⟨_, visits_snapshot history, rfl⟩⟩
  · intro vertex listed
    refine ⟨nodup_ofVertex visits.nodup vertex, ?_, pairwise_ofVertex visit vertex⟩
    intro attempt
    rw [mem_ofVertex_iff, visits.mem_iff]
  · intro vertices distinct covered
    apply (visits.flatMap_perm distinct _).trans through
    intro attempt visited
    exact covered attempt (through.mem_iff.mp visited)
  · intro attempt next nextVisits
    have last : lastWritten (history ++ [attempt]) attempt.id = some attempt := by
      rw [← find?_insertAll_empty, insertAll_concat, find?_insert, if_pos rfl]
    constructor
    · rw [mem_ofVertex_iff, nextVisits.mem_iff]
      exact ⟨last, rfl⟩
    · intro other apart listed member same
      rw [mem_ofVertex_iff, nextVisits.mem_iff, same, last] at member
      obtain ⟨found, vertex_eq⟩ := member
      cases found
      exact apart vertex_eq.symm
  · intro otherHistory otherVisit otherVisits same vertex one other
    have reordered := visits.perm otherVisits same
    refine ⟨map_number_ofVertex reordered vertex, ?_, ofVertex_eq_of_nodup reordered⟩
    intro number
    exact (ofVertex_perm reordered vertex).filter _

/-- One attempt is moved to another vertex and one comes back, two have the same
number, and the table is gone through in two orders: only the two change
places. -/
theorem vertex_listings_of_two_orders :
    let late : Attempt := { Attempt.first ⟨"A1"⟩ ⟨"V1"⟩ with number := 4294967295 }
    let moved : Attempt := { Attempt.first ⟨"A2"⟩ ⟨"V2"⟩ with number := 1 }
    let back : Attempt := { Attempt.first ⟨"A3"⟩ ⟨"V1"⟩ with number := 1 }
    let tied : Attempt := { Attempt.first ⟨"A4"⟩ ⟨"V1"⟩ with number := 1 }
    let history := [late, { moved with vertex := ⟨"V1"⟩ }, { back with vertex := ⟨"V2"⟩ }, tied,
      moved, back]
    let visit := [late, moved, back, tied]
    let reversed := [tied, back, moved, late]
    Visits history visit ∧ Visits history reversed ∧
      ofVertex visit ⟨"V1"⟩ = [back, tied, late] ∧ ofVertex reversed ⟨"V1"⟩ = [tied, back, late] ∧
      (∀ attempt, attempt ∈ ofVertex visit ⟨"V1"⟩ ↔
        lastWritten history attempt.id = some attempt ∧ attempt.vertex = ⟨"V1"⟩) ∧
      (ofVertex visit ⟨"V1"⟩).map Attempt.number = (ofVertex reversed ⟨"V1"⟩).map Attempt.number ∧
      ofVertex visit ⟨"V2"⟩ = ofVertex reversed ⟨"V2"⟩ := by
  intro late moved back tied history visit reversed
  have visits : Visits history visit := visits_iff_perm.mpr (by decide)
  have reversedVisits : Visits history reversed := visits_iff_perm.mpr (by decide)
  obtain ⟨listings, _, _, orders, _⟩ := vertex_listings_are_complete visits
  have ordersOf := orders history reversed reversedVisits fun _ => rfl
  have alone : ((ofVertex visit ⟨"V2"⟩).map Attempt.number) = [1] := by cbv
  refine ⟨visits, reversedVisits, by cbv, by cbv, (listings ⟨"V1"⟩).2.1, (ordersOf ⟨"V1"⟩).1,
    (ordersOf ⟨"V2"⟩).2.2 ?_⟩
  rw [alone]
  decide

end Registry

end JobLedger
