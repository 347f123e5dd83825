import JobLedger.Attempt
import JobLedger.Event

/-!
# The registry of execution attempts

A registry holds attempts, at most one for each identifier; the one registered
last stays.  Nothing is ever removed.  The attempts are kept in the order of
their identifiers, so a registry is determined by what can be found in it.
-/

namespace JobLedger

namespace Attempt

/-- Puts an attempt into a list ordered by identifier, in place of one with
the same identifier if there is one. -/
def place (attempt : Attempt) : List Attempt → List Attempt
  | [] => [attempt]
  | head :: rest =>
    if attempt.id.text < head.id.text then attempt :: head :: rest
    else if head.id.text < attempt.id.text then head :: place attempt rest
    else attempt :: rest

theorem mem_of_mem_place {attempt other : Attempt} {list : List Attempt}
    (member : other ∈ place attempt list) : other = attempt ∨ other ∈ list := by
  induction list with
  | nil => simpa [place] using member
  | cons head rest ih =>
    simp only [place] at member
    split at member
    · simpa using member
    split at member
    · rcases List.mem_cons.mp member with same | deeper
      · simp [same]
      · rcases ih deeper with same | there
        · exact .inl same
        · exact .inr (List.mem_cons_of_mem _ there)
    · rcases List.mem_cons.mp member with same | there
      · exact .inl same
      · exact .inr (List.mem_cons_of_mem _ there)

/-- Placing keeps a list ordered by identifier. -/
theorem pairwise_place {attempt : Attempt} {list : List Attempt}
    (ordered : list.Pairwise fun first second => first.id.text < second.id.text) :
    (place attempt list).Pairwise fun first second => first.id.text < second.id.text := by
  induction list with
  | nil => simp [place]
  | cons head rest ih =>
    obtain ⟨least, tail⟩ := List.pairwise_cons.mp ordered
    simp only [place]
    split
    · next before =>
      refine List.pairwise_cons.mpr ⟨?_, ordered⟩
      intro other member
      rcases List.mem_cons.mp member with rfl | deeper
      · exact before
      · exact String.lt_trans before (least other deeper)
    split
    · next behind =>
      refine List.pairwise_cons.mpr ⟨?_, ih tail⟩
      intro other member
      rcases mem_of_mem_place member with rfl | deeper
      · exact behind
      · exact least other deeper
    · next notBefore notBehind =>
      have same : attempt.id.text = head.id.text :=
        String.le_antisymm (Std.not_lt.mp notBehind) (Std.not_lt.mp notBefore)
      exact List.pairwise_cons.mpr ⟨fun other member => same ▸ least other member, tail⟩

/-- What is found after an attempt is placed: the attempt itself under its own
identifier, and what was there before under any other. -/
theorem find?_place {attempt : Attempt} {list : List Attempt}
    (ordered : list.Pairwise fun first second => first.id.text < second.id.text)
    (id : AttemptId) :
    (attempt.place list).find? (fun other => other.id = id) =
      if id = attempt.id then some attempt else list.find? fun other => other.id = id := by
  induction list with
  | nil =>
    by_cases same : id = attempt.id <;> simp [place, same, eq_comm]
  | cons head rest ih =>
    obtain ⟨least, tail⟩ := List.pairwise_cons.mp ordered
    simp only [place]
    split
    · by_cases same : id = attempt.id
      · simp [same]
      · simp [same, Ne.symm same]
    split
    · next behind =>
      have apart : head.id ≠ attempt.id := fun equal =>
        String.lt_irrefl _ (equal ▸ behind)
      by_cases here : head.id = id
      · subst here
        simp [apart]
      · simp [here, ih tail]
    · next notBefore notBehind =>
      have same : head.id = attempt.id := by
        have texts : attempt.id.text = head.id.text :=
          String.le_antisymm (Std.not_lt.mp notBehind) (Std.not_lt.mp notBefore)
        exact congrArg AttemptId.mk texts.symm
      by_cases here : id = attempt.id
      · simp [here]
      · simp [here, same, Ne.symm here]

/-- A list gets longer by an attempt that is placed in it, unless the identifier
is there already. -/
theorem length_place {attempt : Attempt} {list : List Attempt}
    (ordered : list.Pairwise fun first second => first.id.text < second.id.text) :
    (attempt.place list).length =
      if (list.find? fun other => other.id = attempt.id).isSome then list.length
      else list.length + 1 := by
  induction list with
  | nil => rfl
  | cons head rest ih =>
    obtain ⟨least, tail⟩ := List.pairwise_cons.mp ordered
    simp only [place]
    split
    · next before =>
      have absent : ((head :: rest).find? fun other => other.id = attempt.id) = none := by
        rw [List.find?_eq_none]
        intro other member
        have behind : attempt.id.text < other.id.text := by
          rcases List.mem_cons.mp member with rfl | deeper
          · exact before
          · exact String.lt_trans before (least other deeper)
        have apart : other.id ≠ attempt.id := fun equal => String.lt_irrefl _ (equal ▸ behind)
        simpa using apart
      simp [absent]
    split
    · next behind =>
      have apart : head.id ≠ attempt.id := fun equal => String.lt_irrefl _ (equal ▸ behind)
      rw [List.length_cons, ih tail, List.find?_cons_of_neg (by simpa using apart)]
      split <;> rfl
    · next notBefore notBehind =>
      have same : attempt.id.text = head.id.text :=
        String.le_antisymm (Std.not_lt.mp notBehind) (Std.not_lt.mp notBefore)
      have here : head.id = attempt.id := congrArg AttemptId.mk same.symm
      simp [here]

end Attempt

/-- Execution attempts by identifier. -/
structure Registry where
  attempts : List Attempt
  ordered : attempts.Pairwise fun first second => first.id.text < second.id.text

namespace Registry

/-- A registry without attempts. -/
def empty : Registry := ⟨[], .nil⟩

/-- The attempt registered last under an identifier. -/
def find? (registry : Registry) (id : AttemptId) : Option Attempt :=
  registry.attempts.find? fun attempt => attempt.id = id

/-- The vertex of the attempt registered last under an identifier. -/
def vertexOf? (registry : Registry) (id : AttemptId) : Option VertexRef :=
  (registry.find? id).map Attempt.vertex

/-- Adds an attempt, in place of an earlier one with its identifier. -/
def insert (registry : Registry) (attempt : Attempt) : Registry :=
  ⟨attempt.place registry.attempts, Attempt.pairwise_place registry.ordered⟩

@[simp]
theorem find?_empty (id : AttemptId) : empty.find? id = none := rfl

theorem find?_insert (registry : Registry) (attempt : Attempt) (id : AttemptId) :
    (registry.insert attempt).find? id =
      if id = attempt.id then some attempt else registry.find? id :=
  Attempt.find?_place registry.ordered id

/-- Adds an attempt and tells whether it is new. -/
def register (registry : Registry) (attempt : Attempt) : Registry × Event :=
  (registry.insert attempt,
    match registry.find? attempt.id with
    | some _ => .replaced attempt.id attempt.vertex
    | none => .registered attempt.id attempt.vertex)

/-- Every registered attempt, ordered by identifier. -/
def snapshot (registry : Registry) : List Attempt :=
  registry.attempts

/-- How many attempts are registered. -/
def size (registry : Registry) : Nat :=
  registry.attempts.length

def isEmpty (registry : Registry) : Bool :=
  registry.size = 0

theorem size_insert (registry : Registry) (attempt : Attempt) :
    (registry.insert attempt).size =
      if (registry.find? attempt.id).isSome then registry.size else registry.size + 1 :=
  Attempt.length_place registry.ordered

/-- The attempts of one vertex among `attempts`, oldest attempt first; attempts
with one number stay in the order they were given. -/
def ofVertex (attempts : List Attempt) (vertex : VertexRef) : List Attempt :=
  (attempts.filter fun attempt => attempt.vertex = vertex).mergeSort
    fun first second => first.number ≤ second.number

/-- The attempts of one vertex, oldest attempt first, those with one number
ordered by identifier. -/
def attemptsFor (registry : Registry) (vertex : VertexRef) : List Attempt :=
  ofVertex registry.snapshot vertex

end Registry

end JobLedger
