/-!
# Things with names

A directory keeps things in the order they were added, each under a name.  A
name that is used again refers to the newer thing from then on; the older one
is still there for those who know its place.
-/

namespace JobLedger

/-- Things of type `α`, found by name or by place. -/
structure Directory (α : Type) where
  items : List α
  /-- The places of names, the newest first. -/
  names : List (String × Nat)

namespace Directory

variable {α : Type}

def empty : Directory α := ⟨[], []⟩

/-- Adds a thing under a name. -/
def add (directory : Directory α) (name : String) (item : α) : Directory α :=
  { items := directory.items ++ [item]
    names := (name, directory.items.length) :: directory.names }

/-- Gives a thing one more name. -/
def link (directory : Directory α) (name : String) (place : Nat) : Directory α :=
  { directory with names := (name, place) :: directory.names }

/-- The place that a name refers to. -/
def place? (directory : Directory α) (name : String) : Option Nat :=
  directory.names.lookup name

/-- The thing at a place. -/
def get? (directory : Directory α) (place : Nat) : Option α :=
  directory.items[place]?

/-- The place that a name refers to, and the thing there. -/
def find? (directory : Directory α) (name : String) : Option (Nat × α) := do
  let place ← directory.place? name
  let item ← directory.get? place
  return (place, item)

/-- Puts another thing at a place. -/
def set (directory : Directory α) (place : Nat) (item : α) : Directory α :=
  { directory with items := directory.items.set place item }

/-- What is found under a name is at the place that is found with it. -/
theorem get?_of_find? {directory : Directory α} {name : String} {place : Nat} {item : α}
    (found : directory.find? name = some (place, item)) : directory.get? place = some item := by
  simp only [find?, Option.bind_eq_bind, Option.bind_eq_some_iff] at found
  obtain ⟨other, _, thing, there, same⟩ := found
  cases same
  exact there

/-- A thing that is added is at the next place. -/
@[simp]
theorem get?_add (directory : Directory α) (name : String) (item : α) (place : Nat) :
    (directory.add name item).get? place =
      if place = directory.items.length then some item else directory.get? place := by
  simp only [add, get?, List.getElem?_append]
  split
  · next inside => simp [Nat.ne_of_lt inside]
  · next outside =>
    split
    · next same => simp [same]
    · next other =>
      have beyond : directory.items.length < place := by omega
      rw [List.getElem?_eq_none (by simp only [List.length_singleton]; omega),
        List.getElem?_eq_none (by omega)]

@[simp]
theorem get?_set (directory : Directory α) (place other : Nat) (item : α) :
    (directory.set place item).get? other =
      if place = other then (directory.get? other).map fun _ => item
      else directory.get? other := by
  simp only [set, get?, List.getElem?_set]
  split
  · next same =>
    subst same
    by_cases bound : place < directory.items.length <;> simp [bound]
  · rfl

end Directory

end JobLedger
