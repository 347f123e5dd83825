import JobLedger.Json.Record
import JobLedger.Proofs.Json.Spelling

/-!
# Members of an object

An object is read member by member, and each member changes what has been read
so far.  Written members fill a state if each of them is read where it stands
and changes the state as the next one expects it.  The object that is written
of them is then read from its brace to its brace.
-/

namespace JobLedger.Json

variable {σ δ α β : Type}

/-! ## Objects -/

/-- Under `key`, the text of a value takes a reader of members from one state to
the next. -/
def SpellsMember (member : σ → Reader σ) (key : String) (text : List Char) (before after : σ) :
    Prop :=
  ∀ rest, EndsNumber rest →
    member before (key.toList.flatMap escape ++ '"' :: ':' :: (text ++ rest)) = .ok (after, rest)

/-- Members that take a reader from one state to another, one after the other. -/
inductive Fills (member : σ → Reader σ) : σ → List (String × List Char) → σ → Prop
  | nil (state : σ) : Fills member state [] state
  | cons {before next after : σ} {key : String} {text : List Char}
      {members : List (String × List Char)} (first : SpellsMember member key text before next)
      (others : Fills member next members after) :
      Fills member before ((key, text) :: members) after

/-- What is written of members from one of them on: all but the first stand
after a comma. -/
def writeFrom (first : Bool) : List (String × List Char) → List Char
  | [] => []
  | members => if first then writeMembers members else ',' :: writeMembers members

theorem writeFrom_true (members : List (String × List Char)) :
    writeFrom true members = writeMembers members := by
  cases members <;> rfl

/-- A member stands between quotes and a colon, before the members after it. -/
theorem writeMembers_cons (key : String) (text : List Char) (members : List (String × List Char)) :
    writeMembers ((key, text) :: members) =
      '"' :: (key.toList.flatMap escape ++ '"' :: ':' :: (text ++ writeFrom false members)) := by
  cases members <;> simp [writeMembers, writeText, writeFrom]

/-- After a value comes the comma of the next member, or the closing brace. -/
theorem endsNumber_writeFrom (members : List (String × List Char)) (rest : List Char) :
    EndsNumber (writeFrom false members ++ '}' :: rest) := by
  cases members <;> simp [writeFrom, EndsNumber]

theorem nextMember_nil (first : Bool) (rest : List Char) :
    nextMember first (writeFrom first [] ++ '}' :: rest) = .ok (.closed rest) := by
  cases first <;> rfl

theorem nextMember_cons (first : Bool) (key : String) (text rest : List Char)
    (members : List (String × List Char)) :
    nextMember first (writeFrom first ((key, text) :: members) ++ '}' :: rest) =
      .ok (.found (key.toList.flatMap escape ++
        '"' :: ':' :: (text ++ (writeFrom false members ++ '}' :: rest)))) := by
  cases first
  all_goals
    simp only [writeFrom, writeMembers_cons, ↓reduceIte, Bool.false_eq_true, List.cons_append,
      List.append_assoc]
    rfl

/-- Members that fill a state are read up to the closing brace, if there is fuel
for each of them and for the brace. -/
theorem Fills.readMembers {member : σ → Reader σ} {before after : σ}
    {members : List (String × List Char)} (fills : Fills member before members after)
    (first : Bool) (rest : List Char) {fuel : Nat} (enough : members.length < fuel) :
    readMembers member fuel first before (writeFrom first members ++ '}' :: rest) =
      .ok (after, rest) := by
  induction fills generalizing first fuel with
  | nil state =>
      obtain ⟨left, rfl⟩ := Nat.exists_eq_add_one_of_ne_zero (Nat.ne_of_gt enough)
      rw [Json.readMembers, nextMember_nil]
      rfl
  | @cons before next after key text members spelled others ih =>
      have positive : 0 < _ := Nat.zero_lt_of_lt enough
      obtain ⟨left, rfl⟩ := Nat.exists_eq_add_one_of_ne_zero (Nat.ne_of_gt positive)
      have taken := spelled _ (endsNumber_writeFrom members rest)
      rw [Json.readMembers, nextMember_cons]
      simp only [bind, Except.bind, taken]
      exact ih false (Nat.lt_of_succ_lt_succ enough)

/-- There are at most as many members as characters are written of them. -/
theorem length_le_length_writeMembers (members : List (String × List Char)) :
    members.length ≤ (writeMembers members).length := by
  induction members with
  | nil => exact Nat.le_refl _
  | cons member members ih =>
      obtain ⟨key, text⟩ := member
      have others : members.length ≤ (writeFrom false members).length := by
        cases members with
        | nil => exact Nat.le_refl _
        | cons => exact Nat.le_succ_of_le ih
      rw [writeMembers_cons]
      simp only [List.length_cons, List.length_append]
      omega

/-- What is written of members that fill a state is read as that state. -/
theorem Fills.readObject {member : σ → Reader σ} {before after : σ}
    {members : List (String × List Char)} (fills : Fills member before members after)
    (rest : List Char) :
    readObject member before (writeMembers members ++ '}' :: rest) = .ok (after, rest) := by
  have enough : members.length < (writeMembers members ++ '}' :: rest).length + 1 := by
    have := length_le_length_writeMembers members
    simp only [List.length_append]
    omega
  rw [Json.readObject]
  have read := fills.readMembers true rest enough
  rwa [writeFrom_true] at read

/-! ## Records -/

/-- A member under the key of a field that is not set yet sets that field. -/
theorem Shape.spellsMember {shape : Shape δ α} {key : String} {get : δ → Option β}
    {set : δ → β → δ} {reader : Reader β} {text : List Char} {value : β} {draft : δ}
    (known : shape.fields.find? (fun field => field.key.toList = key.toList) =
      some (.of key get set reader))
    (unset : get draft = none) (spells : Spells reader text value) :
    SpellsMember shape.readMember key text draft (set draft value) := by
  intro rest ends
  have free : (RecordField.of key get set reader).isSet draft = false := by
    simp [RecordField.of, unset]
  simp only [readMember, readText_flatMap_escape, bind, Except.bind, known, free]
  simp only [readColon, skipBlanks_cons (show isBlank ':' = false by decide), RecordField.of, bind,
    Except.bind, spells rest ends]
  rfl

/-- An object whose members fill a draft spells the record that the draft
makes. -/
theorem Shape.read_spells {shape : Shape δ α} {members : List (String × List Char)} {draft : δ}
    {value : α} (fills : Fills shape.readMember shape.start members draft)
    (complete : shape.finish draft = .ok value) :
    Spells shape.read (writeObject members) value := by
  intro rest _
  have written : writeObject members ++ rest = '{' :: (writeMembers members ++ '}' :: rest) := by
    simp [writeObject]
  rw [written, read, skipBlanks_cons (by decide)]
  simp only [fills.readObject, bind, Except.bind, complete]
  rfl

/-- A text that spells a value is decoded as that value. -/
theorem decode_ofList {reader : Reader α} {text : List Char} {value : α}
    (spells : Spells reader text value) : decode reader (String.ofList text) = .ok value := by
  rw [decode, String.toList_ofList, spells.read_all]
  rfl

end JobLedger.Json
