import JobLedger.Proofs.Json.Members
import JobLedger.Proofs.Json.Records
import Mathlib.Data.List.Forall2
import Mathlib.Data.List.Nodup

/-!
# One field of a record

A field of a record may be bound to certain texts of its value, while all other
parts are told as ever.  If these texts are decoded as the value of the field,
the record is decoded.  If there is one such text, and its reader refuses it
wherever it stands, the record is refused for the same reason: all that comes
before it is read, and nothing that comes after it is looked at.
-/

namespace JobLedger.Json

variable {δ α β : Type}

/-! ## Texts of all parts -/

/-- A text that tells each part once: an object of them among other entries, or
the array of them in order. -/
inductive TellsParts (parts : List Part) (text : String) : Prop
  | object {entries : List Entry} (object : IsObject entries text)
      (fits : ∀ entry ∈ entries, entry.Fits parts)
      (counted : ∀ part ∈ parts, (entries.map Entry.key).count part.key = 1)
  | array {elements : List (List Char)} (array : IsArray elements text)
      (told : List.Forall₂ (fun part element => part.Tells element) parts elements)

theorem DecodesParts.of_tells {ofJson : String → Except Failure α} {parts : List Part} {value : α}
    (decodes : DecodesParts ofJson parts value) {text : String} (tells : TellsParts parts text) :
    ofJson text = .ok value := by
  cases tells with
  | object object fits counted => exact decodes.object object fits counted
  | array array told => exact decodes.array array told

/-- The members of some parts, one for each part and in their order. -/
def Members (parts : List Part) (members : List (String × List Char)) : Prop :=
  List.Forall₂ (fun part member => member.1 = part.key ∧ part.Tells member.2) parts members

variable {parts : List Part} {members : List (String × List Char)}

theorem Members.map_fst (told : Members parts members) :
    members.map Prod.fst = parts.map Part.key := by
  induction told with
  | nil => rfl
  | cons tells _ ih => exact congrArg₂ List.cons tells.1 ih

/-- If no key stands twice, the member under the key of a part tells the part. -/
theorem Members.tells (told : Members parts members) (apart : (parts.map Part.key).Nodup)
    {member : String × List Char} (among : member ∈ members) {part : Part} (there : part ∈ parts)
    (same : part.key = member.1) : part.Tells member.2 := by
  induction told with
  | nil => contradiction
  | @cons first its parts members tells others ih =>
      rcases List.nodup_cons.mp apart with ⟨fresh, later⟩
      have keys_eq := Members.map_fst others
      rcases List.mem_cons.mp among with rfl | behind
      · rcases List.mem_cons.mp there with rfl | elsewhere
        · exact tells.2
        · rw [← tells.1, ← same] at fresh
          exact absurd (List.mem_map_of_mem elsewhere) fresh
      · rcases List.mem_cons.mp there with rfl | elsewhere
        · rw [same, ← keys_eq] at fresh
          exact absurd (List.mem_map_of_mem behind) fresh
        · exact ih later behind elsewhere

/-- What is written of the members tells the parts. -/
theorem Members.tellsParts (told : Members parts members) (apart : (parts.map Part.key).Nodup) :
    TellsParts parts (String.ofList (writeObject members)) := by
  refine .object (isObject_writeObject members) ?_ ?_
  · intro entry among
    rcases List.mem_map.mp among with ⟨member, listed, rfl⟩
    refine ⟨decode_ofList (readName_spells member.1), ?_, ?_⟩
    · intro part there same
      exact told.tells apart listed there same
    · intro foreign
      have known : member.1 ∈ parts.map Part.key := told.map_fst ▸ List.mem_map_of_mem listed
      rcases List.mem_map.mp known with ⟨part, there, same⟩
      exact absurd same (foreign part there)
  · intro part there
    rw [List.map_map]
    change (members.map Prod.fst).count part.key = 1
    rw [told.map_fst]
    exact List.count_eq_one_of_mem apart (List.mem_map_of_mem there)

/-! ## Bound fields -/

namespace Part

/-- The part, with the value under `key` bound to certain texts. -/
def bound (key : String) (Tells : List Char → Prop) (part : Part) : Part :=
  if part.key = key then { part with Tells } else part

@[simp]
theorem key_bound (key : String) (Tells : List Char → Prop) (part : Part) :
    (part.bound key Tells).key = part.key := by
  unfold bound
  split <;> rfl

theorem bound_of_ne {key : String} {part : Part} (other : part.key ≠ key)
    (Tells : List Char → Prop) : part.bound key Tells = part :=
  if_neg other

theorem bound_of_eq {key : String} {part : Part} (same : part.key = key)
    (Tells : List Char → Prop) : part.bound key Tells = { part with Tells } :=
  if_pos same

/-- If the part is the bound one, each of the texts tells its value. -/
def Admits (key : String) (Tells : List Char → Prop) (part : Part) : Prop :=
  part.key = key → ∀ text, Tells text → part.Tells text

theorem Admits.tells {key : String} {Tells : List Char → Prop} {part : Part}
    (admits : part.Admits key Tells) {text : List Char}
    (tells : (part.bound key Tells).Tells text) : part.Tells text := by
  by_cases same : part.key = key
  · rw [bound_of_eq same] at tells
    exact admits same text tells
  · rwa [bound_of_ne same] at tells

end Part

variable {key : String} {Tells : List Char → Prop}

theorem map_key_bound (parts : List Part) (key : String) (Tells : List Char → Prop) :
    (parts.map (.bound key Tells)).map Part.key = parts.map Part.key := by
  simp [Function.comp_def]

theorem Entry.Fits.of_bound {entry : Entry} (fits : entry.Fits (parts.map (.bound key Tells)))
    (admits : ∀ part ∈ parts, part.key = entry.key → part.Admits key Tells) :
    entry.Fits parts where
  named := fits.named
  known := by
    intro part there same
    have tells := fits.known _ (List.mem_map_of_mem there) ((Part.key_bound _ _ _).trans same)
    exact (admits part there same).tells tells
  other := by
    intro foreign
    apply fits.other
    intro its among
    rcases List.mem_map.mp among with ⟨part, there, rfl⟩
    rw [Part.key_bound]
    exact foreign part there

/-- An entry under another key fits as before. -/
theorem Entry.Fits.of_bound_of_ne {entry : Entry}
    (fits : entry.Fits (parts.map (.bound key Tells))) (other : entry.key ≠ key) :
    entry.Fits parts :=
  fits.of_bound fun _ _ same here => absurd (same.symm.trans here) other

theorem TellsParts.of_bound {text : String} (tells : TellsParts (parts.map (.bound key Tells)) text)
    (admits : ∀ part ∈ parts, part.Admits key Tells) : TellsParts parts text := by
  cases tells with
  | object object fits counted =>
      refine .object object ?_ ?_
      · intro entry among
        exact (fits entry among).of_bound fun part there _ => admits part there
      · intro part there
        have once := counted _ (List.mem_map_of_mem there)
        rwa [Part.key_bound] at once
  | array array told =>
      refine .array array ?_
      rw [List.forall₂_map_left_iff] at told
      clear array
      induction told with
      | nil => exact .nil
      | cons first _ ih =>
          rcases List.forall_mem_cons.mp admits with ⟨admitsFirst, admitsOthers⟩
          exact .cons (admitsFirst.tells first) (ih admitsOthers)

/-- A record is decoded if the texts to which a field is bound tell its value. -/
theorem DecodesParts.bound {ofJson : String → Except Failure α} {value : α}
    (decodes : DecodesParts ofJson parts value)
    (admits : ∀ part ∈ parts, part.Admits key Tells) :
    DecodesParts ofJson (parts.map (.bound key Tells)) value where
  object := fun object fits counted =>
    decodes.of_tells (.of_bound (.object object fits counted) admits)
  array := fun array told => decodes.of_tells (.of_bound (.array array told) admits)
  repeated := by
    intro before again later text object fits once named known met
    rw [map_key_bound] at known
    apply decodes.repeated object _ _ named known met
    · intro entry among
      exact (fits entry among).of_bound fun part there _ => admits part there
    · intro part there
      have bounded := once _ (List.mem_map_of_mem there)
      rwa [Part.key_bound] at bounded

/-- A record is decoded from a text in which a field has a text that tells its
value. -/
theorem DecodesParts.of_tells_bound {ofJson : String → Except Failure α} {record : α}
    (decodes : DecodesParts ofJson parts record) {value : List Char} {text : String}
    (tells : TellsParts (parts.map (.bound key (· = value))) text)
    (told : ∀ part ∈ parts, part.key = key → part.Tells value) : ofJson text = .ok record := by
  apply decodes.of_tells (tells.of_bound _)
  rintro part there same _ rfl
  exact told part there same

/-! ## Texts with one result -/

/-- The reader comes to `result` wherever the text stands. -/
def Settles (reader : Reader α) (text : List Char) (result : Except Failure α) : Prop :=
  ∃ c tail, skipBlanks text = c :: tail ∧ c ≠ ']' ∧ ∃ blanks, Blanks blanks ∧
    ∀ front more, skipBlanks front = c :: (tail ++ more) → EndsNumber more →
      reader front = result.map fun value => (value, blanks ++ more)

theorem Settles.decode {reader : Reader α} {text : List Char} {result : Except Failure α}
    (settles : Settles reader text result) : decode reader (String.ofList text) = result := by
  rcases settles with ⟨c, tail, starts, _, blanks, all, read⟩
  have alone := read text [] (by rw [starts, List.append_nil]) trivial
  rw [List.append_nil] at alone
  exact decode_of_read all alone

theorem Settles.map {reader : Reader α} {text : List Char} {result : Except Failure α}
    (settles : Settles reader text result) (make : α → β) :
    Settles (fun text => do
      let (value, rest) ← reader text
      return (make value, rest)) text (result.map make) := by
  rcases settles with ⟨c, tail, starts, open_, blanks, all, read⟩
  refine ⟨c, tail, starts, open_, blanks, all, ?_⟩
  intro front more same ends
  simp only [read front more same ends]
  cases result <;> rfl

/-- A reader that passes over blanks comes to the same between others. -/
theorem Settles.of_solid {reader : Reader α}
    (passes : ∀ text, reader text = reader (skipBlanks text)) {solid : List Char} {c : Char}
    {tail : List Char} (starts : solid = c :: tail) (dense : isBlank c = false)
    (open_ : c ≠ ']') {result : Except Failure α}
    (read : ∀ rest, EndsNumber rest →
      reader (solid ++ rest) = result.map fun value => (value, rest))
    {before after : List Char} (front : Blanks before) (back : Blanks after) :
    Settles reader (before ++ (solid ++ after)) result := by
  subst starts
  refine ⟨c, tail ++ after, skipBlanks_append_cons front dense _, open_, after, back, ?_⟩
  intro text more same ends
  have spread : c :: (tail ++ after ++ more) = c :: tail ++ (after ++ more) := by simp
  rw [passes, same, spread]
  exact read _ (endsNumber_blanks back ends)

/-! ## Refused fields -/

theorem exists_first_entry {entries : List Entry} (met : key ∈ entries.map Entry.key) :
    ∃ before entry later, entries = before ++ entry :: later ∧ entry.key = key ∧
      key ∉ before.map Entry.key := by
  induction entries with
  | nil => contradiction
  | cons first entries ih =>
      by_cases here : first.key = key
      · exact ⟨[], first, entries, rfl, here, nofun⟩
      · have behind : key ∈ entries.map Entry.key := by
          rw [List.map_cons] at met
          exact (List.mem_cons.mp met).resolve_left (Ne.symm here)
        rcases ih behind with ⟨before, entry, later, rfl, same, fresh⟩
        refine ⟨first :: before, entry, later, rfl, same, ?_⟩
        rw [List.map_cons]
        exact List.not_mem_cons_of_ne_of_not_mem (Ne.symm here) fresh

section Refused

variable {shape : Shape δ α} {held : List String → δ} {field : RecordField δ}
  {value : List Char} {failure : Failure}

/-- An entry is refused if it is the first one under the key of a field that
refuses its value. -/
theorem Shape.Holds.refuses_value (holds : shape.Holds parts held)
    (known : ∃ part ∈ parts, part.key = key)
    (found : shape.fields.find? (fun field => field.key.toList = key.toList) = some field)
    (settles : ∀ draft, Settles (field.read draft) value (.error failure)) {entry : Entry}
    (named : entry.Named) (key_eq : entry.key = key) (value_eq : entry.value = value)
    {keys : List String} (unmet : key ∉ keys) :
    Refuses shape.readMember entry (held keys) failure := by
  rcases named.exists_body with ⟨body, between, starts, middle, read⟩
  rcases find?_of_known holds.fields known with ⟨same, part, search, keeps, _, part_eq⟩
  cases Option.some.inj (found.symm.trans search)
  have unset : ¬ field.isSet (held keys) = true := by
    rw [keeps.isSet_iff, part_eq]
    exact unmet
  rcases settles (held keys) with ⟨c, tail, solid, _, blanks, _, refused⟩
  refine ⟨body, starts, ?_⟩
  intro more ends
  rw [key_eq] at read
  simp only [Shape.readMember, read, Bind.bind, Except.bind, found, if_neg unset,
    readColon_blanks middle, value_eq]
  exact refused _ more (skipBlanks_more solid) ends

/-- An array is refused at the element of a field that refuses its value. -/
theorem readElements_refused {fields : List (RecordField δ)}
    (keep : List.Forall₂ (Keeps held) fields parts)
    (found : fields.find? (fun field => field.key.toList = key.toList) = some field)
    (settles : ∀ draft, Settles (field.read draft) value (.error failure))
    {elements : List (List Char)}
    (told : List.Forall₂ (fun part element => (part.bound key (· = value)).Tells element) parts
      elements)
    (keys : List String) (count : Nat) {blanks : List Char} (all : Blanks blanks)
    (rest : List Char) :
    shape.readElements fields count (held keys)
        (blanks ++ trail (count = 0) elements (']' :: rest)) = .error failure := by
  induction keep generalizing elements keys count blanks with
  | nil => contradiction
  | @cons own part fields parts keeps _ ih =>
      cases told with
      | @cons _ element _ elements tells told =>
          have ends : EndsNumber (trail false elements (']' :: rest)) :=
            endsNumber_trail _ (endsNumber_cons (by decide))
          by_cases here : part.key = key
          · rw [Part.bound_of_eq here] at tells
            subst tells
            rw [List.find?_cons_of_pos (by simp [keeps.key_eq, here])] at found
            cases found
            rcases settles (held keys) with ⟨c, tail, starts, open_, _, _, refused⟩
            rw [shape.readElements_element field fields count _ all starts open_]
            have solid : skipBlanks (c :: (tail ++ trail false elements (']' :: rest))) =
                c :: (tail ++ trail false elements (']' :: rest)) := by
              rw [← skipBlanks_more starts, skipBlanks_skipBlanks]
            simp only [Bind.bind, Except.bind, refused _ _ solid ends]
            rfl
          · rw [Part.bound_of_ne here] at tells
            rw [List.find?_cons_of_neg
              (by simpa [keeps.key_eq, String.toList_inj] using here)] at found
            rcases keeps.read tells with ⟨c, tail, starts, open_, behind, behindAll, read⟩
            have solid : skipBlanks (c :: (tail ++ trail false elements (']' :: rest))) =
                c :: (tail ++ trail false elements (']' :: rest)) := by
              rw [← skipBlanks_more starts, skipBlanks_skipBlanks]
            rw [shape.readElements_element own fields count _ all starts open_]
            simp only [Bind.bind, Except.bind, read keys _ _ solid ends]
            simpa using ih found told (keys ++ [part.key]) (count + 1) behindAll

/-- **A record is refused for the one value that is.** -/
theorem Shape.Holds.decode_bound_refused (holds : shape.Holds parts held)
    (known : ∃ part ∈ parts, part.key = key)
    (found : shape.fields.find? (fun field => field.key.toList = key.toList) = some field)
    (settles : ∀ draft, Settles (field.read draft) value (.error failure)) {text : String}
    (tells : TellsParts (parts.map (.bound key (· = value))) text) :
    decode shape.read text = .error failure := by
  cases tells with
  | @object entries object fits counted =>
      rcases known with ⟨part, there, same⟩
      have count_eq : ∀ part ∈ parts, (entries.map Entry.key).count part.key = 1 := by
        intro its among
        have once := counted _ (List.mem_map_of_mem among)
        rwa [Part.key_bound] at once
      have met : key ∈ entries.map Entry.key := by
        apply List.count_pos_iff.mp
        rw [← same, count_eq part there]
        exact Nat.one_pos
      rcases exists_first_entry met with ⟨before, entry, later, rfl, key_eq, fresh⟩
      have fitsHere := fits entry (by simp)
      have value_eq : entry.value = value := by
        have told := fitsHere.known _ (List.mem_map_of_mem there)
          ((Part.key_bound _ _ _).trans (same.trans key_eq.symm))
        rwa [Part.bound_of_eq same] at told
      have fitsBefore : ∀ entry ∈ before, entry.Fits parts := by
        intro other among
        apply (fits other (List.mem_append_left _ among)).of_bound_of_ne
        rintro rfl
        exact fresh (List.mem_map_of_mem among)
      have once : Once parts (before.map Entry.key) := by
        intro its among
        have counts := count_eq its among
        rw [List.map_append, List.count_append] at counts
        omega
      exact holds.decode_refused object fitsBefore once
        (holds.refuses_value ⟨part, there, same⟩ found settles fitsHere.named key_eq value_eq fresh)
  | @array elements array told =>
      rcases array with ⟨before, inside, after, front, middle, _, rfl⟩
      rw [List.forall₂_map_left_iff] at told
      have refused : shape.readElements shape.fields 0 (held [])
          (inside ++ trail true elements (']' :: after)) = .error failure :=
        readElements_refused holds.fields found settles told [] 0 middle after
      rw [decode, String.toList_ofList, intercalate_append, Shape.read,
        skipBlanks_append_cons front (by decide)]
      simp only [holds.start, refused, Bind.bind, Except.bind]

end Refused

end JobLedger.Json
