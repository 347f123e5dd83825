import JobLedger.Json.Record
import JobLedger.Proofs.Json.Grammar
import JobLedger.Proofs.Json.Steady
import Mathlib.Data.List.Nodup

/-!
# Records among other members

The text of an object is its entries, known ones and others in any order, with
blanks wherever they may stand.  What a record is read as depends on the known
entries alone.  The draft after some entries is the one that holds the fields
whose keys were met, whatever their order and whatever stood between them; so
the whole text comes to the record that the draft of all its keys makes, or to
the failure at the first known key that is met again.
-/

namespace JobLedger.Json

variable {δ α β : Type}

/-! ## Decoded texts -/

theorem blanks_of_skipBlanks {text : List Char} (nothing : skipBlanks text = []) : Blanks text :=
  List.dropWhile_eq_nil_iff.mp nothing

theorem skipBlanks_of_blanks {blanks : List Char} (all : Blanks blanks) (rest : List Char) :
    skipBlanks (blanks ++ rest) = skipBlanks rest :=
  List.dropWhile_append_of_pos all

theorem skipBlanks_append_cons {blanks : List Char} (all : Blanks blanks) {c : Char}
    (solid : isBlank c = false) (rest : List Char) :
    skipBlanks (blanks ++ c :: rest) = c :: rest :=
  (skipBlanks_of_blanks all _).trans (skipBlanks_cons solid rest)

/-- A text is decoded when it is read up to some blanks. -/
theorem decode_eq_ok_iff {reader : Reader α} {text : List Char} {value : α} :
    decode reader (String.ofList text) = .ok value ↔
      ∃ blanks, Blanks blanks ∧ reader text = .ok (value, blanks) := by
  rw [decode, String.toList_ofList, bind_eq_ok_iff]
  constructor
  · rintro ⟨⟨first, rest⟩, read, ended⟩
    dsimp only at ended
    split at ended
    · next empty =>
      cases ended
      exact ⟨rest, blanks_of_skipBlanks (List.isEmpty_iff.mp empty), read⟩
    · contradiction
  · rintro ⟨blanks, all, read⟩
    have empty : skipBlanks blanks = [] := List.dropWhile_eq_nil_iff.mpr all
    refine ⟨_, read, ?_⟩
    simp only [empty]
    rfl

/-- A decoded text is read among others: what starts with it, blanks aside, is
read as its value, up to blanks and the rest. -/
theorem Steady.of_decode {reader : Reader α} (steady : Steady reader) {text : List Char} {value : α}
    (decoded : decode reader (String.ofList text) = .ok value) :
    ∃ c tail, skipBlanks text = c :: tail ∧ c ≠ ']' ∧ ∃ blanks, Blanks blanks ∧
      ∀ front more, skipBlanks front = c :: (tail ++ more) → EndsNumber more →
        reader front = .ok (value, blanks ++ more) := by
  rcases decode_eq_ok_iff.mp decoded with ⟨blanks, all, read⟩
  rcases steady text value blanks read with ⟨c, tail, starts, open_, again⟩
  exact ⟨c, tail, starts, open_, blanks, all, again⟩

/-! ## Texts of objects and arrays -/

/-- What a record says of one of its fields: the key, and which texts are
decoded as the value of the field. -/
structure Part where
  key : String
  Tells : List Char → Prop

/-- The field under `key` has the value `value`. -/
def Part.of (key : String) (reader : Reader β) (value : β) : Part where
  key := key
  Tells text := decode reader (String.ofList text) = .ok value

/-- An entry of an object as it is written, with the key that its name is to be
decoded as. -/
structure Entry where
  key : String
  name : List Char
  value : List Char

namespace Entry

def text (entry : Entry) : List Char :=
  entry.name ++ ':' :: entry.value

/-- The name is a text of the key. -/
def Named (entry : Entry) : Prop :=
  decode readName (String.ofList entry.name) = .ok entry.key

/-- A known entry tells the value of its field, any other holds whatever the
grammar derives. -/
structure Fits (parts : List Part) (entry : Entry) : Prop where
  named : entry.Named
  known : ∀ part ∈ parts, part.key = entry.key → part.Tells entry.value
  other : (∀ part ∈ parts, part.key ≠ entry.key) → Derives .padded entry.value

/-- An entry that tells the value of the one field with its key. -/
theorem fits_of_tells {parts : List Part} (distinct : (parts.map Part.key).Nodup) {part : Part}
    (member : part ∈ parts) {entry : Entry} (named : entry.Named)
    (key_eq : part.key = entry.key) (tells : part.Tells entry.value) : entry.Fits parts where
  named := named
  known other otherMember same := by
    rw [List.inj_on_of_nodup_map distinct otherMember member (same.trans key_eq.symm)]
    exact tells
  other foreign := absurd key_eq (foreign part member)

/-- An entry with the key of no field. -/
theorem fits_of_foreign {parts : List Part} {entry : Entry} (named : entry.Named)
    (foreign : ∀ part ∈ parts, part.key ≠ entry.key) (derives : Derives .padded entry.value) :
    entry.Fits parts where
  named := named
  known part member same := absurd same (foreign part member)
  other _ := derives

end Entry

/-- A text of an object with some entries. -/
def IsObject (entries : List Entry) (text : String) : Prop :=
  ∃ before inside after, Blanks before ∧ Blanks inside ∧ Blanks after ∧
    text = String.ofList (before ++ '{' :: (inside ++
      ([','].intercalate (entries.map Entry.text) ++ '}' :: after)))

theorem writeMembers_eq (members : List (String × List Char)) :
    writeMembers members =
      [','].intercalate
        (members.map fun member => writeText member.1.toList ++ ':' :: member.2) := by
  induction members with
  | nil => rfl
  | cons member members ih =>
      rcases member with ⟨key, value⟩
      cases members with
      | nil => simp [writeMembers, List.intercalate]
      | cons second members =>
          rw [writeMembers, ih]
          · simp [List.intercalate]
          · exact nofun

/-- The text of an object without any blanks. -/
theorem isObject_of_tight {entries : List Entry} {text : String}
    (text_eq : text =
      String.ofList ('{' :: ([','].intercalate (entries.map Entry.text) ++ ['}']))) :
    IsObject entries text :=
  ⟨[], [], [], by simp [Blanks], by simp [Blanks], by simp [Blanks], text_eq⟩

/-- What is written of members is an object of them. -/
theorem isObject_writeObject (members : List (String × List Char)) :
    IsObject (members.map fun member => ⟨member.1, writeText member.1.toList, member.2⟩)
      (String.ofList (writeObject members)) := by
  apply isObject_of_tight
  rw [writeObject, writeMembers_eq, List.map_map]
  rfl

/-- A text of an array with some elements. -/
def IsArray (elements : List (List Char)) (text : String) : Prop :=
  ∃ before inside after, Blanks before ∧ Blanks inside ∧ Blanks after ∧
    text = String.ofList (before ++ '[' :: (inside ++
      ([','].intercalate elements ++ ']' :: after)))

/-- Texts one after another from one of them on, up to what ends them: all but
the first stand after a comma. -/
def trail : Bool → List (List Char) → List Char → List Char
  | _, [], ending => ending
  | true, text :: texts, ending => text ++ trail false texts ending
  | false, text :: texts, ending => ',' :: (text ++ trail false texts ending)

theorem intercalate_append (texts : List (List Char)) (ending : List Char) :
    [','].intercalate texts ++ ending = trail true texts ending := by
  cases texts with
  | nil => rfl
  | cons text texts =>
      induction texts generalizing text with
      | nil => simp [List.intercalate, trail]
      | cons second texts ih =>
          have others := ih second
          simp only [List.intercalate, trail] at others ⊢
          simp [others]

theorem trail_append (first : Bool) (texts others : List (List Char)) (ending : List Char) :
    trail first (texts ++ others) ending =
      trail first texts (trail (first && texts.isEmpty) others ending) := by
  induction texts generalizing first with
  | nil => simp [trail]
  | cons text texts ih => cases first <;> simp [trail, ih]

theorem trail_more (first : Bool) (texts : List (List Char)) (ending more : List Char) :
    trail first texts ending ++ more = trail first texts (ending ++ more) := by
  induction texts generalizing first with
  | nil => cases first <;> rfl
  | cons text texts ih => cases first <;> simp [trail, ih]

/-- After a text comes a comma, or what ends them all. -/
theorem endsNumber_trail (texts : List (List Char)) {ending : List Char}
    (ends : EndsNumber ending) : EndsNumber (trail false texts ending) := by
  cases texts with
  | nil => exact ends
  | cons => exact endsNumber_cons (by decide)

/-! ## From entry to entry -/

/-- The name of an entry is read from its quote on. -/
theorem Entry.Named.exists_body {entry : Entry} (named : entry.Named) :
    ∃ body blanks, skipBlanks entry.name = '"' :: body ∧ Blanks blanks ∧ ∀ more,
      readText .plain (body ++ more) = .ok (entry.key.toList, blanks ++ more) := by
  rcases decode_eq_ok_iff.mp named with ⟨blanks, all, read⟩
  rcases bind_eq_ok_iff.mp read with ⟨⟨name, rest⟩, string, made⟩
  have key_eq : String.ofList name = entry.key := congrArg Prod.fst (Except.ok.inj made)
  have rest_eq : rest = blanks := congrArg Prod.snd (Except.ok.inj made)
  subst rest_eq
  rw [readString] at string
  split at string
  · next body starts =>
    refine ⟨body, rest, starts, all, ?_⟩
    intro more
    rw [← key_eq, String.toList_ofList]
    exact readText_more string
  · contradiction

theorem readColon_blanks {blanks rest : List Char} (all : Blanks blanks) :
    readColon (blanks ++ ':' :: rest) = .ok rest := by
  rw [readColon, skipBlanks_append_cons all (by decide)]
  rfl

/-- Behind some blanks the next entry is found, after its comma if it is not the
first one. -/
theorem nextMember_entry (first : Bool) {blanks body : List Char} (all : Blanks blanks)
    {entry : Entry} (starts : skipBlanks entry.name = '"' :: body) (others : List (List Char))
    (ending : List Char) :
    nextMember first (blanks ++ trail first (entry.text :: others) ending) =
      .ok (.found (body ++ ':' :: (entry.value ++ trail false others ending))) := by
  have name : skipBlanks (entry.text ++ trail false others ending) =
      '"' :: (body ++ ':' :: (entry.value ++ trail false others ending)) := by
    rw [Entry.text, List.append_assoc, List.cons_append]
    exact skipBlanks_more starts
  cases first with
  | true =>
      have quote := (skipBlanks_of_blanks all _).trans name
      rw [trail, nextMember_of_ne true quote (by decide)]
      rfl
  | false =>
      have comma := skipBlanks_append_cons all (show isBlank ',' = false by decide)
        (entry.text ++ trail false others ending)
      rw [trail, nextMember_of_ne false comma (by decide), name]
      rfl

theorem nextMember_brace (first : Bool) {blanks : List Char} (all : Blanks blanks)
    (rest : List Char) : nextMember first (blanks ++ '}' :: rest) = .ok (.closed rest) := by
  rw [nextMember, skipBlanks_append_cons all (by decide)]
  rfl

section Walks

variable {σ : Type} {member : σ → Reader σ}

/-- From the quote of its name on, an entry takes a reader of members from one
state to the next, whatever follows it. -/
def Takes (member : σ → Reader σ) (entry : Entry) (before after : σ) : Prop :=
  ∃ body blanks, skipBlanks entry.name = '"' :: body ∧ Blanks blanks ∧ ∀ more, EndsNumber more →
    member before (body ++ ':' :: (entry.value ++ more)) = .ok (after, blanks ++ more)

/-- From the quote of its name on, an entry is refused, whatever follows it. -/
def Refuses (member : σ → Reader σ) (entry : Entry) (state : σ) (failure : Failure) : Prop :=
  ∃ body, skipBlanks entry.name = '"' :: body ∧ ∀ more, EndsNumber more →
    member state (body ++ ':' :: (entry.value ++ more)) = .error failure

/-- Entries that take a reader from one state to another, one after the other. -/
inductive Walks (member : σ → Reader σ) : σ → List Entry → σ → Prop
  | nil (state : σ) : Walks member state [] state
  | cons {before next after : σ} {entry : Entry} {entries : List Entry}
      (first : Takes member entry before next) (others : Walks member next entries after) :
      Walks member before (entry :: entries) after

/-- Entries are read one after another, up to what ends them. -/
theorem Walks.readMembers_eq {before after : σ} {entries : List Entry}
    (walks : Walks member before entries after) {ending : List Char} (ends : EndsNumber ending)
    (first : Bool) {blanks : List Char} (all : Blanks blanks) (fuel : Nat) :
    ∃ behind, Blanks behind ∧
      readMembers member (entries.length + fuel) first before
          (blanks ++ trail first (entries.map Entry.text) ending) =
        readMembers member fuel (first && entries.isEmpty) after (behind ++ ending) := by
  induction walks generalizing first blanks with
  | nil state => exact ⟨blanks, all, by simp [trail]⟩
  | @cons before next after entry entries takes _ ih =>
      rcases takes with ⟨body, between, starts, betweenAll, read⟩
      rcases ih false betweenAll with ⟨behind, behindAll, run⟩
      refine ⟨behind, behindAll, ?_⟩
      have fuel_eq : (entry :: entries).length + fuel = entries.length + fuel + 1 := by
        simp only [List.length_cons]
        omega
      rw [fuel_eq, readMembers, List.map_cons, nextMember_entry first all starts]
      simp only [bind, Except.bind, read _ (endsNumber_trail _ ends), run]
      simp

/-- There are at most as many texts as characters before the end. -/
theorem length_le_length_trail (first : Bool) (texts : List (List Char)) {ending : List Char}
    (ne_nil : ending ≠ []) : texts.length ≤ (trail first texts ending).length := by
  have later : ∀ texts : List (List Char), texts.length < (trail false texts ending).length := by
    intro texts
    induction texts with
    | nil => exact List.length_pos_of_ne_nil ne_nil
    | cons text texts ih =>
        simp only [trail, List.length_cons, List.length_append]
        omega
  cases first with
  | false => exact Nat.le_of_lt (later texts)
  | true =>
      cases texts with
      | nil => exact Nat.zero_le _
      | cons text texts =>
          have others := later texts
          simp only [trail, List.length_cons, List.length_append]
          omega

/-- An object is read over its entries, with fuel left for what ends them. -/
theorem Walks.readObject_eq {before after : σ} {entries : List Entry}
    (walks : Walks member before entries after) {inside ending : List Char} (all : Blanks inside)
    (ends : EndsNumber ending) (ne_nil : ending ≠ []) :
    ∃ behind fuel, Blanks behind ∧
      readObject member before (inside ++ trail true (entries.map Entry.text) ending) =
        readMembers member (fuel + 1) entries.isEmpty after (behind ++ ending) := by
  have enough := length_le_length_trail true (entries.map Entry.text) ne_nil
  rw [List.length_map] at enough
  obtain ⟨fuel, fuel_eq⟩ : ∃ fuel,
      (inside ++ trail true (entries.map Entry.text) ending).length + 1 =
        entries.length + (fuel + 1) := by
    rw [List.length_append]
    exact ⟨inside.length + (trail true (entries.map Entry.text) ending).length - entries.length,
      by omega⟩
  rcases walks.readMembers_eq ends true all (fuel + 1) with ⟨behind, behindAll, run⟩
  refine ⟨behind, fuel, behindAll, ?_⟩
  rw [readObject, fuel_eq, run]
  rfl

/-- An object of entries is read up to its brace. -/
theorem Walks.readObject_closed {before after : σ} {entries : List Entry}
    (walks : Walks member before entries after) {inside : List Char} (all : Blanks inside)
    (rest : List Char) :
    readObject member before (inside ++ trail true (entries.map Entry.text) ('}' :: rest)) =
      .ok (after, rest) := by
  have ends : EndsNumber ('}' :: rest) := endsNumber_cons (by decide)
  rcases walks.readObject_eq all ends nofun with ⟨behind, fuel, behindAll, read⟩
  rw [read, readMembers, nextMember_brace _ behindAll]
  rfl

/-- An object is refused at the first of its entries that is. -/
theorem Walks.readObject_refused {before after : σ} {entries : List Entry} {entry : Entry}
    {failure : Failure} (walks : Walks member before entries after)
    (refuses : Refuses member entry after failure) {inside : List Char} (all : Blanks inside)
    (later : List Entry) (rest : List Char) :
    readObject member before
        (inside ++ trail true ((entries ++ entry :: later).map Entry.text) ('}' :: rest)) =
      .error failure := by
  rcases refuses with ⟨body, starts, refused⟩
  have rest_ends : EndsNumber ('}' :: rest) := endsNumber_cons (by decide)
  have behind_ends := endsNumber_trail (later.map Entry.text) rest_ends
  rw [List.map_append, List.map_cons, trail_append, List.isEmpty_map]
  cases entries with
  | nil =>
      cases walks
      rw [List.map_nil, trail, List.isEmpty_nil, Bool.and_true, readObject, readMembers,
        nextMember_entry true all starts]
      simp only [bind, Except.bind, refused _ behind_ends]
  | cons front others =>
      have ends : EndsNumber (trail false (entry.text :: later.map Entry.text) ('}' :: rest)) :=
        endsNumber_cons (by decide)
      rcases walks.readObject_eq all ends nofun with ⟨behind, fuel, behindAll, read⟩
      simp only [List.isEmpty_cons, Bool.and_false] at read ⊢
      rw [read, readMembers, nextMember_entry false behindAll starts]
      simp only [bind, Except.bind, refused _ behind_ends]

end Walks

/-! ## Drafts of the keys met so far -/

/-- The field does to the draft what the part says: it is set once its key was
met, and reading a text of its value is to have met its key. -/
structure Keeps (held : List String → δ) (field : RecordField δ) (part : Part) : Prop where
  key_eq : field.key = part.key
  isSet_iff : ∀ keys, field.isSet (held keys) = true ↔ part.key ∈ keys
  read : ∀ {text}, part.Tells text → ∃ c tail, skipBlanks text = c :: tail ∧ c ≠ ']' ∧
    ∃ blanks, Blanks blanks ∧ ∀ keys front more, skipBlanks front = c :: (tail ++ more) →
      EndsNumber more →
      field.read (held keys) front = .ok (held (keys ++ [part.key]), blanks ++ more)

/-- A field that is kept as an optional value. -/
theorem Keeps.of {held : List String → δ} {key : String} {get : δ → Option β} {set : δ → β → δ}
    {reader : Reader β} {value : β} (steady : Steady reader)
    (get_held : ∀ keys, get (held keys) = if key ∈ keys then some value else none)
    (set_held : ∀ keys, set (held keys) value = held (keys ++ [key])) :
    Keeps held (.of key get set reader) (.of key reader value) where
  key_eq := rfl
  isSet_iff keys := by
    simp only [RecordField.of, get_held, Part.of]
    split <;> simp [*]
  read := by
    intro text decoded
    rcases steady.of_decode decoded with ⟨c, tail, starts, open_, blanks, all, again⟩
    refine ⟨c, tail, starts, open_, blanks, all, ?_⟩
    intro keys front more same ends
    simp only [RecordField.of, Part.of, again front more same ends, bind, Except.bind, set_held]
    rfl

/-- `held` says which draft is there after some keys: the fields are the parts,
and other keys leave no trace. -/
structure Shape.Holds (shape : Shape δ α) (parts : List Part) (held : List String → δ) : Prop where
  start : shape.start = held []
  fields : List.Forall₂ (Keeps held) shape.fields parts
  other : ∀ key keys, (∀ part ∈ parts, part.key ≠ key) → held (keys ++ [key]) = held keys

variable {shape : Shape δ α} {parts : List Part} {held : List String → δ}

/-- A known key is looked up as the field of its part. -/
theorem find?_of_known {fields : List (RecordField δ)}
    (keep : List.Forall₂ (Keeps held) fields parts) {key : String}
    (known : ∃ part ∈ parts, part.key = key) :
    ∃ field part, fields.find? (fun field => field.key.toList = key.toList) = some field ∧
      Keeps held field part ∧ part ∈ parts ∧ part.key = key := by
  induction keep with
  | nil => simp at known
  | @cons field part fields parts keeps _ ih =>
      by_cases here : part.key = key
      · refine ⟨field, part, ?_, keeps, List.mem_cons_self, here⟩
        simp [keeps.key_eq, here]
      · have later : ∃ part ∈ parts, part.key = key := by simpa [here] using known
        rcases ih later with ⟨found, its, search, keepsFound, member, same⟩
        refine ⟨found, its, ?_, keepsFound, List.mem_cons_of_mem _ member, same⟩
        rw [List.find?_cons_of_neg (by simpa [keeps.key_eq, String.toList_inj] using here)]
        exact search

/-- Any other key is looked up in vain. -/
theorem find?_of_other {fields : List (RecordField δ)}
    (keep : List.Forall₂ (Keeps held) fields parts) {key : String}
    (other : ∀ part ∈ parts, part.key ≠ key) :
    fields.find? (fun field => field.key.toList = key.toList) = none := by
  induction keep with
  | nil => rfl
  | @cons field part fields parts keeps _ ih =>
      have apart := other part List.mem_cons_self
      rw [List.find?_cons_of_neg (by simpa [keeps.key_eq, String.toList_inj] using apart)]
      exact ih fun its member => other its (List.mem_cons_of_mem _ member)

/-! ## One entry -/

/-- An entry whose key was not met yet is met: nothing else changes. -/
theorem Shape.Holds.readMember_fits (holds : shape.Holds parts held) {entry : Entry}
    (fits : entry.Fits parts) {keys : List String}
    (fresh : (∃ part ∈ parts, part.key = entry.key) → entry.key ∉ keys) :
    Takes shape.readMember entry (held keys) (held (keys ++ [entry.key])) := by
  rcases fits.named.exists_body with ⟨body, between, starts, middle, named⟩
  by_cases known : ∃ part ∈ parts, part.key = entry.key
  · rcases find?_of_known holds.fields known with ⟨field, part, search, keeps, member, same⟩
    rcases keeps.read (fits.known part member same) with ⟨c, tail, front, _, blanks, all, read⟩
    have unset : ¬ field.isSet (held keys) = true := by
      rw [keeps.isSet_iff, same]
      exact fresh known
    refine ⟨body, blanks, starts, all, ?_⟩
    intro more ends
    simp only [readMember, named, bind, Except.bind, search, if_neg unset, readColon_blanks middle]
    rw [read keys _ more (skipBlanks_more front) ends, same]
  · have other : ∀ part ∈ parts, part.key ≠ entry.key := by simpa using known
    rcases skipValue_padded (fits.other other) with ⟨blanks, all, skipped⟩
    have search := find?_of_other holds.fields other
    refine ⟨body, blanks, starts, all, ?_⟩
    intro more ends
    simp only [readMember, named, bind, Except.bind, search, readColon_blanks middle,
      skipped more ends, holds.other entry.key keys other]
    rfl

/-- A known key that was met already is refused, whatever comes after it. -/
theorem Shape.Holds.readMember_again (holds : shape.Holds parts held) {entry : Entry}
    (named : entry.Named) {keys : List String} (known : ∃ part ∈ parts, part.key = entry.key)
    (met : entry.key ∈ keys) :
    Refuses shape.readMember entry (held keys) (.mismatch (.duplicateField entry.key)) := by
  rcases named.exists_body with ⟨body, between, starts, _, read⟩
  rcases find?_of_known holds.fields known with ⟨field, part, search, keeps, _, same⟩
  have set : field.isSet (held keys) = true := by
    rw [keeps.isSet_iff, same]
    exact met
  refine ⟨body, starts, ?_⟩
  intro more _
  simp only [readMember, read, bind, Except.bind, search, if_pos set, keeps.key_eq, same]

/-! ## All entries -/

/-- No known key is met twice. -/
def Once (parts : List Part) (keys : List String) : Prop :=
  ∀ part ∈ parts, keys.count part.key ≤ 1

theorem Once.fresh {keys later : List String} {key : String}
    (once : Once parts (keys ++ key :: later)) (known : ∃ part ∈ parts, part.key = key) :
    key ∉ keys := by
  rcases known with ⟨part, member, rfl⟩
  have bound := once part member
  rw [List.count_append, List.count_cons_self] at bound
  apply List.count_eq_zero.mp
  omega

/-- Entries with known keys that are all met once lead to the draft of all keys. -/
theorem Shape.Holds.walks (holds : shape.Holds parts held) {entries : List Entry}
    (fits : ∀ entry ∈ entries, entry.Fits parts) {keys : List String}
    (once : Once parts (keys ++ entries.map Entry.key)) :
    Walks shape.readMember (held keys) entries (held (keys ++ entries.map Entry.key)) := by
  induction entries generalizing keys with
  | nil =>
      rw [List.map_nil, List.append_nil]
      exact .nil _
  | cons entry entries ih =>
      rw [List.map_cons] at once
      have later : Once parts (keys ++ [entry.key] ++ entries.map Entry.key) := by
        simpa using once
      have others := ih (fun other member => fits other (List.mem_cons_of_mem _ member)) later
      rw [List.append_assoc, List.singleton_append] at others
      exact .cons (holds.readMember_fits (fits entry List.mem_cons_self) once.fresh) others

theorem Shape.Holds.walks_from_start (holds : shape.Holds parts held) {entries : List Entry}
    (fits : ∀ entry ∈ entries, entry.Fits parts) (once : Once parts (entries.map Entry.key)) :
    Walks shape.readMember shape.start entries (held (entries.map Entry.key)) := by
  have onceFromStart : Once parts ([] ++ entries.map Entry.key) := once
  rw [holds.start]
  exact holds.walks fits onceFromStart

/-! ## Whole records -/

/-- A text that is read up to some blanks is decoded as what it is read as. -/
theorem decode_of_read {reader : Reader α} {text blanks : List Char} {result : Except Failure α}
    (all : Blanks blanks) (read : reader text = result.map fun value => (value, blanks)) :
    decode reader (String.ofList text) = result := by
  have empty : skipBlanks blanks = [] := List.dropWhile_eq_nil_iff.mpr all
  rw [decode, String.toList_ofList, read]
  cases result with
  | error failure => rfl
  | ok value =>
      simp only [Except.map, bind, Except.bind, empty]
      rfl

/-- **An object is decoded by its known keys alone**, in whatever order they
stand and whatever stands between them. -/
theorem Shape.Holds.decode_object (holds : shape.Holds parts held) {entries : List Entry}
    {text : String} (object : IsObject entries text)
    (fits : ∀ entry ∈ entries, entry.Fits parts) (once : Once parts (entries.map Entry.key)) :
    decode shape.read text = shape.finish (held (entries.map Entry.key)) := by
  rcases object with ⟨before, inside, after, front, middle, back, rfl⟩
  have closed := (holds.walks_from_start fits once).readObject_closed middle after
  apply decode_of_read back
  rw [intercalate_append, Shape.read, skipBlanks_append_cons front (by decide)]
  simp only [closed, bind, Except.bind]
  cases shape.finish (held (entries.map Entry.key)) <;> rfl

/-- **An object is refused at its first entry that is**, whatever comes after
it. -/
theorem Shape.Holds.decode_refused (holds : shape.Holds parts held) {before later : List Entry}
    {entry : Entry} {text : String} (object : IsObject (before ++ entry :: later) text)
    (fits : ∀ entry ∈ before, entry.Fits parts) (once : Once parts (before.map Entry.key))
    {failure : Failure}
    (refuses : Refuses shape.readMember entry (held (before.map Entry.key)) failure) :
    decode shape.read text = .error failure := by
  rcases object with ⟨blanks, inside, after, front, middle, _, rfl⟩
  have walks := holds.walks_from_start fits once
  have refused := walks.readObject_refused refuses middle later after
  rw [decode, String.toList_ofList, intercalate_append, Shape.read,
    skipBlanks_append_cons front (by decide)]
  simp only [refused, bind, Except.bind]

/-- **A known key that is met again is refused**, whatever its value is and
whatever comes after it. -/
theorem Shape.Holds.decode_repeated (holds : shape.Holds parts held) {before later : List Entry}
    {again : Entry} {text : String} (object : IsObject (before ++ again :: later) text)
    (fits : ∀ entry ∈ before, entry.Fits parts) (once : Once parts (before.map Entry.key))
    (named : again.Named) (known : ∃ part ∈ parts, part.key = again.key)
    (met : again.key ∈ before.map Entry.key) :
    decode shape.read text = .error (.mismatch (.duplicateField again.key)) :=
  holds.decode_refused object fits once (holds.readMember_again named known met)

/-! ## Arrays -/

/-- At a character that does not end the array an element is read. -/
theorem Shape.readElements_of_ne (shape : Shape δ α) (field : RecordField δ)
    (fields : List (RecordField δ)) (count : Nat) (draft : δ) {text tail : List Char} {c : Char}
    (starts : skipBlanks text = c :: tail) (open_ : c ≠ ']') :
    shape.readElements (field :: fields) count draft text = (do
      let element ← readComma (count = 0) (c :: tail)
      let (draft, rest) ← field.read draft element
      shape.readElements fields (count + 1) draft rest) := by
  rw [readElements, starts]
  split
  · contradiction
  · next same => exact absurd (List.cons.inj same).1 open_
  · rfl

theorem readComma_of_ne {text tail : List Char} {c : Char} (starts : skipBlanks text = c :: tail)
    (open_ : c ≠ ']') : Shape.readComma false (',' :: text) = .ok (c :: tail) := by
  simp only [Shape.readComma, Bool.false_eq_true, ↓reduceIte, starts]
  split
  · contradiction
  · next same => exact absurd (List.cons.inj same).1 open_
  · rfl

/-- Behind some blanks the next element is read, after its comma if it is not
the first one. -/
theorem Shape.readElements_element (shape : Shape δ α) (field : RecordField δ)
    (fields : List (RecordField δ)) (count : Nat) (draft : δ) {blanks element tail : List Char}
    {c : Char} (all : Blanks blanks) (starts : skipBlanks element = c :: tail) (open_ : c ≠ ']')
    (others : List (List Char)) (ending : List Char) :
    shape.readElements (field :: fields) count draft
        (blanks ++ trail (count = 0) (element :: others) ending) = (do
      let (draft, rest) ← field.read draft (c :: (tail ++ trail false others ending))
      shape.readElements fields (count + 1) draft rest) := by
  have value : skipBlanks (element ++ trail false others ending) =
      c :: (tail ++ trail false others ending) := skipBlanks_more starts
  by_cases first : count = 0
  · have front := (skipBlanks_of_blanks all _).trans value
    rw [decide_eq_true first, trail, shape.readElements_of_ne field fields count _ front open_,
      decide_eq_true first]
    rfl
  · have comma := skipBlanks_append_cons all (show isBlank ',' = false by decide)
      (element ++ trail false others ending)
    rw [decide_eq_false first, trail,
      shape.readElements_of_ne field fields count _ comma (by decide), decide_eq_false first,
      readComma_of_ne value open_]
    rfl

/-- The elements of an array, each a text of its part, are read up to the
bracket. -/
theorem readElements_trail {fields : List (RecordField δ)}
    (keep : List.Forall₂ (Keeps held) fields parts) {elements : List (List Char)}
    (told : List.Forall₂ (fun part element => part.Tells element) parts elements)
    (keys : List String) (count : Nat) {blanks : List Char} (all : Blanks blanks)
    (rest : List Char) :
    shape.readElements fields count (held keys)
        (blanks ++ trail (count = 0) elements (']' :: rest)) =
      .ok (held (keys ++ parts.map Part.key), rest) := by
  induction keep generalizing elements keys count blanks with
  | nil =>
      cases told
      rw [Shape.readElements, trail, Shape.readArrayEnd, skipBlanks_append_cons all (by decide)]
      simp
  | @cons field part fields parts keeps _ ih =>
      cases told with
      | @cons _ element _ elements tells told =>
          have ends : EndsNumber (trail false elements (']' :: rest)) :=
            endsNumber_trail _ (endsNumber_cons (by decide))
          rcases keeps.read tells with ⟨c, tail, starts, open_, behind, behindAll, read⟩
          have solid : skipBlanks (c :: (tail ++ trail false elements (']' :: rest))) =
              c :: (tail ++ trail false elements (']' :: rest)) := by
            rw [← skipBlanks_more starts, skipBlanks_skipBlanks]
          have others := ih told (keys ++ [part.key]) (count + 1) behindAll
          rw [shape.readElements_element field fields count _ all starts open_]
          simp only [bind, Except.bind, read keys _ _ solid ends]
          simpa using others

/-- **The array of the fields in order is decoded like an object of them.** -/
theorem Shape.Holds.decode_array (holds : shape.Holds parts held) {elements : List (List Char)}
    {text : String} (array : IsArray elements text)
    (told : List.Forall₂ (fun part element => part.Tells element) parts elements) :
    decode shape.read text = shape.finish (held (parts.map Part.key)) := by
  rcases array with ⟨before, inside, after, front, middle, back, rfl⟩
  have closed : shape.readElements shape.fields 0 (held [])
      (inside ++ trail true elements (']' :: after)) = .ok (held (parts.map Part.key), after) :=
    readElements_trail holds.fields told [] 0 middle after
  apply decode_of_read back
  rw [intercalate_append, Shape.read, skipBlanks_append_cons front (by decide)]
  simp only [holds.start, closed, bind, Except.bind]
  cases shape.finish (held (parts.map Part.key)) <;> rfl

end JobLedger.Json
