import JobLedger.Status.Parse
import Mathlib.Data.List.Forall2
import Mathlib.Data.List.TakeWhile

/-!
# The texts that name a status

A text names a status when it is the name of the status, its letters in any
case, with white space around it.  `SameLetter` and `NamedBy` say that without
`Char.toUpper` and without `Text.trim`, and `Status.parse` turns out to accept
the texts that name a status and no other.
-/

namespace JobLedger

namespace Text

/-! ## White space at the ends -/

/-- Nothing but white space. -/
def Blank (text : List Char) : Prop :=
  ∀ c ∈ text, isWhiteSpace c = true

/-- No white space at all. -/
def Solid (text : List Char) : Prop :=
  ∀ c ∈ text, isWhiteSpace c = false

theorem dropWhile_blank_append {before : List Char} (blank : Blank before) (rest : List Char) :
    (before ++ rest).dropWhile isWhiteSpace = rest.dropWhile isWhiteSpace :=
  List.dropWhile_append_of_pos blank

/-- White space is dropped from the front up to the first solid character. -/
theorem dropWhile_of_solid {word : List Char} (solid : Solid word) {after : List Char}
    (blank : Blank after) :
    (word ++ after).dropWhile isWhiteSpace = if word = [] then [] else word ++ after := by
  cases word with
  | nil => simpa using (dropWhile_eq_nil_iff_forall after).mpr blank
  | cons c rest =>
    have notSpace := solid c List.mem_cons_self
    simp [notSpace]

/-- A solid word is what trimming leaves of the word with white space around
it. -/
theorem trim_of_solid {before word after : List Char} (blankBefore : Blank before)
    (solid : Solid word) (blankAfter : Blank after) : trim (before ++ word ++ after) = word := by
  have blankNil : Blank [] := by simp [Blank]
  have blankReverse : Blank after.reverse := by simpa [Blank] using blankAfter
  have solidReverse : Solid word.reverse := by simpa [Solid] using solid
  have front := dropWhile_of_solid solid blankAfter
  have back := dropWhile_of_solid solidReverse blankNil
  rw [trim, List.append_assoc, dropWhile_blank_append blankBefore, front]
  split
  · next empty => simp [empty]
  · next inhabited =>
    rw [List.reverse_append, dropWhile_blank_append blankReverse]
    simpa [inhabited] using congrArg List.reverse back

/-- Trimming cuts off nothing but white space. -/
theorem exists_trim_between (text : List Char) :
    ∃ before after, Blank before ∧ Blank after ∧ text = before ++ trim text ++ after := by
  have front := List.takeWhile_append_dropWhile (p := isWhiteSpace) (l := text)
  have back := List.takeWhile_append_dropWhile (p := isWhiteSpace)
    (l := (text.dropWhile isWhiteSpace).reverse)
  have rest := congrArg List.reverse back
  rw [List.reverse_append, List.reverse_reverse] at rest
  refine ⟨text.takeWhile isWhiteSpace,
    ((text.dropWhile isWhiteSpace).reverse.takeWhile isWhiteSpace).reverse, ?_, ?_, ?_⟩
  · intro c member
    exact List.mem_takeWhile_imp member
  · intro c member
    exact List.mem_takeWhile_imp (List.mem_reverse.mp member)
  · rw [List.append_assoc, trim, rest, front]

/-- Dropping white space stops at the first solid character. -/
theorem exists_dropWhile_eq (left right : List Char) (c : Char)
    (solid : ∃ a ∈ left ++ [c], isWhiteSpace a = false) :
    ∃ kept, (left ++ c :: right).dropWhile isWhiteSpace = kept ++ c :: right := by
  induction left with
  | nil =>
    have notSpace : isWhiteSpace c = false := by simpa using solid
    exact ⟨[], by simp [notSpace]⟩
  | cons head tail ih =>
    by_cases space : isWhiteSpace head = true
    · have later : ∃ a ∈ tail ++ [c], isWhiteSpace a = false := by simpa [space] using solid
      rw [List.cons_append, List.dropWhile_cons_of_pos space]
      exact ih later
    · rw [List.cons_append, List.dropWhile_cons_of_neg space]
      exact ⟨head :: tail, rfl⟩

/-- What has a solid character on both sides, or is solid itself, is inside and
stays. -/
theorem mem_trim {left right : List Char} {c : Char}
    (fore : ∃ a ∈ left ++ [c], isWhiteSpace a = false)
    (aft : ∃ b ∈ c :: right, isWhiteSpace b = false) : c ∈ trim (left ++ c :: right) := by
  rcases exists_dropWhile_eq left right c fore with ⟨kept, front⟩
  have mirrored : ∃ b ∈ right.reverse ++ [c], isWhiteSpace b = false := by
    simpa [or_comm] using aft
  rcases exists_dropWhile_eq right.reverse kept.reverse c mirrored with ⟨inner, back⟩
  have reversed : (kept ++ c :: right).reverse = right.reverse ++ c :: kept.reverse := by simp
  rw [trim, front, reversed, back]
  simp

/-! ## Letters up to case -/

/-- A capital letter of ASCII. -/
def IsCapital (c : Char) : Prop :=
  'A'.toNat ≤ c.toNat ∧ c.toNat ≤ 'Z'.toNat

instance (c : Char) : Decidable (IsCapital c) :=
  inferInstanceAs (Decidable (_ ∧ _))

/-- A small letter of ASCII and its capital. -/
def IsSmallOf (small capital : Char) : Prop :=
  IsCapital capital ∧ small.toNat + 'A'.toNat = capital.toNat + 'a'.toNat

/-- One character, or the two cases of one letter of ASCII. -/
def SameLetter (c d : Char) : Prop :=
  c = d ∨ IsSmallOf c d ∨ IsSmallOf d c

/-- Two texts that differ in the case of ASCII letters at most. -/
def SameButCase (first second : List Char) : Prop :=
  List.Forall₂ SameLetter first second

theorem toNat_toUpper (c : Char) :
    c.toUpper.toNat = if 97 ≤ c.toNat ∧ c.toNat ≤ 122 then c.toNat - 32 else c.toNat := by
  unfold Char.toUpper
  split
  · next small =>
    -- the code points wrap round: adding the difference takes 32 away
    have bounds : 97 ≤ c.toNat ∧ c.toNat ≤ 122 := small
    have difference : ('A'.val - 'a'.val).toNat = 2 ^ 32 - 32 := by decide
    have sum := UInt32.toNat_add c.val ('A'.val - 'a'.val)
    rw [difference, Char.toNat_val] at sum
    rw [if_pos bounds, ← Char.toNat_val, sum]
    omega
  · next other =>
    have bounds : ¬ (97 ≤ c.toNat ∧ c.toNat ≤ 122) := other
    rw [if_neg bounds]

theorem sameLetter_iff (c d : Char) : SameLetter c d ↔ c.toUpper = d.toUpper := by
  have points : 'A'.toNat = 65 ∧ 'Z'.toNat = 90 ∧ 'a'.toNat = 97 := by decide
  rw [SameLetter, IsSmallOf, IsSmallOf, IsCapital, IsCapital, ← Char.toNat_inj, ← Char.toNat_inj,
    toNat_toUpper, toNat_toUpper]
  grind

theorem sameButCase_iff (first second : List Char) :
    SameButCase first second ↔ first.map Char.toUpper = second.map Char.toUpper := by
  have letters : SameLetter = fun c d => c.toUpper = d.toUpper := by
    funext c d
    exact propext (sameLetter_iff c d)
  rw [SameButCase, letters, ← List.forall₂_eq_eq_eq]
  simp [List.forall₂_map_left_iff, List.forall₂_map_right_iff]

/-- Only letters of ASCII have a capital of ASCII. -/
theorem ascii_of_isCapital_toUpper {c : Char} (capital : IsCapital c.toUpper) :
    c.toNat < 128 ∧ isWhiteSpace c = false := by
  have bounds : 65 ≤ c.toUpper.toNat ∧ c.toUpper.toNat ≤ 90 := capital
  rw [toNat_toUpper] at bounds
  have letter : (65 ≤ c.toNat ∧ c.toNat ≤ 90) ∨ (97 ≤ c.toNat ∧ c.toNat ≤ 122) := by grind
  constructor
  · omega
  · simp only [isWhiteSpace, Bool.or_eq_false_iff, Bool.and_eq_false_iff, decide_eq_false_iff_not,
      beq_eq_false_iff_ne]
    omega

end Text

namespace Status

open Text

/-! ## Names of statuses -/

/-- A text that names a status: some white space, the name with letters in any
case, some white space. -/
def NamedBy (status : Status) (text : String) : Prop :=
  ∃ before word after : String, text = before ++ word ++ after ∧
    Blank before.toList ∧ SameButCase word.toList status.name.toList ∧ Blank after.toList

theorem isCapital_of_mem_name (status : Status) : ∀ c ∈ status.name.toList, IsCapital c := by
  have all : status.name.toList.all (fun c => IsCapital c) = true := by cases status <;> decide
  simpa using List.all_eq_true.mp all

theorem map_toUpper_name (status : Status) :
    status.name.toList.map Char.toUpper = status.name.toList := by
  cases status <;> decide

theorem sameButCase_name_iff (word : List Char) (status : Status) :
    SameButCase word status.name.toList ↔ word.map Char.toUpper = status.name.toList := by
  rw [sameButCase_iff, map_toUpper_name]

/-- A name has letters of ASCII only, in whatever case. -/
theorem letter_of_sameButCase {word : List Char} {status : Status}
    (same : SameButCase word status.name.toList) :
    ∀ c ∈ word, c.toNat < 128 ∧ isWhiteSpace c = false := by
  intro c member
  rw [sameButCase_name_iff] at same
  have capital : c.toUpper ∈ status.name.toList := same ▸ List.mem_map_of_mem member
  exact ascii_of_isCapital_toUpper (isCapital_of_mem_name status _ capital)

theorem parse_eq_ok_iff_trim (text : String) (status : Status) :
    parse text = .ok status ↔ SameButCase (trim text.toList) status.name.toList := by
  rw [parse_eq_ok_iff, normalize, sameButCase_name_iff]

theorem parse_eq_ok_iff_namedBy (text : String) (status : Status) :
    parse text = .ok status ↔ NamedBy status text := by
  rw [parse_eq_ok_iff_trim]
  constructor
  · intro same
    rcases exists_trim_between text.toList with ⟨before, after, blankBefore, blankAfter, split⟩
    refine ⟨.ofList before, .ofList (trim text.toList), .ofList after, ?_, ?_, ?_, ?_⟩
    · rw [← String.toList_inj]
      simpa using split
    · simpa using blankBefore
    · simpa using same
    · simpa using blankAfter
  · rintro ⟨before, word, after, rfl, blankBefore, same, blankAfter⟩
    have solid : Solid word.toList := fun c member => (letter_of_sameButCase same c member).2
    have trimmed := trim_of_solid blankBefore solid blankAfter
    rw [String.toList_append, String.toList_append, trimmed]
    exact same

/-- What is not accepted is refused as it was given. -/
theorem parse_eq_error_iff (text : String) (violation : Violation) :
    parse text = .error violation ↔
      violation = .unknownStatus text ∧ ∀ status, parse text ≠ .ok status := by
  unfold parse
  split
  · next found search => simp
  · next search => simp [eq_comm]

theorem parse_eq_error_of_mem_trim {text : String} {c : Char} (member : c ∈ trim text.toList)
    (foreign : 128 ≤ c.toNat ∨ isWhiteSpace c = true) :
    parse text = .error (.unknownStatus text) := by
  rw [parse_eq_error_iff]
  refine ⟨rfl, ?_⟩
  intro status parsed
  rw [parse_eq_ok_iff_trim] at parsed
  have letter := letter_of_sameButCase parsed c member
  rcases foreign with beyond | space
  · omega
  · simp [letter.2] at space

theorem namedBy_unique {text : String} {first second : Status} (one : NamedBy first text)
    (other : NamedBy second text) : first = second := by
  rw [← parse_eq_ok_iff_namedBy] at one other
  rw [one] at other
  exact Except.ok.inj other

/-- **A text is accepted exactly when it names a status.**  The text may have
white space around the name and the letters of the name may be in any case; any
other text is refused, and the refusal carries it unchanged.  No text names two
statuses.  A text is refused when a character beyond ASCII is in it that is not
white space, be it one whose capital is a letter of ASCII, and when white space
stands between its characters.  Every spelling of a name is read back. -/
theorem parse_accepts_names :
    (∀ text status, parse text = .ok status ↔ NamedBy status text) ∧
    (∀ text, parse text = .error (.unknownStatus text) ↔ ∀ status, ¬ NamedBy status text) ∧
    (∀ text first second, NamedBy first text → NamedBy second text → first = second) ∧
    (∀ text c, c ∈ text.toList → 128 ≤ c.toNat → isWhiteSpace c = false →
      parse text = .error (.unknownStatus text)) ∧
    (∀ text, Char.ofNat 0x17F ∈ text.toList ∨ Char.ofNat 0x131 ∈ text.toList →
      parse text = .error (.unknownStatus text)) ∧
    (∀ before gap after, isWhiteSpace gap = true → ¬ Blank before.toList → ¬ Blank after.toList →
      parse (before ++ String.singleton gap ++ after) =
        .error (.unknownStatus (before ++ String.singleton gap ++ after))) ∧
    (∀ (status : Status) (before word after : String), Blank before.toList →
      SameButCase word.toList status.name.toList → Blank after.toList →
      parse (before ++ word ++ after) = .ok status) := by
  have beyond : ∀ (text : String) (c : Char), c ∈ text.toList → 128 ≤ c.toNat →
      isWhiteSpace c = false → parse text = .error (.unknownStatus text) := by
    intro text c member high solid
    rcases List.append_of_mem member with ⟨left, right, split⟩
    have kept : c ∈ trim (left ++ c :: right) :=
      mem_trim ⟨c, by simp, solid⟩ ⟨c, by simp, solid⟩
    rw [← split] at kept
    exact parse_eq_error_of_mem_trim kept (.inl high)
  refine ⟨parse_eq_ok_iff_namedBy, ?_, fun _ _ _ => namedBy_unique, beyond, ?_, ?_, ?_⟩
  · intro text
    simp [parse_eq_error_iff, parse_eq_ok_iff_namedBy]
  · rintro text (longS | dotlessI)
    · exact beyond text _ longS (by decide) (by decide)
    · exact beyond text _ dotlessI (by decide) (by decide)
  · intro before gap after space fore aft
    have inside : gap ∈ trim (before.toList ++ gap :: after.toList) := by
      apply mem_trim
      · simpa [Blank, space] using fore
      · simpa [Blank, space] using aft
    have member : gap ∈ trim (before ++ String.singleton gap ++ after).toList := by
      simpa using inside
    exact parse_eq_error_of_mem_trim member (.inr space)
  · intro status before word after blankBefore same blankAfter
    apply (parse_eq_ok_iff_namedBy _ status).mpr
    exact ⟨before, word, after, rfl, blankBefore, same, blankAfter⟩

example : parse "\u2003cAnCeLlInG\t" = .ok .cancelling := by decide

example : parse " DONE" = .error (.unknownStatus " DONE") := by decide

end Status

end JobLedger
