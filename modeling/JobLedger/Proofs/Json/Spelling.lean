import JobLedger.Json.Reader

/-!
# Spellings of values

A text spells a value for a reader if the reader takes exactly that text from
the front of every text in which the value ends there.  What is written of a
string, of a name, of a boolean and of an integer spells it.

A number has no mark at its end, so what follows it must not go on with it.
All spellings are stated for such a continuation; a whole text has none, and
within an object it is a comma or a brace.
-/

namespace JobLedger.Json

/-- A text in front of which a number may end. -/
def EndsNumber : List Char → Prop
  | [] => True
  | c :: _ => c.isDigit = false ∧ c ≠ '.' ∧ c ≠ 'e' ∧ c ≠ 'E'

/-- For `reader`, the value ends where `text` ends. -/
def Spells {α : Type} (reader : Reader α) (text : List Char) (value : α) : Prop :=
  ∀ rest, EndsNumber rest → reader (text ++ rest) = .ok (value, rest)

/-- A text that spells a value and holds nothing else is read as that value. -/
theorem Spells.read_all {α : Type} {reader : Reader α} {text : List Char} {value : α}
    (spells : Spells reader text value) : reader text = .ok (value, []) := by
  have whole := spells [] trivial
  rwa [List.append_nil] at whole

/-- A value that is made of another one is spelled like that. -/
theorem Spells.map {α β : Type} {reader : Reader α} {text : List Char} {value : α}
    (spells : Spells reader text value) (make : α → β) :
    Spells (fun text => do
      let (value, rest) ← reader text
      return (make value, rest)) text (make value) := by
  intro rest ends
  simp only [spells rest ends]
  rfl

/-- Blanks are passed over up to the first character that is none. -/
theorem skipBlanks_cons {c : Char} (solid : isBlank c = false) (rest : List Char) :
    skipBlanks (c :: rest) = c :: rest := by
  simp [skipBlanks, solid]

/-! ## Strings and names -/

/-- What is written of a text spells it, whatever it is wanted for. -/
theorem readString_writeText (wanted : Wanted) (text : List Char) :
    Spells (readString wanted) (writeText text) text := by
  intro rest _
  have shape : writeText text ++ rest = '"' :: (text.flatMap escape ++ '"' :: rest) := by
    simp [writeText]
  rw [shape, readString, skipBlanks_cons (by decide)]
  exact readText_flatMap_escape text rest

theorem readName_spells (name : String) : Spells readName (writeText name.toList) name := by
  have spells := (readString_writeText .text name.toList).map String.ofList
  rw [String.ofList_toList] at spells
  exact spells

/-! ## Cases of an enumeration -/

/-- The cases that are listed are all there are, and no two have one name. -/
structure Cases.Faithful {α : Type} (cases : Cases α) : Prop where
  mem_all : ∀ value, value ∈ cases.all
  name_injective : ∀ first second, cases.name first = cases.name second → first = second

variable {α : Type} {cases : Cases α}

/-- A case is found under its name. -/
theorem Cases.Faithful.find_name (faithful : cases.Faithful) (value : α) :
    cases.find (cases.name value).toList = .ok value := by
  have found : cases.all.find? (fun other => (cases.name other).toList = (cases.name value).toList)
      = some value := by
    cases search : cases.all.find?
        fun other => (cases.name other).toList = (cases.name value).toList with
    | none =>
        have missing := List.find?_eq_none.mp search value (faithful.mem_all value)
        simp at missing
    | some other =>
        have same := List.find?_some search
        simp only [decide_eq_true_eq, String.toList_inj] at same
        rw [faithful.name_injective other value same]
  simp only [Cases.find, found]

/-- The name of a case spells it. -/
theorem Cases.Faithful.readCase_spells (faithful : cases.Faithful) (value : α) :
    Spells (readCase cases) (writeText (cases.name value).toList) value := by
  intro rest _
  have shape : writeText (cases.name value).toList ++ rest =
      '"' :: ((cases.name value).toList.flatMap escape ++ '"' :: rest) := by
    simp [writeText]
  rw [shape, readCase, skipBlanks_cons (by decide)]
  simp only [readText_flatMap_escape]
  change (cases.find _ >>= fun value => pure (value, rest)) = _
  rw [faithful.find_name]
  rfl

/-! ## Booleans -/

theorem readBoolean_spells (value : Bool) :
    Spells readBoolean (if value then "true" else "false").toList value := by
  intro rest _
  cases value <;> rfl

/-! ## Digits -/

/-- The digits before the point of a number: at least one, and no zero in front
of others. -/
structure IsWhole (digits : List Char) : Prop where
  ne_nil : digits ≠ []
  isDigit : ∀ c ∈ digits, c.isDigit = true
  no_leading_zero : digits.head? = some '0' → digits.length ≤ 1

theorem eq_zero_of_digitChar : ∀ n : Fin 10, n.val.digitChar = '0' → n = 0 := by
  decide

/-- The digits of a number start with a zero only if the number is zero. -/
theorem eq_zero_of_head?_toDigits (n : Nat) (zero : (Nat.toDigits 10 n).head? = some '0') :
    n = 0 := by
  induction n using Nat.strongRecOn with
  | _ n ih =>
      by_cases small : n < 10
      · have digit : n.digitChar = '0' := by
          simpa [Nat.toDigits_of_lt_base small] using zero
        exact congrArg Fin.val (eq_zero_of_digitChar ⟨n, small⟩ digit)
      · have tens : 10 ≤ n := Nat.le_of_not_lt small
        have front : (Nat.toDigits 10 (n / 10)).head?.isSome = true := by
          simp [Nat.toDigits_ne_nil]
        rw [Nat.toDigits_of_base_le (by decide) tens, List.head?_append,
          Option.or_of_isSome front] at zero
        have none_left := ih (n / 10) (by omega) zero
        omega

theorem isWhole_writeNat (n : Nat) : IsWhole (writeNat n) := by
  constructor
  · exact Nat.toDigits_ne_nil
  · intro c member
    exact Nat.isDigit_of_mem_toDigits (by decide) (by decide) member
  · intro zero
    rw [writeNat, eq_zero_of_head?_toDigits n zero]
    decide

/-- A text that does not go on with digits. -/
def NoDigit (text : List Char) : Prop :=
  ∀ c ∈ text.head?, c.isDigit = false

theorem EndsNumber.noDigit {text : List Char} (ends : EndsNumber text) : NoDigit text := by
  cases text with
  | nil => exact nofun
  | cons c text => simpa [NoDigit] using ends.1

/-- Digits are taken up to the first character that is none. -/
theorem splitDigits_append {digits rest : List Char} (all : ∀ c ∈ digits, c.isDigit = true)
    (stops : NoDigit rest) : splitDigits (digits ++ rest) = (digits, rest) := by
  have none_left : rest.takeWhile Char.isDigit = [] ∧ rest.dropWhile Char.isDigit = rest := by
    cases rest with
    | nil => exact ⟨rfl, rfl⟩
    | cons c rest =>
        have stop : c.isDigit = false := by simpa [NoDigit] using stops
        simp [stop]
  rw [splitDigits, List.takeWhile_append_of_pos all, List.dropWhile_append_of_pos all,
    none_left.1, none_left.2, List.append_nil]

variable {digits rest : List Char}

theorem readDigits_append (ne_nil : digits ≠ []) (all : ∀ c ∈ digits, c.isDigit = true)
    (stops : NoDigit rest) : readDigits (digits ++ rest) = .ok (digits, rest) := by
  rw [readDigits, splitDigits_append all stops]
  cases digits with
  | nil => contradiction
  | cons c others => rfl

theorem readWhole_append (whole : IsWhole digits) (stops : NoDigit rest) :
    readWhole (digits ++ rest) = .ok (digits, rest) := by
  obtain ⟨ne_nil, isDigit, no_leading_zero⟩ := whole
  have allowed : ¬ (digits.head? = some '0' ∧ 1 < digits.length) := by
    rintro ⟨zero, more⟩
    have := no_leading_zero zero
    omega
  rw [readWhole, readDigits_append ne_nil isDigit stops]
  exact if_neg allowed

theorem readFraction_of_endsNumber (ends : EndsNumber rest) :
    readFraction rest = .ok (none, rest) := by
  cases rest with
  | nil => rfl
  | cons c rest =>
      unfold readFraction
      split
      · next same =>
        cases same
        exact absurd rfl ends.2.1
      · rfl

theorem readExponent_of_endsNumber (ends : EndsNumber rest) :
    readExponent rest = .ok (none, rest) := by
  cases rest with
  | nil => rfl
  | cons c rest =>
      obtain ⟨_, _, lower, upper⟩ := ends
      simp [readExponent, lower, upper]

/-- Digits alone are a literal without fraction and exponent. -/
theorem readLiteral_append (negative : Bool) (whole : IsWhole digits) (ends : EndsNumber rest) :
    readLiteral negative (digits ++ rest) =
      .ok ({ negative, whole := digits, fraction := none, exponent := none }, rest) := by
  simp only [readLiteral, readWhole_append whole ends.noDigit, bind, Except.bind,
    readFraction_of_endsNumber ends, readExponent_of_endsNumber ends]
  rfl

/-! ## Integers -/

theorem IntegerRange.contains_iff (range : IntegerRange) (value : Int) :
    range.contains value = true ↔ range.least ≤ value ∧ value ≤ range.greatest := by
  simp [contains]

/-- Whatever lies within the bounds is kept exactly. -/
structure IntegerRange.IsExact (range : IntegerRange) : Prop where
  least : Int64.minValue.toInt ≤ range.least
  greatest : range.greatest < UInt64.size

theorem IntegerRange.unsigned32_isExact : unsigned32.IsExact := by
  constructor <;> decide

theorem IntegerRange.unsigned64_isExact : unsigned64.IsExact := by
  constructor <;> decide

theorem IntegerRange.signed64_isExact : signed64.IsExact := by
  constructor <;> decide

theorem readNumeral_writeNat {n : Nat} (exact : n < UInt64.size) (ends : EndsNumber rest) :
    readNumeral false (writeNat n ++ rest) = .ok (.integer n, rest) := by
  have value : Nat.ofDigitChars 10 (writeNat n) 0 = n := Nat.ofDigitChars_ten_toDigits
  simp only [readNumeral, readLiteral_append false (isWhole_writeNat n) ends, bind, Except.bind,
    Literal.value, Literal.isIntegral, value, exact]
  rfl

theorem readNumeral_writeNat_negative {n : Nat} (exact : n + 1 ≤ 1 <<< 63)
    (ends : EndsNumber rest) :
    readNumeral true (writeNat (n + 1) ++ rest) = .ok (.integer (.negSucc n), rest) := by
  have value : Nat.ofDigitChars 10 (writeNat (n + 1)) 0 = n + 1 := Nat.ofDigitChars_ten_toDigits
  simp only [readNumeral, readLiteral_append true (isWhole_writeNat (n + 1)) ends, bind,
    Except.bind, Literal.value, Literal.isIntegral, value, Nat.succ_pos, exact]
  rfl

/-- A digit is neither blank nor a minus sign. -/
theorem not_blank_of_isDigit {c : Char} (digit : c.isDigit = true) :
    isBlank c = false ∧ c ≠ '-' := by
  constructor
  · cases blank : isBlank c with
    | false => rfl
    | true =>
        simp only [isBlank, Bool.or_eq_true, decide_eq_true_eq] at blank
        rcases blank with ((rfl | rfl) | rfl) | rfl <;> contradiction
  · rintro rfl
    contradiction

/-- A text that starts with a digit is read as a number without a sign. -/
theorem readInteger_of_isDigit {c : Char} (digit : c.isDigit = true) (range : IntegerRange)
    (rest : List Char) :
    readInteger range (c :: rest) = do
      let (value, rest) ← readNumeral false (c :: rest)
      let integer ← inRange range value
      return (integer, rest) := by
  obtain ⟨solid, unsigned⟩ := not_blank_of_isDigit digit
  rw [readInteger, skipBlanks_cons solid]
  split
  · next same => exact absurd (List.cons.inj same).1 unsigned
  · next same =>
    obtain ⟨rfl, rfl⟩ := List.cons.inj same
    rw [if_pos digit]
  · contradiction

/-- What is written of an integer within the bounds spells it. -/
theorem readInteger_writeInt {range : IntegerRange} (exact : range.IsExact) {value : Int}
    (within : range.contains value = true) :
    Spells (readInteger range) (writeInt value) value := by
  intro rest ends
  have accepted : inRange range (.integer value) = .ok value := by simp [inRange, within]
  obtain ⟨above, below⟩ := (range.contains_iff value).mp within
  have least := Int.le_trans exact.least above
  have greatest := Int.lt_of_le_of_lt below exact.greatest
  cases value with
  | ofNat n =>
      have fits : n < UInt64.size := by
        rw [Int.ofNat_eq_natCast] at greatest
        omega
      obtain ⟨digit, others, digits⟩ : ∃ digit others, writeNat n = digit :: others :=
        List.exists_cons_of_ne_nil (isWhole_writeNat n).ne_nil
      have isDigit : digit.isDigit = true :=
        (isWhole_writeNat n).isDigit digit (digits ▸ List.mem_cons_self)
      have numeral := readNumeral_writeNat fits ends
      rw [digits, List.cons_append] at numeral
      rw [writeInt, digits, List.cons_append, readInteger_of_isDigit isDigit, numeral]
      simp only [bind, Except.bind]
      rw [← Int.ofNat_eq_natCast, accepted]
      rfl
  | negSucc n =>
      have fits : n + 1 ≤ 1 <<< 63 := by
        have bound : Int64.minValue.toInt = -(1 <<< 63 : Nat) := by decide
        rw [bound] at least
        omega
      rw [readInteger, writeInt, List.cons_append, skipBlanks_cons (by decide)]
      simp only [readNumeral_writeNat_negative fits ends, bind, Except.bind, accepted]
      rfl

end JobLedger.Json
