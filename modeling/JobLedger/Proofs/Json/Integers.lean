import JobLedger.Proofs.Json.Places
import JobLedger.Proofs.Number.Overflow

/-!
# Integers are read exactly or not at all

The digits of an integer are gathered into 64 bits as long as they fit.  If all
of them do, and the sign allows it, the integer is kept as it is; otherwise the
text is a real, or too large for one.  Only integers that were kept can be in
range, so what is read is never a rounded or a shortened number.
-/

namespace JobLedger.Json

open Number (Binary64)

variable {digits rest : List Char}

/-! ## Digits -/

theorem toNat_of_isDigit {c : Char} (digit : c.isDigit = true) :
    48 ≤ c.toNat ∧ c.toNat ≤ 57 := by
  simpa [Char.isDigit, UInt32.le_iff_toNat_le] using digit

/-- A digit is the digit of some number below ten. -/
theorem exists_digitChar {c : Char} (digit : c.isDigit = true) :
    ∃ n, n < 10 ∧ c.toNat - '0'.toNat = n ∧ c = n.digitChar := by
  rcases toNat_of_isDigit digit with ⟨least, greatest⟩
  have zero : '0'.toNat = 48 := rfl
  have small : c.toNat - '0'.toNat < 10 := by omega
  refine ⟨c.toNat - '0'.toNat, small, rfl, ?_⟩
  apply Char.toNat_inj.mp
  rw [Nat.toNat_digitChar_of_lt_ten small]
  omega

/-- Digits without a zero in front of others are what is written of their number. -/
theorem writeNat_ofDigitChars (whole : IsWhole digits) :
    writeNat (Nat.ofDigitChars 10 digits 0) = digits := by
  rw [writeNat]
  induction digits using List.reverseRecOn with
  | nil => exact absurd rfl whole.ne_nil
  | append_singleton front digit ih =>
      rcases exists_digitChar (whole.isDigit digit (by simp)) with ⟨n, small, n_eq, rfl⟩
      rw [Nat.ofDigitChars_append, Nat.ofDigitChars_cons, Nat.ofDigitChars_nil, n_eq]
      cases front with
      | nil => simp [Nat.toDigits_of_lt_base small]
      | cons first others =>
          have zeroless : first ≠ '0' := by
            rintro rfl
            have short := whole.no_leading_zero rfl
            simp at short
          have before : IsWhole (first :: others) := by
            constructor
            · exact List.cons_ne_nil _ _
            · intro c member
              exact whole.isDigit c (List.mem_append_left _ member)
            · intro zero
              exact absurd (Option.some.inj zero) zeroless
          have written := ih before
          have positive : 0 < Nat.ofDigitChars 10 (first :: others) 0 := by
            apply Nat.pos_of_ne_zero
            intro zero
            rw [zero] at written
            exact zeroless (List.cons.inj written).1.symm
          rw [← Nat.toDigits_append_toDigits (by decide) positive small, written,
            Nat.toDigits_of_lt_base small]

/-- Digits come to less than the power of ten that has one digit more. -/
theorem ofDigitChars_lt (all : ∀ c ∈ digits, c.isDigit = true) :
    Nat.ofDigitChars 10 digits 0 < Nat.pow 10 digits.length := by
  induction digits using List.reverseRecOn with
  | nil => exact Nat.one_pos
  | append_singleton front digit ih =>
      rcases exists_digitChar (all digit (by simp)) with ⟨n, small, n_eq, rfl⟩
      have before := ih fun c member => all c (List.mem_append_left _ member)
      have power : Nat.pow 10 (front.length + 1) = Nat.pow 10 front.length * 10 := rfl
      rw [Nat.ofDigitChars_append, Nat.ofDigitChars_cons, Nat.ofDigitChars_nil, n_eq,
        List.length_append, List.length_singleton, power]
      omega

/-! ## Gathering -/

/-- What is gathered of some digits and what is left over: nothing, unless one
digit more would not fit. -/
structure Gathers (start : Nat) (digits : List Char) (significand : Nat) (left : List Char) :
    Prop where
  fits : significand < UInt64.size
  full : left.length = 0 ∨ UInt64.size ≤ significand * 10 + 9
  less : Nat.ofDigitChars 10 left 0 < Nat.pow 10 left.length
  value_eq : Nat.ofDigitChars 10 digits start =
    significand * Nat.pow 10 left.length + Nat.ofDigitChars 10 left 0

theorem gathers_gather {start : Nat} (fits : start < UInt64.size)
    (all : ∀ c ∈ digits, c.isDigit = true) :
    Gathers start digits (gather start digits).1 (gather start digits).2 := by
  induction digits generalizing start with
  | nil => exact ⟨fits, .inl rfl, Nat.one_pos, by simp [gather]⟩
  | cons digit digits ih =>
      rcases exists_digitChar (all digit List.mem_cons_self) with ⟨n, small, n_eq, _⟩
      have others : ∀ c ∈ digits, c.isDigit = true := fun c member =>
        all c (List.mem_cons_of_mem _ member)
      rw [gather, n_eq]
      split
      · next more =>
        have gathers := ih more others
        rw [Nat.mul_comm start 10] at gathers ⊢
        constructor
        · exact gathers.fits
        · exact gathers.full
        · exact gathers.less
        · rw [Nat.ofDigitChars_cons, n_eq]
          exact gathers.value_eq
      · next full =>
        constructor
        · exact fits
        · right
          omega
        · exact ofDigitChars_lt all
        · rw [Nat.ofDigitChars_eq_ofDigitChars_zero, Nat.mul_comm]
          rfl

/-! ## Verdicts -/

/-- What a reader of integers makes of a number. -/
def Literal.verdict (literal : Literal) (range : IntegerRange) : Except Failure Int :=
  literal.value >>= inRange range

theorem Literal.real_eq (literal : Literal) :
    literal.real = (Binary64.ofDecimal literal.decimal.1 literal.decimal.2).elim
      (.error .malformed) fun magnitude => .ok (.real literal.negative magnitude) := by
  rw [Literal.real]
  rcases literal.decimal with ⟨significand, power⟩
  dsimp only
  cases Binary64.ofDecimal significand power <;> rfl

/-- A real is refused: it does not fit, or it is too large. -/
theorem Literal.verdict_of_value_eq_real {literal : Literal} (real : literal.value = literal.real)
    (range : IntegerRange) :
    (literal.real = .error .malformed ∧ literal.verdict range = .error .malformed) ∨
      (∃ numeral, literal.real = .ok numeral) ∧
        ∃ mismatch, literal.verdict range = .error (.mismatch mismatch) := by
  rw [verdict, real, real_eq]
  cases Binary64.ofDecimal literal.decimal.1 literal.decimal.2 with
  | none => exact .inl ⟨rfl, rfl⟩
  | some magnitude => exact .inr ⟨⟨_, rfl⟩, _, rfl⟩

theorem Literal.value_of_not_isIntegral {literal : Literal} (parts : literal.isIntegral = false) :
    literal.value = literal.real := by
  simp [Literal.value, parts]

/-- A number with a fraction or an exponent is in no range. -/
theorem Literal.verdict_of_not_isIntegral {literal : Literal} (parts : literal.isIntegral = false)
    (range : IntegerRange) : ∃ failure, literal.verdict range = .error failure := by
  rcases literal.verdict_of_value_eq_real (value_of_not_isIntegral parts) range with
    ⟨_, malformed⟩ | ⟨_, mismatch, refused⟩
  · exact ⟨_, malformed⟩
  · exact ⟨_, refused⟩

/-- The sign in front of a number. -/
def signText (negative : Bool) : List Char :=
  if negative then ['-'] else []

/-- An integer as it is written: perhaps a minus sign, and digits, of which no
zero stands in front of others. -/
structure IntegerLiteral where
  negative : Bool
  digits : List Char
  whole : IsWhole digits

namespace IntegerLiteral

variable (integer : IntegerLiteral)

/-- The number without its sign. -/
def size : Nat :=
  Nat.ofDigitChars 10 integer.digits 0

def value : Int :=
  if integer.negative then -integer.size else integer.size

def text : List Char :=
  signText integer.negative ++ integer.digits

/-- The literal that is read of the text. -/
def literal : Literal where
  negative := integer.negative
  whole := integer.digits
  fraction := none
  exponent := none

/-- Within the bounds, and not a zero with a minus sign. -/
def InRange (range : IntegerRange) : Prop :=
  (range.least ≤ integer.value ∧ integer.value ≤ range.greatest) ∧
    ¬ (integer.negative = true ∧ integer.size = 0)

instance (range : IntegerRange) : Decidable (integer.InRange range) :=
  inferInstanceAs (Decidable (_ ∧ _))

/-- Whether the integer is kept as it is. -/
def Kept : Prop :=
  if integer.negative then 0 < integer.size ∧ integer.size ≤ 1 <<< 63
  else integer.size < UInt64.size

theorem value_of_kept (kept : integer.Kept) :
    integer.literal.value = .ok (.integer integer.value) := by
  rcases integer with ⟨negative, digits, whole⟩
  cases negative
  · exact if_pos kept
  · exact if_pos kept

theorem value_of_not_kept (exceeds : ¬ integer.Kept) :
    integer.literal.value = integer.literal.real := by
  rcases integer with ⟨negative, digits, whole⟩
  cases negative
  · exact if_neg exceeds
  · exact if_neg exceeds

theorem size_lt_of_kept (kept : integer.Kept) : integer.size < Binary64.leastTooLarge := by
  have bound : UInt64.size ≤ Binary64.leastTooLarge := by decide +kernel
  have half : 1 <<< 63 < UInt64.size := by decide
  unfold Kept at kept
  split at kept
  · exact Nat.lt_of_le_of_lt kept.2 (Nat.lt_of_lt_of_le half bound)
  · exact Nat.lt_of_lt_of_le kept bound

/-- The digits are too large for a real from the least such number on. -/
theorem real_eq_malformed_iff :
    integer.literal.real = .error .malformed ↔ Binary64.leastTooLarge ≤ integer.size := by
  have gathers := gathers_gather (show 0 < UInt64.size by decide) integer.whole.isDigit
  have decimal : integer.literal.decimal = ((gather 0 integer.digits).1,
      ((gather 0 integer.digits).2.length : Int)) := by
    simp [Literal.decimal, literal, gather, Literal.power]
  rw [size, gathers.value_eq,
    ← Binary64.ofDecimal_eq_none_iff gathers.fits gathers.full gathers.less, Literal.real_eq,
    decimal]
  cases Binary64.ofDecimal (gather 0 integer.digits).1 (gather 0 integer.digits).2.length <;> simp

variable {range : IntegerRange}

theorem kept_of_inRange {integer : IntegerLiteral} (exact : range.IsExact)
    (within : integer.InRange range) : integer.Kept := by
  rcases within with ⟨⟨least, greatest⟩, nonzero⟩
  have lowest := Int.le_trans exact.least least
  have highest := Int.lt_of_le_of_lt greatest exact.greatest
  have bound : Int64.minValue.toInt = -(1 <<< 63 : Nat) := by decide
  rw [bound] at lowest
  unfold Kept
  unfold value at lowest highest
  split
  · next negative =>
    rw [if_pos negative] at lowest
    have apart : integer.size ≠ 0 := fun zero => nonzero ⟨negative, zero⟩
    omega
  · next positive =>
    rw [if_neg positive] at highest
    omega

/-- An integer in range is taken as it is. -/
theorem verdict_of_inRange {integer : IntegerLiteral} (exact : range.IsExact)
    (within : integer.InRange range) : integer.literal.verdict range = .ok integer.value := by
  have accepted := (range.contains_iff integer.value).mpr within.1
  rw [Literal.verdict, integer.value_of_kept (kept_of_inRange exact within)]
  simp [bind, Except.bind, inRange, accepted]

/-- Any other integer is refused: it does not fit, or it is too large. -/
theorem verdict_of_not_inRange {integer : IntegerLiteral} (outside : ¬ integer.InRange range) :
    (integer.size < Binary64.leastTooLarge ∧
        ∃ mismatch, integer.literal.verdict range = .error (.mismatch mismatch)) ∨
      (Binary64.leastTooLarge ≤ integer.size ∧
        integer.literal.verdict range = .error .malformed) := by
  by_cases kept : integer.Kept
  · left
    refine ⟨integer.size_lt_of_kept kept, ?_⟩
    have nonzero : ¬ (integer.negative = true ∧ integer.size = 0) := by
      rintro ⟨negative, zero⟩
      rw [Kept, if_pos negative, zero] at kept
      exact absurd kept.1 (Nat.lt_irrefl 0)
    have excluded : ¬ range.contains integer.value = true := fun contained =>
      outside ⟨(range.contains_iff integer.value).mp contained, nonzero⟩
    refine ⟨.outOfRange integer.value range, ?_⟩
    rw [Literal.verdict, integer.value_of_kept kept]
    simp [bind, Except.bind, inRange, excluded]
  · have real := integer.value_of_not_kept kept
    have limit := integer.real_eq_malformed_iff
    rcases integer.literal.verdict_of_value_eq_real real range with
      ⟨malformed, refused⟩ | ⟨⟨numeral, found⟩, refused⟩
    · exact .inr ⟨limit.mp malformed, refused⟩
    · left
      refine ⟨?_, refused⟩
      apply Nat.lt_of_not_le
      intro large
      rw [limit.mpr large] at found
      contradiction

/-- But for a zero with a minus sign, an integer is what is written of its value. -/
theorem text_eq_writeInt {integer : IntegerLiteral}
    (nonzero : ¬ (integer.negative = true ∧ integer.size = 0)) :
    integer.text = writeInt integer.value := by
  have written := writeNat_ofDigitChars integer.whole
  rcases integer with ⟨negative, digits, whole⟩
  cases negative with
  | false => exact written.symm
  | true =>
      simp only [size, true_and] at nonzero
      rcases Nat.exists_eq_add_one_of_ne_zero nonzero with ⟨n, size_eq⟩
      rw [size_eq] at written
      have value_eq : value ⟨true, digits, whole⟩ = .negSucc n := by
        rw [value, if_pos rfl, size, size_eq]
        rfl
      rw [value_eq, writeInt, written]
      rfl

/-- An integer in a range that starts at zero is what is written of a natural
number. -/
theorem natural_of_inRange {integer : IntegerLiteral} (least : range.least = 0)
    (within : integer.InRange range) :
    ∃ n : Nat, integer.value = n ∧ (n : Int) ≤ range.greatest ∧ writeNat n = integer.text := by
  rcases within with ⟨⟨positive, greatest⟩, nonzero⟩
  rw [least] at positive
  rcases Int.eq_ofNat_of_zero_le positive with ⟨n, value_eq⟩
  rw [value_eq] at greatest
  rw [text_eq_writeInt nonzero, value_eq]
  exact ⟨n, rfl, greatest, rfl⟩

end IntegerLiteral

/-! ## Numbers of the grammar -/

/-- A fraction is read up to its end. -/
theorem exists_readFraction {fraction : List Char} (isFraction : IsFraction fraction) :
    ∃ found, (found.isNone = true ↔ fraction = []) ∧ ∀ rest, NoDigit rest →
      rest.head? ≠ some '.' → readFraction (fraction ++ rest) = .ok (found, rest) := by
  cases isFraction with
  | absent =>
      refine ⟨none, by simp, ?_⟩
      intro rest _ noPoint
      rw [List.nil_append, readFraction.eq_def]
      split
      · next after => exact absurd rfl noPoint
      · rfl
  | @present digits isDigits =>
      refine ⟨some digits, by simp, ?_⟩
      intro rest stops _
      rw [List.cons_append, readFraction, readDigits_append isDigits.1 isDigits.2 stops]
      rfl

/-- An exponent is read up to its end. -/
theorem exists_readExponent {exponent : List Char} (isExponent : IsExponent exponent) :
    ∃ found, (found.isNone = true ↔ exponent = []) ∧ ∀ rest, EndsNumber rest →
      readExponent (exponent ++ rest) = .ok (found, rest) := by
  cases isExponent with
  | absent => exact ⟨none, by simp, fun rest ends => readExponent_of_endsNumber ends⟩
  | @present mark sign digits isMark isSign isDigits =>
      rcases List.exists_cons_of_ne_nil isDigits.1 with ⟨first, others, rfl⟩
      have signed : ∃ below, ∀ rest,
          splitSign (sign ++ (first :: others) ++ rest) = (below, first :: (others ++ rest)) := by
        rcases isSign with rfl | rfl | rfl
        · have digit := isDigits.2 first List.mem_cons_self
          have plus : first ≠ '+' := by
            rintro rfl
            contradiction
          have minus : first ≠ '-' := by
            rintro rfl
            contradiction
          exact ⟨false, fun rest => by simp [splitSign, plus, minus]⟩
        · exact ⟨false, fun rest => rfl⟩
        · exact ⟨true, fun rest => rfl⟩
      rcases signed with ⟨below, split⟩
      refine ⟨some (below, first :: others), by simp, ?_⟩
      intro rest ends
      rw [List.cons_append, readExponent_of_mark isMark, split]
      simp only [← List.cons_append, readDigits_append isDigits.1 isDigits.2 ends.noDigit, bind,
        Except.bind]
      rfl

/-- Neither more digits nor a point stand where the exponent may. -/
theorem IsExponent.stops {exponent : List Char} (isExponent : IsExponent exponent)
    (ends : EndsNumber rest) :
    NoDigit (exponent ++ rest) ∧ (exponent ++ rest).head? ≠ some '.' := by
  cases isExponent with
  | absent =>
      refine ⟨ends.noDigit, ?_⟩
      intro point
      rcases List.head?_eq_some_iff.mp point with ⟨after, rfl⟩
      exact ends.2.1 rfl
  | present isMark =>
      rcases isMark with rfl | rfl
      all_goals simp [NoDigit]

/-- No more digits stand where the fraction may. -/
theorem IsFraction.stops {fraction : List Char} (isFraction : IsFraction fraction)
    (stops : NoDigit rest) : NoDigit (fraction ++ rest) := by
  cases isFraction with
  | absent => exact stops
  | present => simp [NoDigit]

/-- A number is read as a literal with the parts that it has. -/
theorem exists_readLiteral {whole fraction exponent : List Char} (negative : Bool)
    (isWhole : IsWhole whole) (isFraction : IsFraction fraction)
    (isExponent : IsExponent exponent) :
    ∃ literal : Literal, (literal.isIntegral = true ↔ fraction = [] ∧ exponent = []) ∧
      ∀ rest, EndsNumber rest →
        readLiteral negative (whole ++ (fraction ++ exponent) ++ rest) = .ok (literal, rest) := by
  rcases exists_readFraction isFraction with ⟨found, noFraction, fractionRead⟩
  rcases exists_readExponent isExponent with ⟨power, noExponent, exponentRead⟩
  refine ⟨{ negative, whole, fraction := found, exponent := power }, ?_, ?_⟩
  · rw [Literal.isIntegral, Bool.and_eq_true, noFraction, noExponent]
  · intro rest ends
    rcases isExponent.stops ends with ⟨noDigit, noPoint⟩
    rw [List.append_assoc, List.append_assoc, readLiteral,
      readWhole_append isWhole (isFraction.stops noDigit)]
    simp only [bind, Except.bind, fractionRead _ noDigit noPoint, exponentRead _ ends]
    rfl

/-! ## Readers of integers -/

/-- The reader comes to the verdict on the literal that is read of the text. -/
theorem settles_of_readLiteral {negative : Bool} {c : Char} {tail : List Char} {literal : Literal}
    (digit : c.isDigit = true)
    (read : ∀ rest, EndsNumber rest →
      readLiteral negative (c :: tail ++ rest) = .ok (literal, rest))
    {before after : List Char} (front : Blanks before) (back : Blanks after)
    (range : IntegerRange) :
    Settles (readInteger range) (before ++ (signText negative ++ (c :: tail) ++ after))
      (literal.verdict range) := by
  have passes (text : List Char) :
      readInteger range text = readInteger range (skipBlanks text) := by
    rw [readInteger, readInteger, skipBlanks_skipBlanks]
  have judged : ∀ rest, EndsNumber rest →
      (readNumeral negative (c :: tail ++ rest) >>= fun taken =>
        inRange range taken.1 >>= fun integer => pure (integer, taken.2)) =
        (literal.verdict range).map fun value => (value, rest) := by
    intro rest ends
    simp only [readNumeral, read rest ends, Literal.verdict, bind, Except.bind]
    cases literal.value with
    | error failure => rfl
    | ok numeral =>
        change (inRange range numeral >>= fun integer => pure (integer, rest)) =
          (inRange range numeral).map fun value => (value, rest)
        cases inRange range numeral <;> rfl
  cases negative with
  | false =>
      have solid := not_blank_of_isDigit digit
      have open_ : c ≠ ']' := by
        rintro rfl
        contradiction
      apply Settles.of_solid passes rfl solid.1 open_ _ front back
      intro rest ends
      rw [← judged rest ends]
      exact readInteger_of_isDigit digit range (tail ++ rest)
  | true =>
      apply Settles.of_solid passes rfl (by decide) (by decide) _ front back
      intro rest ends
      rw [← judged rest ends]
      rfl

/-- A text of the integer, with blanks around it. -/
def IntegerLiteral.IsText (integer : IntegerLiteral) (text : List Char) : Prop :=
  ∃ before after, Blanks before ∧ Blanks after ∧ text = before ++ (integer.text ++ after)

theorem IntegerLiteral.IsText.settles {integer : IntegerLiteral} {text : List Char}
    (written : integer.IsText text) (range : IntegerRange) :
    Settles (readInteger range) text (integer.literal.verdict range) := by
  rcases written with ⟨before, after, front, back, rfl⟩
  rcases integer with ⟨negative, digits, whole⟩
  rcases List.exists_cons_of_ne_nil whole.ne_nil with ⟨c, tail, rfl⟩
  apply settles_of_readLiteral (whole.isDigit c List.mem_cons_self) _ front back range
  intro rest ends
  exact readLiteral_append negative whole ends

/-- A text of a number with a fraction or an exponent, with blanks around it. -/
inductive IsFractional : List Char → Prop
  | number {before whole fraction exponent after : List Char} (front : Blanks before)
      (negative : Bool) (isWhole : IsWhole whole) (isFraction : IsFraction fraction)
      (isExponent : IsExponent exponent) (parts : ¬ (fraction = [] ∧ exponent = []))
      (back : Blanks after) :
      IsFractional (before ++ (signText negative ++ (whole ++ (fraction ++ exponent)) ++ after))

/-- No reader of integers accepts such a number. -/
theorem IsFractional.settles {text : List Char} (fractional : IsFractional text)
    (range : IntegerRange) : ∃ failure, Settles (readInteger range) text (.error failure) := by
  rcases fractional with ⟨front, negative, isWhole, isFraction, isExponent, parts, back⟩
  rcases exists_readLiteral negative isWhole isFraction isExponent with ⟨literal, integral, read⟩
  rw [← integral, Bool.not_eq_true] at parts
  rcases literal.verdict_of_not_isIntegral parts range with ⟨failure, refused⟩
  refine ⟨failure, refused ▸ ?_⟩
  rename_i before whole fraction exponent after
  rcases List.exists_cons_of_ne_nil isWhole.ne_nil with ⟨c, tail, rfl⟩
  exact settles_of_readLiteral (isWhole.isDigit c List.mem_cons_self) read front back range

end JobLedger.Json
