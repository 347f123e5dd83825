import JobLedger.Proofs.Json.Spelling

/-!
# The grammar of JSON, and passing over its values

`Derives` is the grammar of JSON, written down without a thought of how a text
is read: a number may have any size, a string may hold halves of pairs, and a
value may be nested to any depth.  The machine that passes over values passes
over each text that the grammar derives, whatever follows it, and goes on
behind it as if the value had not been there.
-/

namespace JobLedger.Json

/-! ## The grammar -/

/-- Nothing but blanks. -/
def Blanks (text : List Char) : Prop :=
  ∀ c ∈ text, isBlank c = true

instance (text : List Char) : Decidable (Blanks text) :=
  decidable_of_iff (text.all isBlank = true) List.all_eq_true

/-- One digit or more. -/
def IsDigits (text : List Char) : Prop :=
  text ≠ [] ∧ ∀ c ∈ text, c.isDigit = true

/-- The fraction of a number, if it has one. -/
inductive IsFraction : List Char → Prop
  | absent : IsFraction []
  | present {digits : List Char} (isDigits : IsDigits digits) : IsFraction ('.' :: digits)

/-- The exponent of a number, if it has one. -/
inductive IsExponent : List Char → Prop
  | absent : IsExponent []
  | present {mark : Char} {sign digits : List Char} (isMark : mark = 'e' ∨ mark = 'E')
      (isSign : sign = [] ∨ sign = ['+'] ∨ sign = ['-']) (isDigits : IsDigits digits) :
      IsExponent (mark :: (sign ++ digits))

/-- A number, of whatever size. -/
inductive IsNumber : List Char → Prop
  | number {sign whole fraction exponent : List Char} (isSign : sign = [] ∨ sign = ['-'])
      (isWhole : IsWhole whole) (isFraction : IsFraction fraction)
      (isExponent : IsExponent exponent) : IsNumber (sign ++ (whole ++ (fraction ++ exponent)))

/-- What stands between the quotes of a string.  The four digits of a code may
be half of a pair. -/
inductive IsBody : List Char → Prop
  | nil : IsBody []
  | plain {c : Char} {rest : List Char} (notQuote : c ≠ '"') (notBackslash : c ≠ '\\')
      (visible : 0x20 ≤ c.toNat) (body : IsBody rest) : IsBody (c :: rest)
  | escape {c : Char} {rest : List Char} (letter : c ∈ ['"', '\\', '/', 'b', 'f', 'n', 'r', 't'])
      (body : IsBody rest) : IsBody ('\\' :: c :: rest)
  | code {digits rest : List Char} (four : digits.length = 4)
      (hexadecimal : ∀ c ∈ digits, c ∈ "0123456789abcdefABCDEF".toList) (body : IsBody rest) :
      IsBody ('\\' :: 'u' :: (digits ++ rest))

/-- A string with its quotes. -/
inductive IsString : List Char → Prop
  | quoted {body : List Char} (isBody : IsBody body) : IsString ('"' :: (body ++ ['"']))

/-- What the grammar speaks of. -/
inductive Category where
  | value
  /-- A value with blanks around it. -/
  | padded
  /-- The elements of an array, at least one. -/
  | elements
  /-- The members of an object, at least one. -/
  | members

/-- The texts of each category. -/
inductive Derives : Category → List Char → Prop
  | word {letters : List Char}
      (known : letters ∈ ["null".toList, "true".toList, "false".toList]) :
      Derives .value letters
  | number {text : List Char} (isNumber : IsNumber text) : Derives .value text
  | string {text : List Char} (isString : IsString text) : Derives .value text
  | emptyArray {inside : List Char} (blanks : Blanks inside) :
      Derives .value ('[' :: (inside ++ [']']))
  | array {inside : List Char} (elements : Derives .elements inside) :
      Derives .value ('[' :: (inside ++ [']']))
  | emptyObject {inside : List Char} (blanks : Blanks inside) :
      Derives .value ('{' :: (inside ++ ['}']))
  | object {inside : List Char} (members : Derives .members inside) :
      Derives .value ('{' :: (inside ++ ['}']))
  | padded {before text after : List Char} (front : Blanks before) (value : Derives .value text)
      (back : Blanks after) : Derives .padded (before ++ (text ++ after))
  | lastElement {text : List Char} (element : Derives .padded text) : Derives .elements text
  | element {text others : List Char} (element : Derives .padded text)
      (elements : Derives .elements others) : Derives .elements (text ++ ',' :: others)
  | lastMember {before key between text : List Char} (front : Blanks before)
      (isKey : IsString key) (middle : Blanks between) (value : Derives .padded text) :
      Derives .members (before ++ (key ++ (between ++ ':' :: text)))
  | member {before key between text others : List Char} (front : Blanks before)
      (isKey : IsString key) (middle : Blanks between) (value : Derives .padded text)
      (members : Derives .members others) :
      Derives .members (before ++ (key ++ (between ++ ':' :: (text ++ ',' :: others))))

/-! ## The machine behind a value -/

/-- How the machine goes on behind a value: within brackets it looks for what
separates values, outside of them it is done. -/
def resume (brackets : List Bracket) (rest : List Char) : Except Failure (List Char) :=
  if brackets.isEmpty then .ok rest else skip .separator brackets rest

theorem resume_cons (bracket : Bracket) (outer : List Bracket) (rest : List Char) :
    resume (bracket :: outer) rest = skip .separator (bracket :: outer) rest := rfl

variable {expecting : Expecting} {brackets left : List Bracket} {c : Char} {rest : List Char}

theorem skip_of_go (next : Expecting) (left : List Bracket)
    (goes : advance expecting brackets c = .go next left) :
    skip expecting brackets (c :: rest) = skip next left rest := by
  rw [skip, goes]

/-- The character that ends a value is taken. -/
theorem skip_of_endValue (ends : advance expecting brackets c = endValue left) :
    skip expecting brackets (c :: rest) = resume left rest := by
  rw [skip, ends, endValue, resume]
  cases left.isEmpty <;> rfl

/-- Where the machine waits, it passes over blanks. -/
def Expecting.waits : Expecting → Bool
  | .value | .firstValue | .firstKey | .key | .colon | .separator => true
  | .word _ | .text _ | .escape _ | .hex _ _ | .number _ => false

theorem advance_blank (waits : expecting.waits = true) (blank : isBlank c = true) :
    advance expecting brackets c = .go expecting brackets := by
  have noBracket : c ≠ ']' := by
    rintro rfl
    contradiction
  cases expecting <;> first
    | contradiction
    | simp [advance, startValue, separate, blank, noBracket]

theorem skip_blanks (waits : expecting.waits = true) {blanks : List Char} (all : Blanks blanks) :
    skip expecting brackets (blanks ++ rest) = skip expecting brackets rest := by
  induction blanks with
  | nil => rfl
  | cons c blanks ih =>
      have blank := all c List.mem_cons_self
      have others : Blanks blanks := fun d member => all d (List.mem_cons_of_mem _ member)
      rw [List.cons_append, skip_of_go _ _ (advance_blank waits blank), ih others]

/-! ## Words -/

theorem skip_word (letters : List Char) (ne_nil : letters ≠ []) :
    skip (.word letters) brackets (letters ++ rest) = resume brackets rest := by
  induction letters with
  | nil => contradiction
  | cons letter letters ih =>
      cases letters with
      | nil =>
          apply skip_of_endValue
          simp [advance]
      | cons second letters =>
          rw [List.cons_append, skip_of_go (.word (second :: letters)) brackets]
          · exact ih (List.cons_ne_nil _ _)
          · simp [advance]

/-! ## Strings -/

/-- Behind the closing quote of a key a colon is due. -/
def resumeText (isKey : Bool) (brackets : List Bracket) (rest : List Char) :
    Except Failure (List Char) :=
  if isKey then skip .colon brackets rest else resume brackets rest

theorem shortEscape_isSome (letter : c ∈ ['"', '\\', '/', 'b', 'f', 'n', 'r', 't']) :
    c ≠ 'u' ∧ (shortEscape c).isSome = true := by
  simp only [List.mem_cons, List.not_mem_nil, or_false] at letter
  rcases letter with rfl | rfl | rfl | rfl | rfl | rfl | rfl | rfl <;> decide

theorem hexValue_isSome (digit : c ∈ "0123456789abcdefABCDEF".toList) :
    (hexValue c).isSome = true := by
  have all : "0123456789abcdefABCDEF".toList.all (fun d => (hexValue d).isSome) = true := by
    decide
  exact List.all_eq_true.mp all c digit

/-- The digits that are left of a code are passed over. -/
theorem skip_hex (isKey : Bool) (brackets : List Bracket) (rest : List Char)
    {digits : List Char} (ne_nil : digits ≠ [])
    (hexadecimal : ∀ c ∈ digits, c ∈ "0123456789abcdefABCDEF".toList) :
    skip (.hex isKey digits.length) brackets (digits ++ rest) =
      skip (.text isKey) brackets rest := by
  induction digits with
  | nil => contradiction
  | cons digit digits ih =>
      have value : (hexValue digit).isNone = false := by
        rw [← Option.not_isSome, hexValue_isSome (hexadecimal digit List.mem_cons_self)]
        rfl
      have others : ∀ c ∈ digits, c ∈ "0123456789abcdefABCDEF".toList :=
        fun c member => hexadecimal c (List.mem_cons_of_mem _ member)
      rw [List.cons_append]
      cases digits with
      | nil =>
          apply skip_of_go
          simp [advance, value]
      | cons second digits =>
          rw [skip_of_go (.hex isKey (second :: digits).length) brackets]
          · exact ih (List.cons_ne_nil _ _) others
          · simp [advance, value]

theorem skip_body {isKey : Bool} {body : List Char} (isBody : IsBody body) :
    skip (.text isKey) brackets (body ++ '"' :: rest) = resumeText isKey brackets rest := by
  induction isBody with
  | nil =>
      cases isKey with
      | false => exact skip_of_endValue rfl
      | true => exact skip_of_go _ _ rfl
  | @plain c body notQuote notBackslash visible _ ih =>
      have printable : ¬ c.toNat < 0x20 := Nat.not_lt_of_le visible
      rw [List.cons_append, skip_of_go (.text isKey) brackets, ih]
      simp [advance, notQuote, notBackslash, printable]
  | @escape c body letter _ ih =>
      have meaning := shortEscape_isSome letter
      rw [List.cons_append, List.cons_append, skip_of_go (.escape isKey) brackets rfl,
        skip_of_go (.text isKey) brackets, ih]
      simp [advance, meaning]
  | @code digits body four hexadecimal _ ih =>
      have ne_nil : digits ≠ [] := by
        rintro rfl
        contradiction
      have taken := skip_hex isKey brackets (body ++ '"' :: rest) ne_nil hexadecimal
      rw [four] at taken
      rw [List.cons_append, List.cons_append, List.append_assoc,
        skip_of_go (.escape isKey) brackets rfl,
        skip_of_go (.hex isKey 4) brackets rfl, taken, ih]

theorem skip_string (isKey : Bool) (brackets : List Bracket) (rest : List Char)
    {text : List Char} (isString : IsString text) :
    ∃ body, text = '"' :: body ∧
      skip (.text isKey) brackets (body ++ rest) = resumeText isKey brackets rest := by
  rcases isString with ⟨isBody⟩
  refine ⟨_, rfl, ?_⟩
  rw [List.append_assoc]
  exact skip_body isBody

/-! ## Numbers -/

/-- A digit starts a number and nothing else. -/
theorem ne_of_isDigit (digit : c.isDigit = true) :
    isBlank c = false ∧ c ≠ '"' ∧ c ≠ '[' ∧ c ≠ ']' ∧ c ≠ '{' ∧ c ≠ 'n' ∧ c ≠ 't' ∧ c ≠ 'f' ∧
      c ≠ '-' := by
  refine ⟨(not_blank_of_isDigit digit).1, ?_, ?_, ?_, ?_, ?_, ?_, ?_, ?_⟩
  all_goals
    rintro rfl
    contradiction

/-- A part of a number after which more digits may come. -/
def NumberPart.takesDigits : NumberPart → Bool
  | .whole | .fraction | .exponent => true
  | .sign | .zero | .point | .mark | .markSign => false

theorem skip_digits {part : NumberPart} (takes : part.takesDigits = true) {digits : List Char}
    (all : ∀ c ∈ digits, c.isDigit = true) :
    skip (.number part) brackets (digits ++ rest) = skip (.number part) brackets rest := by
  induction digits with
  | nil => rfl
  | cons digit digits ih =>
      have isDigit := all digit List.mem_cons_self
      have others : ∀ c ∈ digits, c.isDigit = true := fun c member =>
        all c (List.mem_cons_of_mem _ member)
      rw [List.cons_append, skip_of_go (.number part) brackets, ih others]
      cases part <;> first
        | contradiction
        | simp [advance, advanceNumber, isDigit]

/-- The digits after a point, a mark or the sign of an exponent. -/
theorem skip_isDigits {part after : NumberPart} (takes : after.takesDigits = true)
    (first : ∀ c : Char, c.isDigit = true → advance (.number part) brackets c =
      .go (.number after) brackets) {digits : List Char} (isDigits : IsDigits digits) :
    skip (.number part) brackets (digits ++ rest) = skip (.number after) brackets rest := by
  rcases isDigits with ⟨ne_nil, all⟩
  cases digits with
  | nil => contradiction
  | cons digit digits =>
      rw [List.cons_append, skip_of_go _ _ (first digit (all digit List.mem_cons_self))]
      exact skip_digits takes fun c member => all c (List.mem_cons_of_mem _ member)

/-- A number ends where it is complete and what follows does not go on with
it. -/
theorem skip_endsNumber {part : NumberPart} (complete : part.isComplete = true)
    (ends : EndsNumber rest) : skip (.number part) brackets rest = resume brackets rest := by
  cases rest with
  | nil => cases brackets <;> simp [skip, endOfText, complete, resume]
  | cons c rest =>
      rcases ends with ⟨notDigit, notPoint, lower, upper⟩
      have stops : advance (.number part) brackets c = endNumber brackets c := by
        cases part <;> first
          | contradiction
          | simp [advance, advanceNumber, notDigit, notPoint, lower, upper]
      rw [skip, stops, endNumber, resume]
      cases brackets <;> rfl

theorem skip_exponent {part : NumberPart} (complete : part.isComplete = true)
    (earlier : part ≠ .exponent) {exponent : List Char} (isExponent : IsExponent exponent)
    (ends : EndsNumber rest) :
    skip (.number part) brackets (exponent ++ rest) = resume brackets rest := by
  cases isExponent with
  | absent => exact skip_endsNumber complete ends
  | @present mark sign digits isMark isSign isDigits =>
      have marked : advance (.number part) brackets mark = .go (.number .mark) brackets := by
        rcases isMark with rfl | rfl <;> cases part <;> first
          | contradiction
          | rfl
      have digitsEnd : skip (.number .exponent) brackets rest = resume brackets rest :=
        skip_endsNumber rfl ends
      rw [List.cons_append, skip_of_go _ _ marked, List.append_assoc, ← digitsEnd]
      have unsigned : ∀ c : Char, c.isDigit = true →
          advance (.number .mark) brackets c = .go (.number .exponent) brackets := by
        intro c digit
        have noSign : ¬ (c = '+' ∨ c = '-') := by
          rintro (rfl | rfl) <;> contradiction
        simp [advance, advanceNumber, digit, noSign]
      have signed : ∀ c : Char, c.isDigit = true →
          advance (.number .markSign) brackets c = .go (.number .exponent) brackets := by
        intro c digit
        simp [advance, advanceNumber, digit]
      rcases isSign with rfl | rfl | rfl
      · exact skip_isDigits rfl unsigned isDigits
      · exact (skip_of_go _ _ rfl).trans (skip_isDigits rfl signed isDigits)
      · exact (skip_of_go _ _ rfl).trans (skip_isDigits rfl signed isDigits)

/-- What comes after the digits before the point. -/
theorem skip_fraction {part : NumberPart} (wholeEnds : part = .zero ∨ part = .whole)
    {fraction exponent : List Char} (isFraction : IsFraction fraction)
    (isExponent : IsExponent exponent) (ends : EndsNumber rest) :
    skip (.number part) brackets (fraction ++ (exponent ++ rest)) = resume brackets rest := by
  cases isFraction with
  | absent =>
      rw [List.nil_append]
      rcases wholeEnds with rfl | rfl
      all_goals exact skip_exponent (by decide) (by decide) isExponent ends
  | @present digits isDigits =>
      have pointed : advance (.number part) brackets '.' = .go (.number .point) brackets := by
        rcases wholeEnds with rfl | rfl <;> rfl
      have first : ∀ c : Char, c.isDigit = true →
          advance (.number .point) brackets c = .go (.number .fraction) brackets := by
        intro c digit
        simp [advance, advanceNumber, digit]
      rw [List.cons_append, skip_of_go _ _ pointed, skip_isDigits rfl first isDigits]
      exact skip_exponent (by decide) (by decide) isExponent ends

/-- The digits before the point, where a number starts or behind its minus
sign. -/
theorem skip_whole {start : Expecting} (starts : start = .value ∨ start = .number .sign)
    {whole : List Char} (isWhole : IsWhole whole) :
    ∃ part, (part = .zero ∨ part = .whole) ∧
      skip start brackets (whole ++ rest) = skip (.number part) brackets rest := by
  rcases isWhole with ⟨ne_nil, all, noLeadingZero⟩
  cases whole with
  | nil => contradiction
  | cons digit digits =>
      have isDigit := all digit List.mem_cons_self
      by_cases zero : digit = '0'
      · subst zero
        have alone : digits = [] := by simpa using noLeadingZero rfl
        subst alone
        refine ⟨.zero, .inl rfl, ?_⟩
        rcases starts with rfl | rfl <;> exact skip_of_go _ _ rfl
      · have others : ∀ c ∈ digits, c.isDigit = true := fun c member =>
          all c (List.mem_cons_of_mem _ member)
        have distinct := ne_of_isDigit isDigit
        refine ⟨.whole, .inr rfl, ?_⟩
        rw [List.cons_append, skip_of_go (.number .whole) brackets,
          skip_digits rfl others]
        rcases starts with rfl | rfl
        · simp [advance, startValue, distinct, zero, isDigit]
        · simp [advance, advanceNumber, zero, isDigit]

theorem skip_number {text : List Char} (isNumber : IsNumber text) (ends : EndsNumber rest) :
    skip .value brackets (text ++ rest) = resume brackets rest := by
  cases isNumber with
  | @number sign whole fraction exponent isSign isWhole isFraction isExponent =>
      simp only [List.append_assoc]
      rcases isSign with rfl | rfl
      · rcases skip_whole (.inl rfl) isWhole with ⟨part, wholeEnds, taken⟩
        rw [List.nil_append, taken]
        exact skip_fraction wholeEnds isFraction isExponent ends
      · rcases skip_whole (.inr rfl) isWhole with ⟨part, wholeEnds, taken⟩
        rw [List.cons_append, List.nil_append, skip_of_go (.number .sign) _ rfl, taken]
        exact skip_fraction wholeEnds isFraction isExponent ends

/-! ## Values -/

/-- A value starts with a character that cannot stand for the end of an
array. -/
theorem Derives.exists_cons {text : List Char} (value : Derives .value text) :
    ∃ c tail, text = c :: tail ∧ isBlank c = false ∧ c ≠ ']' := by
  cases value with
  | word known =>
      simp only [List.mem_cons, List.not_mem_nil, or_false] at known
      rcases known with rfl | rfl | rfl
      all_goals exact ⟨_, _, rfl, by decide, by decide⟩
  | number isNumber =>
      rcases isNumber with ⟨isSign, ⟨ne_nil, all, _⟩, _, _⟩
      rcases isSign with rfl | rfl
      · rcases List.exists_cons_of_ne_nil ne_nil with ⟨digit, digits, rfl⟩
        have distinct := ne_of_isDigit (all digit List.mem_cons_self)
        exact ⟨digit, _, rfl, distinct.1, distinct.2.2.2.1⟩
      · exact ⟨'-', _, rfl, by decide, by decide⟩
  | string isString =>
      rcases isString with ⟨_⟩
      exact ⟨'"', _, rfl, by decide, by decide⟩
  | emptyArray | array => exact ⟨'[', _, rfl, by decide, by decide⟩
  | emptyObject | object => exact ⟨'{', _, rfl, by decide, by decide⟩

/-- An array may start with a value as any other place for a value. -/
theorem skip_firstValue (solid : isBlank c = false) (open_ : c ≠ ']') :
    skip .firstValue brackets (c :: rest) = skip .value brackets (c :: rest) := by
  simp [skip, advance, startValue, solid, open_]

/-- What passing over a text of each category comes to. -/
def PassedOver : Category → List Char → Prop
  | .value, text => ∀ brackets rest, EndsNumber rest →
      skip .value brackets (text ++ rest) = resume brackets rest
  | .padded, text => ∀ waiting bracket outer rest, waiting = .value ∨ waiting = .firstValue →
      EndsNumber rest → skip waiting (bracket :: outer) (text ++ rest) =
        skip .separator (bracket :: outer) rest
  | .elements, text => ∀ waiting outer rest, waiting = .value ∨ waiting = .firstValue →
      skip waiting (.array :: outer) (text ++ ']' :: rest) = resume outer rest
  | .members, text => ∀ waiting outer rest, waiting = .key ∨ waiting = .firstKey →
      skip waiting (.object :: outer) (text ++ '}' :: rest) = resume outer rest

/-- Blanks and what separates values end a number. -/
theorem endsNumber_cons (ends : isBlank c = true ∨ c = ',' ∨ c = ']' ∨ c = '}') :
    EndsNumber (c :: rest) := by
  simp only [isBlank, Bool.or_eq_true, decide_eq_true_eq] at ends
  rcases ends with (((rfl | rfl) | rfl) | rfl) | rfl | rfl | rfl
  all_goals exact ⟨by decide, by decide, by decide, by decide⟩

theorem endsNumber_blanks {blanks : List Char} (all : Blanks blanks) (ends : EndsNumber rest) :
    EndsNumber (blanks ++ rest) := by
  cases blanks with
  | nil => exact ends
  | cons c blanks => exact endsNumber_cons (.inl (all c List.mem_cons_self))

theorem skip_key {waiting : Expecting} (waits : waiting = .key ∨ waiting = .firstKey)
    {before key between : List Char} (front : Blanks before) (isKey : IsString key)
    (middle : Blanks between) :
    skip waiting brackets (before ++ (key ++ (between ++ ':' :: rest))) =
      skip .value brackets rest := by
  rcases skip_string true brackets (between ++ ':' :: rest) isKey with ⟨body, rfl, taken⟩
  have colon : skip .colon brackets (between ++ ':' :: rest) = skip .value brackets rest := by
    rw [skip_blanks rfl middle]
    exact skip_of_go _ _ rfl
  rcases waits with rfl | rfl
  all_goals
    rw [skip_blanks rfl front, List.cons_append, skip_of_go (.text true) _ rfl, taken,
      ← colon]
    rfl

/-- **Every text of the grammar is passed over.** -/
theorem Derives.passedOver {category : Category} {text : List Char}
    (derives : Derives category text) : PassedOver category text := by
  induction derives with
  | word known =>
      intro brackets rest _
      simp only [List.mem_cons, List.not_mem_nil, or_false] at known
      rcases known with rfl | rfl | rfl
      · exact (skip_of_go _ _ rfl).trans (skip_word ['u', 'l', 'l'] nofun)
      · exact (skip_of_go _ _ rfl).trans (skip_word ['r', 'u', 'e'] nofun)
      · exact (skip_of_go _ _ rfl).trans (skip_word ['a', 'l', 's', 'e'] nofun)
  | number isNumber =>
      intro brackets rest ends
      exact skip_number isNumber ends
  | string isString =>
      intro brackets rest _
      rcases skip_string false brackets rest isString with
        ⟨body, rfl, taken⟩
      exact (skip_of_go _ _ rfl).trans taken
  | emptyArray blanks =>
      intro brackets rest _
      simp only [List.cons_append, List.append_assoc, List.nil_append]
      rw [skip_of_go .firstValue (.array :: brackets) rfl, skip_blanks rfl blanks]
      exact skip_of_endValue rfl
  | array _ inside =>
      intro brackets rest _
      simp only [List.cons_append, List.append_assoc, List.nil_append]
      rw [skip_of_go .firstValue (.array :: brackets) rfl]
      exact inside .firstValue brackets rest (.inr rfl)
  | emptyObject blanks =>
      intro brackets rest _
      simp only [List.cons_append, List.append_assoc, List.nil_append]
      rw [skip_of_go .firstKey (.object :: brackets) rfl, skip_blanks rfl blanks]
      exact skip_of_endValue rfl
  | object _ inside =>
      intro brackets rest _
      simp only [List.cons_append, List.append_assoc, List.nil_append]
      rw [skip_of_go .firstKey (.object :: brackets) rfl]
      exact inside .firstKey brackets rest (.inr rfl)
  | @padded before text after front value back passed =>
      intro waiting bracket outer rest waits ends
      rcases value.exists_cons with ⟨c, tail, rfl, solid, inside⟩
      have behind : skip .value (bracket :: outer) (c :: tail ++ (after ++ rest)) =
          skip .separator (bracket :: outer) rest := by
        rw [passed _ _ (endsNumber_blanks back ends), resume_cons, skip_blanks rfl back]
      simp only [List.append_assoc]
      rcases waits with rfl | rfl
      · rw [skip_blanks rfl front, behind]
      · rw [skip_blanks rfl front, List.cons_append, skip_firstValue solid inside,
          ← List.cons_append, behind]
  | lastElement _ passed =>
      intro waiting outer rest waits
      rw [passed waiting .array outer _ waits (endsNumber_cons (by decide))]
      exact skip_of_endValue rfl
  | element _ _ passed others =>
      intro waiting outer rest waits
      rw [List.append_assoc, List.cons_append,
        passed waiting .array outer _ waits (endsNumber_cons (by decide)),
        skip_of_go .value (.array :: outer) rfl]
      exact others .value outer rest (.inl rfl)
  | lastMember front isKey middle _ passed =>
      intro waiting outer rest waits
      simp only [List.append_assoc, List.cons_append]
      rw [skip_key waits front isKey middle,
        passed .value .object outer _ (.inl rfl) (endsNumber_cons (by decide))]
      exact skip_of_endValue rfl
  | member front isKey middle _ _ passed others =>
      intro waiting outer rest waits
      simp only [List.append_assoc, List.cons_append]
      rw [skip_key waits front isKey middle,
        passed .value .object outer _ (.inl rfl) (endsNumber_cons (by decide)),
        skip_of_go .key (.object :: outer) rfl]
      exact others .key outer rest (.inl rfl)

/-- A value with blanks around it is passed over up to the blanks behind it. -/
theorem skipValue_padded {text : List Char} (padded : Derives .padded text) :
    ∃ blanks, Blanks blanks ∧ ∀ rest, EndsNumber rest →
      skipValue (text ++ rest) = .ok (blanks ++ rest) := by
  cases padded with
  | @padded before text after front value back =>
      refine ⟨after, back, ?_⟩
      intro rest ends
      simp only [List.append_assoc]
      rw [skipValue, skip_blanks rfl front]
      exact value.passedOver [] _ (endsNumber_blanks back ends)

end JobLedger.Json
