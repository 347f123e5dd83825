import JobLedger.Attempt.Json
import JobLedger.Proofs.Json.Spelling
import JobLedger.Report.Json
import Mathlib.Data.List.DropRight

/-!
# Readers on longer texts

A reader sees no further than the end of its value: what it has read from a
text it reads from every longer one, and more is left.  Only numbers look one
character ahead, so the continuation must not go on with a number.  A reader
passes over blanks, and it never starts at the bracket that ends an array.
All that is `Steady`, and it makes of a text that is decoded by itself a text
that is read among others.
-/

namespace JobLedger.Json

variable {α β σ : Type} {text tail rest more : List Char}

theorem bind_eq_ok_iff {result : Except Failure α} {next : α → Except Failure β} {value : β} :
    result >>= next = .ok value ↔ ∃ first, result = .ok first ∧ next first = .ok value := by
  cases result with
  | error failure => simp [bind, Except.bind]
  | ok first => simp [bind, Except.bind]

theorem map_eq_ok_iff {result : Except Failure α} {make : α → β} {value : β} :
    result.map make = .ok value ↔ ∃ first, result = .ok first ∧ make first = value := by
  cases result with
  | error failure => simp [Except.map]
  | ok first => simp [Except.map]

/-! ## Blanks -/

theorem skipBlanks_more {c : Char} (starts : skipBlanks text = c :: tail) :
    skipBlanks (text ++ more) = c :: (tail ++ more) := by
  have ne_nil : text.dropWhile isBlank ≠ [] := by
    rw [skipBlanks] at starts
    simp [starts]
  rw [skipBlanks, List.dropWhile_append, if_neg (by simpa using ne_nil)]
  exact congrArg (· ++ more) starts

@[simp]
theorem skipBlanks_skipBlanks (text : List Char) : skipBlanks (skipBlanks text) = skipBlanks text :=
  List.dropWhile_idempotent _ _

/-! ## Pieces of values -/

/-- A character in front of what is read behind it. -/
theorem cons_eq_ok_iff {c : Char} {result : Except Failure (List Char × List Char)}
    {value : List Char} :
    (do
      let (text, after) ← result
      return (c :: text, after)) = .ok (value, rest) ↔
      ∃ others, result = .ok (others, rest) ∧ value = c :: others := by
  rw [bind_eq_ok_iff]
  constructor
  · rintro ⟨⟨others, after⟩, read, made⟩
    cases made
    exact ⟨others, read, rfl⟩
  · rintro ⟨others, rfl, rfl⟩
    exact ⟨_, rfl, rfl⟩

theorem readText_more {state : TextState} {value : List Char}
    (taken : readText state text = .ok (value, rest)) :
    readText state (text ++ more) = .ok (value, rest ++ more) := by
  fun_induction readText state text generalizing value with
  | case1 | case4 | case7 | case9 | case11 | case15 | case17 => contradiction
  | case2 after =>
      cases taken
      rfl
  | case3 after _ ih | case6 after ih => exact ih taken
  | case14 high after ih | case16 high after ih => exact ih taken
  | case5 c after quote backslash visible ih =>
      rcases cons_eq_ok_iff.mp taken with ⟨others, read, rfl⟩
      rw [List.cons_append, readText, if_neg quote, if_neg backslash, if_neg visible]
      exact cons_eq_ok_iff.mpr ⟨others, ih read, rfl⟩
  | case8 c after letter d meaning ih =>
      rcases cons_eq_ok_iff.mp taken with ⟨others, read, rfl⟩
      rw [List.cons_append, readText, if_neg letter, meaning]
      exact cons_eq_ok_iff.mpr ⟨others, ih read, rfl⟩
  | case10 high left code c after digit value_eq due ih =>
      rw [List.cons_append, readText]
      simp only [value_eq, if_pos due]
      exact ih taken
  | case12 high left code c after digit value_eq due first half ih =>
      rw [List.cons_append, readText]
      simp only [value_eq, if_neg due, half]
      exact ih taken
  | case13 high left code c after digit value_eq due d char ih =>
      rcases cons_eq_ok_iff.mp taken with ⟨others, read, rfl⟩
      rw [List.cons_append, readText]
      simp only [value_eq, if_neg due, char]
      exact cons_eq_ok_iff.mpr ⟨others, ih read, rfl⟩

theorem readWord_more {letters : List Char} (taken : readWord letters text = .ok rest) :
    readWord letters (text ++ more) = .ok (rest ++ more) := by
  fun_induction readWord letters text with
  | case1 => exact congrArg (fun text => Except.ok (text ++ more)) (Except.ok.inj taken)
  | case2 | case4 => contradiction
  | case3 letter letters after ih =>
      rw [List.cons_append, readWord, if_pos rfl]
      exact ih taken

theorem map_readWord_more {letters : List Char} {made value : α}
    (taken : (readWord letters text).map (fun rest => (made, rest)) = .ok (value, rest)) :
    (readWord letters (text ++ more)).map (fun rest => (made, rest)) =
      .ok (value, rest ++ more) := by
  rcases map_eq_ok_iff.mp taken with ⟨after, word, pair⟩
  cases pair
  exact map_eq_ok_iff.mpr ⟨_, readWord_more word, rfl⟩

theorem readColon_more (taken : readColon text = .ok rest) :
    readColon (text ++ more) = .ok (rest ++ more) := by
  rw [readColon] at taken
  split at taken
  · next after starts =>
    cases taken
    rw [readColon, skipBlanks_more starts]
    rfl
  · contradiction
  · contradiction

/-! ## Numbers -/

/-- What ends a number does not change which digits are taken. -/
theorem splitDigits_more (ends : EndsNumber more) :
    splitDigits (text ++ more) = ((splitDigits text).1, (splitDigits text).2 ++ more) := by
  have stops : more.takeWhile Char.isDigit = [] ∧ more.dropWhile Char.isDigit = more := by
    cases more with
    | nil => exact ⟨rfl, rfl⟩
    | cons c more => simp [ends.1]
  induction text with
  | nil => simp [splitDigits, stops]
  | cons c text ih =>
      simp only [splitDigits, Prod.mk.injEq] at ih
      by_cases digit : c.isDigit = true <;> simp [splitDigits, digit, ih]

theorem readDigits_eq_ok_iff {digits : List Char} :
    readDigits text = .ok (digits, rest) ↔ splitDigits text = (digits, rest) ∧ digits ≠ [] := by
  cases split : splitDigits text with
  | mk found after =>
      cases found with
      | nil =>
          have refused : ∀ result, readDigits text ≠ .ok result := by
            cases after <;> simp [readDigits, split]
          have none : ([], after) = (digits, rest) → digits = [] := fun same =>
            (congrArg Prod.fst same).symm
          simpa [refused] using none
      | cons digit others =>
          have taken : readDigits text = .ok (digit :: others, after) := by
            simp [readDigits, split]
          rw [taken, Except.ok.injEq]
          constructor
          · intro same
            cases same
            exact ⟨rfl, List.cons_ne_nil _ _⟩
          · rintro ⟨same, _⟩
            exact same

theorem readDigits_more {digits : List Char} (taken : readDigits text = .ok (digits, rest))
    (ends : EndsNumber more) : readDigits (text ++ more) = .ok (digits, rest ++ more) := by
  rcases readDigits_eq_ok_iff.mp taken with ⟨split, ne_nil⟩
  rw [readDigits_eq_ok_iff, splitDigits_more ends, split]
  exact ⟨rfl, ne_nil⟩

theorem readWhole_more {digits : List Char} (taken : readWhole text = .ok (digits, rest))
    (ends : EndsNumber more) : readWhole (text ++ more) = .ok (digits, rest ++ more) := by
  rw [readWhole, bind_eq_ok_iff] at taken ⊢
  rcases taken with ⟨⟨front, after⟩, split, allowed⟩
  refine ⟨(front, after ++ more), readDigits_more split ends, ?_⟩
  simp only at allowed ⊢
  split at allowed
  · contradiction
  · next noZero =>
    cases allowed
    exact if_neg noZero

theorem readFraction_more {fraction : Option (List Char)}
    (taken : readFraction text = .ok (fraction, rest)) (ends : EndsNumber more) :
    readFraction (text ++ more) = .ok (fraction, rest ++ more) := by
  rw [readFraction.eq_def] at taken
  split at taken
  · next after =>
    rcases bind_eq_ok_iff.mp taken with ⟨⟨digits, behind⟩, split, made⟩
    cases made
    exact bind_eq_ok_iff.mpr ⟨_, readDigits_more split ends, rfl⟩
  · next noPoint =>
    cases taken
    cases text with
    | nil => exact readFraction_of_endsNumber ends
    | cons c text =>
        have other : c ≠ '.' := by
          rintro rfl
          exact noPoint text rfl
        rw [List.cons_append, readFraction]
        rintro _ same
        exact other (List.cons.inj same).1

/-- Whether an exponent has a minus sign, and what stands behind its sign. -/
def splitSign : List Char → Bool × List Char
  | '+' :: after => (false, after)
  | '-' :: after => (true, after)
  | after => (false, after)

theorem splitSign_more (ne_nil : text ≠ []) :
    splitSign (text ++ more) = ((splitSign text).1, (splitSign text).2 ++ more) := by
  cases text with
  | nil => contradiction
  | cons c text =>
      rw [List.cons_append]
      by_cases plus : c = '+'
      · subst plus
        rfl
      · by_cases minus : c = '-'
        · subst minus
          rfl
        · simp [splitSign, plus, minus]

theorem readExponent_of_mark {c : Char} (mark : c = 'e' ∨ c = 'E') :
    readExponent (c :: text) = do
      let (digits, after) ← readDigits (splitSign text).2
      return (some ((splitSign text).1, digits), after) := by
  cases text with
  | nil => simp [readExponent, splitSign, mark]
  | cons d text =>
      by_cases plus : d = '+'
      · subst plus
        simp [readExponent, splitSign, mark]
      · by_cases minus : d = '-'
        · subst minus
          simp [readExponent, splitSign, mark]
        · simp [readExponent, splitSign, mark, plus, minus]

theorem readExponent_more {exponent : Option (Bool × List Char)}
    (taken : readExponent text = .ok (exponent, rest)) (ends : EndsNumber more) :
    readExponent (text ++ more) = .ok (exponent, rest ++ more) := by
  cases text with
  | nil =>
      cases taken
      exact readExponent_of_endsNumber ends
  | cons c text =>
      rw [List.cons_append]
      by_cases mark : c = 'e' ∨ c = 'E'
      · rw [readExponent_of_mark mark] at taken ⊢
        rcases bind_eq_ok_iff.mp taken with ⟨⟨digits, behind⟩, split, made⟩
        cases made
        have ne_nil : text ≠ [] := by
          rintro rfl
          contradiction
        rw [splitSign_more ne_nil]
        exact bind_eq_ok_iff.mpr ⟨_, readDigits_more split ends, rfl⟩
      · unfold readExponent at taken ⊢
        simp only [if_neg mark] at taken ⊢
        cases taken
        rfl

theorem readNumeral_more {negative : Bool} {value : Numeral}
    (taken : readNumeral negative text = .ok (value, rest)) (ends : EndsNumber more) :
    readNumeral negative (text ++ more) = .ok (value, rest ++ more) := by
  rcases bind_eq_ok_iff.mp taken with ⟨⟨literal, behind⟩, read, valued⟩
  rcases bind_eq_ok_iff.mp valued with ⟨numeral, numeral_eq, made⟩
  cases made
  rcases bind_eq_ok_iff.mp read with ⟨⟨whole, afterWhole⟩, wholeRead, others⟩
  rcases bind_eq_ok_iff.mp others with ⟨⟨fraction, afterFraction⟩, fractionRead, last⟩
  rcases bind_eq_ok_iff.mp last with ⟨⟨exponent, afterExponent⟩, exponentRead, literalMade⟩
  cases literalMade
  have literalRead : readLiteral negative (text ++ more) =
      .ok ({ negative, whole, fraction, exponent }, rest ++ more) := by
    apply bind_eq_ok_iff.mpr
    refine ⟨_, readWhole_more wholeRead ends, bind_eq_ok_iff.mpr ?_⟩
    refine ⟨_, readFraction_more fractionRead ends, bind_eq_ok_iff.mpr ?_⟩
    exact ⟨_, readExponent_more exponentRead ends, rfl⟩
  exact bind_eq_ok_iff.mpr ⟨_, literalRead, bind_eq_ok_iff.mpr ⟨value, numeral_eq, rfl⟩⟩

theorem readNumeral_inRange_more {negative : Bool} {range : IntegerRange} {integer : Int}
    (taken : (do
      let (value, rest) ← readNumeral negative text
      let integer ← inRange range value
      return (integer, rest)) = .ok (integer, rest)) (ends : EndsNumber more) :
    (do
      let (value, rest) ← readNumeral negative (text ++ more)
      let integer ← inRange range value
      return (integer, rest)) = .ok (integer, rest ++ more) := by
  rcases bind_eq_ok_iff.mp taken with ⟨⟨value, after⟩, read, kept⟩
  rcases bind_eq_ok_iff.mp kept with ⟨found, within, made⟩
  cases made
  apply bind_eq_ok_iff.mpr
  exact ⟨_, readNumeral_more read ends, bind_eq_ok_iff.mpr ⟨integer, within, rfl⟩⟩

/-! ## Steady readers -/

/-- What a reader takes depends on nothing but the text from its first solid
character on, which is not the bracket that ends an array, and more text at the
end is left over. -/
def Steady (reader : Reader α) : Prop :=
  ∀ text value rest, reader text = .ok (value, rest) →
    ∃ c tail, skipBlanks text = c :: tail ∧ c ≠ ']' ∧
      ∀ front more, skipBlanks front = c :: (tail ++ more) → EndsNumber more →
        reader front = .ok (value, rest ++ more)

/-- On a longer text a steady reader takes the same value. -/
theorem Steady.read_more {reader : Reader α} (steady : Steady reader) {value : α}
    (taken : reader text = .ok (value, rest)) (ends : EndsNumber more) :
    reader (text ++ more) = .ok (value, rest ++ more) := by
  rcases steady text value rest taken with ⟨c, tail, starts, _, again⟩
  exact again _ more (skipBlanks_more starts) ends

theorem Steady.map {reader : Reader α} (steady : Steady reader) (make : α → β) :
    Steady fun text => do
      let (value, rest) ← reader text
      return (make value, rest) := by
  intro text value rest taken
  rcases bind_eq_ok_iff.mp taken with ⟨⟨first, after⟩, read, made⟩
  cases made
  rcases steady text first rest read with ⟨c, tail, starts, open_, again⟩
  refine ⟨c, tail, starts, open_, ?_⟩
  intro front more same ends
  exact bind_eq_ok_iff.mpr ⟨_, again front more same ends, rfl⟩

theorem readString_steady (wanted : Wanted) : Steady (readString wanted) := by
  intro text value rest taken
  rw [readString] at taken
  split at taken
  · next tail starts =>
    refine ⟨'"', tail, starts, by decide, ?_⟩
    intro front more same _
    rw [readString, same]
    exact readText_more taken
  · contradiction

theorem readName_steady : Steady readName :=
  (readString_steady .text).map String.ofList

theorem readBoolean_steady : Steady readBoolean := by
  intro text value rest taken
  rw [readBoolean] at taken
  split at taken
  · next tail starts =>
    refine ⟨'t', tail, starts, by decide, ?_⟩
    intro front more same _
    rw [readBoolean, same]
    exact map_readWord_more taken
  · next tail starts =>
    refine ⟨'f', tail, starts, by decide, ?_⟩
    intro front more same _
    rw [readBoolean, same]
    exact map_readWord_more taken
  · contradiction

theorem readNull_steady : Steady readNull := by
  intro text value rest taken
  rw [readNull] at taken
  split at taken
  · next tail starts =>
    refine ⟨'n', tail, starts, by decide, ?_⟩
    intro front more same _
    rw [readNull, same]
    exact map_readWord_more taken
  · contradiction

theorem readKey_steady : Steady readKey := by
  intro text value rest taken
  rw [readKey] at taken
  split at taken
  · next tail starts =>
    refine ⟨'"', tail, starts, by decide, ?_⟩
    intro front more same _
    rw [readKey, same]
    exact readText_more taken
  · contradiction
  · contradiction

theorem readInteger_steady (range : IntegerRange) : Steady (readInteger range) := by
  intro text value rest taken
  rw [readInteger] at taken
  split at taken
  · next tail starts =>
    refine ⟨'-', tail, starts, by decide, ?_⟩
    intro front more same ends
    rw [readInteger, same]
    exact readNumeral_inRange_more taken ends
  · next c tail unsigned starts =>
    split at taken
    · next digit =>
      refine ⟨c, tail, starts, ?_, ?_⟩
      · rintro rfl
        contradiction
      · intro front more same ends
        have solid : skipBlanks (c :: (tail ++ more)) = c :: (tail ++ more) := by
          rw [← same, skipBlanks_skipBlanks]
        have whole : readInteger range front = readInteger range (c :: (tail ++ more)) := by
          rw [readInteger, readInteger, same, solid]
        rw [whole, readInteger_of_isDigit digit]
        exact readNumeral_inRange_more taken ends
    · contradiction
  · contradiction

theorem readCase_steady (cases : Cases α) : Steady (readCase cases) := by
  intro text value rest taken
  rw [readCase] at taken
  split at taken
  · contradiction
  · next tail starts =>
    rcases bind_eq_ok_iff.mp taken with ⟨⟨name, after⟩, read, named⟩
    rcases bind_eq_ok_iff.mp named with ⟨found, find, made⟩
    cases made
    refine ⟨'"', tail, starts, by decide, ?_⟩
    intro front more same _
    rw [readCase, same]
    exact bind_eq_ok_iff.mpr ⟨_, readText_more read, bind_eq_ok_iff.mpr ⟨value, find, rfl⟩⟩
  · next tail starts =>
    rcases bind_eq_ok_iff.mp taken with ⟨⟨name, afterKey⟩, key, named⟩
    rcases bind_eq_ok_iff.mp named with ⟨found, find, colon⟩
    rcases bind_eq_ok_iff.mp colon with ⟨afterColon, colonRead, null⟩
    rcases bind_eq_ok_iff.mp null with ⟨⟨_, afterNull⟩, nullRead, closed⟩
    refine ⟨'{', tail, starts, by decide, ?_⟩
    intro front more same ends
    rw [readCase, same]
    refine bind_eq_ok_iff.mpr ⟨_, readKey_steady.read_more key ends, ?_⟩
    refine bind_eq_ok_iff.mpr ⟨found, find, ?_⟩
    refine bind_eq_ok_iff.mpr ⟨_, readColon_more colonRead, ?_⟩
    refine bind_eq_ok_iff.mpr ⟨_, readNull_steady.read_more nullRead ends, ?_⟩
    dsimp only at closed
    split at closed
    · next behind brace =>
      cases closed
      simp only [skipBlanks_more brace]
      rfl
    · contradiction
    · contradiction
  · contradiction

theorem readJobId_steady : Steady readJobId :=
  readName_steady.map JobId.mk

theorem readAttemptId_steady : Steady readAttemptId :=
  readName_steady.map AttemptId.mk

theorem readVertexRef_steady : Steady readVertexRef :=
  readName_steady.map VertexRef.mk

/-! ## Members -/

/-- The way to a member, in a longer text. -/
def Member.extend (suffix : List Char) : Member → Member
  | .found rest => .found (rest ++ suffix)
  | .closed rest => .closed (rest ++ suffix)

theorem keyQuote_eq_ok_iff {member : Member} :
    keyQuote text = .ok member ↔ ∃ rest, text = '"' :: rest ∧ member = .found rest := by
  unfold keyQuote
  split
  · simp [eq_comm]
  · simp
  · next noQuote _ =>
    constructor
    · intro taken
      contradiction
    · rintro ⟨rest, rfl, _⟩
      exact absurd rfl (noQuote rest)

theorem nextMember_of_ne {c : Char} (first : Bool) (starts : skipBlanks text = c :: tail)
    (noBrace : c ≠ '}') :
    nextMember first text =
      if first then keyQuote (c :: tail)
      else if c = ',' then keyQuote (skipBlanks tail)
      else .error .malformed := by
  rw [nextMember, starts]
  split
  · contradiction
  · next same => exact absurd (List.cons.inj same).1 noBrace
  · next same =>
    cases same
    rfl

theorem nextMember_more {first : Bool} {member : Member}
    (taken : nextMember first text = .ok member) :
    nextMember first (text ++ more) = .ok (member.extend more) := by
  cases starts : skipBlanks text with
  | nil =>
      rw [nextMember, starts] at taken
      contradiction
  | cons c tail =>
      have longer : skipBlanks (text ++ more) = c :: (tail ++ more) := skipBlanks_more starts
      by_cases brace : c = '}'
      · subst brace
        rw [nextMember, starts] at taken
        cases taken
        rw [nextMember, longer]
        rfl
      · rw [nextMember_of_ne first starts brace] at taken
        rw [nextMember_of_ne first longer brace]
        split at taken
        · next isFirst =>
          rcases keyQuote_eq_ok_iff.mp taken with ⟨rest, quote, rfl⟩
          cases quote
          exact if_pos isFirst
        · next later =>
          split at taken
          · next comma =>
            rcases keyQuote_eq_ok_iff.mp taken with ⟨rest, quote, rfl⟩
            rw [if_neg later, if_pos comma, skipBlanks_more quote]
            rfl
          · contradiction

/-- Members are read from a longer text as from a shorter one, with fuel to
spare. -/
theorem readMembers_more {member : σ → Reader σ}
    (steady : ∀ {state text value rest more}, member state text = .ok (value, rest) →
      EndsNumber more → member state (text ++ more) = .ok (value, rest ++ more))
    {fuel enough : Nat} {first : Bool} {state value : σ}
    (taken : readMembers member fuel first state text = .ok (value, rest)) (spare : fuel ≤ enough)
    (ends : EndsNumber more) :
    readMembers member enough first state (text ++ more) = .ok (value, rest ++ more) := by
  induction fuel generalizing enough first state text with
  | zero => contradiction
  | succ fuel ih =>
      obtain ⟨left, rfl⟩ : ∃ left, enough = left + 1 := ⟨enough - 1, by omega⟩
      rcases bind_eq_ok_iff.mp taken with ⟨way, found, gone⟩
      refine bind_eq_ok_iff.mpr ⟨_, nextMember_more found, ?_⟩
      cases way with
      | closed behind =>
          cases gone
          rfl
      | found behind =>
          rcases bind_eq_ok_iff.mp gone with ⟨⟨next, after⟩, read, others⟩
          refine bind_eq_ok_iff.mpr ⟨_, steady read ends, ?_⟩
          exact ih others (by omega)

end JobLedger.Json

namespace JobLedger

open Json

theorem Stamps.readMember_more {stamps value : Stamps} {text rest more : List Char}
    (taken : readMember stamps text = .ok (value, rest)) (ends : EndsNumber more) :
    readMember stamps (text ++ more) = .ok (value, rest ++ more) := by
  rcases bind_eq_ok_iff.mp taken with ⟨⟨name, afterName⟩, nameRead, named⟩
  rcases bind_eq_ok_iff.mp named with ⟨status, find, colon⟩
  rcases bind_eq_ok_iff.mp colon with ⟨afterColon, colonRead, timed⟩
  rcases bind_eq_ok_iff.mp timed with ⟨⟨time, afterTime⟩, timeRead, made⟩
  cases made
  refine bind_eq_ok_iff.mpr ⟨_, readText_more nameRead, ?_⟩
  refine bind_eq_ok_iff.mpr ⟨status, find, ?_⟩
  refine bind_eq_ok_iff.mpr ⟨_, readColon_more colonRead, ?_⟩
  exact bind_eq_ok_iff.mpr ⟨_, (readInteger_steady _).read_more timeRead ends, rfl⟩

theorem Stamps.read_steady : Steady Stamps.read := by
  intro text value rest taken
  rw [read] at taken
  split at taken
  · next tail starts =>
    refine ⟨'{', tail, starts, by decide, ?_⟩
    intro front more same ends
    rw [read, same]
    exact readMembers_more readMember_more taken (by simp) ends
  · contradiction

theorem Report.readAttempts_steady : Steady Report.readAttempts :=
  (readInteger_steady .unsigned64).map fun value => UInt64.ofNat value.toNat

theorem Attempt.readNumber_steady : Steady Attempt.readNumber :=
  (readInteger_steady .unsigned32).map fun value => UInt32.ofNat value.toNat

end JobLedger
