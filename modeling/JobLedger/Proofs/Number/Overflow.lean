import JobLedger.Number.Binary64
import Mathlib.Algebra.Order.Ring.Nat

/-!
# Which decimals are too large

A decimal is rounded in two steps, and both are monotone: a greater number is
never rounded to a lesser one, and if a number is too large then so is every
greater one.  So four decimals are enough to tell which of those whose
significand has up to 64 bits are too large.  The least of them is a little
less than the first magnitude that is: the power of ten is rounded up, and its
product with the significand may be too large before the number itself is.
-/

namespace JobLedger.Number

/-! ## Rounded quotients -/

theorem div_le_roundDiv (num den : Nat) : num / den ≤ roundDiv num den := by
  simp only [roundDiv]
  split_ifs <;> omega

theorem roundDiv_le_div (num den : Nat) : roundDiv num den ≤ num / den + 1 := by
  simp only [roundDiv]
  split_ifs <;> omega

theorem roundDiv_mono {first second : Nat} (le : first ≤ second) (den : Nat) :
    roundDiv first den ≤ roundDiv second den := by
  rcases Nat.eq_or_lt_of_le (Nat.div_le_div_right (c := den) le) with same | less
  · -- Within one quotient the remainders decide, and they are ordered.
    have firstParts := Nat.div_add_mod first den
    have secondParts := Nat.div_add_mod second den
    rw [same] at firstParts
    have remainders : first % den ≤ second % den := by omega
    simp only [roundDiv, same]
    split_ifs <;> omega
  · calc
      roundDiv first den ≤ first / den + 1 := roundDiv_le_div first den
      _ ≤ second / den := less
      _ ≤ roundDiv second den := div_le_roundDiv second den

theorem roundDiv_mul_self (n : Nat) {den : Nat} (positive : 0 < den) :
    roundDiv (n * den) den = n := by
  simp [roundDiv, Nat.mul_div_cancel _ positive, positive]

namespace Binary64

/-! ## The nearest number -/

/-- As many units as the number nearest to `num / den` has. -/
def nearest (num den : Nat) : Nat :=
  let scaled := num * oneUnits
  let step := spacing (scaled / den)
  roundDiv scaled (den * step) * step

theorem ofRatio_eq (num den : Nat) :
    ofRatio num den =
      if nearest num den < limitUnits then some ⟨nearest num den⟩ else none := rfl

theorem bitLength_le_iff {n bits : Nat} : bitLength n ≤ bits ↔ n < 1 <<< bits := by
  rw [bitLength, Nat.one_shiftLeft]
  by_cases zero : n = 0
  · simp [zero]
  · rw [if_neg zero, Nat.succ_le_iff, Nat.log2_lt zero]

theorem shiftLeft_sub_mul {bits more : Nat} (le : more ≤ bits) :
    1 <<< bits = 1 <<< (bits - more) * 1 <<< more := by
  simp only [Nat.one_shiftLeft, ← Nat.pow_add, Nat.sub_add_cancel le]

theorem one_shiftLeft_pos (bits : Nat) : 0 < 1 <<< bits := by
  rw [Nat.one_shiftLeft]
  exact Nat.two_pow_pos bits

/-- A number is rounded to the power of two above it at most. -/
theorem nearest_le_of_bitLength {num den bits : Nat} (positive : 0 < den)
    (bits_eq : bitLength (num * oneUnits / den) = bits) : nearest num den ≤ 1 <<< bits := by
  have below : num * oneUnits / den < 1 <<< bits := bitLength_le_iff.mp (Nat.le_of_eq bits_eq)
  have split := shiftLeft_sub_mul (Nat.sub_le bits 53)
  have stepPositive := one_shiftLeft_pos (bits - 53)
  simp only [nearest, spacing, bits_eq]
  generalize 1 <<< (bits - 53) = step at *
  have le : num * oneUnits ≤ 1 <<< (bits - (bits - 53)) * (den * step) := by
    rw [Nat.mul_left_comm, ← split]
    exact Nat.le_of_lt ((Nat.div_lt_iff_lt_mul positive).mp below |>.trans_eq (Nat.mul_comm _ _))
  have rounded := roundDiv_mono le (den * step)
  rw [roundDiv_mul_self _ (Nat.mul_pos positive stepPositive)] at rounded
  rw [split]
  exact Nat.mul_le_mul_right step rounded

/-- A number is rounded to the power of two below it at least. -/
theorem le_nearest_of_bitLength {num den bits : Nat} (positive : 0 < den)
    (bits_eq : bitLength (num * oneUnits / den) = bits + 1) : 1 <<< bits ≤ nearest num den := by
  have above : 1 <<< bits ≤ num * oneUnits / den := by
    apply Nat.le_of_not_lt
    intro less
    have short := bitLength_le_iff.mpr less
    omega
  have split := shiftLeft_sub_mul (show bits + 1 - 53 ≤ bits by omega)
  have stepPositive := one_shiftLeft_pos (bits + 1 - 53)
  simp only [nearest, spacing, bits_eq]
  generalize 1 <<< (bits + 1 - 53) = step at *
  have le : 1 <<< (bits - (bits + 1 - 53)) * (den * step) ≤ num * oneUnits := by
    rw [Nat.mul_left_comm, ← split, Nat.mul_comm]
    exact (Nat.le_div_iff_mul_le positive).mp above
  have rounded := roundDiv_mono le (den * step)
  rw [roundDiv_mul_self _ (Nat.mul_pos positive stepPositive)] at rounded
  rw [split]
  exact Nat.mul_le_mul_right step rounded

/-- A greater number is not rounded to a lesser one. -/
theorem nearest_mono {first second den : Nat} (positive : 0 < den) (le : first ≤ second) :
    nearest first den ≤ nearest second den := by
  have scaled := Nat.mul_le_mul_right oneUnits le
  have quotient := Nat.div_le_div_right (c := den) scaled
  have bits : bitLength (first * oneUnits / den) ≤ bitLength (second * oneUnits / den) :=
    bitLength_le_iff.mpr (Nat.lt_of_le_of_lt quotient (bitLength_le_iff.mp (Nat.le_refl _)))
  rcases Nat.eq_or_lt_of_le bits with same | less
  · simp only [nearest, spacing, same]
    exact Nat.mul_le_mul_right _ (roundDiv_mono scaled _)
  · -- A power of two lies between them.
    cases more : bitLength (second * oneUnits / den) with
    | zero => omega
    | succ bits =>
        have least := le_nearest_of_bitLength positive more
        have between : 1 <<< bitLength (first * oneUnits / den) ≤ 1 <<< bits := by
          rw [Nat.one_shiftLeft, Nat.one_shiftLeft]
          apply Nat.pow_le_pow_right (by decide)
          omega
        exact (nearest_le_of_bitLength positive rfl).trans (between.trans least)

/-! ## Too large numbers -/

theorem ofRatio_eq_some_iff {num den : Nat} {number : Binary64} :
    ofRatio num den = some number ↔
      nearest num den < limitUnits ∧ number.units = nearest num den := by
  rcases number with ⟨units⟩
  rw [ofRatio_eq]
  split_ifs with fits <;> simp [fits, eq_comm]

/-- What is less than a number that is not too large is not too large. -/
theorem exists_ofRatio_of_le {first second den : Nat} (positive : 0 < den) (le : first ≤ second)
    {great : Binary64} (found : ofRatio second den = some great) :
    ∃ small, ofRatio first den = some small ∧ small.units ≤ great.units := by
  rcases ofRatio_eq_some_iff.mp found with ⟨fits, units_eq⟩
  have mono := nearest_mono positive le
  refine ⟨⟨nearest first den⟩, ofRatio_eq_some_iff.mpr ⟨?_, rfl⟩, ?_⟩
  · exact Nat.lt_of_le_of_lt mono fits
  · rw [units_eq]
    exact mono

theorem exists_mul_of_le {first second others more great : Binary64}
    (le : first.units ≤ others.units) (same : second.units ≤ more.units)
    (found : others.mul more = some great) : ∃ small, first.mul second = some small := by
  have positive : 0 < oneUnits * oneUnits :=
    Nat.mul_pos (one_shiftLeft_pos 1074) (one_shiftLeft_pos 1074)
  rcases exists_ofRatio_of_le positive (Nat.mul_le_mul le same) found with ⟨small, product, _⟩
  exact ⟨small, product⟩

/-- A decimal is not too large if its two steps are not. -/
theorem exists_ofDecimal_iff {significand exponent : Nat} (nonzero : significand ≠ 0) :
    (∃ number, ofDecimal significand exponent = some number) ↔
      ∃ start power number, ofRatio significand 1 = some start ∧ exponent ≤ 308 ∧
        powerOfTen exponent = some power ∧ start.mul power = some number := by
  have unfolded : ofDecimal significand exponent = (ofRatio significand 1).bind fun start =>
      if exponent ≤ 308 then (powerOfTen exponent).bind start.mul else none := by
    simp only [ofDecimal, if_neg nonzero]
    rfl
  rw [unfolded]
  constructor
  · rintro ⟨number, found⟩
    rcases Option.bind_eq_some_iff.mp found with ⟨start, started, multiplied⟩
    split_ifs at multiplied with small
    rcases Option.bind_eq_some_iff.mp multiplied with ⟨power, powered, product⟩
    exact ⟨start, power, number, started, small, powered, product⟩
  · rintro ⟨start, power, number, started, small, powered, product⟩
    refine ⟨number, Option.bind_eq_some_iff.mpr ⟨start, started, ?_⟩⟩
    rw [if_pos small]
    exact Option.bind_eq_some_iff.mpr ⟨power, powered, product⟩

theorem tenPow_le {lower higher : Nat} (le : lower ≤ higher) :
    Nat.pow 10 lower ≤ Nat.pow 10 higher :=
  Nat.pow_le_pow_right (by decide) le

/-- What has a lesser significand and a lesser exponent than a decimal that is not
too large is not too large. -/
theorem exists_ofDecimal_of_le {significand greater exponent higher : Nat}
    (le : significand ≤ greater) (lower : exponent ≤ higher)
    (found : ∃ number, ofDecimal greater higher = some number) :
    ∃ number, ofDecimal significand exponent = some number := by
  by_cases zero : significand = 0
  · subst zero
    exact ⟨Binary64.zero, rfl⟩
  have nonzero : greater ≠ 0 := by omega
  rcases (exists_ofDecimal_iff nonzero).mp found with
    ⟨start, power, number, started, small, powered, product⟩
  rcases exists_ofRatio_of_le Nat.one_pos le started with ⟨first, first_eq, first_le⟩
  have powers := tenPow_le lower
  rcases exists_ofRatio_of_le Nat.one_pos powers powered with ⟨second, second_eq, second_le⟩
  rcases exists_mul_of_le first_le second_le product with ⟨result, result_eq⟩
  apply (exists_ofDecimal_iff zero).mpr
  exact ⟨first, second, result, first_eq, lower.trans small, second_eq, result_eq⟩

/-! ## The limit -/

/-- The least natural number whose digits make a decimal that is too large. -/
def leastTooLarge : Nat := 17976931348623156225 * Nat.pow 10 289

/-- A number that is too large for a double makes a decimal that is too large. -/
theorem leastTooLarge_le_of_ofRatio {n : Nat} (tooLarge : ofRatio n 1 = none) :
    leastTooLarge ≤ n := by
  have found : ∃ number, ofRatio leastTooLarge 1 = some number := by
    rw [← Option.isSome_iff_exists]
    decide +kernel
  rcases found with ⟨great, found⟩
  rcases Nat.lt_or_ge n leastTooLarge with less | greater
  · rcases exists_ofRatio_of_le Nat.one_pos (Nat.le_of_lt less) found with ⟨small, fits, _⟩
    rw [tooLarge] at fits
    exact absurd fits nofun
  · exact greater

theorem exists_ofDecimal_below :
    (∃ number, ofDecimal (UInt64.size - 1) (288 : Nat) = some number) ∧
      ∃ number, ofDecimal 17976931348623156224 (289 : Nat) = some number := by
  simp only [← Option.isSome_iff_exists]
  decide +kernel

theorem ofDecimal_above :
    ofDecimal 17976931348623156225 (289 : Nat) = none ∧
      ofDecimal 1844674407370955161 (290 : Nat) = none := by
  decide +kernel

theorem ofDecimal_eq_none_of_le {significand lesser exponent lower : Nat}
    (tooLarge : ofDecimal lesser lower = none) (le : lesser ≤ significand)
    (higher : lower ≤ exponent) : ofDecimal significand exponent = none := by
  apply Option.eq_none_iff_forall_ne_some.mpr
  intro number found
  rcases exists_ofDecimal_of_le le higher ⟨number, found⟩ with ⟨small, smallFound⟩
  rw [tooLarge] at smallFound
  contradiction

theorem mul_add_lt_mul {significand size power rest greater : Nat} (fits : significand < size)
    (less : rest < power) (le : power ≤ greater) :
    significand * power + rest < size * greater := by
  calc
    significand * power + rest < (significand + 1) * power := by
      rw [Nat.add_one_mul]
      exact Nat.add_lt_add_left less _
    _ ≤ size * greater := Nat.mul_le_mul fits le

/-- Digits behind do not matter for a bound that has zeros there. -/
theorem mul_le_mul_add_iff {bound significand power rest : Nat} (less : rest < power) :
    bound * power ≤ significand * power + rest ↔ bound ≤ significand := by
  constructor
  · intro least
    have below := mul_add_lt_mul (Nat.lt_succ_self significand) less (Nat.le_refl power)
    exact Nat.le_of_lt_succ (Nat.lt_of_mul_lt_mul_right (Nat.lt_of_le_of_lt least below))
  · intro le
    exact (Nat.mul_le_mul_right power le).trans (Nat.le_add_right _ rest)

/-- A decimal whose significand has as many digits as fit 64 bits is too large
just if the numbers are that have these digits in front. -/
theorem ofDecimal_eq_none_iff {significand exponent rest : Nat}
    (fits : significand < UInt64.size)
    (full : exponent = 0 ∨ UInt64.size ≤ significand * 10 + 9)
    (less : rest < Nat.pow 10 exponent) :
    ofDecimal significand exponent = none ↔
      leastTooLarge ≤ significand * Nat.pow 10 exponent + rest := by
  have size : UInt64.size = 18446744073709551616 := rfl
  rcases Nat.lt_trichotomy exponent 289 with lower | rfl | higher
  · have few : exponent ≤ 288 := Nat.le_of_lt_succ lower
    have bounded : significand * Nat.pow 10 exponent + rest < leastTooLarge := by
      calc
        significand * Nat.pow 10 exponent + rest < UInt64.size * Nat.pow 10 288 :=
          mul_add_lt_mul fits less (tenPow_le few)
        _ < leastTooLarge := by decide +kernel
    rcases exists_ofDecimal_of_le (Nat.le_sub_one_of_lt fits) few exists_ofDecimal_below.1 with
      ⟨number, found⟩
    rw [found]
    constructor
    · exact nofun
    · intro least
      exact absurd least (Nat.not_le_of_lt bounded)
  · rw [leastTooLarge, mul_le_mul_add_iff less]
    constructor
    · intro tooLarge
      apply Nat.le_of_not_lt
      intro lesser
      rcases exists_ofDecimal_of_le (Nat.le_of_lt_succ lesser) (Nat.le_refl _)
        exists_ofDecimal_below.2 with ⟨number, found⟩
      rw [tooLarge] at found
      contradiction
    · intro greater
      exact ofDecimal_eq_none_of_le ofDecimal_above.1 greater (Nat.le_refl _)
  · have greater : 1844674407370955161 ≤ significand := by omega
    have large : leastTooLarge ≤ 1844674407370955161 * Nat.pow 10 290 := by decide +kernel
    have powers := tenPow_le higher
    constructor
    · intro _
      calc
        leastTooLarge ≤ 1844674407370955161 * Nat.pow 10 290 := large
        _ ≤ significand * Nat.pow 10 exponent := Nat.mul_le_mul greater powers
        _ ≤ significand * Nat.pow 10 exponent + rest := Nat.le_add_right _ rest
    · intro _
      exact ofDecimal_eq_none_of_le ofDecimal_above.2 greater higher

end Binary64

end JobLedger.Number
