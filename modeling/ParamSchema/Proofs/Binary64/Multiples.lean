import Mathlib.Algebra.Order.Field.Rat
import Mathlib.Algebra.Order.Group.Abs
import Mathlib.Tactic.NormNum
import Mathlib.Tactic.Positivity
import Mathlib.Tactic.Ring
import ParamSchema.Binary64.Divisibility
import ParamSchema.Proofs.Binary64.Shortest

/-!
# Divisibility of decimals is exact

Two doubles that stand for decimals of at most 22 places, below `2⁵⁰` when scaled to whole
numbers: then scaling loses so little that rounding restores the scaled decimals, and what is
divided in the end are the decimals themselves.
-/

set_option autoImplicit false

namespace ParamSchema

namespace Decimal

def scaledDigits (d : Decimal) (places : Nat) : Nat := d.digits * 10 ^ (d.exponent + places).toNat

theorem scaledDigits_eq {d : Decimal} {places : Nat} (hPlaces : d.places ≤ places) :
    d.scaledDigits places = d.digits * 10 ^ d.exponent.toNat * 10 ^ (places - d.places) := by
  unfold Decimal.places at hPlaces
  have hSplit : (d.exponent + places).toNat =
      d.exponent.toNat + (places - (-d.exponent).toNat) := by omega
  rw [scaledDigits, hSplit, Nat.pow_add, Nat.mul_assoc]
  rfl

def toRat (d : Decimal) : ℚ := d.digits * 10 ^ d.exponent

theorem toRat_nonneg (d : Decimal) : 0 ≤ d.toRat := by
  exact mul_nonneg (Nat.cast_nonneg _) (zpow_nonneg (by norm_num) _)

theorem toRat_mul_pow {d : Decimal} {places : Nat} (hPlaces : d.places ≤ places) :
    d.toRat * 10 ^ places = d.scaledDigits places := by
  have hMoved : d.exponent + places = ((d.exponent + places).toNat : Int) := by
    unfold Decimal.places at hPlaces
    omega
  rw [toRat, scaledDigits, mul_assoc, ← zpow_natCast, ← zpow_add₀ (by norm_num), hMoved,
    zpow_natCast]
  push_cast
  rfl

theorem scaledDigits_le {d : Decimal} {places exponent : Nat} (hPlaces : d.places ≤ places)
    (hBound : d.toRat * 10 ^ places ≤ 2 ^ exponent) : d.scaledDigits places ≤ 2 ^ exponent := by
  rw [toRat_mul_pow hPlaces] at hBound
  exact_mod_cast hBound

theorem scaledDigits_pos {d : Decimal} (hDigits : d.digits ≠ 0) (places : Nat) :
    0 < d.scaledDigits places :=
  Nat.mul_pos (Nat.pos_of_ne_zero hDigits) (Nat.pow_pos (by decide))

end Decimal

namespace Binary64

theorem gap_mul_le (units : Nat) :
    2 ^ gapExponent units * 2 ^ (52 : Nat) ≤ max units (2 ^ (52 : Nat)) := by
  by_cases hSmall : units.log2 ≤ 52
  · have hGap : gapExponent units = 0 := by
      unfold gapExponent
      omega
    rw [hGap, Nat.pow_zero, Nat.one_mul]
    exact Nat.le_max_right _ _
  · have hUnits : units ≠ 0 := by
      rintro rfl
      exact hSmall (by decide)
    have hLog : gapExponent units + 52 = units.log2 := by
      unfold gapExponent
      omega
    rw [← Nat.pow_add, hLog]
    exact Nat.le_trans (Nat.log2_self_le hUnits) (Nat.le_max_left _ _)

theorem small_constants : 2 ^ (52 : Nat) * (10 ^ (22 : Nat) * 4) ≤ one ∧
    2 * (2 ^ (51 : Nat) * one) + 1 < limit := by
  decide +kernel

theorem units_of_powerOfTen? {places : Nat} (hPlaces : places ≤ 22) :
    ∃ power, powerOfTen? places = some power ∧ power.units = 10 ^ places * one := by
  have hAll : ∀ places < 23,
      (powerOfTen? places).map Binary64.units = some (10 ^ places * one) := by
    decide +kernel
  exact Option.map_eq_some_iff.mp (hAll places (by omega))

/-- A quotient that is small when scaled has a gap that is small when scaled. -/
theorem scaled_gap_le {num den rest places : Nat} (hPower : den * rest = 10 ^ places)
    (hMost : places ≤ 22) (hBound : num * rest ≤ 2 ^ (50 : Nat) * one) :
    4 * (2 ^ gapExponent (num / den) * 10 ^ places) ≤ one := by
  have hGap := Nat.mul_le_mul_right (10 ^ places) (gap_mul_le (num / den))
  have hTop : 2 ^ (52 : Nat) * 10 ^ places ≤ 2 ^ (52 : Nat) * 10 ^ (22 : Nat) :=
    Nat.mul_le_mul_left _ (Nat.pow_le_pow_right (by decide) hMost)
  have hQuotient : num / den * 10 ^ places ≤ num * rest := by
    rw [← hPower, ← Nat.mul_assoc]
    exact Nat.mul_le_mul_right rest (Nat.div_mul_le_self num den)
  have hSmall := small_constants.1
  rw [Nat.mul_right_comm] at hGap
  generalize 2 ^ gapExponent (num / den) * 10 ^ places = gap at hGap ⊢
  rcases Nat.le_total (num / den) (2 ^ (52 : Nat)) with hMax | hMax
  · rw [Nat.max_eq_right hMax] at hGap
    omega
  · rw [Nat.max_eq_left hMax] at hGap
    omega

section

variable {x : Binary64} {places : Nat} (hPlaces : x.decimalPlaces ≤ places) (hMost : places ≤ 22)
  (hBound : x.shortest.scaledDigits places ≤ 2 ^ (50 : Nat))

include hPlaces hMost hBound

/-- A double and its decimal, both scaled, are no further apart than an eighth. -/
theorem scaled_units_error :
    8 * (x.units * 10 ^ places) ≤ 8 * (x.shortest.scaledDigits places * one) + one ∧
      8 * (x.shortest.scaledDigits places * one) ≤ 8 * (x.units * 10 ^ places) + one := by
  have hRead : x.shortest.nearestUnits = x.units := Decimal.nearestUnits_shortest x.representable
  have hDen : 0 < 10 ^ (-x.shortest.exponent).toNat := Nat.pow_pos (by decide)
  have hPower : 10 ^ (-x.shortest.exponent).toNat * 10 ^ (places - x.shortest.places) =
      10 ^ places := by
    rw [← Nat.pow_add]
    exact congrArg _ (Nat.add_sub_cancel' hPlaces)
  have hScaled : x.shortest.scaledDigits places * one =
      x.shortest.digits * 10 ^ x.shortest.exponent.toNat * one * 10 ^ (places - x.shortest.places) := by
    rw [Decimal.scaledDigits_eq hPlaces, Nat.mul_right_comm]
  have hSmall : x.shortest.scaledDigits places * one ≤ 2 ^ (50 : Nat) * one :=
    Nat.mul_le_mul_right one hBound
  rw [hScaled] at hSmall ⊢
  unfold Decimal.nearestUnits at hRead
  generalize x.shortest.digits * 10 ^ x.shortest.exponent.toNat * one = num at hRead hSmall ⊢
  generalize 10 ^ (-x.shortest.exponent).toNat = den at hRead hDen hPower
  generalize 10 ^ (places - x.shortest.places) = rest at hPower hSmall ⊢
  have hGap := scaled_gap_le hPower hMost hSmall
  obtain ⟨hAbove, hBelow⟩ := @nearest_error num den hDen
  rw [hRead] at hAbove hBelow
  have hAbove := Nat.mul_le_mul_right rest hAbove
  have hBelow := Nat.mul_le_mul_right rest hBelow
  rw [← hPower] at hGap ⊢
  simp only [Nat.add_mul, Nat.mul_assoc] at hAbove hBelow hGap ⊢
  omega

theorem scaled_units_lt : x.units * 10 ^ places < 2 ^ (51 : Nat) * one := by
  have hError := (scaled_units_error hPlaces hMost hBound).1
  have hSmall : x.shortest.scaledDigits places * one ≤ 2 ^ (50 : Nat) * one :=
    Nat.mul_le_mul_right one hBound
  have hOne := one_pos
  omega

theorem product_error :
    4 * nearest (x.units * 10 ^ places) 1 ≤ 4 * (x.units * 10 ^ places) + one ∧
      4 * (x.units * 10 ^ places) ≤ 4 * nearest (x.units * 10 ^ places) 1 + one := by
  have hLess := scaled_units_lt hPlaces hMost hBound
  have hError := @nearest_error (x.units * 10 ^ places) 1 Nat.one_pos
  have hGap := gap_mul_le (x.units * 10 ^ places)
  have hOne := small_constants.1
  rw [Nat.div_one, Nat.mul_one, Nat.mul_one] at hError
  have hQuarter : 2 * 2 ^ gapExponent (x.units * 10 ^ places) ≤ one := by
    rcases Nat.le_total (x.units * 10 ^ places) (2 ^ (52 : Nat)) with hMax | hMax
    · rw [Nat.max_eq_right hMax] at hGap
      omega
    · rw [Nat.max_eq_left hMax] at hGap
      omega
  omega

theorem scaled?_eq_some : x.scaled? places = some (x.shortest.scaledDigits places) := by
  obtain ⟨power, hPower, hUnits⟩ := units_of_powerOfTen? hMost
  have hOne := one_pos
  have hLess := scaled_units_lt hPlaces hMost hBound
  have hScaled := scaled_units_error hPlaces hMost hBound
  have hProduct := product_error hPlaces hMost hBound
  have hNearest : nearest (x.units * power.units * one) (one * one) =
      nearest (x.units * 10 ^ places) 1 := by
    have hNum : x.units * power.units * one = one * one * (x.units * 10 ^ places) := by
      rw [hUnits]
      generalize 10 ^ places = scale
      generalize one = unit
      ring
    have hMul := nearest_mul_mul (Nat.mul_pos hOne hOne) (x.units * 10 ^ places) 1
    rwa [Nat.mul_one, ← hNum] at hMul
  have hLimit : nearest (x.units * power.units * one) (one * one) < limit := by
    have hLe := nearest_le (x.units * 10 ^ places) 1
    have hConstant := small_constants.2
    rw [hNearest]
    rw [Nat.div_one] at hLe
    omega
  unfold scaled? mul? ofRatio?
  rw [hPower, Option.bind_some, dif_pos hLimit, Option.map_some, roundedMagnitude]
  dsimp only
  rw [hNearest]
  -- an eighth and a quarter: together less than the half that rounding to a whole number forgives
  refine congrArg some (Nat.div_eq_of_lt_le ?_ ?_)
  · rw [Nat.mul_left_comm]
    omega
  · rw [Nat.mul_left_comm, Nat.add_mul, Nat.one_mul]
    omega

end

/-- The decimal that a double stands for: the shortest one that reads back to it. -/
def decimalValue (x : Binary64) : ℚ := if x.negative then -x.shortest.toRat else x.shortest.toRat

theorem abs_decimalValue (x : Binary64) : |x.decimalValue| = x.shortest.toRat := by
  unfold decimalValue
  split
  · rw [abs_neg, abs_of_nonneg x.shortest.toRat_nonneg]
  · rw [abs_of_nonneg x.shortest.toRat_nonneg]

theorem decimalValue_of_pos {x : Binary64} (hPos : 0 < x.signedUnits) :
    x.decimalValue = x.shortest.toRat := by
  have hSign : ¬x.negative = true := by
    intro hNegative
    rw [signedUnits, if_pos hNegative] at hPos
    omega
  rw [decimalValue, if_neg hSign]

theorem shortest_digits_ne_zero {x : Binary64} (hPos : 0 < x.signedUnits) :
    x.shortest.digits ≠ 0 := by
  have hUnits : x.units ≠ 0 := by
    intro hZero
    rw [signedUnits, hZero] at hPos
    split at hPos <;> omega
  intro hDigits
  have hRead : x.shortest.nearestUnits = x.units := Decimal.nearestUnits_shortest x.representable
  rw [Decimal.nearestUnits, hDigits, Nat.zero_mul, Nat.zero_mul] at hRead
  have hZero : nearest 0 (10 ^ (-x.shortest.exponent).toNat) = 0 := by
    unfold nearest
    simp
  exact hUnits (hRead.symm.trans hZero)

/-- A signed decimal is a whole multiple of another exactly if the scaled digits divide. -/
theorem exists_multiple_iff {x y : Binary64} {places : Nat} (hPlaces : x.decimalPlaces ≤ places)
    (hOther : y.decimalPlaces ≤ places) :
    (∃ count : ℤ, x.decimalValue = count * y.shortest.toRat) ↔
      y.shortest.scaledDigits places ∣ x.shortest.scaledDigits places := by
  have hScale : (10 : ℚ) ^ places ≠ 0 := by positivity
  have hSigned (count : ℤ) : x.decimalValue = count * y.shortest.toRat ↔
      (if x.negative then -(x.shortest.scaledDigits places : ℤ) else x.shortest.scaledDigits places) =
        count * y.shortest.scaledDigits places := by
    rw [← mul_left_inj' hScale, mul_assoc, Decimal.toRat_mul_pow hOther, decimalValue]
    split
    · rw [neg_mul, Decimal.toRat_mul_pow hPlaces]
      exact_mod_cast Iff.rfl
    · rw [Decimal.toRat_mul_pow hPlaces]
      exact_mod_cast Iff.rfl
  rw [exists_congr hSigned, ← Int.natCast_dvd_natCast]
  split
  · rw [← dvd_neg, dvd_iff_exists_eq_mul_left]
  · rw [dvd_iff_exists_eq_mul_left]

theorem isMultipleOf_iff_of_small_decimals {value divisor : Binary64}
    (hDivisor : 0 < divisor.signedUnits)
    (hPlaces : max value.decimalPlaces divisor.decimalPlaces ≤ 22)
    (hValue : |value.decimalValue| * 10 ^ max value.decimalPlaces divisor.decimalPlaces ≤ 2 ^ 50)
    (hBound : divisor.decimalValue * 10 ^ max value.decimalPlaces divisor.decimalPlaces ≤ 2 ^ 50) :
    value.isMultipleOf divisor = true ↔
      ∃ count : ℤ, value.decimalValue = count * divisor.decimalValue := by
  have hValuePlaces := Nat.le_max_left value.decimalPlaces divisor.decimalPlaces
  have hDivisorPlaces := Nat.le_max_right value.decimalPlaces divisor.decimalPlaces
  unfold isMultipleOf
  dsimp only
  generalize max value.decimalPlaces divisor.decimalPlaces = places at *
  rw [abs_decimalValue] at hValue
  rw [decimalValue_of_pos hDivisor] at hBound ⊢
  have hNonzero := Decimal.scaledDigits_pos (shortest_digits_ne_zero hDivisor) places
  rw [scaled?_eq_some hValuePlaces hPlaces (Decimal.scaledDigits_le hValuePlaces hValue),
    scaled?_eq_some hDivisorPlaces hPlaces (Decimal.scaledDigits_le hDivisorPlaces hBound)]
  dsimp only
  rw [if_neg hNonzero.ne', beq_iff_eq, exists_multiple_iff hValuePlaces hDivisorPlaces,
    Nat.dvd_iff_mod_eq_zero]

def tenth : Binary64 := ⟨false, 7205759403792794 * 2 ^ (1018 : Nat), by decide +kernel⟩

def threeTenths : Binary64 := ⟨false, 5404319552844595 * 2 ^ (1020 : Nat), by decide +kernel⟩

def thirtyFiveHundredths : Binary64 :=
  ⟨false, 6305039478318694 * 2 ^ (1020 : Nat), by decide +kernel⟩

/-- Three tenths are a multiple of a tenth, thirty-five hundredths are not. -/
theorem threeTenths_are_tenths :
    threeTenths.isMultipleOf tenth = true ∧ thirtyFiveHundredths.isMultipleOf tenth = false := by
  have hPos : 0 < tenth.signedUnits ∧ 0 < threeTenths.signedUnits ∧
      0 < thirtyFiveHundredths.signedUnits := by
    decide +kernel
  have hTenth : tenth.shortest = ⟨1, -1⟩ := by decide +kernel
  have hThree : threeTenths.shortest = ⟨3, -1⟩ := by decide +kernel
  have hThirtyFive : thirtyFiveHundredths.shortest = ⟨35, -2⟩ := by decide +kernel
  have hDivisor : tenth.decimalValue = 1 / 10 := by
    norm_num [decimalValue_of_pos hPos.1, hTenth, Decimal.toRat]
  constructor
  · have hPlaces : max threeTenths.decimalPlaces tenth.decimalPlaces = 1 := by
      rw [decimalPlaces, decimalPlaces, hThree, hTenth]
      decide
    have hValue : threeTenths.decimalValue = 3 / 10 := by
      norm_num [decimalValue_of_pos hPos.2.1, hThree, Decimal.toRat]
    rw [isMultipleOf_iff_of_small_decimals hPos.1 (hPlaces.trans_le (by decide))
      (by norm_num [hPlaces, hValue, abs_div]) (by norm_num [hPlaces, hDivisor])]
    exact ⟨3, by norm_num [hValue, hDivisor]⟩
  · have hPlaces : max thirtyFiveHundredths.decimalPlaces tenth.decimalPlaces = 2 := by
      rw [decimalPlaces, decimalPlaces, hThirtyFive, hTenth]
      decide
    have hValue : thirtyFiveHundredths.decimalValue = 7 / 20 := by
      norm_num [decimalValue_of_pos hPos.2.2, hThirtyFive, Decimal.toRat]
    rw [Bool.eq_false_iff, Ne, isMultipleOf_iff_of_small_decimals hPos.1
      (hPlaces.trans_le (by decide)) (by norm_num [hPlaces, hValue, abs_div])
      (by norm_num [hPlaces, hDivisor]), hValue, hDivisor]
    rintro ⟨count, hCount⟩
    -- twice the quotient is odd
    have hTwice : (7 : ℚ) = 2 * count := by
      rw [div_eq_iff (by norm_num)] at hCount
      rw [hCount]
      ring
    have hWhole : (7 : ℤ) = 2 * count := by exact_mod_cast hTwice
    omega

end Binary64

end ParamSchema
