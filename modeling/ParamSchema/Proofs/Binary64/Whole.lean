import ParamSchema.Binary64.Divisibility
import ParamSchema.Proofs.Binary64.Shortest

/-!
# Whole doubles divide as integers

The shortest decimal of a whole double has no place after the point, however large the double
is. So nothing is scaled when two whole doubles are divided, and the remainder is the one of
the integers that they are.
-/

set_option autoImplicit false

namespace ParamSchema

namespace Decimal

open Binary64

theorem le_exponent_stripZeros (digits : Nat) (exponent : Int) :
    exponent ≤ (stripZeros digits exponent).exponent := by
  induction digits, exponent using stripZeros.induct with
  | case1 digits exponent hZero ih =>
    rw [stripZeros, if_pos hZero]
    omega
  | case2 digits exponent hLast =>
    refine Int.le_of_eq ?_
    rw [stripZeros, if_neg hLast]

theorem stripZeros_mul_pow {digits : Nat} (hDigits : digits ≠ 0) (zeros : Nat) (exponent : Int) :
    stripZeros (digits * 10 ^ zeros) exponent = stripZeros digits (exponent + zeros) := by
  induction zeros generalizing exponent with
  | zero => rw [Nat.pow_zero, Nat.mul_one, Int.natCast_zero, Int.add_zero]
  | succ zeros ih =>
    have hShift : digits * 10 ^ (zeros + 1) = 10 * (digits * 10 ^ zeros) := by
      rw [Nat.pow_succ, ← Nat.mul_assoc, Nat.mul_comm]
    have hPos : 0 < digits * 10 ^ zeros :=
      Nat.mul_pos (Nat.pos_of_ne_zero hDigits) (Nat.pow_pos (by decide))
    have hNext : exponent + 1 + (zeros : Int) = exponent + (zeros + 1 : Nat) := by omega
    rw [hShift, stripZeros, if_pos (by omega), Nat.mul_div_cancel_left _ (by decide), ih, hNext]

theorem exponent_exact_nonneg {n : Nat} (hn : n ≠ 0) : 0 ≤ (exact (n * one)).exponent := by
  -- the digits are scaled by a power of two and one of five, which make 1074 zeros
  have hPower := (Nat.mul_comm _ _).trans (five_pow_mul_two_pow 1074)
  rw [exact, Nat.mul_assoc, one, hPower, stripZeros_mul_pow hn 1074]
  exact le_exponent_stripZeros n _

theorem exponent_onGrid? {units : Nat} {exponent : Int} {d : Decimal}
    (h : onGrid? units exponent = some d) : d.exponent = exponent := by
  unfold onGrid? at h
  dsimp only at h
  have hMem := List.mem_of_find?_eq_some h
  split at hMem
  all_goals
    simp only [List.mem_cons, List.not_mem_nil, or_false] at hMem
    rcases hMem with rfl | rfl <;> rfl

theorem onGrid?_zero_ne_none {n : Nat} (hUnits : Representable (n * one)) :
    onGrid? (n * one) 0 ≠ none := by
  have hRead : nearestUnits ⟨n, 0⟩ = n * one := by
    have hNearest := nearest_of_representable hUnits
    simpa [nearestUnits] using hNearest
  have hCount : n * one * 10 ^ (-(0 : Int)).toNat / (one * 10 ^ (0 : Int).toNat) = n := by
    simp [one_pos]
  unfold onGrid?
  dsimp only
  rw [hCount]
  intro hNone
  have hAll := List.find?_eq_none.mp hNone ⟨n, 0⟩ (by split <;> simp)
  exact hAll (beq_iff_eq.mpr hRead)

theorem leadingExponent_nonneg {units : Nat} (hUnits : one ≤ units) : 0 ≤ leadingExponent units := by
  have hLength := @Nat.length_toDigits_pos 10 (units / one)
  rw [leadingExponent, if_pos hUnits]
  omega

/-- The grid that is taken is the first on which something reads back. -/
theorem findSome?_range_first {α : Type} {f : Nat → Option α} {count : Nat} {a : α}
    (h : (List.range count).findSome? f = some a) (first : Nat) (hFirst : first < count)
    (hSome : f first ≠ none) : ∃ n ≤ first, f n = some a := by
  obtain ⟨before, n, after, hRange, hFound, hNone⟩ := List.findSome?_eq_some_iff.mp h
  refine ⟨n, ?_, hFound⟩
  have hMem : first ∈ before ++ n :: after := hRange ▸ List.mem_range.mpr hFirst
  have hSorted : (before ++ n :: after).Pairwise (· < ·) := hRange ▸ List.pairwise_lt_range
  rcases List.mem_append.mp hMem with hBefore | hAfter
  · exact absurd (hNone first hBefore) hSome
  · rcases List.mem_cons.mp hAfter with rfl | hLater
    · exact Nat.le_refl _
    · exact Nat.le_of_lt (List.rel_of_pairwise_cons (List.pairwise_append.mp hSorted).2.1 hLater)

theorem exponent_shortest_of_grid {units : Nat} (hTop : 0 ≤ leadingExponent units)
    (hGrid : onGrid? units 0 ≠ none) (hExact : 0 ≤ (exact units).exponent) :
    0 ≤ (shortest units).exponent := by
  unfold shortest
  by_cases hZero : units = 0
  · refine Int.le_of_eq ?_
    rw [if_pos hZero]
  rw [if_neg hZero]
  dsimp only
  cases hFound : (List.range 17).findSome? fun (k : Nat) =>
    onGrid? units (leadingExponent units - k) with
  | none => exact hExact
  | some d =>
    refine Int.le_trans ?_ (le_exponent_stripZeros _ _)
    by_cases hSmall : leadingExponent units < 17
    · -- the grid of whole numbers is among those tried, so no finer one is taken
      have hWhole : leadingExponent units - (leadingExponent units).toNat = 0 := by omega
      obtain ⟨k, hLe, hGrid⟩ := findSome?_range_first hFound (leadingExponent units).toNat
        (by omega) (hWhole.symm ▸ hGrid)
      rw [exponent_onGrid? hGrid]
      omega
    · -- every grid that is tried is one of whole numbers
      obtain ⟨k, hRange, hGrid⟩ := List.exists_of_findSome?_eq_some hFound
      have hLess := List.mem_range.mp hRange
      rw [exponent_onGrid? hGrid]
      omega

theorem exponent_shortest_nonneg {n : Nat} (hUnits : Representable (n * one)) :
    0 ≤ (shortest (n * one)).exponent := by
  by_cases hn : n = 0
  · refine Int.le_of_eq ?_
    rw [hn, Nat.zero_mul, shortest, if_pos rfl]
  · have hLarge : one ≤ n * one := Nat.le_mul_of_pos_left one (Nat.pos_of_ne_zero hn)
    exact exponent_shortest_of_grid (leadingExponent_nonneg hLarge) (onGrid?_zero_ne_none hUnits)
      (exponent_exact_nonneg hn)

end Decimal

namespace Binary64

variable {x : Binary64}

theorem decimalPlaces_of_isIntegral (h : x.isIntegral = true) : x.decimalPlaces = 0 := by
  have hUnits := isIntegral_iff.mp h
  have hExponent : 0 ≤ x.shortest.exponent := by
    rw [shortest, hUnits]
    exact Decimal.exponent_shortest_nonneg (hUnits ▸ x.representable)
  rw [decimalPlaces, Decimal.places]
  omega

theorem powerOfTen?_zero (hOne : 1 < wholeBound) : powerOfTen? 0 = some (ofSmall 1 hOne) := by
  rw [powerOfTen?, power?]
  rfl

/-- A factor of one leaves every double as it is, sign included. -/
theorem mul?_ofSmall_one (x : Binary64) (hOne : 1 < wholeBound) :
    x.mul? (ofSmall 1 hOne) = some x := by
  have hUnits : (ofSmall 1 hOne).units = one :=
    (units_ofWhole hOne (by decide +kernel)).trans (Nat.one_mul one)
  have hNearest : nearest (x.units * one * one) (one * one) = x.units := by
    rw [Nat.mul_assoc, Nat.mul_comm]
    exact nearest_mul_right (Nat.mul_pos one_pos one_pos) x.representable
  unfold mul? ofRatio?
  rw [hUnits, dif_pos (by rw [hNearest]; exact x.representable.1)]
  refine congrArg some (Binary64.ext ?_ hNearest)
  exact Bool.bne_false x.negative

theorem roundedMagnitude_of_units {n : Nat} (hUnits : x.units = n * one) :
    x.roundedMagnitude = n := by
  have hOne := one_pos
  rw [roundedMagnitude, hUnits, Nat.mul_left_comm]
  refine Nat.div_eq_of_lt_le ?_ ?_
  · omega
  · rw [Nat.add_mul, Nat.one_mul]
    omega

def integer (x : Binary64) : Int := if x.negative then -(x.wholePart : Int) else x.wholePart

theorem natAbs_integer (x : Binary64) : x.integer.natAbs = x.wholePart := by
  unfold integer
  split <;> omega

theorem signedUnits_of_isIntegral (h : x.isIntegral = true) : x.signedUnits = x.integer * one := by
  have hUnits : (x.units : Int) = x.wholePart * one := congrArg Nat.cast (isIntegral_iff.mp h)
  unfold signedUnits integer
  rw [hUnits]
  split
  · rw [Int.neg_mul]
  · rfl

theorem scaled?_zero_of_isIntegral (h : x.isIntegral = true) :
    x.scaled? 0 = some x.integer.natAbs := by
  have hOne : 1 < wholeBound := by decide +kernel
  rw [scaled?, powerOfTen?_zero hOne, Option.bind_some, mul?_ofSmall_one x hOne, Option.map_some,
    natAbs_integer, roundedMagnitude_of_units (isIntegral_iff.mp h)]

/-- Whole doubles of any size: no places, so the scale changes neither of them, the fallback is
not used, and divisibility is the one of the integers. -/
theorem isMultipleOf_iff_dvd_of_isIntegral {value divisor : Binary64}
    (hValue : value.isIntegral = true) (hDivisor : divisor.isIntegral = true)
    (hPos : 0 < divisor.signedUnits) :
    max value.decimalPlaces divisor.decimalPlaces = 0 ∧
    (∃ scale, powerOfTen? 0 = some scale ∧ value.mul? scale = some value ∧
      divisor.mul? scale = some divisor) ∧
    ∃ v d : Int, value.signedUnits = v * one ∧ divisor.signedUnits = d * one ∧
      value.scaled? 0 = some v.natAbs ∧ divisor.scaled? 0 = some d.natAbs ∧ d.natAbs ≠ 0 ∧
      (value.isMultipleOf divisor = true ↔ d ∣ v) := by
  have hPlaces : max value.decimalPlaces divisor.decimalPlaces = 0 := by
    rw [decimalPlaces_of_isIntegral hValue, decimalPlaces_of_isIntegral hDivisor, Nat.max_self]
  have hNonzero : divisor.integer.natAbs ≠ 0 := by
    intro hZero
    rw [signedUnits_of_isIntegral hDivisor, Int.natAbs_eq_zero.mp hZero, Int.zero_mul] at hPos
    exact Int.lt_irrefl 0 hPos
  have hScaledValue := scaled?_zero_of_isIntegral hValue
  have hScaledDivisor := scaled?_zero_of_isIntegral hDivisor
  have hOne : 1 < wholeBound := by decide +kernel
  refine ⟨hPlaces, ⟨_, powerOfTen?_zero hOne, mul?_ofSmall_one value hOne,
    mul?_ofSmall_one divisor hOne⟩,
    value.integer, divisor.integer, signedUnits_of_isIntegral hValue,
    signedUnits_of_isIntegral hDivisor, hScaledValue, hScaledDivisor, hNonzero, ?_⟩
  unfold isMultipleOf
  dsimp only
  rw [hPlaces, hScaledValue, hScaledDivisor]
  dsimp only
  rw [if_neg hNonzero, beq_iff_eq, ← Nat.dvd_iff_mod_eq_zero, Int.natAbs_dvd_natAbs]

def hugeTriple : Binary64 := ⟨true, 3 * 2 ^ (2094 : Nat), by decide +kernel⟩

def largeTriple : Binary64 := ⟨false, 3 * 2 ^ (1154 : Nat), by decide +kernel⟩

def largeQuintuple : Binary64 := ⟨false, 5 * 2 ^ (1154 : Nat), by decide +kernel⟩

theorem hugeTriple_multiple_of_triple_only :
    hugeTriple.isMultipleOf largeTriple = true ∧ hugeTriple.isMultipleOf largeQuintuple = false := by
  have hWhole : hugeTriple.isIntegral = true ∧ largeTriple.isIntegral = true ∧
      largeQuintuple.isIntegral = true := by
    decide +kernel
  have hPos : 0 < largeTriple.signedUnits ∧ 0 < largeQuintuple.signedUnits := by decide +kernel
  have hOne : (one : Int) ≠ 0 := by decide +kernel
  have hUnits : hugeTriple.signedUnits = -(3 * 2 ^ (1020 : Nat)) * one ∧
      largeTriple.signedUnits = 3 * 2 ^ (80 : Nat) * one ∧
      largeQuintuple.signedUnits = 5 * 2 ^ (80 : Nat) * one := by
    decide +kernel
  obtain ⟨-, -, v, d, hv, hd, -, -, -, hTriple⟩ :=
    isMultipleOf_iff_dvd_of_isIntegral hWhole.1 hWhole.2.1 hPos.1
  obtain ⟨-, -, w, e, hw, he, -, -, -, hQuintuple⟩ :=
    isMultipleOf_iff_dvd_of_isIntegral hWhole.1 hWhole.2.2 hPos.2
  have hv := Int.eq_of_mul_eq_mul_right hOne (hv.symm.trans hUnits.1)
  have hd := Int.eq_of_mul_eq_mul_right hOne (hd.symm.trans hUnits.2.1)
  have hw := Int.eq_of_mul_eq_mul_right hOne (hw.symm.trans hUnits.1)
  have he := Int.eq_of_mul_eq_mul_right hOne (he.symm.trans hUnits.2.2)
  constructor
  · rw [hTriple, hv, hd]
    decide +kernel
  · rw [Bool.eq_false_iff, Ne, hQuintuple, hw, he]
    decide +kernel

end Binary64

end ParamSchema
