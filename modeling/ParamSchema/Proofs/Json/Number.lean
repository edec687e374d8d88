import ParamSchema.Proofs.Binary64.Rounding
import ParamSchema.Schema.Printer

/-!
# Numbers written and read back

A double is written as an integer if that loses nothing but the sign of zero. A
count is read back as it was written, also the one that stands for all that are
too large.
-/

set_option autoImplicit false

namespace ParamSchema

namespace Number

theorem toBinary64_ofBinary64 (x : Binary64) : (ofBinary64 x).toBinary64 = x.canonical := by
  unfold ofBinary64
  split
  · rename_i hWhole
    have hUnits : x.units = x.wholePart * Binary64.one := Binary64.isIntegral_iff.mp hWhole.1
    have hAbs : (if x.negative then -(x.wholePart : Int) else x.wholePart).natAbs = x.wholePart := by
      split <;> omega
    by_cases hZero : x.wholePart = 0
    · -- An integer has no sign to keep for zero.
      rw [hZero, Nat.zero_mul] at hUnits
      rw [Binary64.canonical, if_pos hUnits]
      ext
      · simp [toBinary64, hZero, Binary64.zero]
      · rw [toBinary64, Binary64.units_ofWhole]
        · rw [hAbs, hZero, Nat.zero_mul, Binary64.zero]
        · rw [hAbs, hZero, Nat.zero_mul]
          exact Binary64.zero.representable
    · have hSign : decide ((if x.negative then -(x.wholePart : Int) else x.wholePart) < 0) =
          x.negative := by
        cases x.negative <;> simp
        omega
      rw [Binary64.canonical_of_ne_zero]
      · ext
        · exact hSign
        · rw [toBinary64, Binary64.units_ofWhole]
          · rw [hAbs, ← hUnits]
          · rw [hAbs, ← hUnits]
            exact x.representable
      · rw [hUnits]
        exact Nat.mul_ne_zero hZero (Nat.ne_of_gt Binary64.one_pos)
  · rename_i hWhole
    rw [toBinary64, Binary64.canonical_of_ne_zero]
    intro hUnits
    apply hWhole
    rw [Binary64.isIntegral_iff]
    simp [Binary64.wholePart, hUnits]

theorem ofBinary64_canonical (x : Binary64) : ofBinary64 x.canonical = ofBinary64 x := by
  by_cases hUnits : x.units = 0
  · rw [Binary64.canonical, if_pos hUnits]
    have hWhole : x.wholePart = 0 := by simp [Binary64.wholePart, hUnits]
    have hIntegral : x.isIntegral = true := by simp [Binary64.isIntegral, hUnits]
    have hZero : Binary64.zero.wholePart = 0 := by simp [Binary64.wholePart, Binary64.zero]
    have hZeroIntegral : Binary64.zero.isIntegral = true := by
      simp [Binary64.isIntegral, Binary64.zero]
    simp [ofBinary64, hWhole, hIntegral, hZero, hZeroIntegral]
  · rw [Binary64.canonical_of_ne_zero hUnits]

end Number

namespace Json

theorem binary64?_ofBinary64 (x : Binary64) : (ofBinary64 x).binary64? = some x.canonical :=
  congrArg some (Number.toBinary64_ofBinary64 x)

theorem count?_eq_some_iff {value : Json} {count : Nat} : value.count? = some count ↔
    ∃ x, value.binary64? = some x ∧ x.isIntegral = true ∧ 0 ≤ x.signedUnits ∧
      min x.wholePart maxCount = count := by
  simp only [count?, integral?, Option.map_eq_some_iff, Option.filter_eq_some_iff,
    decide_eq_true_eq, and_assoc]

theorem count?_integer {count whole : Nat} (hRange : Number.InRange count)
    (hWhole : Binary64.nearest (count * Binary64.one) 1 = whole * Binary64.one) :
    (Json.number (.integer count hRange)).count? = some (min whole maxCount) := by
  have hUnits : (Number.integer count hRange).toBinary64.units = whole * Binary64.one := hWhole
  rw [count?_eq_some_iff]
  refine ⟨_, rfl, Binary64.isIntegral_of_units hUnits, ?_, ?_⟩
  · have hSign : (Number.integer count hRange).toBinary64.negative = false := by
      simp [Number.toBinary64]
    simp [Binary64.signedUnits, hSign]
  · rw [Binary64.wholePart_of_units hUnits]

def IsCount (count : Nat) : Prop := ∃ value : Json, value.count? = some count

theorem inRange_of_isCount {count : Nat} (hCount : IsCount count) : Number.InRange count := by
  obtain ⟨value, hValue⟩ := hCount
  obtain ⟨x, -, -, -, hMin⟩ := count?_eq_some_iff.mp hValue
  have hMax : maxCount < 2 ^ 64 := by decide
  unfold Number.InRange
  omega

theorem count?_ofCount {count : Nat} (hCount : IsCount count) :
    (ofCount count).count? = some count := by
  have hRange := inRange_of_isCount hCount
  obtain ⟨value, hValue⟩ := hCount
  obtain ⟨x, -, hIntegral, -, hMin⟩ := count?_eq_some_iff.mp hValue
  rw [ofCount, dif_pos hRange]
  by_cases hExact : x.wholePart ≤ maxCount
  · have hCount : x.wholePart = count := by omega
    have hUnits : x.units = count * Binary64.one := hCount ▸ Binary64.isIntegral_iff.mp hIntegral
    rw [count?_integer hRange (Binary64.nearest_of_representable (hUnits ▸ x.representable))]
    congr 1
    omega
  · -- The largest count is no double: it rounds up to the next whole number.
    have hCount : count = maxCount := by omega
    subst hCount
    have hNearest : Binary64.nearest (maxCount * Binary64.one) 1 = 2 ^ 64 * Binary64.one := by
      decide +kernel
    rw [count?_integer hRange hNearest]
    decide

/-- The value of a number outlives being written in its canonical form and read again, apart from
the sign of zero, and is written in the same form then. A count outlives being written as an
integer, whatever number it was read from. -/
theorem canonical_numbers_read_again :
    (∀ number : Number, ∃ x y, (Json.number number).binary64? = some x ∧
      (ofBinary64 x).binary64? = some y ∧ y.sameValue x = true ∧ (x.signedUnits ≠ 0 → y = x) ∧
      ofBinary64 y = ofBinary64 x ∧ y.canonicalText = x.canonicalText) ∧
    ∀ (value : Json) (count : Nat), value.count? = some count →
      ∃ hRange : Number.InRange count, ofCount count = .number (.integer count hRange) ∧
        (Json.number (.integer count hRange)).count? = some count := by
  constructor
  · intro number
    have hAgain := Number.ofBinary64_canonical number.toBinary64
    refine ⟨number.toBinary64, number.toBinary64.canonical, rfl, binary64?_ofBinary64 _,
      Binary64.canonical_sameValue _, ?_, congrArg Json.number hAgain, congrArg Number.write hAgain⟩
    intro hUnits
    apply Binary64.canonical_of_ne_zero
    rintro hZero
    simp [Binary64.signedUnits, hZero] at hUnits
  · intro value count hValue
    have hCount : IsCount count := ⟨value, hValue⟩
    have hRange := inRange_of_isCount hCount
    have hInteger : ofCount count = .number (.integer count hRange) := by
      rw [ofCount, dif_pos hRange]
    exact ⟨hRange, hInteger, hInteger ▸ count?_ofCount hCount⟩

/-- A count that is no double and rounds to a power of two, and one that is too large. -/
theorem large_counts_read_again :
    (∃ hRange : Number.InRange (Number.maxSafe + 1 : Nat),
      (Json.number (.integer (Number.maxSafe + 1 : Nat) hRange)).count? =
        some (Number.maxSafe + 1)) ∧
    ∃ hRange : Number.InRange maxCount,
      (Json.number (.integer maxCount hRange)).count? = some maxCount := by
  obtain ⟨-, hCounts⟩ := canonical_numbers_read_again
  have hRounded :
      (Json.number (.integer (Number.maxSafe + 2 : Nat) (by decide +kernel))).count? =
        some (Number.maxSafe + 1) := by
    decide +kernel
  have hHuge : (Json.number (.double ⟨false, 2 ^ (70 : Nat) * Binary64.one, by decide +kernel⟩)).count? =
      some maxCount := by
    decide +kernel
  obtain ⟨hRange, -, hAgain⟩ := hCounts _ _ hRounded
  obtain ⟨hMaxRange, -, hMaxAgain⟩ := hCounts _ _ hHuge
  exact ⟨⟨hRange, hAgain⟩, ⟨hMaxRange, hMaxAgain⟩⟩

end Json

end ParamSchema
