import Mathlib.Data.Nat.Basic
import ParamSchema.Binary64.Shortest
import ParamSchema.Proofs.Binary64.Rounding

/-!
# The shortest decimal reads back

Rounding goes by half a gap at most and does not depend on how a quotient is
written. So a decimal without its trailing zeros reads back as before, and what is
found on a grid, or the exact value, reads back to the double it was made from.
-/

set_option autoImplicit false

namespace ParamSchema

namespace Binary64

/-- Twice the distance between a quotient and what it is rounded to is a gap at most. -/
theorem nearest_error {num den : Nat} (hDen : 0 < den) :
    2 * (nearest num den * den) ≤ 2 * num + 2 ^ gapExponent (num / den) * den ∧
      2 * num ≤ 2 * (nearest num den * den) + 2 ^ gapExponent (num / den) * den := by
  have hStep : 0 < den * 2 ^ gapExponent (num / den) := Nat.mul_pos hDen (Nat.two_pow_pos _)
  unfold nearest
  generalize 2 ^ gapExponent (num / den) = gap at hStep
  have hSplit : den * gap * (num / (den * gap)) + num % (den * gap) = num := Nat.div_add_mod _ _
  have hRest : num % (den * gap) < den * gap := Nat.mod_lt _ hStep
  have hScale (count : Nat) : count * gap * den = den * gap * count := by
    rw [Nat.mul_assoc, Nat.mul_comm gap den, Nat.mul_comm]
  dsimp only
  rw [hScale, Nat.mul_comm gap den]
  generalize num / (den * gap) = below at hSplit
  generalize num % (den * gap) = rest at hSplit hRest
  generalize den * gap = step at hSplit hRest
  split
  · omega
  · split
    · rw [Nat.mul_add, Nat.mul_one]
      omega
    · rcases Nat.mod_two_eq_zero_or_one below with hEven | hOdd
      · rw [hEven, Nat.add_zero]
        omega
      · rw [hOdd, Nat.mul_add, Nat.mul_one]
        omega

theorem nearest_mul_mul {factor : Nat} (hFactor : 0 < factor) (num den : Nat) :
    nearest (factor * num) (factor * den) = nearest num den := by
  have hStep (gap : Nat) : factor * den * gap = factor * (den * gap) := Nat.mul_assoc _ _ _
  unfold nearest
  rw [Nat.mul_div_mul_left _ _ hFactor]
  dsimp only
  rw [hStep, Nat.mul_div_mul_left _ _ hFactor, Nat.mul_mod_mul_left]
  have hLess (a b : Nat) : 2 * (factor * a) < factor * b ↔ 2 * a < b := by
    rw [Nat.mul_left_comm, Nat.mul_lt_mul_left hFactor]
  have hMore (a b : Nat) : factor * b < 2 * (factor * a) ↔ b < 2 * a := by
    rw [Nat.mul_left_comm, Nat.mul_lt_mul_left hFactor]
  simp only [hLess, hMore]

theorem nearest_mul_right {factor : Nat} (hFactor : 0 < factor) {units : Nat}
    (hUnits : Representable units) : nearest (factor * units) factor = units := by
  have hMul := nearest_mul_mul hFactor units 1
  rw [Nat.mul_one] at hMul
  rw [hMul, nearest_of_representable hUnits]

end Binary64

namespace Decimal

open Binary64

/-- Ten times the digits of a decimal are the digits of the same number one place further. -/
theorem nearestUnits_shift (digits : Nat) (exponent : Int) :
    nearestUnits ⟨10 * digits, exponent⟩ = nearestUnits ⟨digits, exponent + 1⟩ := by
  unfold nearestUnits
  dsimp only
  by_cases hExponent : 0 ≤ exponent
  · have hNext : (exponent + 1).toNat = exponent.toNat + 1 := by omega
    have hPlaces : (-exponent).toNat = 0 ∧ (-(exponent + 1)).toNat = 0 := by omega
    rw [hNext, hPlaces.1, hPlaces.2, Nat.pow_succ, Nat.mul_comm 10 digits, Nat.mul_assoc digits 10,
      Nat.mul_comm 10]
  · have hNext : exponent.toNat = 0 ∧ (exponent + 1).toNat = 0 := by omega
    have hPlaces : (-exponent).toNat = (-(exponent + 1)).toNat + 1 := by omega
    rw [hNext.1, hNext.2, hPlaces, Nat.pow_succ, Nat.pow_zero, Nat.mul_one, Nat.mul_one,
      Nat.mul_comm _ 10, Nat.mul_assoc, nearest_mul_mul (by decide)]

theorem nearestUnits_stripZeros (digits : Nat) (exponent : Int) :
    (stripZeros digits exponent).nearestUnits = nearestUnits ⟨digits, exponent⟩ := by
  induction digits, exponent using stripZeros.induct with
  | case1 digits exponent hZero ih =>
    have hDigits : 10 * (digits / 10) = digits := Nat.mul_div_cancel' (Nat.dvd_of_mod_eq_zero hZero.2)
    rw [stripZeros, if_pos hZero, ih, ← nearestUnits_shift, hDigits]
  | case2 digits exponent hLast => rw [stripZeros, if_neg hLast]

theorem five_pow_mul_two_pow (n : Nat) : 5 ^ n * 2 ^ n = 10 ^ n := (Nat.mul_pow 5 2 n).symm

theorem nearestUnits_exact {units : Nat} (hUnits : Representable units) :
    (exact units).nearestUnits = units := by
  have hExponent : (-(-1074) : Int).toNat = 1074 ∧ (-1074 : Int).toNat = 0 := by decide
  have hPower := five_pow_mul_two_pow 1074
  have hFactor : ∀ n, 0 < 10 ^ n := fun n => Nat.pow_pos (by decide)
  rw [exact, nearestUnits_stripZeros, nearestUnits]
  dsimp only
  rw [hExponent.1, hExponent.2, Nat.pow_zero, Nat.mul_one, Nat.mul_assoc, one, hPower, Nat.mul_comm,
    nearest_mul_right (hFactor 1074) hUnits]

theorem nearestUnits_onGrid? {units : Nat} {exponent : Int} {d : Decimal}
    (h : onGrid? units exponent = some d) : d.nearestUnits = units := by
  unfold onGrid? at h
  dsimp only at h
  have hRead := List.find?_some h
  exact beq_iff_eq.mp hRead

theorem nearestUnits_shortest {units : Nat} (hUnits : Representable units) :
    (shortest units).nearestUnits = units := by
  unfold shortest
  by_cases hZero : units = 0
  · subst hZero
    decide +kernel
  · rw [if_neg hZero]
    dsimp only
    cases hFound : (List.range 17).findSome? fun (n : Nat) =>
      onGrid? units (leadingExponent units - n) with
    | none => exact nearestUnits_exact hUnits
    | some d =>
      obtain ⟨n, -, hGrid⟩ := List.exists_of_findSome?_eq_some hFound
      exact (nearestUnits_stripZeros _ _).trans (nearestUnits_onGrid? hGrid)

end Decimal

end ParamSchema
