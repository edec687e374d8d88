import ParamSchema.Binary64.Basic

/-!
# Rounding

A magnitude that is representable is its own nearest one, so the whole numbers
that doubles hold survive being written as integers and read back.
-/

set_option autoImplicit false

namespace ParamSchema.Binary64

attribute [ext] Binary64

theorem one_pos : 0 < one := by decide +kernel

theorem nearest_of_representable {units : Nat} (hUnits : Representable units) :
    nearest units 1 = units := by
  have hGap : 0 < 2 ^ gapExponent units := Nat.two_pow_pos _
  have hRest : units % 2 ^ gapExponent units = 0 := hUnits.2
  unfold nearest
  simp only [Nat.div_one, Nat.one_mul, hRest, Nat.mul_zero]
  rw [if_pos hGap]
  exact Nat.div_mul_cancel (Nat.dvd_of_mod_eq_zero hRest)

theorem isIntegral_iff {x : Binary64} : x.isIntegral = true ↔ x.units = x.wholePart * one := by
  unfold isIntegral wholePart
  rw [beq_iff_eq]
  constructor
  · intro hRest
    exact (Nat.div_mul_cancel (Nat.dvd_of_mod_eq_zero hRest)).symm
  · intro hUnits
    rw [hUnits, Nat.mul_mod_left]

theorem units_ofWhole {negative : Bool} {n : Nat} (hn : n < wholeBound)
    (hUnits : Representable (n * one)) : (ofWhole negative n hn).units = n * one :=
  nearest_of_representable hUnits

@[simp] theorem negative_ofWhole {negative : Bool} {n : Nat} (hn : n < wholeBound) :
    (ofWhole negative n hn).negative = negative := rfl

/-- The value with the positive zero for either zero. -/
def canonical (x : Binary64) : Binary64 := if x.units = 0 then zero else x

theorem canonical_of_ne_zero {x : Binary64} (hUnits : x.units ≠ 0) : x.canonical = x :=
  if_neg hUnits

@[simp] theorem signedUnits_canonical (x : Binary64) : x.canonical.signedUnits = x.signedUnits := by
  unfold canonical
  split
  · rename_i hUnits
    simp [signedUnits, zero, hUnits]
  · rfl

theorem canonical_sameValue (x : Binary64) : x.canonical.sameValue x = true := by
  unfold sameValue
  rw [signedUnits_canonical, beq_self_eq_true]

theorem isIntegral_of_units {x : Binary64} {n : Nat} (hUnits : x.units = n * one) :
    x.isIntegral = true := by
  unfold isIntegral
  rw [hUnits, Nat.mul_mod_left, beq_self_eq_true]

theorem wholePart_of_units {x : Binary64} {n : Nat} (hUnits : x.units = n * one) :
    x.wholePart = n := by
  unfold wholePart
  rw [hUnits, Nat.mul_div_cancel _ one_pos]

end ParamSchema.Binary64
