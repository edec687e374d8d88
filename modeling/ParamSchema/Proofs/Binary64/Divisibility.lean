import ParamSchema.Binary64.Divisibility

/-!
# Divisibility and signs

Whether a double is whole and what it is a multiple of does not depend on its sign, so
neither tells the two zeros apart.
-/

set_option autoImplicit false

namespace ParamSchema.Binary64

variable {x y : Binary64}

theorem units_eq_of_signedUnits (h : x.signedUnits = y.signedUnits) : x.units = y.units := by
  unfold signedUnits at h
  split at h <;> split at h <;> omega

theorem isIntegral_congr (h : x.units = y.units) : x.isIntegral = y.isIntegral := by
  rw [isIntegral, isIntegral, h]

theorem roundedMagnitude_congr (h : x.units = y.units) :
    x.roundedMagnitude = y.roundedMagnitude := by
  rw [roundedMagnitude, roundedMagnitude, h]

theorem roundedMagnitude_ofRatio? (negative negative' : Bool) (num den : Nat) :
    (ofRatio? negative num den).map roundedMagnitude =
      (ofRatio? negative' num den).map roundedMagnitude := by
  unfold ofRatio?
  split
  · rw [Option.map_some, Option.map_some]
    exact congrArg some (roundedMagnitude_congr rfl)
  · rfl

theorem scaled?_congr (h : x.units = y.units) (places : Nat) :
    x.scaled? places = y.scaled? places := by
  unfold scaled?
  cases powerOfTen? places with
  | none => rw [Option.bind_none, Option.bind_none]
  | some power =>
    rw [Option.bind_some, Option.bind_some, mul?, mul?, h]
    exact roundedMagnitude_ofRatio? _ _ _ _

theorem decimalPlaces_congr (h : x.units = y.units) : x.decimalPlaces = y.decimalPlaces := by
  rw [decimalPlaces, decimalPlaces, shortest, shortest, h]

theorem isMultipleOf_congr (h : x.units = y.units) {divisor divisor' : Binary64}
    (hDivisor : divisor.units = divisor'.units) :
    x.isMultipleOf divisor = y.isMultipleOf divisor' := by
  simp only [isMultipleOf, decimalPlaces_congr h, decimalPlaces_congr hDivisor, scaled?_congr h,
    scaled?_congr hDivisor, h, hDivisor]

end ParamSchema.Binary64
