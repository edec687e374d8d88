import ParamSchema.Binary64.Shortest

/-!
# Divisibility of decimals

A double stands for its shortest decimal. To test divisibility both numbers
are scaled by a power of ten that clears their decimal places and rounded to
integers.
-/

set_option autoImplicit false

namespace ParamSchema.Binary64

def ofSmall (n : Nat) (hn : n < wholeBound) : Binary64 := ofWhole false n hn

/-- A power by repeated squaring, times a first factor, with every product rounded. -/
def power? (factor base : Binary64) (exponent : Nat) : Option Binary64 :=
  let next := if exponent % 2 = 1 then factor.mul? base else some factor
  if exponent / 2 = 0 then next
  else next.bind fun factor => (base.mul? base).bind fun base => power? factor base (exponent / 2)
  termination_by exponent
  decreasing_by omega

def powerOfTen? (exponent : Nat) : Option Binary64 :=
  power? (ofSmall 1 (by decide +kernel)) (ofSmall 10 (by decide +kernel)) exponent

def scaled? (x : Binary64) (places : Nat) : Option Nat :=
  ((powerOfTen? places).bind x.mul?).map roundedMagnitude

/-- Whether a value is a multiple of a positive divisor. Where scaling fails, the doubles
themselves are divided. -/
def isMultipleOf (value divisor : Binary64) : Bool :=
  let places := max value.decimalPlaces divisor.decimalPlaces
  match value.scaled? places, divisor.scaled? places with
  | some v, some d => if d = 0 then value.units % divisor.units == 0 else v % d == 0
  | _, _ => value.units % divisor.units == 0

end ParamSchema.Binary64
