import ParamSchema.Binary64.Shortest

/-!
# JSON numbers

A number keeps the form it was read in: a 64-bit integer or a double. Its
meaning is always the double, so `1` and `1.0` have the same value without
being the same number.
-/

set_option autoImplicit false

namespace ParamSchema

/-- The integers that are kept exactly: those of 64 bits, signed or unsigned. -/
def Number.InRange (value : Int) : Prop := -2 ^ (63 : Nat) ≤ value ∧ value < 2 ^ (64 : Nat)

instance (value : Int) : Decidable (Number.InRange value) :=
  inferInstanceAs (Decidable (_ ∧ _))

inductive Number where
  | integer (value : Int) (inRange : Number.InRange value)
  | double (value : Binary64)
  deriving DecidableEq

namespace Number

theorem InRange.natAbs_lt {value : Int} (hRange : InRange value) :
    value.natAbs < Binary64.wholeBound := by
  have hBound : 2 ^ (64 : Nat) < Binary64.wholeBound := by decide +kernel
  unfold InRange at hRange
  omega

def toBinary64 : Number → Binary64
  | .integer value inRange => Binary64.ofWhole (value < 0) value.natAbs inRange.natAbs_lt
  | .double value => value

def sameValue (a b : Number) : Bool := a.toBinary64.sameValue b.toBinary64

def identical : Number → Number → Bool
  | .integer a _, .integer b _ => a == b
  | .double a, .double b => a.sameValue b
  | _, _ => false

def ofInt? (value : Int) : Option Number :=
  if inRange : InRange value then some (.integer value inRange)
  else (Binary64.ofRatio? (value < 0) value.natAbs 1).map .double

def maxSafe : Nat := 2 ^ (53 : Nat) - 1

/-- The canonical number of a value: an integer if it is one of safe magnitude. -/
def ofBinary64 (x : Binary64) : Number :=
  if h : x.isIntegral ∧ x.wholePart ≤ maxSafe then
    .integer (if x.negative then -(x.wholePart : Int) else x.wholePart) (by
      have hSafe : maxSafe < 2 ^ (63 : Nat) := by decide
      unfold InRange
      split <;> omega)
  else .double x

/-- Doubles are positional from `0.00001` up to below `1e+16`, and show their point. -/
def layout : Decimal.Layout where
  leastPositional := -5
  mostPositional := 15
  wholeSuffix := ".0"
  exponentMark := "e"
  plusSign := "+"

def write : Number → String
  | .integer value _ => toString value
  | .double value => value.write layout

end Number

namespace Binary64

def canonicalText (x : Binary64) : String := (Number.ofBinary64 x).write

end Binary64

end ParamSchema
