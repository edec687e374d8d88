import ParamSchema.Binary64.Basic

/-!
# Shortest decimals

The fewest decimal digits that read back to a given double, and of those the
nearest. A grid of `n` digits is tried for `n = 1, 2, …`; on each grid only the
two neighbours of the value can be the answer.
-/

set_option autoImplicit false

namespace ParamSchema

structure Decimal where
  digits : Nat
  exponent : Int
  deriving DecidableEq

namespace Decimal

def nearestUnits (d : Decimal) : Nat :=
  Binary64.nearest (d.digits * 10 ^ d.exponent.toNat * Binary64.one) (10 ^ (-d.exponent).toNat)

def stripZeros (digits : Nat) (exponent : Int) : Decimal :=
  if digits ≠ 0 ∧ digits % 10 = 0 then stripZeros (digits / 10) (exponent + 1)
  else ⟨digits, exponent⟩
  termination_by digits
  decreasing_by omega

def places (d : Decimal) : Nat := (-d.exponent).toNat

/-- The power of ten of the leading digit of `units / 2¹⁰⁷⁴`, for a positive magnitude. -/
def leadingExponent (units : Nat) : Int :=
  if Binary64.one ≤ units then
    ((Nat.toDigits 10 (units / Binary64.one)).length : Int) - 1
  else -((Nat.toDigits 10 ((Binary64.one - 1) / units)).length : Int)

/-- The neighbour on the grid of multiples of `10 ^ exponent` that reads back, the nearer first. -/
def onGrid? (units : Nat) (exponent : Int) : Option Decimal :=
  let num := units * 10 ^ (-exponent).toNat
  let step := Binary64.one * 10 ^ exponent.toNat
  let below : Decimal := ⟨num / step, exponent⟩
  let above : Decimal := ⟨num / step + 1, exponent⟩
  let rest := 2 * (num % step)
  let belowFirst := rest < step ∨ rest = step ∧ below.digits % 2 = 0
  let ordered := if belowFirst then [below, above] else [above, below]
  ordered.find? fun d => d.nearestUnits == units

def exact (units : Nat) : Decimal := stripZeros (units * 5 ^ (1074 : Nat)) (-1074)

def shortest (units : Nat) : Decimal :=
  if units = 0 then ⟨0, 0⟩
  else
    let top := leadingExponent units
    match (List.range 17).findSome? fun (n : Nat) => onGrid? units (top - n) with
    | some d => stripZeros d.digits d.exponent
    | none => exact units

/-- How a decimal is written: the powers of ten of the leading digit that are written
positionally, and the marks used. -/
structure Layout where
  leastPositional : Int
  mostPositional : Int
  wholeSuffix : String
  exponentMark : String
  plusSign : String

def Layout.write (layout : Layout) (d : Decimal) : String :=
  let digits := Nat.toDigits 10 d.digits
  let top := (digits.length : Int) - 1 + d.exponent
  if top < layout.leastPositional ∨ layout.mostPositional < top then
    let fraction := digits.drop 1
    let mantissa := digits.take 1 ++ if fraction.isEmpty then [] else '.' :: fraction
    let sign := if top < 0 then "-" else layout.plusSign
    String.ofList mantissa ++ layout.exponentMark ++ sign ++ toString top.natAbs
  else if 0 ≤ d.exponent then
    String.ofList (digits ++ List.replicate d.exponent.toNat '0') ++ layout.wholeSuffix
  else
    let padded := List.replicate (d.places + 1 - digits.length) '0' ++ digits
    let whole := padded.length - d.places
    String.ofList (padded.take whole ++ '.' :: padded.drop whole)

end Decimal

namespace Binary64

def shortest (x : Binary64) : Decimal := Decimal.shortest x.units

def decimalPlaces (x : Binary64) : Nat := x.shortest.places

def write (layout : Decimal.Layout) (x : Binary64) : String :=
  (if x.negative then "-" else "") ++ layout.write x.shortest

end Binary64

end ParamSchema
