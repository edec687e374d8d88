import ParamSchema.Power

/-!
# Finite binary64 numbers

A finite double is a sign and a magnitude counted in units of `2⁻¹⁰⁷⁴`, the
smallest positive one. Comparison, integrality and remainder are then exact
statements about integers; only products and quotients are rounded.
-/

set_option autoImplicit false

namespace ParamSchema

namespace Binary64

/-- The number one, in units of `2⁻¹⁰⁷⁴`. -/
def one : Nat := 2 ^ (1074 : Nat)

def limit : Nat := 2 ^ (2098 : Nat)

def gapExponent (units : Nat) : Nat := units.log2 - 52

/-- A magnitude with at most 53 significant bits, below the limit. -/
def Representable (units : Nat) : Prop :=
  units < limit ∧ units % 2 ^ gapExponent units = 0

instance (units : Nat) : Decidable (Representable units) :=
  inferInstanceAs (Decidable (_ ∧ _))

/-- The multiple of the gap nearest to `num / den` units; a tie goes to the even multiple. -/
def nearest (num den : Nat) : Nat :=
  let gap := 2 ^ gapExponent (num / den)
  let step := den * gap
  let below := num / step
  let rest := num % step
  let count :=
    if 2 * rest < step then below
    else if step < 2 * rest then below + 1
    else below + below % 2
  count * gap

theorem lt_two_pow_gap (q : Nat) : q < 2 ^ (gapExponent q + 53) := by
  have hq : q < 2 ^ (q.log2 + 1) := Nat.lt_log2_self
  have hle : 2 ^ (q.log2 + 1) ≤ 2 ^ (gapExponent q + 53) :=
    Nat.pow_le_pow_right (by decide) (by unfold gapExponent; omega)
  omega

theorem nearest_count (num den : Nat) :
    ∃ count, nearest num den = count * 2 ^ gapExponent (num / den) ∧
      count ≤ num / den / 2 ^ gapExponent (num / den) + 1 := by
  refine ⟨_, rfl, ?_⟩
  rw [Nat.div_div_eq_div_mul]
  split
  · omega
  · split
    · omega
    · have := Nat.mod_lt (num / (den * 2 ^ gapExponent (num / den))) (y := 2) (by decide)
      omega

theorem nearest_le (num den : Nat) : nearest num den ≤ 2 * (num / den) + 1 := by
  obtain ⟨count, hEq, hCount⟩ := nearest_count num den
  generalize num / den = q at hEq hCount
  rw [hEq]
  have hStep : count * 2 ^ gapExponent q ≤ (q / 2 ^ gapExponent q + 1) * 2 ^ gapExponent q :=
    Nat.mul_le_mul_right _ hCount
  rw [Nat.add_mul, Nat.one_mul] at hStep
  have hDiv : q / 2 ^ gapExponent q * 2 ^ gapExponent q ≤ q := Nat.div_mul_le_self _ _
  have hGap : 2 ^ gapExponent q ≤ q + 1 := by
    by_cases hZero : q = 0
    · subst hZero
      simp [gapExponent]
    · have hPow : 2 ^ gapExponent q ≤ 2 ^ q.log2 :=
        Nat.pow_le_pow_right (by decide) (by unfold gapExponent; omega)
      have hSelf : 2 ^ q.log2 ≤ q := Nat.log2_self_le hZero
      omega
  omega

theorem representable_mul_two_pow {count exponent : Nat} (hCount : count ≤ 2 ^ (53 : Nat))
    (hLimit : count * 2 ^ exponent < limit) : Representable (count * 2 ^ exponent) := by
  refine ⟨hLimit, ?_⟩
  by_cases hZero : count * 2 ^ exponent = 0
  · simp [hZero]
  have hUpper : count * 2 ^ exponent ≤ 2 ^ (53 + exponent) := by
    rw [Nat.pow_add]
    exact Nat.mul_le_mul_right _ hCount
  have hLog : 2 ^ (count * 2 ^ exponent).log2 ≤ count * 2 ^ exponent := Nat.log2_self_le hZero
  have hExp : (count * 2 ^ exponent).log2 ≤ 53 + exponent :=
    (Nat.pow_le_pow_iff_right (by decide)).mp (Nat.le_trans hLog hUpper)
  apply Nat.mod_eq_zero_of_dvd
  by_cases hGap : gapExponent (count * 2 ^ exponent) ≤ exponent
  · exact Nat.dvd_trans (Nat.pow_dvd_pow 2 hGap) (Nat.dvd_mul_left _ _)
  · have hTop : (count * 2 ^ exponent).log2 = 53 + exponent := by
      unfold gapExponent at hGap
      omega
    rw [hTop] at hLog
    have hEq : count * 2 ^ exponent = 2 ^ (53 + exponent) := Nat.le_antisymm hUpper hLog
    rw [hEq]
    apply Nat.pow_dvd_pow
    unfold gapExponent
    rw [Nat.log2_two_pow]
    omega

theorem nearest_representable {num den : Nat} (hLimit : nearest num den < limit) :
    Representable (nearest num den) := by
  obtain ⟨count, hEq, hCount⟩ := nearest_count num den
  rw [hEq] at hLimit ⊢
  refine representable_mul_two_pow ?_ hLimit
  have hLt := lt_two_pow_gap (num / den)
  rw [Nat.pow_add, Nat.mul_comm] at hLt
  have := Nat.div_lt_of_lt_mul (Nat.mul_comm _ _ ▸ hLt)
  omega

end Binary64

structure Binary64 where
  negative : Bool
  units : Nat
  representable : Binary64.Representable units
  deriving DecidableEq

namespace Binary64

def zero : Binary64 := ⟨false, 0, by decide +kernel⟩

def signedUnits (x : Binary64) : Int :=
  if x.negative then -(x.units : Int) else x.units

def sameValue (x y : Binary64) : Bool := x.signedUnits == y.signedUnits

def lessThan (x y : Binary64) : Bool := decide (x.signedUnits < y.signedUnits)

def isIntegral (x : Binary64) : Bool := x.units % one == 0

def wholePart (x : Binary64) : Nat := x.units / one

/-- The magnitude rounded to a whole number, a half going up. -/
def roundedMagnitude (x : Binary64) : Nat := (2 * x.units + one) / (2 * one)

def ofRatio? (negative : Bool) (num den : Nat) : Option Binary64 :=
  if hLimit : nearest (num * one) den < limit then
    some ⟨negative, nearest (num * one) den, nearest_representable hLimit⟩
  else none

/-- Whole numbers below this bound have a nearest double. -/
def wholeBound : Nat := 2 ^ (1000 : Nat)

theorem nearest_whole_lt {n : Nat} (hn : n < wholeBound) : nearest (n * one) 1 < limit := by
  have hLe := nearest_le (n * one) 1
  rw [Nat.div_one] at hLe
  have hMul : n * one ≤ (wholeBound - 1) * one := Nat.mul_le_mul_right _ (by omega)
  have hConst : 2 * ((wholeBound - 1) * one) + 1 < limit := by decide +kernel
  omega

def ofWhole (negative : Bool) (n : Nat) (hn : n < wholeBound) : Binary64 :=
  ⟨negative, nearest (n * one) 1, nearest_representable (nearest_whole_lt hn)⟩

def mul? (x y : Binary64) : Option Binary64 :=
  ofRatio? (x.negative != y.negative) (x.units * y.units) (one * one)

def div? (x y : Binary64) : Option Binary64 :=
  ofRatio? (x.negative != y.negative) x.units y.units

def maxTenExponent : Nat := 308

/-- A number times a power of ten, unless it is too large. Every step rounds, so this is not
always the double nearest to the product. -/
def shifted? (x : Binary64) (exponent : Int) : Option Binary64 :=
  if exponent.natAbs ≤ maxTenExponent then
    (ofRatio? false (10 ^ exponent.natAbs) 1).bind fun power =>
      if 0 ≤ exponent then x.mul? power else x.div? power
  else if x.units = 0 then some x
  else if 0 ≤ exponent then none
  else
    (ofRatio? false (10 ^ maxTenExponent) 1).bind fun power =>
      (x.div? power).bind fun x => shifted? x (exponent + maxTenExponent)
  termination_by exponent.natAbs
  decreasing_by
    unfold maxTenExponent at *
    omega

end Binary64

end ParamSchema
