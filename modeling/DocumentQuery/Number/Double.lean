/-!
Double-precision numbers as data: a sign, a biased exponent and a fraction for the finite ones, one
value for every NaN, and two infinities. Two doubles are equal as data exactly when they have the
same bits (NaNs aside); `Double.numEq` is the comparison of numbers, in which the two zeros agree
and NaN agrees with nothing.
-/

namespace DocumentQuery

/-- A finite 64-bit binary floating-point number. -/
structure FiniteDouble where
  negative : Bool
  exponent : Fin 2047
  fraction : BitVec 52
  deriving DecidableEq, Repr

inductive Double where
  | nan
  | infinite (negative : Bool)
  | finite (x : FiniteDouble)
  deriving DecidableEq, Repr

namespace FiniteDouble

/-- The number of `fraction` units, which has no leading bit. -/
def subnormal (negative : Bool) (fraction : BitVec 52) : FiniteDouble := ⟨negative, 0, fraction⟩

def zero (negative : Bool) : FiniteDouble := subnormal negative 0

/-- The bit above the fraction, which is set in numbers above the subnormal range. -/
def leadingBit : Nat := 1 <<< 52

/-- The integer `m` of the magnitude `m · 2 ^ scale`; the leading bit is implicit above the
subnormal range. -/
def significand (x : FiniteDouble) : Nat :=
  if x.exponent.val = 0 then x.fraction.toNat else leadingBit + x.fraction.toNat

/-- The magnitude counted in units of `2 ^ -1074`, the least positive double. -/
def magnitude (x : FiniteDouble) : Nat := x.significand <<< (x.exponent.val - 1)

/-- The signed value in units of `2 ^ -1074`; both zeros have value 0. -/
def units (x : FiniteDouble) : Int := if x.negative then -(x.magnitude : Int) else x.magnitude

def isZero (x : FiniteDouble) : Bool := x.magnitude = 0

end FiniteDouble

namespace Double

/-- The equality of numbers: NaN equals nothing, and the zeros equal each other. -/
def numEq : Double → Double → Bool
  | .infinite a, .infinite b => a == b
  | .finite a, .finite b => a.units == b.units
  | _, _ => false

/-- The order of numbers: nothing is below or above NaN. -/
def le : Double → Double → Bool
  | .nan, _ | _, .nan => false
  | .infinite true, _ | _, .infinite false => true
  | .infinite false, _ | _, .infinite true => false
  | .finite a, .finite b => a.units ≤ b.units

/-- Membership in the closed interval from `low` to `high`; NaN is in none. -/
def within (x low high : Double) : Bool := low.le x && x.le high

def isFinite : Double → Bool
  | .finite _ => true
  | _ => false

end Double

end DocumentQuery
