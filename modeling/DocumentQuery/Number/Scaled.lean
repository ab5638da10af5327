import DocumentQuery.Number.Layout

/-!
Decimals read in double arithmetic. As many leading digits as 64 bits hold make a whole number, and
its double is multiplied or divided by a power of ten. Each of these steps rounds to the nearest
double, so the result may be a neighbour of the one nearest to the decimal.
-/

namespace DocumentQuery

namespace FiniteDouble

/-- The double nearest to a quotient, if it is in range. -/
def ofQuotient? (negative : Bool) (num den : Nat) : Option FiniteDouble :=
  match Double.ofQuotient negative num den with
  | .finite x => some x
  | _ => none

/-- The greatest exponent of a power of ten that a double can hold. -/
def greatestTen : Nat := 308

/-- The magnitude of the double nearest to a power of ten. -/
def tenMagnitude (exponent : Nat) : Nat :=
  match Double.ofInt (powerOfTen exponent) with
  | .finite x => x.magnitude
  | _ => 0

/-- Multiplies or divides by a power of ten. Nothing comes of an overflow. Where the power is out of
range, as much of it as doubles can hold is divided by first. -/
def scale? (x : FiniteDouble) (exponent : Int) : Option FiniteDouble :=
  if x.isZero then some x
  else if exponent > greatestTen then none
  else if 0 ≤ exponent then
    -- Both magnitudes count units of `2 ^ -1074`.
    ofQuotient? x.negative (x.magnitude * tenMagnitude exponent.toNat) (1 <<< (2 * 1074))
  else if -greatestTen ≤ exponent then
    ofQuotient? x.negative x.magnitude (tenMagnitude (-exponent).toNat)
  else match ofQuotient? x.negative x.magnitude (tenMagnitude greatestTen) with
    | none => none
    | some y => y.scale? (exponent + greatestTen)
termination_by exponent.natAbs
decreasing_by simp only [greatestTen] at *; omega

end FiniteDouble

/-- Appends digits to a number as long as it has 64 bits; gives the digits that are left, too. -/
def appendDigits (n : Nat) : List Char → Nat × List Char
  | [] => (n, [])
  | c :: rest =>
    let next := digitsValue [c] + 10 * n
    if next < UInt64.size then appendDigits next rest else (n, c :: rest)

/-- The decimal with the given digits before and after the point and the given exponent. Digits
before the point that do not fit are read as zeros, those after it are not read. -/
def FiniteDouble.ofDecimal? (negative : Bool) (digits places : List Char) (exponent : Int) :
    Option FiniteDouble :=
  let (n, zeros) := appendDigits 0 digits
  let (n, unread) := appendDigits n places
  match FiniteDouble.ofQuotient? negative n 1 with
  | none => none
  | some x => x.scale? (exponent + zeros.length - (places.length - unread.length : Nat))

end DocumentQuery
