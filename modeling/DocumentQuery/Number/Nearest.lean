import DocumentQuery.Number.Double

/-!
Rounding to the nearest double, ties to even: of quotients, of integers, and of decimal literals.
The same rounding at 24 bits gives single-precision numbers, which doubles hold exactly.
-/

namespace DocumentQuery

/-- The integer nearest to `num / den`; a tie goes to the even neighbour. -/
def roundQuotient (num den : Nat) : Nat :=
  let quotient := num / den
  let twice := 2 * (num % den)
  if twice < den ∨ (twice = den ∧ quotient % 2 = 0) then quotient else quotient + 1

/-- The greatest `e` with `2 ^ e ≤ num / den`, for positive arguments. -/
def log2Quotient (num den : Nat) : Int :=
  let e : Int := (num.log2 : Int) - den.log2
  if den <<< e.toNat ≤ num <<< (-e).toNat then e else e - 1

/-- A binary format: its numbers are `m · 2 ^ q` with `m < 2 ^ precision` and `q` between the
least and the greatest scale. -/
structure BinaryFormat where
  precision : Nat
  leastScale : Int
  greatestScale : Int

namespace BinaryFormat

def single : BinaryFormat := ⟨24, -149, 104⟩

def double : BinaryFormat := ⟨53, -1074, 971⟩

/-- The number `m · 2 ^ q` of the format nearest to `num / den`, or `none` when it lies beyond the
greatest one. -/
def nearest? (format : BinaryFormat) (num den : Nat) : Option (Nat × Int) :=
  let q := max format.leastScale (log2Quotient num den - (format.precision - 1))
  let m := roundQuotient (num <<< (-q).toNat) (den <<< q.toNat)
  let (m, q) := if m = 1 <<< format.precision then (1 <<< (format.precision - 1), q + 1) else (m, q)
  if q ≤ format.greatestScale then some (m, q) else none

end BinaryFormat

namespace Double

def zero (negative : Bool) : Double := .finite (.zero negative)

/-- The double nearest to `num / den`, infinite when that is out of range. -/
def ofQuotient (negative : Bool) (num den : Nat) : Double :=
  if num = 0 then zero negative
  else match BinaryFormat.double.nearest? num den with
    | none => .infinite negative
    | some (m, q) =>
      if m < FiniteDouble.leadingBit then .finite (.subnormal negative (.ofNat 52 m))
      else
        -- The scale is at most 971, so that the bound is never met.
        let exponent := ⟨min (q + 1075).toNat 2046, by omega⟩
        .finite ⟨negative, exponent, .ofNat 52 (m - FiniteDouble.leadingBit)⟩

/-- The single-precision number nearest to `num / den`. -/
def ofQuotientSingle (negative : Bool) (num den : Nat) : Double :=
  if num = 0 then zero negative
  else match BinaryFormat.single.nearest? num den with
    | none => .infinite negative
    | some (m, q) => ofQuotient negative (m <<< q.toNat) (1 <<< (-q).toNat)

def ofInt (n : Int) : Double := ofQuotient (n < 0) n.natAbs 1

end Double

/-- The number `10 ^ k`. -/
def powerOfTen (k : Nat) : Nat := Nat.pow 10 k

/-- The decimal number `± coefficient · 10 ^ exponent`. -/
structure DecimalLiteral where
  negative : Bool
  coefficient : Nat
  exponent : Int
  deriving DecidableEq, Repr

namespace DecimalLiteral

/-- Rounds with the given rule for quotients. An exponent so large or so small that the result
cannot depend on the digits is settled without computing the power of ten. -/
def roundWith (round : Bool → Nat → Nat → Double) (x : DecimalLiteral) : Double :=
  if x.coefficient = 0 ∨ x.exponent < -(400 + x.coefficient.log2 : Int) then .zero x.negative
  else if 400 < x.exponent then .infinite x.negative
  else
    round x.negative (x.coefficient * powerOfTen x.exponent.toNat) (powerOfTen (-x.exponent).toNat)

def toDouble : DecimalLiteral → Double := roundWith Double.ofQuotient

def toSingle : DecimalLiteral → Double := roundWith Double.ofQuotientSingle

end DecimalLiteral

end DocumentQuery
