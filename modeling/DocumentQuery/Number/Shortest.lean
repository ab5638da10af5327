import DocumentQuery.Number.Nearest

/-!
The shortest decimal that reads back as a given double. The decimals that read back form an
interval around the value. A grid is the set of multiples of a power of ten; the first grid, from
coarse to fine, with a point of the interval next to the value has the fewest digits, and of its
two neighbours of the value the nearer one is taken.
-/

namespace DocumentQuery

/-- Which neighbour is taken when the value lies halfway between two points of a grid. -/
inductive TieRule where
  | toEven
  | away
  deriving DecidableEq, Repr

namespace FiniteDouble

/-- The denominator `4 · 2 ^ 1074`, over which all doubles and the bounds of their intervals are
whole numbers. -/
def valueUnit : Nat := 4 <<< 1074

/-- The positive decimals nearest to a double, as bounds on numerators over `valueUnit`; the bounds
themselves belong to it when the significand is even. -/
structure RoundingInterval where
  value : Nat
  low : Nat
  high : Nat
  closed : Bool

def roundingInterval (x : FiniteDouble) : RoundingInterval :=
  let unit := 1 <<< (x.exponent.val - 1)
  let below := if x.fraction = 0 ∧ 1 < x.exponent.val then unit else 2 * unit
  { value := 4 * x.magnitude
    low := 4 * x.magnitude - below
    high := 4 * x.magnitude + 2 * unit
    closed := x.significand % 2 = 0 }

def RoundingInterval.contains (i : RoundingInterval) (n : Nat) (scale : Nat) : Bool :=
  if i.closed then i.low * scale ≤ n ∧ n ≤ i.high * scale
  else i.low * scale < n ∧ n < i.high * scale

/-- The point of the grid of multiples of `10 ^ s` that stands for the value, if one of the two
next to the value reads back. -/
def gridPoint? (tie : TieRule) (i : RoundingInterval) (s : Int) : Option Nat :=
  -- All quantities below are multiples of `1 / (valueUnit · 10 ^ (-s))`.
  let scale := powerOfTen (-s).toNat
  let step := powerOfTen s.toNat * valueUnit
  let point := i.value * scale / step
  let down := i.contains (point * step) scale
  let up := i.contains ((point + 1) * step) scale
  let twice := 2 * (i.value * scale % step)
  let upOnTie := match tie with
    | .away => true
    | .toEven => point % 2 == 1
  let upIsBetter := step < twice || (twice == step && upOnTie)
  if down ∧ up then some (if upIsBetter then point + 1 else point)
  else if down then some point
  else if up then some (point + 1)
  else none

/-- The greatest `k` with `10 ^ k` at most the value, for a positive value in units of
`1 / valueUnit`. -/
def decimalExponent (value : Nat) : Int :=
  let atMost (k : Int) : Bool := powerOfTen k.toNat * valueUnit ≤ value * powerOfTen (-k).toNat
  let guess := ((value.log2 : Int) - 1076) * 30103 / 100000
  if atMost (guess + 1) then guess + 1 else if atMost guess then guess else guess - 1

/-- The first grid with a point that reads back, from the exponent `s` downwards. -/
def searchGrid (tie : TieRule) (i : RoundingInterval) (s : Int) : Nat → Nat × Int
  | 0 => (i.value * powerOfTen (-s).toNat / (powerOfTen s.toNat * valueUnit), s)
  | finer + 1 =>
    match gridPoint? tie i s with
    | some n => (n, s)
    | none => searchGrid tie i (s - 1) finer

def dropTrailingZeros : Nat → Nat → Int → Nat × Int
  | 0, n, s => (n, s)
  | fuel + 1, n, s => if n % 10 = 0 then dropTrailingZeros fuel (n / 10) (s + 1) else (n, s)

/-- The shortest decimal `n · 10 ^ s` that reads back as the magnitude of `x`, for `x` not zero.
Seventeen digits always suffice. -/
def shortest (tie : TieRule) (x : FiniteDouble) : Nat × Int :=
  let i := x.roundingInterval
  let (n, s) := searchGrid tie i (decimalExponent i.value) 17
  dropTrailingZeros 18 n s

end FiniteDouble

end DocumentQuery
