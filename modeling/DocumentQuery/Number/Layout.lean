import DocumentQuery.Number.Nearest
import DocumentQuery.Number.Shortest

/-!
The two written forms of a finite double, both from its shortest digits. The document form marks the
number as fractional and switches to an exponent for very large and very small values; the plain
form, used in messages, never has an exponent and writes whole numbers without a point. Last, the
reader of the textual numbers that callers hand in.
-/

namespace DocumentQuery

/-- The decimal digits of a number, most significant first. -/
def decimalDigits (n : Nat) : List Char := Nat.toDigits 10 n

/-- The digits of an integer, after a minus sign when it is negative. -/
def integerDigits (n : Int) : List Char :=
  if n < 0 then '-' :: decimalDigits n.natAbs else decimalDigits n.natAbs

/-- Digits with a point set so that the last one counts `10 ^ s`, for negative `s`. -/
def withPoint (digits : List Char) (places : Nat) : List Char :=
  if places < digits.length then
    digits.take (digits.length - places) ++ '.' :: digits.drop (digits.length - places)
  else '0' :: '.' :: List.replicate (places - digits.length) '0' ++ digits

namespace FiniteDouble

def signed (x : FiniteDouble) (text : List Char) : List Char :=
  if x.negative then '-' :: text else text

/-- The form numbers have in documents: positional with at least one digit after the point when the
first digit counts between `10 ^ -5` and `10 ^ 15`, otherwise one digit before the point and a
signed exponent. -/
def documentText (x : FiniteDouble) : List Char :=
  if x.isZero then x.signed ['0', '.', '0']
  else
    let (n, s) := x.shortest .toEven
    let digits := decimalDigits n
    let exponent : Int := s + (digits.length - 1)
    x.signed <|
      if -5 ≤ exponent ∧ exponent ≤ 15 then
        if 0 ≤ s then digits ++ List.replicate s.toNat '0' ++ ['.', '0']
        else withPoint digits (-s).toNat
      else
        let mantissa := match digits with
          | first :: second :: rest => first :: '.' :: second :: rest
          | short => short
        let sign := if exponent < 0 then '-' else '+'
        mantissa ++ 'e' :: sign :: decimalDigits exponent.natAbs

/-- The form numbers have in messages. -/
def plainText (x : FiniteDouble) : List Char :=
  if x.isZero then x.signed ['0']
  else
    let (n, s) := x.shortest .away
    let digits := decimalDigits n
    x.signed <|
      if 0 ≤ s then digits ++ List.replicate s.toNat '0' else withPoint digits (-s).toNat

end FiniteDouble

/-- The form numbers have in messages. -/
def Double.plainText : Double → String
  | .nan => "NaN"
  | .infinite negative => if negative then "-inf" else "inf"
  | .finite x => String.ofList x.plainText

/-- The value of a run of decimal digits. -/
def digitsValue (digits : List Char) : Nat :=
  digits.foldl (fun n c => 10 * n + (c.toNat - '0'.toNat)) 0

namespace DecimalLiteral

/-- An optional exponent: nothing at all, or `e` and a signed run of digits to the end. -/
def exponentOf? : List Char → Option Int
  | [] => some 0
  | c :: rest =>
    if c = 'e' ∨ c = 'E' then
      let (negative, digits) := match rest with
        | '-' :: digits => (true, digits)
        | '+' :: digits => (false, digits)
        | digits => (false, digits)
      if digits.isEmpty ∨ digits.any (!·.isDigit) then none
      else some (if negative then -(digitsValue digits : Int) else digitsValue digits)
    else none

/-- A magnitude in decimal or exponent form with digits before or after the point. -/
def ofMagnitude? (negative : Bool) (text : List Char) : Option DecimalLiteral :=
  let whole := text.takeWhile Char.isDigit
  let rest := text.dropWhile Char.isDigit
  let (places, rest) := match rest with
    | '.' :: rest => (rest.takeWhile Char.isDigit, rest.dropWhile Char.isDigit)
    | rest => ([], rest)
  if whole.isEmpty ∧ places.isEmpty then none
  else (exponentOf? rest).map fun e =>
    ⟨negative, digitsValue (whole ++ places), e - places.length⟩

end DecimalLiteral

/-- Reads a textual number with the given rounding: a decimal, an infinity or NaN, in any case of
letters and after an optional sign. -/
def Double.ofText? (round : DecimalLiteral → Double) (text : String) : Option Double :=
  let (negative, magnitude) := match text.toList with
    | '-' :: rest => (true, rest)
    | '+' :: rest => (false, rest)
    | rest => (false, rest)
  let word := String.ofList (magnitude.map Char.toLower)
  if word = "nan" then some .nan
  else if word = "inf" ∨ word = "infinity" then some (.infinite negative)
  else (DecimalLiteral.ofMagnitude? negative magnitude).map round

end DocumentQuery
