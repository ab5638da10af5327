import DocumentQuery.Number.Layout
import DocumentQuery.Text.Blank
import DocumentQuery.Time.Timestamp

/-!
The text of timestamps. Writing gives the RFC 3339 form in UTC with the fewest groups of three
fraction digits that are exact. Reading is more tolerant: blanks may stand before the numbers and
the marks, numbers need no leading zeros, and any offset of less than a day is accepted.
-/

namespace DocumentQuery.Rfc3339

/-- Digits with leading zeros up to a width. -/
def padded (width n : Nat) : List Char :=
  let digits := decimalDigits n
  List.replicate (width - digits.length) '0' ++ digits

/-- Four digits, or a sign and at least four digits outside the years 0 to 9999. -/
def writeYear (year : Int) : List Char :=
  if 0 ≤ year ∧ year ≤ 9999 then padded 4 year.toNat
  else (if year < 0 then '-' else '+') :: padded 4 year.natAbs

/-- Nothing, or a point and three, six or nine digits. -/
def writeFraction (nanosecond : Nat) : List Char :=
  if nanosecond = 0 then []
  else if nanosecond % 1000000 = 0 then '.' :: padded 3 (nanosecond / 1000000)
  else if nanosecond % 1000 = 0 then '.' :: padded 6 (nanosecond / 1000)
  else '.' :: padded 9 nanosecond

def write (t : Timestamp) : List Char :=
  writeYear t.date.year ++ '-' :: padded 2 t.date.month ++ '-' :: padded 2 t.date.day ++
    'T' :: padded 2 t.time.hour ++ ':' :: padded 2 t.time.minute ++
    ':' :: padded 2 t.time.second ++ writeFraction t.time.nanosecond ++ ['Z']

def toText (t : Timestamp) : String := String.ofList (write t)

def skipBlank (text : List Char) : List Char := text.dropWhile isWhiteSpace

/-- Reads at most `width` digits, and at least one. -/
def readDigits (width : Nat) (text : List Char) : Option (Nat × List Char) :=
  let digits := (text.take width).takeWhile Char.isDigit
  if digits.isEmpty then none else some (digitsValue digits, text.drop digits.length)

/-- Reads a number of one or two digits after blanks. -/
def readTwo (text : List Char) : Option (Nat × List Char) := readDigits 2 (skipBlank text)

/-- Four digits at most, or a sign and any number of digits. -/
def readYear (text : List Char) : Option (Int × List Char) :=
  match skipBlank text with
  | '-' :: rest => (readDigits rest.length rest).map fun (n, rest) => (-(n : Int), rest)
  | '+' :: rest => (readDigits rest.length rest).map fun (n, rest) => ((n : Int), rest)
  | rest => (readDigits 4 rest).map fun (n, rest) => ((n : Int), rest)

/-- Passes over blanks and one given mark. -/
def readMark (mark : Char) (text : List Char) : Option (List Char) :=
  match skipBlank text with
  | c :: rest => if c = mark then some rest else none
  | [] => none

/-- The nanoseconds of an optional fraction; digits after the ninth are passed over. -/
def readFraction : List Char → Option (Nat × List Char)
  | '.' :: rest =>
    let digits := rest.takeWhile Char.isDigit
    let kept := digits.take 9
    if digits.isEmpty then none
    else some (digitsValue kept * powerOfTen (9 - kept.length), rest.dropWhile Char.isDigit)
  | rest => some (0, rest)

/-- Two digits, neither more nor fewer. -/
def readPair : List Char → Option (Nat × List Char)
  | a :: b :: rest =>
    if a.isDigit ∧ b.isDigit then some (digitsValue [a, b], rest) else none
  | _ => none

/-- The offset from UTC in minutes: `Z`, `UTC`, or a sign, hours and minutes. -/
def readOffset (text : List Char) : Option (Int × List Char) :=
  match text with
  | 'Z' :: rest | 'z' :: rest => some (0, rest)
  | sign :: rest =>
    if (text.take 3).map Char.toUpper = ['U', 'T', 'C'] then some (0, text.drop 3)
    else if sign = '+' ∨ sign = '-' ∨ sign = '\u2212' then do
      let (hours, rest) ← readPair rest
      let (minutes, rest) ← readPair (rest.dropWhile fun c => c = ':' || isWhiteSpace c)
      if 24 ≤ hours ∨ 60 ≤ minutes then none
      else
        let offset : Int := hours * 60 + minutes
        return (if sign = '+' then offset else -offset, rest)
    else none
  | [] => none

/-- The instant that a text names. -/
def read? (text : List Char) : Option Timestamp := do
  let (year, rest) ← readYear text
  let (month, rest) ← readTwo (← readMark '-' rest)
  let (day, rest) ← readTwo (← readMark '-' rest)
  let rest ← match rest with
    | c :: rest => if c = 'T' ∨ c = 't' ∨ c = ' ' then some rest else none
    | [] => none
  let (hour, rest) ← readTwo rest
  let (minute, rest) ← readTwo (← readMark ':' rest)
  let (second, rest) ← readTwo (← readMark ':' rest)
  let (nanosecond, rest) ← readFraction rest
  let (offset, rest) ← readOffset (skipBlank rest)
  if !(skipBlank rest).isEmpty then none
  else
    let date ← CivilDate.of? year month day
    let time ← ClockTime.of? hour minute second nanosecond
    Timestamp.ofLocal? date time offset

def ofText? (text : String) : Option Timestamp := read? text.toList

end DocumentQuery.Rfc3339
