/-!
Points in time as civil fields in UTC, to the nanosecond. A leap second is second 60 of its minute.
Instants given by a count of seconds since 1970 are converted through the proleptic Gregorian
calendar.
-/

namespace DocumentQuery

def isLeapYear (year : Int) : Bool := year % 4 = 0 && (year % 100 ≠ 0 || year % 400 = 0)

def daysInMonth (year : Int) (month : Nat) : Nat :=
  if month = 2 then if isLeapYear year then 29 else 28
  else if month = 4 ∨ month = 6 ∨ month = 9 ∨ month = 11 then 30
  else 31

def leastYear : Int := -262143

def greatestYear : Int := 262142

/-- A day of the calendar, in the supported years. -/
structure CivilDate where
  year : Int
  month : Nat
  day : Nat
  valid : leastYear ≤ year ∧ year ≤ greatestYear ∧ 1 ≤ month ∧ month ≤ 12 ∧
    1 ≤ day ∧ day ≤ daysInMonth year month
  deriving DecidableEq

/-- A time of day. -/
structure ClockTime where
  hour : Nat
  minute : Nat
  second : Nat
  nanosecond : Nat
  valid : hour < 24 ∧ minute < 60 ∧ second ≤ 60 ∧ nanosecond < 1000000000
  deriving DecidableEq

structure Timestamp where
  date : CivilDate
  time : ClockTime
  deriving DecidableEq

namespace CivilDate

def of? (year : Int) (month day : Nat) : Option CivilDate :=
  if h : leastYear ≤ year ∧ year ≤ greatestYear ∧ 1 ≤ month ∧ month ≤ 12 ∧
      1 ≤ day ∧ day ≤ daysInMonth year month then
    some ⟨year, month, day, h⟩
  else none

/-- The day before, if it is in the supported years. -/
def pred? (d : CivilDate) : Option CivilDate :=
  if 1 < d.day then of? d.year d.month (d.day - 1)
  else if 1 < d.month then of? d.year (d.month - 1) (daysInMonth d.year (d.month - 1))
  else of? (d.year - 1) 12 31

/-- The day after, if it is in the supported years. -/
def succ? (d : CivilDate) : Option CivilDate :=
  if d.day < daysInMonth d.year d.month then of? d.year d.month (d.day + 1)
  else if d.month < 12 then of? d.year (d.month + 1) 1
  else of? (d.year + 1) 1 1

/-- The date that is the given number of days after 1970-01-01. Years are counted from March, so
that the leap day is the last of its year, and in eras of 400 years. -/
def ofDays? (days : Int) : Option CivilDate :=
  let z := days + 719468
  let era := z / 146097
  let dayOfEra := z % 146097
  let yearOfEra := (dayOfEra - dayOfEra / 1460 + dayOfEra / 36524 - dayOfEra / 146096) / 365
  let dayOfYear := dayOfEra - (365 * yearOfEra + yearOfEra / 4 - yearOfEra / 100)
  let shifted := (5 * dayOfYear + 2) / 153
  let day := dayOfYear - (153 * shifted + 2) / 5 + 1
  let month := if shifted < 10 then shifted + 3 else shifted - 9
  let year := yearOfEra + era * 400 + if month ≤ 2 then 1 else 0
  of? year month.toNat day.toNat

end CivilDate

def ClockTime.of? (hour minute second nanosecond : Nat) : Option ClockTime :=
  if h : hour < 24 ∧ minute < 60 ∧ second ≤ 60 ∧ nanosecond < 1000000000 then
    some ⟨hour, minute, second, nanosecond, h⟩
  else none

namespace Timestamp

/-- The instant a number of seconds and nanoseconds after 1970. A thousand million nanoseconds or
more, but less than twice that, are a leap second after the last second of a minute. -/
def ofUnix? (seconds : Int) (nanoseconds : Nat) : Option Timestamp := do
  let date ← CivilDate.ofDays? (seconds / 86400)
  let inDay := (seconds % 86400).toNat
  let second := inDay % 60
  let (second, nanoseconds) :=
    if second = 59 ∧ 1000000000 ≤ nanoseconds then (60, nanoseconds - 1000000000)
    else (second, nanoseconds)
  let time ← ClockTime.of? (inDay / 3600) (inDay / 60 % 60) second nanoseconds
  return ⟨date, time⟩

/-- The instant in UTC of a local date and time that is `offset` minutes ahead of UTC, for offsets
of less than a day. -/
def ofLocal? (date : CivilDate) (time : ClockTime) (offset : Int) : Option Timestamp := do
  let minutes : Int := time.hour * 60 + time.minute - offset
  let date ←
    if minutes < 0 then date.pred? else if 1440 ≤ minutes then date.succ? else some date
  let minutes := (minutes % 1440).toNat
  let time ← ClockTime.of? (minutes / 60) (minutes % 60) time.second time.nanosecond
  return ⟨date, time⟩

end Timestamp

end DocumentQuery
