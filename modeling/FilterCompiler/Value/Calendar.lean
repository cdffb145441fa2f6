import FilterCompiler.Text.Basic

/-!
Dates of the Gregorian calendar, extended without end in both directions and counted in days from
the first day of the year zero.
-/

namespace FilterCompiler.Value

structure Date where
  year : Int
  month : Nat
  day : Nat
deriving DecidableEq

def isLeapYear (year : Int) : Bool :=
  year % 4 == 0 && (year % 100 != 0 || year % 400 == 0)

def monthLengths (year : Int) : List Nat :=
  [31, if isLeapYear year then 29 else 28, 31, 30, 31, 30, 31, 31, 30, 31, 30, 31]

def firstYear : Int := -262143

def lastYear : Int := 262142

/-- The days before the first of January of a year. -/
def daysBefore (year : Int) : Int :=
  365 * year + (year + 3) / 4 - (year + 99) / 100 + (year + 399) / 400

/-- The year of a day. Proportion over a cycle of 400 years misses it by one at most. -/
def yearOf (days : Int) : Int :=
  let guess := 400 * days / 146097
  if daysBefore (guess + 1) ≤ days then guess + 1
  else if days < daysBefore guess then guess - 1
  else guess

/-- The month, counted from `month`, in which a day of the remaining
year falls, and the day in it. -/
def splitMonths (month : Nat) : List Nat → Nat → Nat × Nat
  | [], days => (month, days + 1)
  | length :: lengths, days =>
    if days < length then (month, days + 1) else splitMonths (month + 1) lengths (days - length)

namespace Date

def ofDays (days : Int) : Date :=
  let year := yearOf days
  let (month, day) := splitMonths 1 (monthLengths year) (days - daysBefore year).toNat
  ⟨year, month, day⟩

/-- A date of the calendar, in a year that timestamps reach. -/
def isValid (d : Date) : Bool :=
  firstYear ≤ d.year && d.year ≤ lastYear && 1 ≤ d.month && d.month ≤ 12 && 1 ≤ d.day &&
    d.day ≤ (monthLengths d.year).getD (d.month - 1) 0

/-- Four digits, and a sign with years that have more or come before the year zero. -/
def writeYear (year : Int) : List Char :=
  if 0 ≤ year && year ≤ 9999 then Text.padded 10 4 year.toNat
  else (if year < 0 then '-' else '+') :: Text.padded 10 4 year.natAbs

def write (d : Date) : List Char :=
  writeYear d.year ++ Text.padded 10 2 d.month ++ Text.padded 10 2 d.day

end Date

/-- A minute of a day. -/
structure Minute where
  date : Date
  hour : Nat
  minute : Nat
deriving DecidableEq

namespace Minute

def first (d : Date) : Minute := ⟨d, 0, 0⟩

def last (d : Date) : Minute := ⟨d, 23, 59⟩

/-- Days from the first day of the year zero to the first of January 1970. -/
def epoch : Int := 719528

/-- The minute that a number of milliseconds after the start of 1970 falls
in, if its year can be reached. -/
def ofMillis? (millis : Int) : Option Minute :=
  let minutes := millis / 60000
  let date := Date.ofDays (minutes / 1440 + epoch)
  let ofDay := (minutes % 1440).toNat
  if firstYear ≤ date.year && date.year ≤ lastYear then some ⟨date, ofDay / 60, ofDay % 60⟩
  else none

def write (m : Minute) : String :=
  String.ofList (m.date.write ++ Text.padded 10 2 m.hour ++ Text.padded 10 2 m.minute)

end Minute

end FilterCompiler.Value
