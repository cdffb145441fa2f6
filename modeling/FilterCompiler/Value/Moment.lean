import FilterCompiler.Text.Basic
import FilterCompiler.Value.Calendar
import FilterCompiler.Value.Duration

/-!
Texts that name a day or a minute: dates in the usual orders, with or without a time of day, and
offsets from the present such as `-1d`.
-/

namespace FilterCompiler.Value

open Text

inductive Moment where
  | day (d : Date)
  | minute (m : Minute)
deriving DecidableEq

namespace Moment

def first : Moment → Minute
  | .day d => .first d
  | .minute m => m

def last : Moment → Minute
  | .day d => .last d
  | .minute m => m

end Moment

/-- The number written by the first digits, which are at most `width`, and the rest. -/
def readNumber? (width : Nat) (cs : List Char) : Option (Nat × List Char) :=
  let digits := (cs.take width).takeWhile Char.isDigit
  if digits.isEmpty then none else some (digitsValue digits, cs.drop digits.length)

/-- One or two digits; white space may come before them. -/
def readField? (cs : List Char) : Option (Nat × List Char) := readNumber? 2 (trimStart cs)

/-- Up to four digits, or a sign and any number of digits. -/
def readYear? (cs : List Char) : Option (Int × List Char) :=
  match trimStart cs with
  | '-' :: ds => (readNumber? ds.length ds).map fun (n, rest) => (-(n : Int), rest)
  | '+' :: ds => (readNumber? ds.length ds).map fun (n, rest) => ((n : Int), rest)
  | ds => (readNumber? 4 ds).map fun (n, rest) => ((n : Int), rest)

def readMark? (mark : Char) : List Char → Option (List Char)
  | c :: rest => if c = mark then some rest else none
  | [] => none

inductive DateOrder where
  | yearMonthDay
  | dayMonthYear
  | monthDayYear
deriving DecidableEq

/-- The numbers of a date in some order, and nothing after them. -/
def readParts? (order : DateOrder) (mark : Char) (cs : List Char) : Option Date :=
  match order with
  | .yearMonthDay => do
      let (year, cs) ← readYear? cs
      let (month, cs) ← readField? (← readMark? mark cs)
      let (day, cs) ← readField? (← readMark? mark cs)
      if cs.isEmpty then some ⟨year, month, day⟩ else none
  | .dayMonthYear => do
      let (day, cs) ← readField? cs
      let (month, cs) ← readField? (← readMark? mark cs)
      let (year, cs) ← readYear? (← readMark? mark cs)
      if cs.isEmpty then some ⟨year, month, day⟩ else none
  | .monthDayYear => do
      let (month, cs) ← readField? cs
      let (day, cs) ← readField? (← readMark? mark cs)
      let (year, cs) ← readYear? (← readMark? mark cs)
      if cs.isEmpty then some ⟨year, month, day⟩ else none

def readDateIn? (mark : Char) (cs : List Char) (order : DateOrder) : Option Date :=
  (readParts? order mark cs).filter (·.isValid)

def isDateMark (c : Char) : Bool := c == '-' || c == '/' || c == '.'

/-- Four digits in front are the year. Otherwise a slash puts the month first if it can, and the
other marks put the day first if they can. -/
def dateOrders (mark : Char) (cs : List Char) : List DateOrder :=
  let lead := cs.take 4
  if lead.length == 4 && lead.all Char.isDigit then [.yearMonthDay]
  else if mark == '/' then [.monthDayYear, .dayMonthYear]
  else [.dayMonthYear, .monthDayYear]

/-- The first mark in a date is the one between its numbers. -/
def readDate? (text : List Char) : Option Date := do
  let cs := trimChars text
  let mark ← cs.find? isDateMark
  (dateOrders mark cs).findSome? (readDateIn? mark cs)

/-- Hour and minute of a day. -/
def readTime? (cs : List Char) : Option (Nat × Nat) := do
  let (hour, cs) ← readField? cs
  let (minute, cs) ← readField? (← readMark? ':' cs)
  if cs.isEmpty && hour < 24 && minute < 60 then some (hour, minute) else none

/-- Offsets have a sign or end in the name of a unit. -/
def isOffset (cs : List Char) : Bool :=
  cs.head?.any (fun c => c == '-' || c == '+') || cs.getLast?.any Char.isAlpha

/-- The seconds of an offset, negative for one into the past. -/
def offsetSeconds? : List Char → Option Int
  | '-' :: rest => (readDuration? .calendar rest).map fun seconds => -seconds.toInt
  | '+' :: rest => (readDuration? .calendar rest).map fun seconds => seconds.toInt
  | rest => (readDuration? .calendar rest).map fun seconds => seconds.toInt

/-- The minute that lies an offset away from the present; without a present there is none. -/
def readOffset? (now : Option Int) (cs : List Char) : Option Minute := do
  let seconds ← offsetSeconds? cs
  let present ← now
  Minute.ofMillis? (present + 1000 * seconds)

/-- A moment by its text; `now` is the present in milliseconds. -/
def Moment.read? (now : Option Int) (text : List Char) : Option Moment :=
  let cs := trimChars text
  if isOffset cs then (readOffset? now cs).map .minute
  else match splitFirst ' ' cs with
    | (date, none) => (readDate? date).map .day
    | (date, some time) => do
        let date ← readDate? date
        let (h, m) ← readTime? (trimChars time)
        some (.minute ⟨date, h, m⟩)

end FilterCompiler.Value
