import FilterCompiler.Text.Basic

/-!
Durations written as amounts of units, such as `1w 2d` or `1.5h`. They are added up in floating
point and come out as whole seconds.
-/

namespace FilterCompiler.Value

/-- The length of a day and of a week, in seconds. -/
structure DurationUnits where
  day : Int64
  week : Int64
deriving DecidableEq

namespace DurationUnits

def minute : Int64 := 60

def hour : Int64 := 3600

def calendar : DurationUnits := ⟨24 * hour, 7 * 24 * hour⟩

/-- Days of so many working hours, weeks of so many such days. -/
def working (hours days : Int64) : DurationUnits := ⟨hours * hour, hours * hour * days⟩

/-- The length of a unit by its name, in any case; an amount without unit is in minutes. -/
def seconds? (units : DurationUnits) (unit : List Char) : Option Int64 :=
  match String.ofList (unit.map Char.toLower) with
  | "" | "m" | "min" | "mins" | "minute" | "minutes" => some minute
  | "h" | "hr" | "hrs" | "hour" | "hours" => some hour
  | "d" | "day" | "days" => some units.day
  | "w" | "wk" | "week" | "weeks" => some units.week
  | _ => none

end DurationUnits

/-- So many units of a length in seconds. The amount is `digits` with
so many places after the point. -/
structure DurationItem where
  digits : Nat
  places : Nat
  seconds : Int64
deriving DecidableEq

def isAmountChar (c : Char) : Bool := c.isDigit || c == '.'

/-- Digits with at most one point among or around them: their value, and
how many come after the point. -/
def readAmount? (cs : List Char) : Option (Nat × Nat) :=
  let whole := cs.takeWhile Char.isDigit
  let fraction := (cs.dropWhile Char.isDigit).drop 1
  let digits := whole ++ fraction
  if digits.isEmpty || !fraction.all Char.isDigit then none
  else some (Text.digitsValue digits, fraction.length)

/-- Items one after the other, white space after each of them being optional. -/
def readItems? (units : DurationUnits) (cs : List Char) : Option (List DurationItem) :=
  match cs with
  | [] => some []
  | c :: rest =>
    if isAmountChar c then do
      let afterAmount := rest.dropWhile isAmountChar
      let (digits, places) ← readAmount? (c :: rest.takeWhile isAmountChar)
      let seconds ← units.seconds? (afterAmount.takeWhile Char.isAlpha)
      let items ← readItems? units (Text.trimStart (afterAmount.dropWhile Char.isAlpha))
      some (⟨digits, places, seconds⟩ :: items)
    else none
termination_by cs.length
decreasing_by
  exact Nat.lt_succ_of_le ((List.dropWhile_sublist _).trans
    ((List.dropWhile_sublist _).trans (List.dropWhile_sublist _))).length_le

def DurationItem.value (i : DurationItem) : Float :=
  Float.ofScientific i.digits true i.places * Float.ofInt i.seconds.toInt

/-- The sum from the left. -/
def totalSeconds (items : List DurationItem) : Float :=
  items.foldl (fun total i => total + i.value) 0.0

/-- Whole seconds, a half being rounded away from zero. What is past the 64-bit range has no value,
but its very end still counts as the largest one. -/
def wholeSeconds? (total : Float) : Option Int64 :=
  let seconds := total.round
  if !seconds.isFinite || seconds > 9223372036854775808.0 then none else some seconds.toInt64

def readDuration? (units : DurationUnits) (cs : List Char) : Option Int64 :=
  match Text.trimChars cs with
  | [] => none
  | text => (readItems? units text).bind fun items => wholeSeconds? (totalSeconds items)

end FilterCompiler.Value
