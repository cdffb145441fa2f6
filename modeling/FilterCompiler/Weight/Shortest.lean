import FilterCompiler.Weight.Basic

/-!
Weights are written with the fewest digits that read back as the same weight, and of
those with the ones nearest to it. Numbers of ordinary size are written
positionally, the others with a power of ten.
-/

namespace FilterCompiler.Weight

/-- How far down decimals have to be resolved: nine digits below the smallest positive weight. -/
def resolution : Nat := 53

/-- A positive weight in whole parts of `10 ^ (-resolution) · 2 ^ (-151)`, with the
distances to the ends of the interval that rounds to it. The ends belong to the
interval when the significand is even. -/
structure Interval where
  value : Nat
  below : Nat
  above : Nat
  closed : Bool

def interval (significand scale : Nat) : Interval :=
  let halfGap := (2 <<< scale) * Nat.pow 10 resolution
  { value := ((4 * significand) <<< scale) * Nat.pow 10 resolution
    below := if significand == 1 <<< 23 && scale != 0 then halfGap / 2 else halfGap
    above := halfGap
    closed := significand % 2 == 0 }

def Interval.reaches (i : Interval) (distance limit : Nat) : Bool :=
  distance < limit || (i.closed && distance == limit)

/-- The multiple of `grid` nearest to the value, if one lies in the interval; the greater
one when two are equally near. -/
def Interval.onGrid? (i : Interval) (grid : Nat) : Option Nat :=
  let lower := i.value / grid
  let down := i.value % grid
  let up := grid - down
  match i.reaches down i.below, i.reaches up i.above with
  | true, true => some (if down < up then lower else lower + 1)
  | true, false => some lower
  | false, true => some (lower + 1)
  | false, false => none

/-- How many decimal places the value has in parts of `10 ^ (-resolution)`. -/
def Interval.places (i : Interval) : Nat := (Nat.toDigits 10 (i.value >>> 151)).length

/-- The coarsest decimal grid with a point in the interval: that point, and the place of the grid.
The value has nine places on the finest one, and so many always suffice for a weight. -/
def Interval.shortest? (i : Interval) : Option (Nat × Nat) :=
  (List.range 9).findSome? fun extra =>
    (i.onGrid? (Nat.pow 10 (i.places - 1 - extra) <<< 151)).map fun point =>
      (point, i.places - 1 - extra)

/-- The digits of a positive weight and the power of ten of the first of them. -/
structure Digits where
  digits : List Char
  exponent : Int

def dropTrailingZeros (ds : List Char) : List Char :=
  (ds.reverse.dropWhile (· == '0')).reverse

/-- The digits of a point on the grid of some place. -/
def Digits.ofPoint (point place : Nat) : Digits :=
  let ds := Nat.toDigits 10 point
  ⟨dropTrailingZeros ds, (place + (ds.length - 1) : Nat) - (resolution : Int)⟩

def Digits.ofPoint? : Option (Nat × Nat) → Digits
  | some (point, place) => .ofPoint point place
  | none => .ofPoint 0 0

def shortest (significand scale : Nat) : Digits :=
  .ofPoint? (interval significand scale).shortest?

def zeros (n : Nat) : List Char := List.replicate n '0'

def Digits.positional (d : Digits) : List Char :=
  if d.exponent < 0 then
    ['0', '.'] ++ zeros (-d.exponent - 1).toNat ++ d.digits
  else
    let places := d.exponent.toNat + 1
    let fraction := d.digits.drop places
    d.digits.take places ++ zeros (places - d.digits.length) ++ ['.'] ++
      (if fraction.isEmpty then ['0'] else fraction)

def Digits.scientific (d : Digits) : List Char :=
  let fraction := d.digits.drop 1
  d.digits.take 1 ++ (if fraction.isEmpty then [] else '.' :: fraction) ++ ['e'] ++
    (toString d.exponent).toList

/-- Positional from `10 ^ (-4)` up to, but not including, `10 ^ 16`. -/
def Digits.write (d : Digits) : List Char :=
  if -4 ≤ d.exponent && d.exponent < 16 then d.positional else d.scientific

def sign (negative : Bool) : String := if negative then "-" else ""

def write : Weight → String
  | .notANumber => "NaN"
  | .infinite negative => sign negative ++ "inf"
  | .finite negative significand scale =>
    if significand == 0 then sign negative ++ "0.0"
    else sign negative ++ String.ofList (shortest significand scale).write

end FilterCompiler.Weight
