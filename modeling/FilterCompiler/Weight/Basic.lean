/-!
Weights: the boosts and similarities that a query carries. A weight is a number in single
precision, held as its exact value so that reading, comparing and writing need no
rounding but the one that made it.
-/

namespace FilterCompiler

/-- A single-precision number. A finite one is `significand · 2 ^ scale` in units of `2 ^
(-149)`, the smallest positive weight; the significand has at most 24 bits, and all of
them unless the scale is zero. -/
inductive Weight where
  | notANumber
  | infinite (negative : Bool)
  | finite (negative : Bool) (significand scale : Nat)
deriving DecidableEq

namespace Weight

def zero (negative : Bool) : Weight := .finite negative 0 0

def half : Weight := .finite false (1 <<< 23) 125

def isFinite : Weight → Bool
  | .finite .. => true
  | _ => false

/-- At least zero; the two zeros are equal, and what is not a number compares with nothing. -/
def isNonnegative : Weight → Bool
  | .notANumber => false
  | .infinite negative => !negative
  | .finite negative significand _ => !negative || significand == 0

def isBelowOne : Weight → Bool
  | .notANumber => false
  | .infinite negative => negative
  | .finite negative significand scale => negative || significand <<< scale < 1 <<< 149

/-- The quotient rounded to the nearest whole number, a half going to the even one. -/
def roundQuotient (numerator denominator : Nat) : Nat :=
  let quotient := numerator / denominator
  let twice := 2 * (numerator % denominator)
  if denominator < twice || (twice == denominator && quotient % 2 == 1) then quotient + 1
  else quotient

/-- The greatest scale of a finite weight. -/
def maxScale : Nat := 253

/-- The least scale at which a number of units leaves no more than 24 bits. -/
def scaleFor? (units : Nat) : Option Nat :=
  (List.range (maxScale + 1)).find? fun scale => units < 1 <<< (scale + 24)

/-- The weight nearest to a quotient of units. Whatever rounds to `2 ^
128` or beyond is infinite. -/
def ofUnits (negative : Bool) (units denominator : Nat) : Weight :=
  match scaleFor? (units / denominator) with
  | none => .infinite negative
  | some scale =>
    let significand := roundQuotient units (denominator <<< scale)
    if significand < 1 <<< 24 then .finite negative significand scale
    else if scale < maxScale then .finite negative (1 <<< 23) (scale + 1)
    else .infinite negative

/-- The weight nearest to `numerator / denominator`. -/
def ofQuotient (negative : Bool) (numerator denominator : Nat) : Weight :=
  ofUnits negative (numerator <<< 149) denominator

end Weight

end FilterCompiler
