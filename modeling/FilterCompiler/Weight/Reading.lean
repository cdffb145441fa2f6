import FilterCompiler.Text.Basic
import FilterCompiler.Weight.Basic

/-!
Weights written in decimal: an optional sign, digits with at most one point among or around them, an
optional power of ten; or a name for infinity or for what is not a number.
-/

namespace FilterCompiler.Weight

open Text

/-- A numeral as written: its digits without leading zeros, and the power of ten of the last one. -/
structure Decimal where
  digits : List Char
  exponent : Int

/-- Digits, with a point anywhere among them and at least one digit in all. -/
def readMantissa? (cs : List Char) : Option Decimal :=
  let whole := cs.takeWhile Char.isDigit
  let digits? :=
    match cs.dropWhile Char.isDigit with
    | [] => some (whole, [])
    | '.' :: fraction => if fraction.all Char.isDigit then some (whole, fraction) else none
    | _ => none
  match digits? with
  | none => none
  | some (whole, fraction) =>
    let digits := whole ++ fraction
    if digits.isEmpty then none
    else some ⟨digits.dropWhile (· == '0'), -(fraction.length : Int)⟩

def isExponentMark (c : Char) : Bool := c == 'e' || c == 'E'

def readDecimal? (cs : List Char) : Option Decimal := do
  let mantissa ← readMantissa? (cs.takeWhile (!isExponentMark ·))
  match cs.dropWhile (!isExponentMark ·) with
  | [] => some mantissa
  | _ :: exponent =>
    let shift ← readInt? exponent
    some { mantissa with exponent := mantissa.exponent + shift }

/-- The nearest weight. Powers of ten far outside the range of a weight are not multiplied out. -/
def Decimal.toWeight (d : Decimal) (negative : Bool) : Weight :=
  let magnitude := d.exponent + d.digits.length
  if d.digits.isEmpty || magnitude < -46 then .zero negative
  else if 40 < magnitude then .infinite negative
  else ofQuotient negative (digitsValue d.digits * Nat.pow 10 d.exponent.toNat)
    (Nat.pow 10 (-d.exponent).toNat)

def readName? (negative : Bool) (cs : List Char) : Option Weight :=
  match String.ofList (cs.map Char.toLower) with
  | "inf" | "infinity" => some (.infinite negative)
  | "nan" => some .notANumber
  | _ => none

def readUnsigned? (negative : Bool) (cs : List Char) : Option Weight :=
  match readDecimal? cs with
  | some d => some (d.toWeight negative)
  | none => readName? negative cs

def read? : List Char → Option Weight
  | '-' :: cs => readUnsigned? true cs
  | '+' :: cs => readUnsigned? false cs
  | cs => readUnsigned? false cs

end FilterCompiler.Weight
