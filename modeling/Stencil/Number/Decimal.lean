import Stencil.Fault
import Stencil.Number.DoubleText
import Stencil.Number.Reading

/-!
# Decimal numbers

Decimal floating point that keeps its digits: `± coefficient * 10 ^ exponent`, so that
`1.50` and `1.5` are different numbers of one value. Arithmetic works with 28 digits.
-/

namespace Stencil.Number

attribute [local instance (high)] instPowNat

inductive Decimal where
  | finite (negative : Bool) (coefficient : Nat) (exponent : Int)
  | infinite (negative : Bool)
  /-- Not a number; a signaling one is refused by arithmetic. -/
  | nan (negative signaling : Bool) (payload : Nat)
  deriving DecidableEq, Repr

namespace Decimal

open Stencil.Text (decimalText)

def precision : Nat := 28

/-- The exponents of leading digits that arithmetic may give. -/
def powerLimit : Int := 999999

/-- The exponents of leading digits that a decimal may have at all. -/
def storedPowerLimit : Int := 999999999999999999
def storedLeastExponent : Int := -1999999999999999997

/-- The exponent of the leading digit. -/
def leadingPower (coefficient : Nat) (exponent : Int) : Int :=
  exponent + decimalLength coefficient - 1

/-- A decimal in text; underscores are ignored wherever they stand. -/
def read? (t : Text) : Option Decimal := do
  let body := (Text.trim t).map Text.plainNumeral
  let (negative, body) := splitSign (body.filter (· != '_'))
  let name := body.map CodePoint.toLower
  if name = "inf".text ∨ name = "infinity".text then return .infinite negative
  if let some rest := "snan".text.isPrefixOf? name then
    return .nan negative true (← Text.natOfDigits? 10 rest)
  if let some rest := "nan".text.isPrefixOf? name then
    return .nan negative false (← Text.natOfDigits? 10 rest)
  let (coefficient, exponent) ← readScientific? body
  if exponent < storedLeastExponent ∨
      storedPowerLimit < leadingPower coefficient exponent then none
  return .finite negative coefficient exponent

/-- Positional when the exponent is not positive and at most six places are empty
after the point, otherwise with an exponent. -/
def text : Decimal → Text
  | .infinite s => Double.signText s ++ "Infinity".text
  | .nan s signaling payload =>
    Double.signText s ++ (if signaling then [.char 's'] else []) ++ "NaN".text ++
      (if payload = 0 then [] else decimalText payload)
  | .finite s c e =>
    let digits := decimalText c
    let power := leadingPower c e
    Double.signText s ++
      if e ≤ 0 ∧ -6 ≤ power then
        let (whole, fraction) := Double.pointAt digits (digits.length + e)
        if e = 0 then whole else whole ++ .char '.' :: fraction
      else
        let rest := digits.drop 1
        digits.take 1 ++ (if rest.isEmpty then [] else .char '.' :: rest) ++
          .char 'E' :: (if power < 0 then .char '-' else .char '+') :: decimalText power.natAbs

def isZero : Decimal → Bool
  | .finite _ c _ => c == 0
  | _ => false

/-- A number with more zeros than this has no room as a whole number. -/
def zerosLimit : Int := 10 ^ (10 : Nat)

/-- The whole part. -/
def truncate : Decimal → Except Fault Int
  | .finite s c e =>
    if c = 0 ∨ leadingPower c e < 0 then .ok 0
    else if zerosLimit < e then .error .outOfMemory
    else
      let (num, den) := scaled 10 e c 1
      let whole : Int := (num / den : Nat)
      .ok (if s then -whole else whole)
  | .infinite _ => .error .outOfRange
  | .nan .. => .error .badValue

def toDouble : Decimal → Except Fault Double
  | .finite s c e => .ok (.ofDecimal s c e)
  | .infinite s => .ok (.infinite s)
  | .nan _ signaling _ => if signaling then .error .badValue else .ok .nan

/-- The least exponent that arithmetic may give. -/
def leastExponent : Int := -powerLimit - precision + 1

/-- `coefficient * 10 ^ exponent` in units of `10 ^ unit`, a half to even, when the unit is
the greater power. Far below one unit nothing is left. -/
def inUnits (coefficient : Nat) (exponent unit : Int) : Nat :=
  if exponent + decimalLength coefficient < unit then 0
  else divHalfEven coefficient (10 ^ (unit - exponent).toNat)

/-- The number rounded to the working precision. -/
def round (negative : Bool) (coefficient : Nat) (exponent : Int) : Except Fault Decimal :=
  if coefficient = 0 then
    .ok (.finite negative 0 (max leastExponent (min powerLimit exponent)))
  else
    let surplus : Int := (decimalLength coefficient : Int) - precision
    let unit := max leastExponent (exponent + max 0 surplus)
    let (coefficient, exponent) :=
      if exponent < unit then (inUnits coefficient exponent unit, unit)
      else (coefficient, exponent)
    let (coefficient, exponent) :=
      if coefficient = 10 ^ precision then (10 ^ (precision - 1), exponent + 1)
      else (coefficient, exponent)
    if powerLimit < leadingPower coefficient exponent then .error .decimalOverflow
    else .ok (.finite negative coefficient exponent)

/-- The product with a natural number. Arithmetic keeps as many digits of a payload as of
a number, the last ones. -/
def scale (k : Nat) : Decimal → Except Fault Decimal
  | .finite s c e => round s (k * c) e
  | .infinite s => if k = 0 then .error .invalidDecimal else .ok (.infinite s)
  | .nan s signaling payload =>
    if signaling then .error .invalidDecimal
    else .ok (.nan s false (payload % 10 ^ precision))

/-- `coefficient * 10 ^ exponent` with at most `fuel` zeros at the end of the coefficient
moved to the exponent. -/
def trimZerosWithin (fuel coefficient : Nat) (exponent : Int) : Nat × Int :=
  match fuel with
  | 0 => (coefficient, exponent)
  | fuel + 1 =>
    if coefficient % 10 = 0 then trimZerosWithin fuel (coefficient / 10) (exponent + 1)
    else (coefficient, exponent)

/-- The one form without zeros at the end; zero has the exponent zero. -/
def trimZeros (coefficient : Nat) (exponent : Int) : Nat × Int :=
  if coefficient = 0 then (0, 0)
  else trimZerosWithin (decimalLength coefficient) coefficient exponent

end Decimal

end Stencil.Number
