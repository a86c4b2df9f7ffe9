import Stencil.Number.Double
import Stencil.Text.Case
import Stencil.Text.Digit

/-!
# Reading numbers

Whole numbers and decimals from text. Blanks around the number are skipped, single
underscores may stand between digits, and digits of any script count. A number of
more than 4300 decimal digits is neither read nor written.
-/

namespace Stencil.Number

open Stencil.Text (isDigit decimalText natOfDigits?)

def digitLimit : Nat := 4300

/-- The decimal digits of a whole number, within the digit limit. -/
def intText? (n : Int) : Option Text :=
  let digits := decimalText n.natAbs
  if digitLimit < digits.length then none
  else some (if n < 0 then '-' :: digits else digits)

/-- The blanks of ASCII that may stand around a number. -/
def isNumberBlank (c : CodePoint) : Bool := c == ' ' || (9 ≤ c.toNat && c.toNat ≤ 13)

def numberBody (t : Text) : Text := Text.trimBy isNumberBlank (t.map Text.plainNumeral)

/-- Underscores are dropped; `none` where one does not stand between two digits. -/
def dropSeparators? (digit : CodePoint → Bool) (previous : CodePoint) : Text → Option Text
  | [] => if previous = '_' then none else some []
  | '_' :: rest => if digit previous then dropSeparators? digit '_' rest else none
  | c :: rest =>
    if previous = '_' ∧ !digit c then none
    else (dropSeparators? digit c rest).map (c :: ·)

/-- The sign in front of a number, and the rest. -/
def splitSign : Text → Bool × Text
  | '-' :: rest => (true, rest)
  | '+' :: rest => (false, rest)
  | t => (false, t)

/-- The number that a non-empty run of decimal digits denotes. -/
def digitsValue? (t : Text) : Option Nat :=
  if t.isEmpty then none else natOfDigits? 10 t

def readInt? (t : Text) : Option Int := do
  let (negative, digits) := splitSign (numberBody t)
  let digits ← dropSeparators? isDigit ' ' digits
  if digitLimit < digits.length then none
  let n ← digitsValue? digits
  return if negative then -n else n

/-- Digits with an optional point and an optional power of ten, at least one digit
before the power. -/
def readScientific? (t : Text) : Option (Nat × Int) := do
  let whole := t.takeWhile isDigit
  let rest := t.dropWhile isDigit
  let (fraction, rest) :=
    match rest with
    | '.' :: rest => (rest.takeWhile isDigit, rest.dropWhile isDigit)
    | _ => ([], rest)
  let coefficient ← digitsValue? (whole ++ fraction)
  let places : Int := fraction.length
  match rest with
  | [] => return (coefficient, -places)
  | c :: rest =>
    if c != 'e' && c != 'E' then none
    let (negative, digits) := splitSign rest
    let power ← digitsValue? digits
    return (coefficient, (if negative then -(power : Int) else power) - places)

def readDouble? (t : Text) : Option Double := do
  let body ← dropSeparators? isDigit ' ' (numberBody t)
  let (negative, body) := splitSign body
  let name := body.map CodePoint.toLower
  if name = "inf".text ∨ name = "infinity".text then return .infinite negative
  if name = "nan".text then return .nan
  let (coefficient, exponent) ← readScientific? body
  return .ofDecimal negative coefficient exponent

end Stencil.Number
