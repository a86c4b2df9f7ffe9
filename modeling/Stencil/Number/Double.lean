import Stencil.Number.Rounding

/-!
# Double precision numbers

Binary floating point with 53 significant bits, as exact integers: a finite number
is `± mantissa * 2 ^ exponent`. Every result is the double nearest to the exact one,
a tie going to the even mantissa.
-/

namespace Stencil.Number

attribute [local instance (high)] instPowNat

/-- Finite numbers are in normal form: the mantissa is below `2 ^ 53`, and from
`2 ^ 52` on unless the exponent is the least one, `-1074`. -/
inductive Double where
  | finite (negative : Bool) (mantissa : Nat) (exponent : Int)
  | infinite (negative : Bool)
  | nan
  deriving DecidableEq, Repr

namespace Double

def leastExponent : Int := -1074
def greatestExponent : Int := 971

def zero (negative : Bool) : Double := .finite negative 0 leastExponent

/-- The double nearest to `num / den`, with the sign given. -/
def ofRatio (negative : Bool) (num den : Nat) : Double :=
  if num = 0 then zero negative
  else
    let guess := (num.log2 : Int) - den.log2 - 52
    let (n, d) := scaled 2 (-guess) num den
    let unit := if 2 ^ (52 : Nat) * d ≤ n then guess else guess - 1
    let exponent := max unit leastExponent
    let (n, d) := scaled 2 (-exponent) num den
    let mantissa := divHalfEven n d
    let (mantissa, exponent) :=
      if mantissa = 2 ^ (53 : Nat) then (2 ^ (52 : Nat), exponent + 1) else (mantissa, exponent)
    if greatestExponent < exponent then .infinite negative
    else .finite negative mantissa exponent

/-- A whole number as a double, unless it lies beyond the finite ones. -/
def ofInt? (n : Int) : Option Double :=
  match ofRatio (n < 0) n.natAbs 1 with
  | .infinite _ => none
  | x => some x

/-- The double nearest to `coefficient * 10 ^ exponent`. -/
def ofDecimal (negative : Bool) (coefficient : Nat) (exponent : Int) : Double :=
  let top := exponent + decimalLength coefficient
  if coefficient = 0 ∨ top < -330 then zero negative
  else if 310 < top then .infinite negative
  else
    let (num, den) := scaled 10 exponent coefficient 1
    ofRatio negative num den

/-- The absolute value of a finite number as a fraction. -/
def magnitude (mantissa : Nat) (exponent : Int) : Nat × Nat := scaled 2 exponent mantissa 1

def isNegative : Double → Bool
  | .finite s _ _ => s
  | .infinite s => s
  | .nan => false

def isZero : Double → Bool
  | .finite _ m _ => m == 0
  | _ => false

/-- The whole part, for a finite number. -/
def truncate? : Double → Option Int
  | .finite s m e =>
    let (num, den) := magnitude m e
    let whole : Int := (num / den : Nat)
    some (if s then -whole else whole)
  | _ => none

/-- The product with a natural number. -/
def scale (k : Nat) : Double → Double
  | .finite s m e =>
    let (num, den) := magnitude m e
    ofRatio s (k * num) den
  | x => x

end Double

end Stencil.Number
