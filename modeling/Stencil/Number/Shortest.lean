import Stencil.Number.Double

/-!
# Shortest decimal

The decimal with the fewest digits among those that read back as a given double, and
of two such decimals the nearer one. A decimal reads back when it lies in the interval
of reals that round to the double; the ends belong to it when the mantissa is even.
-/

namespace Stencil.Number

attribute [local instance (high)] instPowNat

/-- The decimal `coefficient * 10 ^ exponent`. -/
structure Scientific where
  coefficient : Nat
  exponent : Int
  deriving DecidableEq, Repr

namespace Scientific

/-- Four times the distance from `mantissa` down to the lower end of its interval. -/
def lowerGap (mantissa : Nat) (exponent : Int) : Nat :=
  if mantissa = 2 ^ (52 : Nat) ∧ Double.leastExponent < exponent then 1 else 2

/-- Whether the decimal rounds to `mantissa * 2 ^ exponent`. -/
def readsBack (mantissa : Nat) (exponent : Int) (x : Scientific) : Bool :=
  let (num, den) := scaled 10 x.exponent x.coefficient 1
  let (num, den) := scaled 2 (-exponent) num den
  let lower := 4 * mantissa - lowerGap mantissa exponent
  let upper := 4 * mantissa + 2
  if mantissa % 2 = 0 then lower * den ≤ 4 * num && 4 * num ≤ upper * den
  else lower * den < 4 * num && 4 * num < upper * den

/-- The decimal of at most `digits` significant digits that reads back, if any: one of
the two neighbours of the double on the grid of such decimals. -/
def withDigits? (mantissa : Nat) (exponent : Int) (digits : Nat) : Option Scientific :=
  let (num, den) := Double.magnitude mantissa exponent
  let power := leadingPower num den - digits + 1
  let (n, d) := scaled 10 (-power) num den
  let below : Scientific := ⟨n / d, power⟩
  let above : Scientific := ⟨n / d + 1, power⟩
  match readsBack mantissa exponent below, readsBack mantissa exponent above with
  | true, true => some ⟨divHalfEven n d, power⟩
  | true, false => some below
  | false, true => some above
  | false, false => none

def dropZeros : Nat → Scientific → Scientific
  | 0, x => x
  | fuel + 1, x =>
    if x.coefficient ≠ 0 ∧ x.coefficient % 10 = 0 then
      dropZeros fuel ⟨x.coefficient / 10, x.exponent + 1⟩
    else x

/-- Seventeen digits always suffice. -/
def shortest (mantissa : Nat) (exponent : Int) : Scientific :=
  let found := (List.range' 1 17).findSome? (withDigits? mantissa exponent)
  dropZeros 17 (found.getD ⟨0, 0⟩)

end Scientific

end Stencil.Number
