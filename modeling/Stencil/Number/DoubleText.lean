import Stencil.Number.Shortest
import Stencil.Text.Digit

/-!
# The text of a double

The shortest digits that read back, positional from `10 ^ -4` up to `10 ^ 16` and with
an exponent of at least two digits outside; then notations with a given number of
digits, which round the exact value, a half to even.
-/

namespace Stencil.Number.Double

open Stencil.Text (decimalText)

attribute [local instance (high)] instPowNat

def signText (negative : Bool) : Text := if negative then ['-'] else []

def exponentText (letter : CodePoint) (n : Int) : Text :=
  let digits := decimalText n.natAbs
  letter :: (if n < 0 then .char '-' else .char '+') ::
    (List.replicate (2 - digits.length) (.char '0') ++ digits)

/-- Digits with a point after the first `point` of them, padded with zeros on the side
where digits are missing. -/
def pointAt (digits : Text) (point : Int) : Text × Text :=
  if point ≤ 0 then ([.char '0'], List.replicate (-point).toNat (.char '0') ++ digits)
  else
    let whole := point.toNat
    (digits.take whole ++ List.replicate (whole - digits.length) (.char '0'), digits.drop whole)

def magnitudeText (mantissa : Nat) (exponent : Int) : Text :=
  if mantissa = 0 then "0.0".text
  else
    let x := Scientific.shortest mantissa exponent
    let digits := decimalText x.coefficient
    let point := x.exponent + digits.length
    if -4 < point ∧ point ≤ 16 then
      let (whole, rest) := pointAt digits point
      whole ++ .char '.' :: (if rest.isEmpty then [.char '0'] else rest)
    else
      let rest := digits.drop 1
      digits.take 1 ++ (if rest.isEmpty then [] else .char '.' :: rest) ++
        exponentText 'e' (point - 1)

def text : Double → Text
  | .finite s m e => signText s ++ magnitudeText m e
  | .infinite s => signText s ++ "inf".text
  | .nan => "nan".text

/-- No finite double has more digits after the point, and none has as many significant
ones. -/
def mostPlaces : Nat := 1074

/-- The digits of `num / den` to `places` after the point, and the point's place. -/
def fixedDigits (num den places : Nat) : Text :=
  let digits := decimalText (divHalfEven (num * 10 ^ places) den)
  List.replicate (places + 1 - digits.length) (.char '0') ++ digits

/-- Positional notation with `places` digits after the point; `point` keeps the point
where no digit follows it. -/
def fixedText (places : Nat) (point : Bool) (num den : Nat) : Text :=
  let exactPlaces := min places mostPlaces
  let digits := fixedDigits num den exactPlaces
  let whole := digits.length - exactPlaces
  digits.take whole ++
    (if places = 0 ∧ !point then [] else .char '.' :: digits.drop whole) ++
    List.replicate (places - exactPlaces) (.char '0')

/-- The nearest decimal with `places + 1` significant digits. -/
def significant (places num den : Nat) : Scientific :=
  if num = 0 then ⟨0, -places⟩
  else
    let power := leadingPower num den - places
    let (n, d) := scaled 10 (-power) num den
    let coefficient := divHalfEven n d
    if coefficient = 10 ^ (places + 1) then ⟨10 ^ places, power + 1⟩
    else ⟨coefficient, power⟩

/-- One digit before the point, `places` after it, and an exponent. -/
def exponentialText (places : Nat) (point : Bool) (num den : Nat) : Text :=
  let exactPlaces := min places mostPlaces
  let x := significant exactPlaces num den
  let digits := decimalText x.coefficient
  let digits := digits ++ List.replicate (places + 1 - digits.length) (.char '0')
  digits.take 1 ++ (if places = 0 ∧ !point then [] else .char '.' :: digits.drop 1) ++
    exponentText 'e' (x.exponent + exactPlaces)

/-- At most `places` significant digits, positional for exponents from `-4` up to
`places`; zeros at the end of the fraction are dropped unless `point` keeps them. -/
def generalText (places : Nat) (point : Bool) (num den : Nat) : Text :=
  let places := max places 1
  let exactPlaces := min (places - 1) mostPlaces
  let x := significant exactPlaces num den
  let power := x.exponent + exactPlaces
  let shorten (fraction : Text) : Text :=
    if point then fraction else Text.trimEndBy (· == '0') fraction
  let attach (whole fraction : Text) : Text :=
    if fraction.isEmpty ∧ !point then whole else whole ++ .char '.' :: fraction
  let digits := decimalText x.coefficient
  let digits :=
    if point then digits ++ List.replicate (places - digits.length) (.char '0') else digits
  if -4 ≤ power ∧ power < places then
    let (whole, fraction) := pointAt digits (power + 1)
    attach whole (shorten fraction)
  else
    attach (digits.take 1) (shorten (digits.drop 1)) ++ exponentText 'e' power

end Stencil.Number.Double
