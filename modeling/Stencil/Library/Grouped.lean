import Stencil.Library.Basic
import Stencil.Text.Search

/-!
# Grouped numbers

A number with a fixed number of decimal places, a half rounded away from zero, and
its whole digits in groups of three. The rounded number has at most 28 digits.
-/

namespace Stencil.Library

open Stencil.Number (Decimal divHalfUp decimalLength)
open Stencil.Text (decimalText)

attribute [local instance (high)] instPowNat

/-- The places that a decimal can be rounded to at all. -/
def placesLimit : Nat := 2000054

/-- The places that rounding works with; further ones are zeros. -/
def roundedPlaces (places : Nat) : Nat := min places (-Decimal.leastExponent).toNat

/-- `coefficient * 10 ^ exponent` in units of `10 ^ -places`, a half rounded up; `none`
beyond the working precision. -/
def roundToPlaces? (places coefficient : Nat) (exponent : Int) : Option Nat :=
  let shift := exponent + places
  let length : Int := decimalLength coefficient
  if coefficient = 0 ∨ length + shift < 0 then some 0
  else if (Decimal.precision : Int) < length + shift then none
  else
    let units :=
      match shift with
      | .ofNat n => coefficient * 10 ^ n
      | .negSucc n => divHalfUp coefficient (10 ^ (n + 1))
    if Decimal.precision < decimalLength units then none else some units

/-- Groups of three of digits given from right to left, the rightmost group first. -/
def groupsFromRight : Text → List Text
  | a :: b :: c :: d :: rest => [c, b, a] :: groupsFromRight (d :: rest)
  | rest => [rest.reverse]

/-- Digits in groups of three from the right. -/
def groupsOf3 (digits : Text) : List Text := (groupsFromRight digits.reverse).reverse

def wholeDigits (places units : Nat) : Text := decimalText (units / 10 ^ places)

def fractionDigits (places units : Nat) : Text :=
  let digits := decimalText (units % 10 ^ places)
  if places = 0 then [] else List.replicate (places - digits.length) (.char '0') ++ digits

def groupedText (negative : Bool) (places units : Nat) (point separator : Text) : Text :=
  (if negative && units != 0 then [.char '-'] else []) ++
    Text.join separator (groupsOf3 (wholeDigits places units)) ++
    (if places = 0 then [] else point ++ fractionDigits places units)

/-- The decimal that the text of a value denotes. -/
def toDecimal (v : Value) : Except Fault Decimal := do
  match Decimal.read? (← v.asText) with
  | some d => return d
  | none => .error .invalidDecimal

def groupedValue (number places point separator : Value) : Except Fault Value := do
  let places := (← places.toInt).toNat
  if placesLimit < places then .error .invalidDecimal
  match ← toDecimal number with
  | .finite negative coefficient exponent =>
    match roundToPlaces? (roundedPlaces places) coefficient exponent with
    | none => .error .invalidDecimal
    | some units =>
      let units := units * 10 ^ (places - roundedPlaces places)
      match separator with
      | .text sep =>
        let point ← if places = 0 then .ok [] else point.asText
        return .text (groupedText negative places units point sep)
      | _ => .error .wrongType
  | .nan _ false _ =>
    match separator with
    | .text _ => .error .invalidDecimal
    | _ => .error .wrongType
  | _ => .error .invalidDecimal

def grouped : Function
  | [n] => groupedValue n (.int 0) (.text ['.']) (.text [','])
  | [n, places] => groupedValue n places (.text ['.']) (.text [','])
  | [n, places, point] => groupedValue n places point (.text [','])
  | [n, places, point, separator] => groupedValue n places point separator
  | _ => .error .wrongType

end Stencil.Library
