import Stencil.Number.Reading
import Stencil.Text.Search

/-!
# Numerals

The numbers that literals may hold: whole numbers in base 10, 16, 8 or 2, decimals
with a point or a power of ten, and imaginary numbers, of which nothing but the kind
is kept. Single underscores may stand between digits. A numeral ends where no letter,
digit, underscore or character beyond ASCII follows, or where one of a few words does.
-/

namespace Stencil.Literal

open Stencil.Number (Double dropSeparators? digitLimit splitSign)
open Stencil.Text (isDigit isNameChar hexValue? natOfDigits? startsWith)

inductive Numeral where
  | whole (n : Nat)
  | real (x : Double)
  | imaginary
  deriving DecidableEq, Repr

namespace Numeral

/-- The base that the letter after a leading zero names. -/
def base? (c : CodePoint) : Option Nat :=
  if c = 'x' ∨ c = 'X' then some 16
  else if c = 'o' ∨ c = 'O' then some 8
  else if c = 'b' ∨ c = 'B' then some 2
  else none

/-- Characters that run on into a name. -/
def continuesName (c : CodePoint) : Bool := isNameChar c || 128 ≤ c.toNat

/-- The words that may follow a numeral with no blank between. -/
def followers : List String := ["and", "else", "for", "if", "in", "is", "or", "not"]

def ends (t : Text) : Bool :=
  !(t.head?.any continuesName) || followers.any fun w => startsWith w.text t

/-- Digits in another base, after the letter that names it. -/
def readBased? (base : Nat) (t : Text) : Option (Nat × Text) := do
  let isBaseDigit (c : CodePoint) : Bool := (hexValue? c).any (· < base)
  let inRun (c : CodePoint) : Bool := isBaseDigit c || c == '_'
  let rest := t.dropWhile inRun
  let digits ← dropSeparators? isBaseDigit '0' (t.takeWhile inRun)
  if digits.isEmpty ∨ !ends rest then none
  return (← natOfDigits? base digits, rest)

/-- A run of decimal digits, possibly empty, without its underscores. -/
def digitRun? (t : Text) : Option (Text × Text) := do
  let inRun (c : CodePoint) : Bool := isDigit c || c == '_'
  let digits ← dropSeparators? isDigit ' ' (t.takeWhile inRun)
  return (digits, t.dropWhile inRun)

/-- The digits after a point, when there is one. -/
def fraction? (t : Text) : Option (Option Text × Text) :=
  match t with
  | '.' :: rest => do
    match rest with
    | '_' :: _ => none
    | _ => (digitRun? rest).map fun (digits, rest) => (some digits, rest)
  | _ => some (none, t)

/-- The power of ten after the letter `e`, when a sign or a digit follows it. -/
def power? (t : Text) : Option (Option Int × Text) :=
  match t with
  | c :: rest =>
    let isPower := rest.head?.any fun (d : CodePoint) => d == '+' || d == '-' || isDigit d
    if (c = 'e' ∨ c = 'E') ∧ isPower then do
      let (negative, rest) := splitSign rest
      let (digits, rest) ← digitRun? rest
      if digits.isEmpty then none
      let n ← natOfDigits? 10 digits
      return (some (if negative then -(n : Int) else n), rest)
    else some (none, t)
  | [] => some (none, t)

/-- A numeral in base ten. A whole number other than zero does not start with zero, and
has a limited number of digits. -/
def readDecimal? (t : Text) : Option (Numeral × Text) := do
  let (front, rest) ← digitRun? t
  let (fraction, rest) ← fraction? rest
  let (power, rest) ← power? rest
  let digits := front ++ fraction.getD []
  if digits.isEmpty then none
  let coefficient ← natOfDigits? 10 digits
  match rest with
  | c :: after =>
    if c = 'j' ∨ c = 'J' then
      if ends after then return (.imaginary, after) else none
  | [] => pure ()
  if !ends rest then none
  if fraction.isNone ∧ power.isNone then
    if coefficient ≠ 0 ∧ (front.head? = some (.char '0') ∨ digitLimit < digits.length) then none
    else return (.whole coefficient, rest)
  else
    let places : Int := (fraction.getD []).length
    return (.real (.ofDecimal false coefficient (power.getD 0 - places)), rest)

def read? (t : Text) : Option (Numeral × Text) :=
  match t with
  | '0' :: c :: rest =>
    match base? c with
    | some base => (readBased? base rest).map fun (n, rest) => (.whole n, rest)
    | none => readDecimal? t
  | _ => readDecimal? t

end Numeral

end Stencil.Literal
