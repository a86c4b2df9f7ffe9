import Stencil.Text.Blank

/-!
# Decimal digits

Numbers in text may be written with the decimal digits of any script. Each script
has ten consecutive code points for them, zero first.
-/

namespace Stencil.Text

/-- The code point of each digit zero of Unicode 14. -/
def digitZeros : List Nat := [
  0x30, 0x660, 0x6F0, 0x7C0, 0x966, 0x9E6, 0xA66, 0xAE6, 0xB66, 0xBE6,
  0xC66, 0xCE6, 0xD66, 0xDE6, 0xE50, 0xED0, 0xF20, 0x1040, 0x1090, 0x17E0,
  0x1810, 0x1946, 0x19D0, 0x1A80, 0x1A90, 0x1B50, 0x1BB0, 0x1C40, 0x1C50, 0xA620,
  0xA8D0, 0xA900, 0xA9D0, 0xA9F0, 0xAA50, 0xABF0, 0xFF10, 0x104A0, 0x10D30, 0x11066,
  0x110F0, 0x11136, 0x111D0, 0x112F0, 0x11450, 0x114D0, 0x11650, 0x116C0, 0x11730, 0x118E0,
  0x11950, 0x11C50, 0x11D50, 0x11DA0, 0x16A60, 0x16AC0, 0x16B50, 0x1D7CE, 0x1D7D8, 0x1D7E2,
  0x1D7EC, 0x1D7F6, 0x1E140, 0x1E2F0, 0x1E950, 0x1FBF0]

/-- The value of an ASCII digit. -/
def digitValue? (c : CodePoint) : Option Nat :=
  if '0' ≤ c ∧ c ≤ '9' then some (c.toNat - '0'.toNat) else none

def isDigit (c : CodePoint) : Bool := (digitValue? c).isSome

def digitChar (n : Nat) : CodePoint := CodePoint.ofNat ('0'.toNat + n)

/-- A decimal digit of any script as its ASCII digit, a blank beyond ASCII as a space. -/
def plainNumeral (c : CodePoint) : CodePoint :=
  if c.toNat < 128 then c
  else if isBlank c then ' '
  else
    match digitZeros.find? fun z => z ≤ c.toNat && c.toNat < z + 10 with
    | some z => digitChar (c.toNat - z)
    | none => c

/-- The value of a digit of base sixteen, in either case. -/
def hexValue? (c : CodePoint) : Option Nat :=
  if '0' ≤ c ∧ c ≤ '9' then some (c.toNat - '0'.toNat)
  else if 'a' ≤ c ∧ c ≤ 'f' then some (c.toNat - 'a'.toNat + 10)
  else if 'A' ≤ c ∧ c ≤ 'F' then some (c.toNat - 'A'.toNat + 10)
  else none

def isLetter (c : CodePoint) : Bool := ('a' ≤ c && c ≤ 'z') || ('A' ≤ c && c ≤ 'Z')

/-- Characters of a name: ASCII letters, digits and the underscore. -/
def isNameChar (c : CodePoint) : Bool := isLetter c || isDigit c || c == '_'

/-- The number that digits of the base denote, `none` at a character that is no such digit. -/
def natOfDigits? (base : Nat) (t : Text) : Option Nat :=
  t.foldl (fun acc c => do
    let n ← acc
    let d ← hexValue? c
    if d < base then some (n * base + d) else none) (some 0)

/-- The number written in the base, with lower-case letters for digits above nine. -/
def digitsOf (base n : Nat) : Text := (Nat.toDigits base n).map .char

def decimalText (n : Nat) : Text := digitsOf 10 n

/-- Lower-case hexadecimal digits, padded with zeros to `width`. -/
def hexText (width n : Nat) : Text :=
  let digits := digitsOf 16 n
  List.replicate (width - digits.length) (.char '0') ++ digits

end Stencil.Text
