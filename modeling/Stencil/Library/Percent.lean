import Stencil.Library.Basic

/-!
# Percent formats

A format is text with conversions: a percent sign, flags, a width, a precision, an
ignored length letter, and the letter of the conversion. Each conversion takes the
next argument; an asterisk takes one for the width or the precision. All arguments
must be taken.
-/

namespace Stencil.Library

open Stencil.Number (Double)
open Stencil.Text (decimalText isDigit)

namespace Percent

structure Flags where
  left : Bool
  plus : Bool
  blank : Bool
  alternate : Bool
  zero : Bool
  deriving DecidableEq, Repr

def Flags.none : Flags := ⟨false, false, false, false, false⟩

/-- The flags with one more, when the character is a flag. -/
def Flags.add? (f : Flags) (c : CodePoint) : Option Flags :=
  match c with
  | '-' => some { f with left := true }
  | '+' => some { f with plus := true }
  | ' ' => some { f with blank := true }
  | '#' => some { f with alternate := true }
  | '0' => some { f with zero := true }
  | _ => Option.none

def readFlags (f : Flags) : Text → Flags × Text
  | [] => (f, [])
  | c :: rest =>
    match f.add? c with
    | some g => readFlags g rest
    | Option.none => (f, c :: rest)

/-- What a conversion asks for. -/
structure Spec where
  flags : Flags
  width : Nat
  precision : Option Nat
  letter : CodePoint
  deriving DecidableEq, Repr

def wordLimit : Nat := Number.wordBound.toNat - 1
def intLimit : Nat := 2147483647

/-- The digits that a whole number may be padded to. -/
def digitsLimit : Nat := intLimit - 3

/-- The next argument as a whole number, for an asterisk. -/
def takeCount (limit : Nat) : List Value → Except Fault (Int × List Value)
  | .bool b :: args => .ok (if b then 1 else 0, args)
  | .int n :: args =>
    if n < -(limit : Int) - 1 ∨ (limit : Int) < n then .error .outOfRange else .ok (n, args)
  | _ => .error .wrongType

/-- A number of digits in the format itself, no greater than `limit`. -/
def readCount (limit : Nat) (t : Text) : Except Fault (Nat × Text) :=
  let n := (Text.natOfDigits? 10 (t.takeWhile isDigit)).getD 0
  if limit < n then .error .badValue else .ok (n, t.dropWhile isDigit)

/-- The width, with a minus sign where an argument below zero gives it. -/
def readWidth (t : Text) (args : List Value) : Except Fault (Int × Text × List Value) :=
  match t with
  | '*' :: rest => do
    let (n, args) ← takeCount wordLimit args
    return (n, rest, args)
  | _ => do
    let (n, rest) ← readCount wordLimit t
    return (n, rest, args)

def readPrecision (t : Text) (args : List Value) :
    Except Fault (Option Nat × Text × List Value) :=
  match t with
  | '.' :: '*' :: rest => do
    let (n, args) ← takeCount intLimit args
    return (some n.toNat, rest, args)
  | '.' :: rest => do
    let (n, rest) ← readCount intLimit rest
    return (some n, rest, args)
  | _ => .ok (none, t, args)

def dropLengthLetter : Text → Text
  | c :: rest => if c = 'h' ∨ c = 'l' ∨ c = 'L' then rest else c :: rest
  | [] => []

/-- The conversion at the head of a text, after its percent sign, the rest of the text
and the arguments left. Named arguments are refused, for there are none. -/
def readSpec (t : Text) (args : List Value) : Except Fault (Spec × Text × List Value) := do
  if t.head? = some (.char '(') then .error .wrongType
  let (flags, t) := readFlags .none t
  let (width, t, args) ← readWidth t args
  let (precision, t, args) ← readPrecision t args
  match dropLengthLetter t with
  | [] => .error .badValue
  | letter :: rest =>
    let flags := if width < 0 then { flags with left := true } else flags
    let width := if wordLimit < width.natAbs then 0 else width.natAbs
    return (⟨flags, width, precision, letter⟩, rest, args)

/-- A converted argument: its sign, the prefix of its base, and its digits or text. -/
structure Converted where
  sign : Text
  base : Text
  body : Text
  deriving DecidableEq, Repr

/-- Lays out a converted argument. Zeros go between the base and the digits, blanks on
the left of everything, or on the right with the flag for it. -/
def layOut (machine : Machine) (s : Spec) (zeros : Bool) (x : Converted) : Except Fault Text :=
  let text := x.sign ++ x.base ++ x.body
  let missing := s.width - text.length
  if missing ≠ 0 ∧ !machine.holds [' '] s.width then .error .outOfMemory
  else
    if s.flags.left then .ok (text ++ List.replicate missing (.char ' '))
    else if zeros then .ok (x.sign ++ x.base ++ List.replicate missing (.char '0') ++ x.body)
    else .ok (List.replicate missing (.char ' ') ++ text)

def signOf (f : Flags) (negative : Bool) : Text :=
  if negative then ['-'] else if f.plus then ['+'] else if f.blank then [' '] else []

def upperAscii (t : Text) : Text := t.map CodePoint.toUpper

/-- A whole number in base ten, eight or sixteen, with at least `precision` digits. -/
def convertInt (machine : Machine) (s : Spec) (n : Int) : Except Fault Converted := do
  if digitsLimit < s.precision.getD 0 then .error .outOfRange
  let base := if s.letter = 'o' then 8 else if s.letter = 'x' ∨ s.letter = 'X' then 16 else 10
  let digits := Text.digitsOf base n.natAbs
  if base = 10 ∧ Number.digitLimit < digits.length then .error .badValue
  let missing := s.precision.getD 0 - digits.length
  if missing ≠ 0 ∧ !machine.holds ['0'] (s.precision.getD 0) then .error .outOfMemory
  let digits := List.replicate missing (.char '0') ++ digits
  let digits := if s.letter = 'X' then upperAscii digits else digits
  let mark := if s.flags.alternate && base != 10 then [.char '0', s.letter] else []
  return ⟨signOf s.flags (n < 0), mark, digits⟩

/-- The number that a decimal conversion prints: the whole part of the argument. -/
def wholeOf : Value → Except Fault Int
  | .text _ => .error .wrongType
  | .bytes _ => .error .wrongType
  | v => v.toInt

def exactInt : Value → Except Fault Int
  | .bool b => .ok (if b then 1 else 0)
  | .int n => .ok n
  | _ => .error .wrongType

def realOf : Value → Except Fault Double
  | .text _ => .error .wrongType
  | .bytes _ => .error .wrongType
  | v => v.toDouble

/-- The digits of a finite number, without its sign. The exponential notation counts one
digit more than the places, and the greatest count of places has none. -/
def realDigits (machine : Machine) (s : Spec) (num den : Nat) : Except Fault Text :=
  let places := s.precision.getD 6
  let point := s.flags.alternate
  let isExponential := s.letter = 'e' ∨ s.letter = 'E'
  let isGeneral := s.letter = 'g' ∨ s.letter = 'G'
  if isExponential ∧ places = intLimit then .ok (Double.exponentialText 0 point num den)
  else if isGeneral ∧ !point then .ok (Double.generalText places point num den)
  else if !machine.holds ['0'] places then .error .outOfMemory
  else if isExponential then .ok (Double.exponentialText places point num den)
  else if isGeneral then .ok (Double.generalText places point num den)
  else .ok (Double.fixedText places point num den)

def convertReal (machine : Machine) (s : Spec) (x : Double) : Except Fault Converted := do
  let body ←
    match x with
    | .nan => pure "nan".text
    | .infinite _ => pure "inf".text
    | .finite _ m e =>
      let (num, den) := Double.magnitude m e
      realDigits machine s num den
  let body := if s.letter.isUpper then upperAscii body else body
  return ⟨signOf s.flags x.isNegative, [], body⟩

/-- One character, or the character of a code. -/
def convertChar : Value → Except Fault Text
  | .text [c] => .ok [c]
  | .bool b => .ok [CodePoint.ofNat (if b then 1 else 0)]
  | .int n =>
    if n < 0 ∨ 0x10FFFF < n then .error .outOfRange else .ok [CodePoint.ofNat n.toNat]
  | _ => .error .wrongType

/-- Quoted text with every character beyond ASCII as an escape. -/
def asciiQuoted (v : Value) : Except Fault Text := do
  return (← v.quoted).flatMap fun c => if Text.isAscii c then [c] else Text.codeEscape c

def cutText (s : Spec) (t : Text) : Converted :=
  ⟨[], [], match s.precision with
    | some n => t.take n
    | none => t⟩

/-- One argument under one conversion. -/
def convert (machine : Machine) (s : Spec) (v : Value) : Except Fault Text :=
  match s.letter with
  | 's' => do layOut machine s false (cutText s (← v.asText))
  | 'r' => do layOut machine s false (cutText s (← v.quoted))
  | 'a' => do layOut machine s false (cutText s (← asciiQuoted v))
  | 'c' => do layOut machine s false ⟨[], [], ← convertChar v⟩
  | 'd' => do layOut machine s s.flags.zero (← convertInt machine s (← wholeOf v))
  | 'i' => do layOut machine s s.flags.zero (← convertInt machine s (← wholeOf v))
  | 'u' => do layOut machine s s.flags.zero (← convertInt machine s (← wholeOf v))
  | 'o' => do layOut machine s s.flags.zero (← convertInt machine s (← exactInt v))
  | 'x' => do layOut machine s s.flags.zero (← convertInt machine s (← exactInt v))
  | 'X' => do layOut machine s s.flags.zero (← convertInt machine s (← exactInt v))
  | 'e' => do layOut machine s s.flags.zero (← convertReal machine s (← realOf v))
  | 'E' => do layOut machine s s.flags.zero (← convertReal machine s (← realOf v))
  | 'f' => do layOut machine s s.flags.zero (← convertReal machine s (← realOf v))
  | 'F' => do layOut machine s s.flags.zero (← convertReal machine s (← realOf v))
  | 'g' => do layOut machine s s.flags.zero (← convertReal machine s (← realOf v))
  | 'G' => do layOut machine s s.flags.zero (← convertReal machine s (← realOf v))
  | _ => .error .badValue

/-- Formats the arguments; a conversion takes at least one character of the format, of
which `fuel` bounds the number. -/
def formatWithin (machine : Machine) (fuel : Nat) (t : Text) (args : List Value) :
    Except Fault Text :=
  match fuel, t with
  | _, [] => if args.isEmpty then .ok [] else .error .wrongType
  | 0, _ => .error .badValue
  | fuel + 1, '%' :: '%' :: rest => do return '%' :: (← formatWithin machine fuel rest args)
  | fuel + 1, '%' :: rest => do
    let (spec, rest, args) ← readSpec rest args
    match args with
    | [] => .error .wrongType
    | v :: args =>
      let text ← convert machine spec v
      return text ++ (← formatWithin machine fuel rest args)
  | fuel + 1, c :: rest => do return c :: (← formatWithin machine fuel rest args)

def format (machine : Machine) (t : Text) (args : List Value) : Except Fault Text :=
  formatWithin machine t.length t args

end Percent

def formatted (machine : Machine) : Function
  | template :: args => do return .text (← Percent.format machine (← template.output) args)
  | [] => .error .wrongType

end Stencil.Library
