import Stencil.Calendar.Date
import Stencil.Number.Double

/-!
# Moments

A moment is a number of seconds and microseconds after the start of 1970, in
universal time, and can be printed field by field after a format.
-/

namespace Stencil.Calendar

open Stencil.Number (Double divHalfEven)
open Stencil.Text (decimalText)

/-- `microsecond` counts on from `second`, also before 1970. -/
structure Moment where
  second : Int
  microsecond : Nat
  deriving DecidableEq, Repr

def secondsOfDay : Nat := 86400

/-- The day number of the first of January 1970. -/
def epochDay : Nat := 719163

/-- Moments are printed from the second of January of the year 1 on. -/
def leastSecond : Int := -62135510400
def greatestSecond : Int := 253402300799

/-- The seconds whose year the system clock can hold. -/
def leastClockSecond : Int := -67768040609740800
def greatestClockSecond : Int := 67768036191676799

namespace Moment

/-- Rounds to microseconds, a half to even; the fraction is first taken times a million
in double precision. -/
def ofDouble : Double → Except Fault Moment
  | .nan => .error .badValue
  | .infinite _ => .error .outOfRange
  | .finite negative mantissa exponent =>
    let (num, den) := Double.magnitude mantissa exponent
    let fraction : Nat :=
      match Double.ofRatio false (num % den * 1000000) den with
      | .finite _ m e => divHalfEven (Double.magnitude m e).1 (Double.magnitude m e).2
      | _ => 0
    let total : Int := (num / den * 1000000 + fraction : Nat)
    let total := if negative then -total else total
    let second := total.fdiv 1000000
    if second < -Number.wordBound ∨ Number.wordBound ≤ second then .error .outOfRange
    else if second < leastClockSecond ∨ greatestClockSecond < second then .error .clockRange
    else if second < leastSecond ∨ greatestSecond < second then .error .badValue
    else .ok ⟨second, (total.fmod 1000000).toNat⟩

def dayNumber (m : Moment) : Nat := (epochDay + m.second.fdiv secondsOfDay).toNat

def date (m : Moment) : Date := .ofDayNumber m.dayNumber

/-- Seconds after midnight. -/
def clock (m : Moment) : Nat := (m.second.fmod secondsOfDay).toNat

def hour (m : Moment) : Nat := m.clock / 3600
def minute (m : Moment) : Nat := m.clock / 60 % 60
def secondOfMinute (m : Moment) : Nat := m.clock % 60

/-- The hour on a dial of twelve. -/
def dialHour (m : Moment) : Nat := if m.hour % 12 = 0 then 12 else m.hour % 12

/-- The whole part of the double nearest to the seconds after the start of 1970. -/
def unixTime (m : Moment) : Int :=
  let total := m.second * 1000000 + m.microsecond
  ((Double.ofRatio (total < 0) total.natAbs 1000000).truncate?).getD 0

def dayNames : List String :=
  ["Monday", "Tuesday", "Wednesday", "Thursday", "Friday", "Saturday", "Sunday"]

def monthNames : List String :=
  ["January", "February", "March", "April", "May", "June", "July", "August", "September",
   "October", "November", "December"]

def dayName (m : Moment) : Text := (dayNames.getD m.date.weekday "").text

def monthName (m : Moment) : Text := (monthNames.getD (m.date.month - 1) "").text

def zoneName : Text := "UTC".text

/-- What a format character prints; other characters print themselves. -/
def field? (m : Moment) : CodePoint → Option Text
  | 'd' => some (Date.padded 2 m.date.day)
  | 'D' => some (m.dayName.take 3)
  | 'j' => some (decimalText m.date.day)
  | 'l' => some m.dayName
  | 'N' => some (decimalText (m.date.weekday + 1))
  | 'w' => some (decimalText ((m.date.weekday + 1) % 7))
  | 'z' => some (decimalText m.date.dayOfYear)
  | 'm' => some (Date.padded 2 m.date.month)
  | 'M' => some (m.monthName.take 3)
  | 'n' => some (decimalText m.date.month)
  | 'F' => some m.monthName
  | 't' => some (decimalText (monthLength m.date.year m.date.month))
  | 'L' => some [if isLeap m.date.year then '1' else '0']
  | 'Y' => some (decimalText m.date.year)
  | 'y' => some (Date.padded 2 (m.date.year % 100))
  | 'a' => some (if m.hour < 12 then ['a', 'm'] else ['p', 'm'])
  | 'A' => some (if m.hour < 12 then ['A', 'M'] else ['P', 'M'])
  | 'g' => some (decimalText m.dialHour)
  | 'G' => some (decimalText m.hour)
  | 'h' => some (Date.padded 2 m.dialHour)
  | 'H' => some (Date.padded 2 m.hour)
  | 'i' => some (Date.padded 2 m.minute)
  | 's' => some (Date.padded 2 m.secondOfMinute)
  | 'U' =>
    some (if m.unixTime < 0 then '-' :: decimalText m.unixTime.natAbs
      else decimalText m.unixTime.natAbs)
  | 'e' => some zoneName
  | 'T' => some zoneName
  | _ => none

def printField (m : Moment) (c : CodePoint) : Text := (m.field? c).getD [c]

/-- Prints the moment after a format; a backslash makes the next character literal. -/
def format (m : Moment) : Text → Text
  | '\\' :: c :: rest => c :: m.format rest
  | c :: rest => m.printField c ++ m.format rest
  | [] => []

end Moment

end Stencil.Calendar
