import Stencil.Fault
import Stencil.Text.Digit

/-!
# Dates

The proleptic Gregorian calendar for the years 1 to 9999. Days are numbered from 1,
the first of January of the year 1, which is a Monday.
-/

namespace Stencil.Calendar

open Stencil.Text (decimalText isDigit natOfDigits?)

-- The empty sum is the numeral zero, whatever algebra is imported.
attribute [local instance (high)] Zero.ofOfNat0

structure Date where
  year : Nat
  month : Nat
  day : Nat
  deriving DecidableEq, Repr

def isLeap (year : Nat) : Bool := year % 4 == 0 && (year % 100 != 0 || year % 400 == 0)

def monthLengths (year : Nat) : List Nat :=
  [31, if isLeap year then 29 else 28, 31, 30, 31, 30, 31, 31, 30, 31, 30, 31]

def monthLength (year month : Nat) : Nat := (monthLengths year).getD (month - 1) 0

def greatestYear : Nat := 9999

/-- The days of the years before `year`. -/
def daysBefore (year : Nat) : Nat :=
  (year - 1) * 365 + (year - 1) / 4 - (year - 1) / 100 + (year - 1) / 400

def lastDayNumber : Nat := daysBefore (greatestYear + 1)

def Date.IsValid (d : Date) : Prop :=
  1 ≤ d.year ∧ d.year ≤ greatestYear ∧ 1 ≤ d.month ∧ d.month ≤ 12 ∧
    1 ≤ d.day ∧ d.day ≤ monthLength d.year d.month

instance (d : Date) : Decidable d.IsValid := by unfold Date.IsValid; infer_instance

namespace Date

/-- The days of the year before the date. -/
def dayOfYear (d : Date) : Nat :=
  ((monthLengths d.year).take (d.month - 1)).sum + (d.day - 1)

def dayNumber (d : Date) : Nat := daysBefore d.year + d.dayOfYear + 1

/-- Days after Monday. -/
def weekday (d : Date) : Nat := (d.dayNumber + 6) % 7

/-- The month and the day of the month, counting `rest` days on from its first day. -/
def monthAndDay (month rest : Nat) : List Nat → Nat × Nat
  | [] => (month, rest + 1)
  | length :: later =>
    if rest < length then (month, rest + 1)
    else monthAndDay (month + 1) (rest - length) later

/-- The date of a day number: whole cycles of 400, 100, 4 and 1 years come off it. -/
def ofDayNumber (n : Nat) : Date :=
  let days := n - 1
  let cycles := days / 146097
  let rest := days % 146097
  let centuries := min 3 (rest / 36524)
  let rest := rest - centuries * 36524
  let leaps := rest / 1461
  let rest := rest % 1461
  let years := min 3 (rest / 365)
  let rest := rest - years * 365
  let year := cycles * 400 + centuries * 100 + leaps * 4 + years + 1
  let (month, day) := monthAndDay 1 rest (monthLengths year)
  ⟨year, month, day⟩

def ofDayNumber? (n : Int) : Except Fault Date :=
  if n < -2147483648 ∨ 2147483647 < n then .error .outOfRange
  else if n < 1 ∨ (lastDayNumber : Int) < n then .error .badValue
  else .ok (ofDayNumber n.toNat)

def padded (width n : Nat) : Text :=
  let digits := decimalText n
  List.replicate (width - digits.length) (.char '0') ++ digits

/-- Year, month and day, most significant first. -/
def text (d : Date) : Text :=
  padded 4 d.year ++ .char '-' :: padded 2 d.month ++ .char '-' :: padded 2 d.day

/-- The number of the Monday of week 1, the week of the fourth of January. -/
def firstMonday (year : Nat) : Int :=
  let fourth : Date := ⟨year, 1, 4⟩
  (fourth.dayNumber : Int) - fourth.weekday

/-- A week of the year exists when its Thursday lies in the year. -/
def ofWeek? (year week weekday : Nat) : Option Date :=
  let monday := firstMonday year + ((week : Int) - 1) * 7
  let day := monday + weekday - 1
  let thursdayInYear := (ofDayNumber (monday + 3).toNat).year == year
  if year = 0 ∨ week = 0 ∨ 53 < week ∨ !thursdayInYear ∨ weekday = 0 ∨ 7 < weekday ∨ day < 1 ∨
      (lastDayNumber : Int) < day then none
  else some (ofDayNumber day.toNat)

def digits? (t : Text) : Option Nat :=
  if t.all isDigit then natOfDigits? 10 t else none

/-- A date with or without hyphens, by month and day or by week and weekday; the
weekday may be left out. -/
def read? (t : Text) : Option Date := do
  let year ← digits? (t.take 4)
  let rest := t.drop 4
  let ordinary (month day : Text) : Option Date := do
    let date : Date := ⟨year, ← digits? month, ← digits? day⟩
    if date.IsValid then some date else none
  let weekly (week weekday : Text) : Option Date := do
    ofWeek? year (← digits? week) (← digits? weekday)
  if t.length < 4 then none
  match rest with
  | ['-', 'W', a, b] => weekly [a, b] ['1']
  | ['-', 'W', a, b, '-', c] => weekly [a, b] [c]
  | ['W', a, b] => weekly [a, b] ['1']
  | ['W', a, b, c] => weekly [a, b] [c]
  | ['-', a, b, '-', c, d] => ordinary [a, b] [c, d]
  | [a, b, c, d] => ordinary [a, b] [c, d]
  | _ => none

end Date

end Stencil.Calendar
