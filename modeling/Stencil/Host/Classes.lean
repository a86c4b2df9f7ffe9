import Stencil.Host.Functions
import Stencil.Registry.ClassTable

/-!
# Host classes

The classes that a session can register, by themselves or by a dotted path.
-/

namespace Stencil.Host

open Stencil.Calendar (Date)

/-- A method that does not depend on the class that it is called through. -/
def shared (f : Library.Function) : Attribute := .method fun _ => some (pure f)

def formattingAttributes : List (Text × Attribute) :=
  [("bold", shared (around "**".text "**".text)),
   ("tagged", .method fun through =>
     some (pure (around ("<".text ++ through ++ ">".text) []))),
   ("upper", shared (around "F.upper:".text [])),
   ("_hidden", shared (around "hidden:".text [])),
   ("instance_only", .other), ("prop", .other), ("label", .other)].map
    fun (name, a) => (name.text, a)

def otherFormattingAttributes : List (Text × Attribute) :=
  [("bold", shared (around "__".text "__".text)), ("italic", shared (around "_".text "_".text)),
   ("instance_only", shared (around "other:".text [])),
   ("exists", shared fun
      | [_] => .ok (.text "class-exists".text)
      | _ => .error .wrongType)].map
    fun (name, a) => (name.text, a)

def subFormattingAttributes : List (Text × Attribute) :=
  [("italic", shared (around "sub:".text [])), ("bold", .other)].map
    fun (name, a) => (name.text, a)

def dateOfText : Library.Function
  | [.text t] => return .date (← Value.orFault .badValue (Date.read? t))
  | _ => .error .wrongType

def dateOfNumber : Library.Function
  | [.int n] => return .date (← Date.ofDayNumber? n)
  | [.bool b] => return .date (← Date.ofDayNumber? (if b then 1 else 0))
  | _ => .error .wrongType

/-- The day of a second after the start of 1970, for the seconds of a 64-bit clock. -/
def dateOfSecond (n : Int) : Except Fault Value :=
  if n < -Number.wordBound ∨ Number.wordBound ≤ n then .error .outOfRange
  else if n < Calendar.leastClockSecond ∨ Calendar.greatestClockSecond < n then .error .clockRange
  else
    let day := Calendar.epochDay + n.fdiv Calendar.secondsOfDay
    if day < 1 ∨ Calendar.lastDayNumber < day then .error .badValue
    else return .date (← Date.ofDayNumber? day)

def dateOfTimestamp : Library.Function
  | [.int n] => dateOfSecond n
  | [.bool b] => dateOfSecond (if b then 1 else 0)
  | [.float x] => do dateOfSecond (← Value.floorDouble x)
  | _ => .error .wrongType

/-- A whole number that fits a part of a date. -/
def datePart : Value → Except Fault Int
  | .int n => if n < -2147483648 ∨ 2147483647 < n then .error .badValue else .ok n
  | .bool b => .ok (if b then 1 else 0)
  | _ => .error .wrongType

/-- The day of a year, a week and a weekday. The parts that are there are read before one is
missed. -/
def dateOfWeek : Library.Function
  | [year, week, weekday] => do
    let year ← datePart year
    let week ← datePart week
    let weekday ← datePart weekday
    if year < 1 ∨ Calendar.greatestYear < year ∨ week < 1 ∨ weekday < 1 then .error .badValue
    return .date (← Value.orFault .badValue (Date.ofWeek? year.toNat week.toNat weekday.toNat))
  | [year, week] => do
    let _ ← datePart year
    let _ ← datePart week
    .error .wrongType
  | [year] => do
    let _ ← datePart year
    .error .wrongType
  | _ => .error .wrongType

/-- The day on which a session takes place. -/
def dateOfNow : Library.Function
  | [] => dateOfSecond 0
  | _ => .error .wrongType

def dateAttributes : List (Text × Attribute) :=
  [("fromisoformat", shared dateOfText), ("fromordinal", shared dateOfNumber),
   ("fromtimestamp", shared dateOfTimestamp), ("fromisocalendar", shared dateOfWeek),
   ("today", shared dateOfNow)].map
    fun (name, a) => (name.text, a)

/-- The class that classes are instances of unless they say otherwise. Its other attributes are
private. -/
def ordinaryKind : Lineage := [("type".text, [("mro".text, .other)])]

def formatting : ClassInfo :=
  ⟨"Formatting".text, [("Formatting".text, formattingAttributes)], ordinaryKind⟩

def otherFormatting : ClassInfo :=
  ⟨"OtherFormatting".text, [("OtherFormatting".text, otherFormattingAttributes)],
    ordinaryKind⟩

def subFormatting : ClassInfo :=
  ⟨"SubFormatting".text,
    [("SubFormatting".text, subFormattingAttributes),
     ("Formatting".text, formattingAttributes)],
    ordinaryKind⟩

def dates : ClassInfo := ⟨"date".text, [("date".text, dateAttributes)], ordinaryKind⟩

/-- The classes by their name. -/
def classes : List (Text × ClassInfo) :=
  [formatting, otherFormatting, subFormatting, dates].map fun c => (c.name, c)

/-- The classes by their path. -/
def classPaths : List (Text × ClassInfo) :=
  [("hostlib.Formatting".text, formatting),
   ("hostlib.OtherFormatting".text, otherFormatting),
   ("hostlib.SubFormatting".text, subFormatting), ("datetime.date".text, dates)]

/-- What a session offers as a class: the class itself, or a value that may be its path. -/
inductive Target where
  | named (name : Text)
  | value (v : Value)

def Target.class? : Target → Option ClassInfo
  | named name => classes.lookup name
  | value (.text path) => classPaths.lookup path
  | value _ => none

/-- The value to report where there is no class. -/
def Target.shown : Target → Value
  | named name => .text name
  | value v => v

end Stencil.Host
