import Stencil.Calendar.Moment
import Stencil.Value.Conversion
import Stencil.Value.Text

/-!
# Functions on values

A function takes its arguments as a list, the piped value first unless a placeholder
says otherwise. Arguments that do not fit its parameters are of the wrong type.
-/

namespace Stencil.Library

abbrev Function := List Value → Except Fault Value

/-- What functions take from the machine that they run on: the moment that its clock shows, and
whether its memory has room for so many repetitions of a text, or for a list of so many items. -/
structure Machine where
  now : Calendar.Moment
  holds : Text → Nat → Bool
  holdsItems : Nat → Bool

/-- The start of 1970 on a machine with room for everything. -/
def Machine.ideal : Machine := ⟨⟨0, 0⟩, fun _ _ => true, fun _ => true⟩

/-- A function of the printed text of its one argument. -/
def onText (f : Text → Value) : Function
  | [v] => return f (← v.output)
  | _ => .error .wrongType

/-- Texts and lists have at most as many items as a word counts. -/
def lengthLimit : Nat := Number.wordBound.toNat - 1

/-- How often something is repeated; counts are signed words, and negative ones are 0. -/
def repeatCount (n : Int) : Except Fault Nat :=
  if n < -Number.wordBound ∨ Number.wordBound ≤ n then .error .outOfRange else .ok n.toNat

/-- Checks a length that something new has, and whether there is room for it. Nothing needs no
room. -/
def checkLength (tooLong : Fault) (room : Bool) (length : Nat) : Except Fault Unit :=
  if lengthLimit < length then .error tooLong
  else if length = 0 ∨ room then .ok ()
  else .error .outOfMemory

def repeated (machine : Machine) (t : Text) (n : Int) : Except Fault Text := do
  let count ← repeatCount n
  checkLength .outOfRange (machine.holds t count) (t.length * count)
  return if t.isEmpty then [] else (List.replicate count t).flatten

/-- One text before another. With an empty one, the other is taken as it is. -/
def concatenated (machine : Machine) (s t : Text) : Except Fault Text := do
  if !s.isEmpty && !t.isEmpty then
    checkLength .outOfRange (machine.holds (s ++ t) 1) (s.length + t.length)
  return s ++ t

/-- Whether a value can be multiplied: sequences are repeated, numbers grow. -/
def checkProduct (machine : Machine) (v : Value) (n : Nat) : Except Fault Unit := do
  match v with
  | .text t =>
    let count ← repeatCount n
    checkLength .outOfRange (machine.holds t count) (t.length * count)
  | .bytes octets => checkItems .outOfRange octets.length
  | .list items => checkItems .outOfMemory items.length
  | .tuple items => checkItems .outOfMemory items.length
  | .bool _ => .ok ()
  | .int _ => .ok ()
  | .float _ => if (Number.Double.ofInt? n).isSome then .ok () else .error .outOfRange
  | .decimal d =>
    let _ ← d.scale n
    .ok ()
  | _ => .error .wrongType
where
  checkItems (tooLong : Fault) (length : Nat) : Except Fault Unit := do
    let total := length * (← repeatCount n)
    checkLength tooLong (machine.holdsItems total) total

end Stencil.Library
