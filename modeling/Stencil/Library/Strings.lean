import Stencil.Library.Basic
import Stencil.Text.Search

/-!
# String functions

Trimming, replacing, repeating, padding and cutting text. Positions and lengths count
characters; a position below zero counts from the end.
-/

namespace Stencil.Library

/-- Trims blanks, or the characters given. -/
def trimmed (cut : (CodePoint → Bool) → Text → Text) (t : Text) : Value → Except Fault Value
  | .null => .ok (.text (cut Text.isBlank t))
  | .text characters => .ok (.text (cut characters.contains t))
  | _ => .error .wrongType

def trimWith (cut : (CodePoint → Bool) → Text → Text) : Function
  | [v] => do trimmed cut (← v.output) .null
  | [v, characters] => do trimmed cut (← v.output) characters
  | _ => .error .wrongType

def trim : Function := trimWith Text.trimBy

def trimStart : Function := trimWith Text.trimStartBy

def trimEnd : Function := trimWith Text.trimEndBy

def replaced (old new subject : Value) : Except Fault Value := do
  let subject ← subject.output
  let old ← old.output
  let new ← new.output
  return .text (Text.replace old new subject)

/-- Takes the text to search in as its first argument. -/
def replace : Function
  | [subject, old, new] => replaced old new subject
  | _ => .error .wrongType

/-- Takes the text to search in as its last argument. -/
def replaceIn : Function
  | [old, new, subject] => replaced old new subject
  | _ => .error .wrongType

def repeatText (machine : Machine) : Function
  | [v, times] => do
    let t ← v.output
    let n ← times.toInt
    return .text (← repeated machine t n)
  | _ => .error .wrongType

/-- The first `n` characters of `pad`, repeated as often as needed. -/
def padding (machine : Machine) (pad : Text) (n : Nat) : Except Fault Text := do
  return (← repeated machine pad n).take n

/-- How many of the missing characters go to the left and to the right; of an odd number
on both sides the right one gets one more. -/
def padSides (missing : Nat) (side : Value) : Nat × Nat :=
  match side with
  | .text ['l', 'e', 'f', 't'] => (missing, 0)
  | .text ['b', 'o', 't', 'h'] => (missing / 2, missing - missing / 2)
  | _ => (0, missing)

/-- Pads `t` by the number of missing characters on its left and on its right. -/
def padText (machine : Machine) (t : Text) (sides : Nat × Nat) (pad : Text) :
    Except Fault Text := do
  let front ← concatenated machine (← padding machine pad sides.1) t
  concatenated machine front (← padding machine pad sides.2)

/-- Padding other than text is multiplied before it is refused. -/
def refusePadding (machine : Machine) (sides : Nat × Nat) (side pad : Value) :
    Except Fault Value := do
  checkProduct machine pad
    (if side matches .text ['b', 'o', 't', 'h'] then sides.1 else sides.1 + sides.2)
  .error .wrongType

def padValue (machine : Machine) (v width pad side : Value) : Except Fault Value := do
  let t ← v.output
  let n ← width.toInt
  let sides := padSides (n - t.length).toNat side
  if n ≤ t.length ∨ !pad.truthy then return .text t
  else
    match pad with
    | .text p => return .text (← padText machine t sides p)
    | _ => refusePadding machine sides side pad

def pad (machine : Machine) : Function
  | [v, width] => padValue machine v width (.text [' ']) (.text "right".text)
  | [v, width, p] => padValue machine v width p (.text "right".text)
  | [v, width, p, side] => padValue machine v width p side
  | _ => .error .wrongType

def reverse : Function := onText fun t => .text t.reverse

def textLength : Function := onText fun t => .int t.length

/-- The place of a position in a text of the given length. -/
def position (length : Nat) (n : Int) : Nat :=
  if n < 0 then (length + n).toNat else n.toNat

def cutFrom (n : Int) (t : Text) : Text := t.drop (position t.length n)

def cutTo (n : Int) (t : Text) : Text := t.take (position t.length n)

def substring : Function
  | [v, start] => do
    let t ← v.output
    return .text (cutFrom (← start.toInt) t)
  | [v, start, length] => do
    let t ← v.output
    let rest := cutFrom (← start.toInt) t
    match length with
    | .null => return .text rest
    | n => return .text (cutTo (← n.toInt) rest)
  | _ => .error .wrongType

end Stencil.Library
