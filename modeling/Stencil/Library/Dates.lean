import Stencil.Calendar.Moment
import Stencil.Library.Basic

/-!
# Date function

Prints a moment after a format. The format is text, or items that print like the
characters of a text when they are texts of one character.
-/

namespace Stencil.Library

open Stencil.Calendar (Moment)

/-- The item at a place of a value that has places. -/
def itemAt (v : Value) (i : Nat) : Except Fault Value :=
  match v with
  | .list items => .ok (items.getD i .null)
  | .tuple items => .ok (items.getD i .null)
  | .dict entries =>
    match Value.lookup? (.int i) entries with
    | some item => .ok item
    | none => .error (.missingKey (Text.decimalText i))
  | .bytes octets => .ok (.int (octets.getD i 0).toNat)
  | _ => .error .wrongType

def placesOf : Value → Except Fault Nat
  | .list items => .ok items.length
  | .tuple items => .ok items.length
  | .dict entries => .ok entries.length
  | .bytes octets => .ok octets.length
  | .iterable items _ true => .ok items.length
  | _ => .error .wrongType

/-- Prints the places of a format from the first on; a place that is no text is an error
once all places have been read. A dictionary or list cannot even be looked up. -/
def formatItems (m : Moment) (format : Value) (escaped : Bool) :
    Nat → Nat → Except Fault (Option Text)
  | 0, _ => .ok (some [])
  | left + 1, i => do
    let item ← itemAt format i
    if escaped then
      let rest ← formatItems m format false left (i + 1)
      match item with
      | .text t => return rest.map (t ++ ·)
      | _ => return none
    else
      match item with
      | .text ['\\'] =>
        if left = 0 then return some ['\\'] else formatItems m format true left (i + 1)
      | .text [c] =>
        return (← formatItems m format false left (i + 1)).map (m.printField c ++ ·)
      | .text t => return (← formatItems m format false left (i + 1)).map (t ++ ·)
      | .list _ => .error .wrongType
      | .dict _ => .error .wrongType
      | _ =>
        let _ ← formatItems m format false left (i + 1)
        return none

def formatMoment (m : Moment) : Value → Except Fault Value
  | .text t => .ok (.text (m.format t))
  | v => do
    match ← formatItems m v false (← placesOf v) 0 with
    | some t => return .text t
    | none => .error .wrongType

/-- The moment of a timestamp; nothing stands for the present one. -/
def momentOf (now : Moment) : Value → Except Fault Moment
  | .null => .ok now
  | v => do Moment.ofDouble (← v.toDouble)

def date (now : Moment) : Function
  | [format] => formatMoment now format
  | [format, timestamp] => do formatMoment (← momentOf now timestamp) format
  | _ => .error .wrongType

end Stencil.Library
