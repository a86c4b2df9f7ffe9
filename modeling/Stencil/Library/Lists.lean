import Stencil.Library.Basic
import Stencil.Text.Search
import Stencil.Value.Json

/-!
# List functions

Joining lists to text, splitting text to lists, and what concerns values of all kinds.
-/

namespace Stencil.Library

def outputs : List Value → Except Fault (List Text)
  | [] => .ok []
  | v :: rest => do
    let t ← v.output
    return t :: (← outputs rest)

/-- Joins the pieces of whichever argument is a list, of two the second. -/
def implode : Function
  | [separator, pieces] =>
    let (separator, pieces) :=
      if separator.items?.isSome && pieces.items?.isNone then (pieces, separator)
      else (separator, pieces)
    match pieces.items? with
    | none => do return .text (← pieces.output)
    | some items => do
      let sep ← separator.output
      return .text (Text.join sep (← outputs items))
  | _ => .error .wrongType

def explode : Function
  | [separator, v] => do
    let sep ← separator.output
    if sep.isEmpty then .error .emptySeparator
    else return .list ((Text.splitOn sep (← v.output)).map .text)
  | _ => .error .wrongType

def jsonEncoded : Function
  | [v] => do return .text (← v.json)
  | _ => .error .wrongType

/-- The number of items or entries, of characters for values of other kinds. -/
def size : Function
  | [.null] => .ok (.int 0)
  | [.list items] => .ok (.int items.length)
  | [.tuple items] => .ok (.int items.length)
  | [.dict entries] => .ok (.int entries.length)
  | [.iterable items _ sized] => if sized then .ok (.int items.length) else .error .wrongType
  | [v] => do return .int (← v.output).length
  | _ => .error .wrongType

/-- A value, unless it is nothing or empty text; then the fallback. -/
def fallback : Function
  | [v] => .ok (if v.isBlankOrNull then .text [] else v)
  | [v, other] => .ok (if v.isBlankOrNull then other else v)
  | _ => .error .wrongType

/-- Whether a value is there at all: `1`, or `0` for nothing and empty text. -/
def isThere : Function
  | [v] => .ok (.text [if v.isBlankOrNull then '0' else '1'])
  | _ => .error .wrongType

/-- Whether a value is truthy, as `1` or `0`. -/
def isTruthy : Function
  | [v] => .ok (.text [if v.truthy then '1' else '0'])
  | _ => .error .wrongType

end Stencil.Library
