import Stencil.Literal.Formatted
import Stencil.Literal.Grammar
import Stencil.Value.Basic

/-!
# Reading literals

A literal is an expression on a line of its own, blank lines apart. Several expressions
with commas between them make a tuple. Only text, numbers and booleans become values;
all else that is well formed is unsupported.
-/

namespace Stencil.Literal

open Grammar (mark starts itemsUntil)

/-- Whether a formatted body is well formed, with bodies inside it to the given depth. -/
def formatted (depth : Nat) (raw : Bool) (body : Text) : Bool :=
  match depth with
  | 0 => false
  | depth + 1 =>
    let accepts (t : Text) : Bool :=
      match Lexeme.ofText? (.char '(' :: t ++ [.char ')']) with
      | some ls => (Grammar.apply (formatted depth) (ls.length + 1) .expression ls).any (·.2.isEmpty)
      | none => false
    Formatted.isWellFormed accepts raw body

/-- The expression that starts the list, or the tuple of several; a line must end after it. -/
def readLine? (expression : Parser Expression) (ls : List Lexeme) :
    Option (Expression × List Lexeme) := do
  let (e, rest) ← expression ls
  if starts (mark ",") rest then
    let (es, rest) ← itemsUntil .lineEnd expression rest.length (rest.drop 1)
    return (.tuple (e :: es), rest)
  else return (e, ← Grammar.expect? .lineEnd rest)

/-- The expression of a text. A formatted text is longer than one inside it, so the length
bounds their depth. -/
def expression? (t : Text) : Option Expression := do
  let ls ← Lexeme.ofText? t
  let ls := ls.dropWhile (· == .lineEnd)
  let expression := Grammar.apply (formatted t.length) (ls.length + 1) .expression
  let (e, rest) ← readLine? expression (ls ++ [.lineEnd])
  if rest.all (· == .lineEnd) then some e else none

/-- The value of what an expression denotes. -/
def valueOf : Datum → Except Refusal Value
  | .whole n => .ok (.int n)
  | .real x => .ok (.float x)
  | .text s => .ok (.text s)
  | .bool b => .ok (.bool b)
  | _ => .error .unsupported

/-- The value that a literal stands for. -/
def read (t : Text) : Except Refusal Value :=
  match expression? t with
  | none => .error .malformed
  | some e => e.denote.bind valueOf

end Stencil.Literal
