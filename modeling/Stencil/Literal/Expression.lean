import Stencil.Literal.Numeral
import Stencil.Text.Blank

/-!
# Expressions

The tree of a well-formed expression, as far as literals need it, and what it denotes.
Constants, signed numbers, sums with an imaginary number and collections denote
something; any other expression is malformed as a literal. The parts of a collection
are read in order, and the first refusal counts.
-/

namespace Stencil.Literal

open Stencil.Number (Double)

inductive Refusal where
  | malformed
  | unsupported
  /-- A whole number too great to be added to an imaginary one. -/
  | overflow
  deriving DecidableEq, Repr

/-- What an expression denotes, as far as it matters. -/
inductive Datum where
  | whole (n : Int)
  | real (x : Double)
  | imaginary
  | text (s : Text)
  | bytes
  | bool (b : Bool)
  | null
  | ellipsis
  | collection (hashable : Bool)
  deriving DecidableEq, Repr

namespace Datum

def ofNumeral : Numeral → Datum
  | .whole n => .whole n
  | .real x => .real x
  | .imaginary => .imaginary

def isNumber : Datum → Bool
  | whole _ => true
  | real _ => true
  | imaginary => true
  | _ => false

def hashable : Datum → Bool
  | collection h => h
  | _ => true

def negate : Datum → Datum
  | whole n => whole (-n)
  | real (.finite s m e) => real (.finite (!s) m e)
  | real (.infinite s) => real (.infinite (!s))
  | d => d

end Datum

inductive Expression where
  | constant (d : Datum)
  | name (t : Text)
  /-- An attribute or an element of something. -/
  | place
  | signed (minus : Bool) (operand : Expression)
  /-- A sum or a difference. -/
  | sum (left right : Expression)
  | tuple (items : List Expression)
  | list (items : List Expression)
  | set (items : List Expression)
  | dict (entries : List (Expression × Expression))
  /-- A call without arguments. -/
  | call (callee : Expression)
  /-- An item that stands for several. -/
  | starred (items : Expression)
  /-- Any other well-formed expression. -/
  | operation
  deriving Repr

namespace Expression

/-- The number of a numeric constant. -/
def number? : Expression → Option Datum
  | constant d => if d.isNumber then some d else none
  | _ => none

/-- The number of a numeric constant with at most one sign. -/
def signedNumber? : Expression → Option Datum
  | signed minus e => e.number?.map fun d => if minus then d.negate else d
  | e => e.number?

/-- A real number and an imaginary constant make an imaginary number. -/
def addImaginary : Option Datum → Option Datum → Except Refusal Datum
  | some (.whole n), some .imaginary =>
    if (Double.ofInt? n).isSome then .ok .imaginary else .error .overflow
  | some (.real _), some .imaginary => .ok .imaginary
  | _, _ => .error .malformed

def isStarred : Expression → Bool
  | starred _ => true
  | _ => false

def isSetName : Expression → Bool
  | name t => t == "set".text
  | _ => false

mutual

def denote : Expression → Except Refusal Datum
  | constant d => .ok d
  | signed minus e =>
    match (signed minus e).signedNumber? with
    | some d => .ok d
    | none => .error .malformed
  | sum left right => addImaginary left.signedNumber? right.number?
  | tuple items => return .collection (← denoteItems items)
  | list items => do
    let _ ← denoteItems items
    return .collection false
  | set items => do
    denoteMembers items
    return .collection false
  | dict entries => do
    denoteEntries entries
    return .collection false
  | call callee => if callee.isSetName then .ok (.collection false) else .error .malformed
  | _ => .error .malformed
termination_by structural e => e

/-- Whether all items are hashable. -/
def denoteItems : List Expression → Except Refusal Bool
  | [] => .ok true
  | e :: rest => do
    let d ← denote e
    let hashable ← denoteItems rest
    return d.hashable && hashable
termination_by structural es => es

/-- Members of a set are hashable. -/
def denoteMembers : List Expression → Except Refusal Unit
  | [] => .ok ()
  | e :: rest => do
    let d ← denote e
    if d.hashable then denoteMembers rest else .error .malformed
termination_by structural es => es

/-- Keys of a dictionary are hashable, which shows once their values are read. -/
def denoteEntries : List (Expression × Expression) → Except Refusal Unit
  | [] => .ok ()
  | (key, value) :: rest => do
    let k ← denote key
    let _ ← denote value
    if k.hashable then denoteEntries rest else .error .malformed
termination_by structural es => es

end

/-- What may receive the items of a sequence: a name, a place, or several of these in
brackets. -/
def isTarget : Expression → Bool
  | name _ => true
  | place => true
  | starred e => e.isTarget
  | tuple items => areTargets items
  | list items => areTargets items
  | _ => false
where
  areTargets : List Expression → Bool
    | [] => true
    | e :: rest => e.isTarget && areTargets rest

end Expression

end Stencil.Literal
