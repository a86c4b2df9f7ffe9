import Stencil.Text.Blank

/-!
# Faults

What can go wrong inside one operation on values. A fault does not say where in a
template it happened; `Stencil.Error` does.
-/

namespace Stencil

inductive Fault where
  /-- An operand of the wrong type, or the wrong number of arguments. -/
  | wrongType
  | badValue
  | outOfRange
  | badIndex
  | missingKey (key : Text)
  | missingAttribute
  | outOfMemory
  /-- A moment that the system clock cannot hold. -/
  | clockRange
  /-- Decimal arithmetic without a result of the working precision. -/
  | invalidDecimal
  | decimalOverflow
  /-- A malformed replacement pattern. -/
  | badPattern
  | emptySeparator
  | invalidName (name : Text)
  | notCallable (name : Text)
  | failed (reason : Text)
  deriving DecidableEq, Repr

/-- The wording of the faults that have one of their own. -/
def Fault.message? : Fault → Option Text
  | .emptySeparator => some "explode() separator cannot be empty".text
  | .invalidName name => some ("Invalid function name '".text ++ name ++ [.char '\''])
  | .notCallable name => some ("Function '".text ++ name ++ "' must be callable".text)
  | .missingKey key => some key
  | .failed reason => some reason
  | _ => none

end Stencil
