import Stencil.Fault
import Stencil.Text.Digit

/-!
# Errors

Why a template, a tag or a chain could not be evaluated. An error of a called
function is either one of these, passed on as it is, or a fault under the name of the
function. To name a fault its text is needed, and asking for that may itself fail. Requests to
end the whole program are no errors.
-/

namespace Stencil

/-- What is wrong with an argument list. -/
inductive ArgumentFlaw where
  | unterminated
  | empty
  | notLiteral (item : Text)
  | unsupported (item : Text)
  deriving DecidableEq, Repr

def ArgumentFlaw.message : ArgumentFlaw → Text
  | unterminated => "unterminated string".text
  | empty => "empty argument".text
  | notLiteral item => "not a literal: ".text ++ item
  | unsupported item => "unsupported literal: ".text ++ item

inductive Error where
  | undefinedVariable (name : Text)
  | functionNotFound (name : Text)
  | badArguments (function : Text) (flaw : Option ArgumentFlaw)
  | invalidToken (source : Text)
  | nestingTooDeep (limit : Int)
  | invocation (function : Text) (cause : Fault)
  /-- A fault outside any call. -/
  | fault (cause : Fault)
  /-- A fault without a text: asking for it ends with another error instead. -/
  | textless (instead : Error)
  deriving DecidableEq, Repr

namespace Error

/-- The wording of an error; a fault may have none. -/
def message? : Error → Option Text
  | undefinedVariable name => some ("Variable '".text ++ name ++ "' is undefined".text)
  | functionNotFound name =>
    some ("Function or method '".text ++ name ++ "' not found".text)
  | badArguments function flaw =>
    some ("Error parsing arguments for '".text ++ function ++ "'".text ++
      match flaw with
      | none => []
      | some f => ": ".text ++ f.message)
  | invalidToken source => some ("Invalid syntax: ".text ++ source)
  | nestingTooDeep limit =>
    some ("Nested placeholders exceed maximum depth of ".text ++
      (if limit < 0 then [.char '-'] else []) ++ Text.decimalText limit.natAbs)
  | invocation function cause =>
    cause.message?.map fun text =>
      "Function '".text ++ function ++ "' failed: ".text ++ text
  | fault cause => cause.message?
  | textless _ => none

end Error

end Stencil
