import Stencil.Arguments
import Stencil.Chain
import Stencil.Token

/-!
# Validity

A check of a chain before any evaluation. Arguments with nested tags are checked for
the shape of their token only, since their literals are known after rendering.
-/

namespace Stencil.Chain

/-- Whether the argument list of a token can be read, as far as it is known. -/
def argumentsValid (token : Token) : Except Error Bool :=
  match token.args with
  | none => .ok true
  | some args =>
    if args.contains '{' then .ok true
    else
      match Arguments.read token.name args with
      | .ok _ => .ok true
      | .error (.fault cause) => .error (.fault cause)
      | .error _ => .ok false

def tokenValid (first : Bool) (source : Text) : Except Error Bool :=
  if first && source.head? != some Token.directMark then .ok true
  else
    match Token.read? source with
    | none => .ok false
    | some token => if token.direct && !first then .ok false else argumentsValid token

/-- Whether all tokens are valid; the first that is not decides. -/
def tokensValid (first : Bool) : List Text → Except Error Bool
  | [] => .ok true
  | source :: rest => do
    if ← tokenValid first source then tokensValid false rest else return false

/-- Whether the inner text of a tag is valid. A whole number too great for its literal
is an error and no verdict. -/
def isValid (t : Text) : Except Error Bool := tokensValid true (split t)

end Stencil.Chain
