import Stencil.Library.Casing
import Stencil.Library.Dates
import Stencil.Library.Grouped
import Stencil.Library.Lists
import Stencil.Library.Markup
import Stencil.Library.Percent
import Stencil.Library.Slug
import Stencil.Library.Strings
import Stencil.Run

/-!
# The library

The functions that templates can call by name unless an engine is given others.
-/

namespace Stencil.Library

/-- A function as a callable; its faults are reported by the caller. -/
def callable (label : Label) (f : Function) : Callable :=
  ⟨label, fun args => (f args).mapError .fault⟩

def functions (machine : Machine) : List (String × Function) :=
  [("strtoupper", upper), ("strtolower", lower), ("ucfirst", upperFirst),
   ("lcfirst", lowerFirst), ("ucwords", upperWords), ("trim", trim), ("ltrim", trimStart),
   ("rtrim", trimEnd), ("str_replace", replaceIn), ("str_repeat", repeatText machine),
   ("str_pad", pad machine), ("strrev", reverse), ("strlen", textLength), ("substr", substring),
   ("number_format", grouped), ("date", date machine.now), ("nl2br", lineBreaks),
   ("htmlspecialchars", markupEscaped), ("sprintf", formatted machine), ("implode", implode),
   ("explode", explode), ("json_encode", jsonEncoded), ("upper", upper), ("lower", lower),
   ("title", title), ("capitalize", capitalize), ("strip", trim), ("replace", replace),
   ("length", size), ("default", fallback), ("slugify", slug)]

def callables (machine : Machine) : List (Text × Callable) :=
  (functions machine).map fun (name, f) => (name.text, callable (.library name.text) f)

/-- The functions that every engine starts with in its own table. -/
def builtins : List (Text × Callable) :=
  [("exists", isThere), ("ok", isTruthy)].map fun (name, f) =>
    (name.text, callable (.builtin name.text) f)

end Stencil.Library
