import Stencil.Engine
import Stencil.Library.Functions

/-!
# Settings

The defaults of new engines, taken from the text of two variables of the environment.
-/

namespace Stencil

structure Settings where
  maxDepth : Int
  strict : Bool
  deriving DecidableEq, Repr

namespace Settings

def standard : Settings := ⟨32, false⟩

/-- A depth that is missing, blank, negative or no whole number is the standard one. -/
def readDepth (t : Option Text) : Int :=
  match (t.map Text.trim).bind Number.readInt? with
  | some n => if n < 0 then standard.maxDepth else n
  | none => standard.maxDepth

def flagWords : List Text := ["1", "true", "yes", "on"].map String.text

def readFlag (t : Option Text) : Bool :=
  match t with
  | some t => flagWords.contains (Text.lower (Text.trim t))
  | none => false

def ofTexts (depth flag : Option Text) : Settings := ⟨readDepth depth, readFlag flag⟩

end Settings

/-- A new engine. What is not given comes from the settings and the library. -/
def Engine.create (settings : Settings) (machine : Library.Machine) (lenient : Option Bool)
    (maxDepth : Option Int) (globals : Option (List (Text × Option Callable))) : Engine where
  table := .ofList Library.builtins
  classes := .empty
  globals := globals.getD ((Library.callables machine).map fun (name, f) => (name, some f))
  lenient := lenient.getD (!settings.strict)
  maxDepth := maxDepth.getD settings.maxDepth

end Stencil
