import Stencil.Evaluation
import Stencil.Registry.ClassTable
import Stencil.Registry.FunctionTable

/-!
# Engines

An engine finds functions in its own table, then among the methods of its classes,
then in its last tier, and renders templates with them.
-/

namespace Stencil

/-- The first callable that a tier has for a name. -/
def resolveIn (tiers : List (Text → Option Callable)) (name : Text) : Option Callable :=
  tiers.findSome? (· name)

/-- The callable of a name among tiers, or the error that there is none. -/
def resolve (tiers : List (Text → Option Callable)) (name : Text) : Except Error Callable :=
  match resolveIn tiers name with
  | some f => .ok f
  | none => .error (.functionNotFound name)

/-- The last tier holds what a name stands for; a name may be there and stand for nothing. -/
structure Engine where
  table : FunctionTable
  classes : ClassTable
  globals : List (Text × Option Callable)
  lenient : Bool
  maxDepth : Int

namespace Engine

def addFunction (e : Engine) (name : Value) (f : Option Callable) : Except Fault Engine := do
  return { e with table := ← e.table.add name f }

def removeFunction (e : Engine) (name : Text) : Engine :=
  { e with table := e.table.remove name }

def addClass (e : Engine) (c : ClassInfo) : Engine := { e with classes := e.classes.add c }

def tiers (e : Engine) : List (Text → Option Callable) :=
  [e.table.get?, e.classes.find?, fun name => (e.globals.lookup name).join]

def resolve? (e : Engine) (name : Text) : Option Callable := resolveIn e.tiers name

/-- The scope of a render; its policy is the engine's unless one is given. -/
def scope (e : Engine) (bindings : List (Text × Value)) (lenient : Option Bool) : Scope where
  resolve? := e.resolve?
  valueOf? := fun name => bindings.lookup name
  lenient := lenient.getD e.lenient
  maxDepth := e.maxDepth

def render (e : Engine) (t : Text) (bindings : List (Text × Value)) (lenient : Option Bool) :
    Run Text :=
  (e.scope bindings lenient).render t

def evaluate (e : Engine) (t : Text) (bindings : List (Text × Value))
    (lenient : Option Bool) : Run Text :=
  (e.scope bindings lenient).evaluate t

end Engine

end Stencil
