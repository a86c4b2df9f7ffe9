import Stencil.Error
import Stencil.Value.Basic

/-!
# Runs

A run gives a result or an error, and in either case a trace: the calls that were made,
the tags that failed and were rendered empty, and the values that were no class, in
order.
-/

namespace Stencil

/-- Where a callable comes from, and its name there. -/
inductive Label where
  | builtin (name : Text)
  | library (name : Text)
  | host (name : Text)
  | method (owner name : Text)
  deriving DecidableEq, Repr

structure Callable where
  label : Label
  run : List Value → Except Error Value

inductive Event where
  | called (label : Label) (args : List Value)
  | failed (source : Text) (error : Error)
  | ignored (target : Value)
  deriving Repr

structure Run (α : Type) where
  result : Except Error α
  trace : List Event

namespace Run

def pure (a : α) : Run α := ⟨.ok a, []⟩

def bind (x : Run α) (f : α → Run β) : Run β :=
  match x.result with
  | .ok a => ⟨(f a).result, x.trace ++ (f a).trace⟩
  | .error e => ⟨.error e, x.trace⟩

instance : Monad Run where
  pure := Run.pure
  bind := Run.bind

def fail (e : Error) : Run α := ⟨.error e, []⟩

def ofExcept (x : Except Error α) : Run α := ⟨x, []⟩

def event (e : Event) : Run Unit := ⟨.ok (), [e]⟩

/-- In place of an error, the given value; the trace keeps the failure. -/
def recover (source : Text) (default : α) (x : Run α) : Run α :=
  match x.result with
  | .ok _ => x
  | .error e => ⟨.ok default, x.trace ++ [.failed source e]⟩

/-- The arguments of the calls of one callable, in order. -/
def callsOf (label : Label) (x : Run α) : List (List Value) :=
  x.trace.filterMap fun
    | .called l args => if l = label then some args else none
    | _ => none

/-- The tags that failed, with their errors. -/
def failures (x : Run α) : List (Text × Error) :=
  x.trace.filterMap fun
    | .failed source e => some (source, e)
    | _ => none

end Run

end Stencil
