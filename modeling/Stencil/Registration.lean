import Stencil.Engine

/-!
# Registrations

What is done to the functions and classes of an engine, one thing after the other. A
registration that is refused leaves the engine as it was.
-/

namespace Stencil

/-- A function that is `none` stands for a value that cannot be called, and a class that is
`none` for a value that is no class. -/
inductive Registration where
  | add (name : Value) (f : Option Callable)
  /-- Adds a function under the name, or under its own name where that is empty. -/
  | register (name : Text) (f : Option Callable)
  | remove (name : Text)
  | addClass (c : Option ClassInfo)

/-- The name that a callable has by itself. -/
def Label.ownName : Label → Text
  | builtin name => name
  | library name => name
  | host name => name
  | method _ name => name

/-- The name to register a function under. Only a callable has one of its own. -/
def Registration.nameFor (name : Text) (f : Option Callable) : Except Fault Text :=
  match f with
  | some f => .ok (if name.isEmpty then f.label.ownName else name)
  | none => if name.isEmpty then .error .missingAttribute else .ok name

namespace Engine

/-- The engine after a registration, or the fault for which it is refused. -/
def perform (e : Engine) : Registration → Except Fault Engine
  | .add name f => e.addFunction name f
  | .register name f => do e.addFunction (.text (← Registration.nameFor name f)) f
  | .remove name => .ok (e.removeFunction name)
  | .addClass (some c) => .ok (e.addClass c)
  | .addClass none => .ok e

/-- The engine after a history of registrations, refused ones included. -/
def after (e : Engine) (history : List Registration) : Engine :=
  history.foldl (fun e r => (e.perform r).toOption.getD e) e

end Engine

end Stencil
