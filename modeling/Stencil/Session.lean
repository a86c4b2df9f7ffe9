import Stencil.Host.Classes
import Stencil.Registration
import Stencil.Settings

/-!
# Sessions

A session holds engines by name and carries out commands on them, one after the
other, on one machine. A command that fails leaves the session as it was. An engine that is
used before it is created is created with the standard settings.
-/

namespace Stencil

structure Session where
  engines : List (Text × Engine)

/-- What a command does on one engine. A function that is `none` stands for a value that
cannot be called. -/
inductive Command where
  | create (lenient : Option Bool) (maxDepth : Option Int)
      (globals : Option (List (Text × Callable)))
  | addFunction (name : Value) (f : Option Callable)
  /-- Adds a function under the name, or under its own name where that is empty. -/
  | register (name : Text) (f : Option Callable)
  | removeFunction (name : Text)
  | hasFunction (name : Text)
  | functions
  | addClass (target : Host.Target)
  | classes
  | resolve (name : Text)
  | render (template : Text) (bindings : List (Text × Value)) (lenient : Option Bool)
  | evaluate (chain : Text) (bindings : List (Text × Value)) (lenient : Option Bool)
  | settings

inductive Answer where
  | done
  | flag (b : Bool)
  | names (names : List Text)
  | label (l : Label)
  | text (t : Text)
  | settings (lenient : Bool) (maxDepth : Int)

namespace Session

def empty : Session := ⟨[]⟩

def newEngine (machine : Library.Machine) : Engine := .create .standard machine none none none

def engine (machine : Library.Machine) (s : Session) (id : Text) : Engine :=
  (s.engines.lookup id).getD (newEngine machine)

def withEngine (s : Session) (id : Text) (e : Engine) : Session :=
  ⟨(id, e) :: s.engines.filter fun entry => entry.1 != id⟩

def faulty (x : Except Fault α) : Run α := .ofExcept (x.mapError .fault)

/-- Carries out a command on an engine; gives the engine afterwards and the answer. -/
def execute (machine : Library.Machine) (e : Engine) : Command → Run (Engine × Answer)
  | .create lenient maxDepth globals =>
    let globals := globals.map fun entries => entries.map fun (name, f) => (name, some f)
    Pure.pure (.create .standard machine lenient maxDepth globals, .done)
  | .addFunction name f => do return (← faulty (e.perform (.add name f)), .done)
  | .register name f => do
    let e ← faulty (e.perform (.register name f))
    return (e, (f.map fun f => .label f.label).getD .done)
  | .removeFunction name => do return (← faulty (e.perform (.remove name)), .done)
  | .hasFunction name => return (e, .flag (e.table.has name))
  | .functions => return (e, .names e.table.names)
  | .addClass target => do
    let e ← faulty (e.perform (.addClass target.class?))
    if target.class?.isNone then .event (.ignored target.shown)
    return (e, .done)
  | .classes => return (e, .names e.classes.names)
  | .resolve name => do return (e, .label (← Run.ofExcept (resolve e.tiers name)).label)
  | .render template bindings lenient => do
    return (e, .text (← e.render template bindings lenient))
  | .evaluate chain bindings lenient => do
    return (e, .text (← e.evaluate chain bindings lenient))
  | .settings => return (e, .settings e.lenient e.maxDepth)

/-- One step: the answer of a command to the engine of a name, and the session after it. -/
def step (machine : Library.Machine) (s : Session) (id : Text) (c : Command) :
    Run Answer × Session :=
  let run := execute machine (s.engine machine id) c
  match run.result with
  | .ok (e, answer) => (⟨.ok answer, run.trace⟩, s.withEngine id e)
  | .error error => (⟨.error error, run.trace⟩, s.withEngine id (s.engine machine id))

end Session

end Stencil
