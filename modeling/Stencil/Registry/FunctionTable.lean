import Stencil.Run
import Stencil.Value.Text

/-!
# Function tables

Callables by name. The entries are kept in the order of their names, which are
compared by code points, and each name occurs once.
-/

namespace Stencil

structure FunctionTable where
  entries : List (Text × Callable)

namespace FunctionTable

def empty : FunctionTable := ⟨[]⟩

def isName (name : Text) : Bool := !name.isEmpty && name.all Text.isNameChar

/-- The entries with a callable under the name, in place of the one before. -/
def insertEntry (name : Text) (f : Callable) : List (Text × Callable) → List (Text × Callable)
  | [] => [(name, f)]
  | e :: rest =>
    if name = e.1 then (name, f) :: rest
    else if name < e.1 then (name, f) :: e :: rest
    else e :: insertEntry name f rest

def insert (t : FunctionTable) (name : Text) (f : Callable) : FunctionTable :=
  ⟨insertEntry name f t.entries⟩

/-- The text of a value that can be a name: letters, digits and underscores. -/
def checkedName : Value → Except Fault Text
  | .text name => if isName name then .ok name else .error (.invalidName name)
  | v => do .error (.invalidName (← v.asText))

/-- Adds a callable under a name. The name is checked first; without a callable the
table stays as it is. -/
def add (t : FunctionTable) (name : Value) (f : Option Callable) :
    Except Fault FunctionTable := do
  let name ← checkedName name
  match f with
  | some f => return t.insert name f
  | none => .error (.notCallable name)

def get? (t : FunctionTable) (name : Text) : Option Callable := t.entries.lookup name

def remove (t : FunctionTable) (name : Text) : FunctionTable :=
  ⟨t.entries.filter fun e => e.1 != name⟩

def has (t : FunctionTable) (name : Text) : Bool := (t.get? name).isSome

def names (t : FunctionTable) : List Text := t.entries.map (·.1)

/-- The table with the given entries added in turn, whatever their names. -/
def ofList (entries : List (Text × Callable)) : FunctionTable :=
  entries.foldl (fun t e => t.insert e.1 e.2) empty

end FunctionTable

end Stencil
