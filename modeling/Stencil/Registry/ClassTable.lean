import Stencil.Run

/-!
# Classes

A class offers the methods that need no instance. An attribute is looked up in the class,
then in its ancestors, then in the class that it is itself an instance of and in the ancestors of
that one. The first one found decides: an attribute that is no such method hides those behind it.
What the method is to a caller comes from reading it through the class, which may give nothing;
an attribute that fails when it is read is left out.
-/

namespace Stencil

inductive Attribute where
  /-- A method that is read through the class of the given name. It may be there and give
  nothing. -/
  | method (through : Text → Option (List Value → Except Error Value))
  /-- A value that is computed when it is read; it comes before the attributes of the instances. -/
  | computed (value : Option (List Value → Except Error Value))
  | other

/-- Classes with their own attributes, the first one before its ancestors. -/
abbrev Lineage := List (Text × List (Text × Attribute))

/-- The first attribute of a name, with the class that defines it. -/
def Lineage.find? (lineage : Lineage) (name : Text) : Option (Text × Attribute) :=
  lineage.findSome? fun (owner, attributes) => (attributes.lookup name).map (owner, ·)

/-- A class with the lineage of the class that it is an instance of. -/
structure ClassInfo where
  name : Text
  lineage : Lineage
  kind : Lineage

namespace ClassInfo

/-- The attribute that decides whether there is a method. -/
def attribute? (c : ClassInfo) (name : Text) : Option (Text × Attribute) :=
  (c.lineage ++ c.kind).find? name

/-- The name of the class that an attribute is read through: the class itself has what its
lineage has, and is an instance for what only its kind has. -/
def through (c : ClassInfo) (name : Text) : Text :=
  if (c.lineage.find? name).isSome then c.name else (c.kind.head?.map (·.1)).getD c.name

/-- What reading a method through the class gives, if it gives anything. -/
def read? (c : ClassInfo) (name : Text) : Option Callable :=
  match c.kind.find? name, c.attribute? name with
  | some (owner, .computed value), _ => value.map fun run => ⟨.method owner name, run⟩
  | _, some (owner, .method run) => (run (c.through name)).map fun run => ⟨.method owner name, run⟩
  | _, _ => none

/-- The method of a name, as what reading it gives; `none` where there is no method. -/
def method? (c : ClassInfo) (name : Text) : Option (Option Callable) :=
  match c.attribute? name with
  | some (_, .method _) => some (c.read? name)
  | _ => none

end ClassInfo

/-- Classes in the order of their registration, which may repeat. -/
structure ClassTable where
  classes : List ClassInfo

namespace ClassTable

def empty : ClassTable := ⟨[]⟩

def add (t : ClassTable) (c : ClassInfo) : ClassTable := ⟨t.classes ++ [c]⟩

/-- What the method of the first class that has it gives; names with an underscore in front are
private. -/
def find? (t : ClassTable) (name : Text) : Option Callable :=
  if name.head? = some (.char '_') then none else (t.classes.findSome? (·.method? name)).join

def names (t : ClassTable) : List Text := t.classes.map (·.name)

end ClassTable

end Stencil
