import Stencil.Library.Functions

/-!
# Host functions

The functions that a session can register. Several show their arguments, some fail on
purpose; they take exactly the arguments shown.
-/

namespace Stencil.Host

open Stencil.Library (Function)

mutual

/-- A value with its kind in front. -/
def tagged : Value → Except Fault Text
  | .null => .ok "null".text
  | .bool b => .ok (if b then "bool:true" else "bool:false").text
  | .list items => do
    let texts ← taggedItems items
    return "list:[".text ++ Text.join [.char ','] texts ++ [.char ']']
  | .tuple items => do
    let texts ← taggedItems items
    return "tuple:[".text ++ Text.join [.char ','] texts ++ [.char ']']
  | .int n => return "int:".text ++ (← Value.asText (.int n))
  | .float x => return "float:".text ++ (← Value.asText (.float x))
  | .text s => return "str:".text ++ s
  | .dict entries => return "dict:".text ++ (← Value.asText (.dict entries))
  | .bytes octets => return "bytes:".text ++ (← Value.asText (.bytes octets))
  | .decimal d => return "Decimal:".text ++ d.text
  | .date d => return "date:".text ++ d.text
  | .iterable _ shown _ => return "iterable:".text ++ shown
termination_by structural v => v

def taggedItems : List Value → Except Fault (List Text)
  | [] => .ok []
  | v :: rest => do
    let t ← tagged v
    let texts ← taggedItems rest
    return t :: texts
termination_by structural vs => vs

end

def «show» : Function := fun args => do
  return .text (.char '(' :: (Text.join [.char ';'] (← taggedItems args) ++ [.char ')']))

/-- Its calls can be listed afterwards; it returns its last argument. -/
def record : Function := fun args => do
  let _ ← taggedItems args
  return args.getLast?.getD .null

def joined : Function := fun args => do
  return .text (Text.join [','] (← args.mapM Value.asText))

/-- The text of the one argument between two texts. -/
def around (front back : Text) : Function
  | [v] => do return .text (front ++ (← v.asText) ++ back)
  | _ => .error .wrongType

def identity : Function
  | [v] => .ok v
  | _ => .error .wrongType

/-- Numbers double; text, lists and bytes repeat. -/
def doubled : Value → Except Fault Value
  | .bool b => .ok (.int (if b then 2 else 0))
  | .int n => .ok (.int (2 * n))
  | .float x => .ok (.float (x.scale 2))
  | .decimal d => return .decimal (← d.scale 2)
  | .text t => .ok (.text (t ++ t))
  | .list items => .ok (.list (items ++ items))
  | .tuple items => .ok (.tuple (items ++ items))
  | .bytes octets => .ok (.bytes (octets ++ octets))
  | _ => .error .wrongType

def double : Function
  | [v] => doubled v
  | _ => .error .wrongType

def greeting : Function
  | [] => .ok (.text "hi".text)
  | _ => .error .wrongType

def constant (v : Value) : Function := fun _ => .ok v

def pack : Function := fun args => .ok (.list args)

def prefixed : Function
  | [v, text] => do return .text ((← text.asText) ++ (← v.asText))
  | _ => .error .wrongType

/-- A function that fails whatever its arguments are. -/
def failing (e : Error) : List Value → Except Error Value := fun _ => .error e

def pure (f : Function) : List Value → Except Error Value := fun args =>
  (f args).mapError .fault

def functions : List (String × (List Value → Except Error Value)) :=
  [("show", pure «show»), ("rec", pure record), ("join", pure joined),
   ("f1", pure (around "f1(".text ")".text)), ("f2", pure (around "f2(".text ")".text)),
   ("ident", pure identity), ("double", pure double), ("hi", pure greeting),
   ("none", pure (constant .null)), ("yes", pure (constant (.bool true))),
   ("no", pure (constant (.bool false))), ("pack", pure pack), ("prefix", pure prefixed),
   ("brace", pure (around "\x7b".text "\x7d".text)),
   ("boom", failing (.fault (.failed "boom".text))),
   ("badkey", failing (.fault (.missingKey "'k'".text))),
   ("undef", failing (.undefinedVariable "inner".text)),
   ("badsyn", failing (.invalidToken "inner tok".text)),
   ("badargs", failing (.badArguments "inner".text none))]

def callables : List (Text × Callable) :=
  functions.map fun (name, run) => (name.text, ⟨.host name.text, run⟩)

/-- The function whose calls are listed. -/
def recordLabel : Label := .host "rec".text

end Stencil.Host
