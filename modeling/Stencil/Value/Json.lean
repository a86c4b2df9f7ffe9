import Stencil.Value.Text

/-!
# JSON

Values as JSON text, on one line. Values that JSON does not have become strings of
their text; characters beyond ASCII stand for themselves.
-/

namespace Stencil.Value

open Stencil.Number (Double)
open Stencil.Text (hexText)

def jsonChar (c : CodePoint) : Text :=
  if c = '"' ∨ c = '\\' then ['\\', c]
  else if c = '\n' then ['\\', 'n']
  else if c = '\r' then ['\\', 'r']
  else if c = '\t' then ['\\', 't']
  else if c.toNat = 8 then ['\\', 'b']
  else if c.toNat = 12 then ['\\', 'f']
  else if c.toNat < 32 then '\\' :: 'u' :: hexText 4 c.toNat
  else [c]

def jsonString (s : Text) : Text := .char '"' :: s.flatMap jsonChar ++ [.char '"']

def jsonDouble : Double → Text
  | .nan => "NaN".text
  | .infinite s => Double.signText s ++ "Infinity".text
  | x => x.text

def jsonBool (b : Bool) : Text := (if b then "true" else "false").text

/-- Keys are text, numbers, booleans or nothing. -/
def jsonKey : Value → Except Fault Text
  | text s => .ok s
  | null => .ok "null".text
  | bool b => .ok (jsonBool b)
  | int n => intText n
  | float x => .ok (jsonDouble x)
  | _ => .error .wrongType

mutual

def json : Value → Except Fault Text
  | null => .ok "null".text
  | bool b => .ok (jsonBool b)
  | int n => intText n
  | float x => .ok (jsonDouble x)
  | text s => .ok (jsonString s)
  | list items => do
    let texts ← jsonItems items
    return .char '[' :: commaList texts ++ [.char ']']
  | tuple items => do
    let texts ← jsonItems items
    return .char '[' :: commaList texts ++ [.char ']']
  | dict entries => do
    let texts ← jsonEntries entries
    return .char '{' :: commaList texts ++ [.char '}']
  | v => do
    let t ← asText v
    return jsonString t
termination_by structural x => x

def jsonItems : List Value → Except Fault (List Text)
  | [] => .ok []
  | x :: rest => do
    let t ← json x
    let texts ← jsonItems rest
    return t :: texts
termination_by structural x => x

def jsonEntries : List (Value × Value) → Except Fault (List Text)
  | [] => .ok []
  | e :: rest => do
    let t ← jsonEntry e
    let texts ← jsonEntries rest
    return t :: texts
termination_by structural x => x

def jsonEntry : Value × Value → Except Fault Text
  | (key, value) => do
    let k ← jsonKey key
    let v ← json value
    return jsonString k ++ .char ':' :: .char ' ' :: v
termination_by structural x => x

end

end Stencil.Value
