import Stencil.Text.Quoted
import Stencil.Text.Search
import Stencil.Value.Basic

/-!
# The text of a value

`quoted` writes a value the way it stands inside a list, with text in quotes; `text`
shows text, decimals and dates bare; `output` is what a template prints. A whole
number beyond the digit limit has no text.
-/

namespace Stencil.Value

open Stencil.Number (intText?)
open Stencil.Text (decimalText join)

def intText (n : Int) : Except Fault Text :=
  match intText? n with
  | some t => .ok t
  | none => .error .badValue

/-- Items separated by commas. -/
def commaList (items : List Text) : Text := join [',', ' '] items

mutual

def quoted : Value → Except Fault Text
  | null => .ok "None".text
  | bool b => .ok (if b then "True" else "False").text
  | int n => intText n
  | float x => .ok x.text
  | text s => .ok (Text.quoted s)
  | list items => do
    let texts ← quotedItems items
    return .char '[' :: commaList texts ++ [.char ']']
  | tuple items => do
    let texts ← quotedItems items
    match texts with
    | [one] => return .char '(' :: one ++ ",)".text
    | _ => return .char '(' :: commaList texts ++ [.char ')']
  | dict entries => do
    let texts ← quotedEntries entries
    return .char '{' :: commaList texts ++ [.char '}']
  | bytes octets => .ok (Text.quotedBytes octets)
  | decimal d => .ok ("Decimal('".text ++ d.text ++ "')".text)
  | date d =>
    .ok ("datetime.date(".text ++
      commaList [decimalText d.year, decimalText d.month, decimalText d.day] ++ [.char ')'])
  | iterable _ shown _ => .ok shown
termination_by structural x => x

def quotedItems : List Value → Except Fault (List Text)
  | [] => .ok []
  | x :: rest => do
    let t ← quoted x
    let texts ← quotedItems rest
    return t :: texts
termination_by structural x => x

def quotedEntries : List (Value × Value) → Except Fault (List Text)
  | [] => .ok []
  | e :: rest => do
    let t ← quotedEntry e
    let texts ← quotedEntries rest
    return t :: texts
termination_by structural x => x

def quotedEntry : Value × Value → Except Fault Text
  | (key, value) => do
    let k ← quoted key
    let v ← quoted value
    return k ++ .char ':' :: .char ' ' :: v
termination_by structural x => x

end

/-- The text of a value on its own. -/
def asText : Value → Except Fault Text
  | text s => .ok s
  | decimal d => .ok d.text
  | date d => .ok d.text
  | v => quoted v

/-- The text that a template prints: nothing and false print nothing, true prints 1. -/
def output : Value → Except Fault Text
  | null => .ok []
  | bool b => .ok (if b then ['1'] else [])
  | v => asText v

end Stencil.Value
