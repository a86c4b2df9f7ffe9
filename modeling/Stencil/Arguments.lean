import Stencil.Error
import Stencil.Literal.Reading
import Stencil.Text.Case

/-!
# Arguments

An argument list is a sequence of literals between commas. Commas inside quotes
separate nothing, and there a backslash keeps the next character from closing the
quotes. One comma may end the list.
-/

namespace Stencil

/-- The argument that stands for the piped value. -/
def placeholder : Value := .text ['$']

namespace Arguments

def isMark (c : CodePoint) : Bool := c == '"' || c == '\''

/-- The items of a list, given the open quote mark, whether a backslash inside it came
just before, and the item so far, last character first; `none` when the quotes stay
open. -/
def itemsFrom (quote : Option CodePoint) (escaped : Bool) (item : Text) :
    Text → Option (List Text)
  | [] => if quote.isSome then none else some [item.reverse]
  | c :: rest =>
    match quote with
    | some q =>
      if escaped then itemsFrom quote false (c :: item) rest
      else if c = '\\' then itemsFrom quote true (c :: item) rest
      else itemsFrom (if c = q then none else quote) false (c :: item) rest
    | none =>
      if isMark c then itemsFrom (some c) false (c :: item) rest
      else if c = ',' then (itemsFrom none false [] rest).map (item.reverse :: ·)
      else itemsFrom none false (c :: item) rest

/-- An empty item after the last comma is no item. -/
def dropTrailing (items : List Text) : List Text :=
  if 1 < items.length ∧ items.getLast? = some [] then items.dropLast else items

def keyword? (item : Text) : Option Value :=
  let word := Text.lower item
  if word = "true".text then some (.bool true)
  else if word = "false".text then some (.bool false)
  else if word = "null".text ∨ word = "none".text then some .null
  else none

def readItem (function item : Text) : Except Error Value :=
  if item.isEmpty then .error (.badArguments function (some .empty))
  else if item = [.char '$'] then .ok placeholder
  else
    match keyword? item with
    | some v => .ok v
    | none =>
      match Literal.read item with
      | .ok v => .ok v
      | .error .malformed => .error (.badArguments function (some (.notLiteral item)))
      | .error .unsupported => .error (.badArguments function (some (.unsupported item)))
      | .error .overflow => .error (.fault .outOfRange)

/-- The arguments of a call of `function`; a blank list has none. -/
def read (function text : Text) : Except Error (List Value) :=
  if text.all Text.isBlank then .ok []
  else
    match itemsFrom none false [] text with
    | none => .error (.badArguments function (some .unterminated))
    | some items => (dropTrailing (items.map Text.trim)).mapM (readItem function)

def replaceFirst? (value : Value) : List Value → Option (List Value)
  | [] => none
  | .text ['$'] :: rest => some (value :: rest)
  | v :: rest => (replaceFirst? value rest).map (v :: ·)

/-- Puts the piped value at the first placeholder, or in front when there is none. -/
def place (value : Value) (args : List Value) : List Value :=
  (replaceFirst? value args).getD (value :: args)

end Arguments

end Stencil
