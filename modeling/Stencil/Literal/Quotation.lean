import Stencil.Text.CharacterName
import Stencil.Text.Search

/-!
# Quotations

Quoted text in a literal: where it ends, and what its escapes stand for. One quote
mark on each side, or three; text between single marks stays on one line. A backslash
keeps the next character from ending the quotation.
-/

namespace Stencil.Literal

open Stencil.Text (hexValue? natOfDigits? startsWith)

namespace Quotation

/-- The text up to the closing marks, and the text after them. -/
def body? (closing : Text) : Text → Option (Text × Text)
  | [] => none
  | ['\\'] => none
  | '\\' :: c :: rest => (body? closing rest).map fun (t, after) => ('\\' :: c :: t, after)
  | c :: rest =>
    if startsWith closing (c :: rest) then some ([], rest.drop (closing.length - 1))
    else if closing.length = 1 ∧ c = '\n' then none
    else (body? closing rest).map fun (t, after) => (c :: t, after)

/-- The code point of a code, which may be a surrogate. -/
def codePoint? (n : Nat) : Option CodePoint :=
  if n < 0x110000 then some (.ofNat n) else none

/-- A code of exactly `count` hexadecimal digits. -/
def hexCode? (count : Nat) (t : Text) : Option CodePoint := do
  let digits := t.take count
  if digits.length < count then none
  codePoint? (← natOfDigits? 16 digits)

def isOctal (c : CodePoint) : Bool := '0' ≤ c && c ≤ '7'

/-- The character whose name stands in braces, and how many characters that takes. -/
def namedChar? (t : Text) : Option (CodePoint × Nat) :=
  match t with
  | .char '\x7b' :: rest => do
    let name := rest.takeWhile (· != .char '\x7d')
    if name.length = rest.length then none
    return (← Text.named? name, name.length + 2)
  | _ => none

/-- The text that an escape stands for, and how many characters after the backslash
belong to it. An unknown escape stands for itself; a code that is cut short or too great
and a name of no character are refused. -/
def escape? : Text → Option (Text × Nat)
  | [] => none
  | c :: rest =>
    match c with
    | '\n' => some ([], 1)
    | '\\' => some (['\\'], 1)
    | '\'' => some (['\''], 1)
    | '"' => some (['"'], 1)
    | 'a' => some (['\x07'], 1)
    | 'b' => some (['\x08'], 1)
    | 'f' => some (['\x0C'], 1)
    | 'n' => some (['\n'], 1)
    | 'r' => some (['\r'], 1)
    | 't' => some (['\t'], 1)
    | 'v' => some (['\x0B'], 1)
    | 'x' => (hexCode? 2 rest).map fun d => ([d], 3)
    | 'u' => (hexCode? 4 rest).map fun d => ([d], 5)
    | 'U' => (hexCode? 8 rest).map fun d => ([d], 9)
    | 'N' => (namedChar? rest).map fun (d, length) => ([d], length + 1)
    | _ =>
      if isOctal c then do
        let digits := ((c :: rest).take 3).takeWhile isOctal
        let code ← codePoint? (← natOfDigits? 8 digits)
        return ([code], digits.length)
      else some (['\\', c], 1)

/-- The text that remains once the first `skip` characters are passed over and each
escape is replaced. -/
def unescapeFrom (skip : Nat) : Text → Option Text
  | [] => some []
  | c :: rest =>
    match skip with
    | n + 1 => unescapeFrom n rest
    | 0 =>
      if c = '\\' then do
        let (out, length) ← escape? rest
        let tail ← unescapeFrom length rest
        return out ++ tail
      else (unescapeFrom 0 rest).map (c :: ·)

def unescape? (t : Text) : Option Text := unescapeFrom 0 t

/-- Whether each `\x` escape has its two digits; other escapes are free in bytes. -/
def bytesEscapesOk : Text → Bool
  | [] => true
  | '\\' :: 'x' :: rest => (hexCode? 2 rest).isSome && bytesEscapesOk rest
  | '\\' :: _ :: rest => bytesEscapesOk rest
  | _ :: rest => bytesEscapesOk rest

end Quotation

/-- What a quotation denotes; of bytes only the kind is kept. Formatted text, whose
braces hold expressions, is kept as it is written, with whether its escapes are off. -/
inductive Quotation where
  | text (s : Text)
  | bytes
  | formatted (raw : Bool) (body : Text)
  deriving DecidableEq, Repr

namespace Quotation

inductive Kind where
  | text
  | bytes
  | formatted
  deriving DecidableEq, Repr

/-- The kind that the letters before the opening mark name, and whether escapes are off. -/
def mode? (letters : Text) : Option (Kind × Bool) :=
  match letters.map CodePoint.toLower with
  | [] => some (.text, false)
  | ['u'] => some (.text, false)
  | ['r'] => some (.text, true)
  | ['b'] => some (.bytes, false)
  | ['b', 'r'] => some (.bytes, true)
  | ['r', 'b'] => some (.bytes, true)
  | ['f'] => some (.formatted, false)
  | ['f', 'r'] => some (.formatted, true)
  | ['r', 'f'] => some (.formatted, true)
  | _ => none

def isMark (c : CodePoint) : Bool := c == '"' || c == '\''

/-- A quotation whose opening mark stands first, after `letters`. -/
def read? (letters : Text) : Text → Option (Quotation × Text)
  | [] => none
  | mark :: rest => do
    let (kind, raw) ← mode? letters
    let closing := if startsWith [mark, mark] rest then [mark, mark, mark] else [mark]
    let (body, after) ← body? closing (rest.drop (closing.length - 1))
    match kind with
    | .text => return (.text (← if raw then some body else unescape? body), after)
    | .bytes =>
      if body.all (·.toNat < 128) && (raw || bytesEscapesOk body) then return (.bytes, after)
      else none
    | .formatted => return (.formatted raw body, after)

end Quotation

end Stencil.Literal
