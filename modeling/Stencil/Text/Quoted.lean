import Stencil.Text.Digit
import Stencil.Text.PrintableTable

/-!
# Quoted text

Text between quotes, with escapes for the quote, the backslash, and characters that
are not shown as they are. Apostrophes quote the text unless it holds apostrophes
and no double quotes.
-/

namespace Stencil.Text

def isPrintable (c : CodePoint) : Bool := inRanges printableRanges c

def isAscii (c : CodePoint) : Bool := c.toNat < 128

/-- The shortest of the escapes with two, four and eight hexadecimal digits. -/
def codeEscape (c : CodePoint) : Text :=
  if c.toNat < 0x100 then '\\' :: 'x' :: hexText 2 c.toNat
  else if c.toNat < 0x10000 then '\\' :: 'u' :: hexText 4 c.toNat
  else '\\' :: 'U' :: hexText 8 c.toNat

def escapeChar (shown : CodePoint → Bool) (quote c : CodePoint) : Text :=
  if c = quote ∨ c = '\\' then ['\\', c]
  else if c = '\t' then ['\\', 't']
  else if c = '\n' then ['\\', 'n']
  else if c = '\r' then ['\\', 'r']
  else if shown c then [c]
  else codeEscape c

def quoteFor (t : Text) : CodePoint :=
  if t.contains '\'' && !t.contains '"' then '"' else '\''

def quotedBy (shown : CodePoint → Bool) (t : Text) : Text :=
  let quote := quoteFor t
  quote :: t.flatMap (escapeChar shown quote) ++ [quote]

def quoted (t : Text) : Text := quotedBy isPrintable t

/-- Quoted text in ASCII alone. -/
def quotedAscii (t : Text) : Text := quotedBy (fun c => isPrintable c && isAscii c) t

/-- Bytes are quoted as the characters of their values, after the letter `b`. -/
def quotedBytes (octets : List UInt8) : Text :=
  'b' :: quotedAscii (octets.map fun b => CodePoint.ofNat b.toNat)

end Stencil.Text
