import Stencil.Literal.Numeral
import Stencil.Literal.Quotation
import Stencil.Text.Name

/-!
# Lexemes

The smallest parts of an expression. Blanks, comments and joined lines fall away; so do
ends of lines and indents between brackets. Elsewhere an end of a line ends the
expression, and an indented line belongs to none.
-/

namespace Stencil.Literal

open Stencil.Text (isDigit startsWith)

inductive Lexeme where
  | number (n : Numeral)
  | quotation (q : Quotation)
  /-- One of the words with a meaning of their own. -/
  | word (t : Text)
  /-- A name, with the variants of ASCII characters replaced. -/
  | name (t : Text)
  | mark (t : Text)
  | lineEnd
  /-- A line that starts with blanks and holds more than a comment. -/
  | indent
  deriving DecidableEq, Repr

namespace Lexeme

def isSpace (c : CodePoint) : Bool := c == ' ' || c == '\t' || c == '\x0C'

/-- Every end of a line written as one line feed. -/
def unifyLines : Text → Text
  | '\r' :: '\n' :: rest => '\n' :: unifyLines rest
  | '\r' :: rest => '\n' :: unifyLines rest
  | c :: rest => c :: unifyLines rest
  | [] => []

/-- Skips blanks, and ends of lines after a backslash when something follows. -/
def skipSpace : Text → Text
  | '\\' :: '\n' :: c :: rest => skipSpace (c :: rest)
  | c :: rest => if isSpace c then skipSpace rest else c :: rest
  | [] => []

/-- Whether blanks before the first character put it off the margin. A form feed goes
back to the margin; so does a joined line only if it started there. -/
def offMargin (before here : Bool) : Text → Bool
  | '\\' :: '\n' :: rest => offMargin (before || here) here rest
  | '\x0C' :: rest => offMargin before false rest
  | c :: rest => if c = ' ' ∨ c = '\t' then offMargin before true rest else before || here
  | [] => before || here

def skipComment (t : Text) : Text :=
  match t with
  | '#' :: _ => t.dropWhile (· != '\n')
  | _ => t

/-- The indent before the first character of a line, if it matters. -/
def lineStart (t : Text) : List Lexeme :=
  match skipSpace t with
  | [] => []
  | c :: _ => if c != '#' && c != '\n' && offMargin false false t then [.indent] else []

/-- The words that are no names. -/
def words : List String :=
  ["False", "None", "True", "and", "as", "assert", "async", "await", "break", "class",
   "continue", "def", "del", "elif", "else", "except", "finally", "for", "from", "global",
   "if", "import", "in", "is", "lambda", "nonlocal", "not", "or", "pass", "raise", "return",
   "try", "while", "with", "yield"]

/-- The marks; a longer one comes before those that it starts with. -/
def marks : List String :=
  ["...", "**", "//", "<<", ">>", "<=", ">=", "==", "!=", ":=", "+", "-", "*", "/", "%", "@",
   "&", "|", "^", "~", "<", ">", "(", ")", "[", "]", "\x7b", "\x7d", ",", ":", ".", "="]

def readMark? (t : Text) : Option (Lexeme × Text) :=
  marks.findSome? fun m => (m.text.isPrefixOf? t).map fun rest => (.mark m.text, rest)

/-- A word or a name. -/
def ofName? (t : Text) : Option Lexeme :=
  if words.any (·.text == t) then some (.word t)
  else if Text.isName t then some (.name (Text.plainName t))
  else none

/-- The lexeme at the head of a text that starts with no blank. -/
def read? (t : Text) : Option (Lexeme × Text) :=
  let startsNumber :=
    match t with
    | '.' :: c :: _ => isDigit c
    | c :: _ => isDigit c
    | [] => false
  if startsNumber then (Numeral.read? t).map fun (n, rest) => (.number n, rest)
  else
    let letters := t.takeWhile Numeral.continuesName
    let after := t.dropWhile Numeral.continuesName
    if after.head?.any Quotation.isMark ∧ (Quotation.mode? letters).isSome then
      (Quotation.read? letters after).map fun (q, rest) => (.quotation q, rest)
    else if letters.isEmpty then readMark? t
    else (ofName? letters).map (·, after)

/-- The lexemes of a text, at most `fuel` of them. -/
def readAll? (fuel : Nat) (t : Text) : Option (List Lexeme) :=
  match fuel with
  | 0 => none
  | fuel + 1 =>
    match skipComment (skipSpace t) with
    | [] => some []
    | '\n' :: rest => do
      let later ← readAll? fuel rest
      return .lineEnd :: (lineStart rest ++ later)
    | t => do
      let (l, rest) ← read? t
      let later ← readAll? fuel rest
      return l :: later

def isOpening (l : Lexeme) : Bool :=
  l == .mark ['('] || l == .mark ['['] || l == .mark ['\x7b']

def isClosing (l : Lexeme) : Bool :=
  l == .mark [')'] || l == .mark [']'] || l == .mark ['\x7d']

def depthLimit : Nat := 200

/-- Joins the lines between brackets, of which at most 200 may be open at once. -/
def joinLines? (depth : Nat) : List Lexeme → Option (List Lexeme)
  | [] => some []
  | l :: rest =>
    if (l = .lineEnd ∨ l = .indent) ∧ 0 < depth then joinLines? depth rest
    else if isOpening l then
      if depth < depthLimit then (joinLines? (depth + 1) rest).map (l :: ·) else none
    else if isClosing l then (joinLines? (depth - 1) rest).map (l :: ·)
    else (joinLines? depth rest).map (l :: ·)

/-- What may stand nowhere in a literal: the character NUL and the surrogates. -/
def isBarred (c : CodePoint) : Bool := c == '\x00' || c.isSurrogate

def ofText? (t : Text) : Option (List Lexeme) :=
  if t.any isBarred then none
  else
    let t := unifyLines t
    (readAll? (t.length + 1) t).bind fun lexemes => joinLines? 0 (lineStart t ++ lexemes)

end Lexeme

end Stencil.Literal
