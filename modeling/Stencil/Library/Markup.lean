import Stencil.Library.Basic

/-!
# Markup functions
-/

namespace Stencil.Library

def lineBreak : Text := "<br />".text

/-- Puts a break tag before each end of line. -/
def breakLines : Text → Text
  | .char '\r' :: .char '\n' :: rest => lineBreak ++ .char '\r' :: .char '\n' :: breakLines rest
  | .char '\r' :: rest => lineBreak ++ .char '\r' :: breakLines rest
  | .char '\n' :: rest => lineBreak ++ .char '\n' :: breakLines rest
  | c :: rest => c :: breakLines rest
  | [] => []

/-- The characters that mean something in markup, as entities. -/
def escapeMarkupChar (c : CodePoint) : Text :=
  if c = '&' then "&amp;".text
  else if c = '<' then "&lt;".text
  else if c = '>' then "&gt;".text
  else if c = '"' then "&quot;".text
  else if c = '\'' then "&#x27;".text
  else [c]

def escapeMarkup (t : Text) : Text := t.flatMap escapeMarkupChar

def lineBreaks : Function := onText fun t => .text (breakLines t)

def markupEscaped : Function := onText fun t => .text (escapeMarkup t)

end Stencil.Library
