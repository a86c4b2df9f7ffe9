import Stencil.Text.Blank

/-!
# Searching text

Splitting and replacing read the text from left to right; occurrences do not
overlap. After an occurrence starts, the scanner skips the rest of it.
-/

namespace Stencil.Text

def startsWith (pattern t : Text) : Bool := pattern.isPrefixOf t

def splitFrom (sep : Text) (skip : Nat) (piece : Text) : Text → List Text
  | [] => [piece.reverse]
  | c :: rest =>
    match skip with
    | n + 1 => splitFrom sep n piece rest
    | 0 =>
      if startsWith sep (c :: rest) then
        piece.reverse :: splitFrom sep (sep.length - 1) [] rest
      else splitFrom sep 0 (c :: piece) rest

/-- The pieces between the occurrences of a separator that is not empty. -/
def splitOn (sep t : Text) : List Text := splitFrom sep 0 [] t

def replaceFrom (old new : Text) (skip : Nat) : Text → Text
  | [] => []
  | c :: rest =>
    match skip with
    | n + 1 => replaceFrom old new n rest
    | 0 =>
      if startsWith old (c :: rest) then new ++ replaceFrom old new (old.length - 1) rest
      else c :: replaceFrom old new 0 rest

/-- Each occurrence of `old` replaced by `new`; an empty `old` occurs before each
character and at the end. -/
def replace (old new t : Text) : Text :=
  if old.isEmpty then new ++ t.flatMap fun c => c :: new
  else replaceFrom old new 0 t

def join (sep : Text) : List Text → Text
  | [] => []
  | [t] => t
  | t :: rest => t ++ sep ++ join sep rest

end Stencil.Text
