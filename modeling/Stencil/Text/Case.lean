import Stencil.Text.Blank
import Stencil.Text.CaseTable
import Stencil.Text.CasedTable

/-!
# Case conversion

Conversion of whole text by the full Unicode mappings. A capital sigma becomes a
final sigma where a word ends; a word goes on across case-ignorable characters.
-/

namespace Stencil.Text

/-- The listed mapping of a character, when one of the tables has it. -/
def mapping? (runs : List CaseRun) (expansions : List (Nat × List Nat)) (c : CodePoint) :
    Option Text :=
  match expansions.lookup c.toNat with
  | some codes => some (codes.map CodePoint.ofNat)
  | none =>
    (runs.find? (·.covers c.toNat)).map fun r => [.ofNat (Int.ofNat c.toNat + r.shift).toNat]

def upperChar (c : CodePoint) : Text := (mapping? upperRuns upperExpansions c).getD [c]

def lowerChar (c : CodePoint) : Text := (mapping? lowerRuns lowerExpansions c).getD [c]

def titleChar (c : CodePoint) : Text :=
  (mapping? titleRuns titleExpansions c).getD (upperChar c)

def isCased (c : CodePoint) : Bool := inRanges casedRanges c

def isCaseIgnorable (c : CodePoint) : Bool := inRanges caseIgnorableRanges c

/-- Whether the first character that is not case-ignorable is cased. -/
def touchesCased (t : Text) : Bool :=
  match t.dropWhile isCaseIgnorable with
  | [] => false
  | c :: _ => isCased c

/-- Lower case of `c` between `before`, nearest character first, and `after`. -/
def lowerCharWithin (before : Text) (c : CodePoint) (after : Text) : Text :=
  if c = 'Σ' then
    if touchesCased before && !touchesCased after then ['ς'] else ['σ']
  else lowerChar c

def lowerAfter (before : Text) : Text → Text
  | [] => []
  | c :: rest => lowerCharWithin before c rest ++ lowerAfter (c :: before) rest

def upper (t : Text) : Text := t.flatMap upperChar

def lower (t : Text) : Text := lowerAfter [] t

def titleAfter (before : Text) : Text → Text
  | [] => []
  | c :: rest =>
    (if (before.head?.map isCased).getD false then lowerCharWithin before c rest
      else titleChar c) ++ titleAfter (c :: before) rest

/-- Each run of cased characters gets title case first and lower case after it. -/
def title (t : Text) : Text := titleAfter [] t

def capitalize : Text → Text
  | [] => []
  | c :: rest => titleChar c ++ lowerAfter [c] rest

def upperFirst : Text → Text
  | [] => []
  | c :: rest => upperChar c ++ rest

/-- The first character stands alone, so a capital sigma there is never final. -/
def lowerFirst : Text → Text
  | [] => []
  | c :: rest => lowerCharWithin [] c [] ++ rest

def upperWordsFrom (atStart : Bool) : Text → Text
  | [] => []
  | c :: rest =>
    (if atStart && !isBlank c then upperChar c else [c]) ++ upperWordsFrom (isBlank c) rest

/-- Upper case for each character that is not blank and follows a blank or nothing. -/
def upperWords (t : Text) : Text := upperWordsFrom true t

end Stencil.Text
