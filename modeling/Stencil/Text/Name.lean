import Stencil.Text.Blank
import Stencil.Text.NameTable
import Stencil.Text.VariantTable

/-!
# Names

A name is a letter or an underscore followed by letters, digits, marks and connectors
of any script. Two names are the same when they differ by variants of ASCII
characters alone.
-/

namespace Stencil.Text

def mayStartName (c : CodePoint) : Bool := c == '_' || inRanges nameStartRanges c

def mayFollowInName (c : CodePoint) : Bool := mayStartName c || inRanges nameFollowRanges c

def isName : Text → Bool
  | [] => false
  | c :: rest => mayStartName c && rest.all mayFollowInName

/-- The ASCII characters that a character is a variant of; all others stand for
themselves. -/
def plainVariant (c : CodePoint) : Text :=
  match variantRuns.find? fun r => r.1 ≤ c.toNat && c.toNat ≤ r.2.1 with
  | some (first, _, target) => [CodePoint.ofNat (target.toNat + (c.toNat - first))]
  | none =>
    match joinedVariants.lookup c.toNat with
    | some joined => joined.text
    | none => [c]

def plainName (t : Text) : Text := t.flatMap plainVariant

end Stencil.Text
