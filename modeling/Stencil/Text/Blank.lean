import Stencil.Text.CodePoint

/-!
# Blank characters

Blank characters are those that trimming removes and that separate words.
-/

namespace Stencil.Text

def inRanges (ranges : List (Nat × Nat)) (c : CodePoint) : Bool :=
  ranges.any fun r => r.1 ≤ c.toNat && c.toNat ≤ r.2

/-- The controls 9 to 13 and 28 to 31, the space, and the Unicode space, line and
paragraph separators. -/
def blankRanges : List (Nat × Nat) :=
  [(0x09, 0x0D), (0x1C, 0x20), (0x85, 0x85), (0xA0, 0xA0), (0x1680, 0x1680),
   (0x2000, 0x200A), (0x2028, 0x2029), (0x202F, 0x202F), (0x205F, 0x205F),
   (0x3000, 0x3000)]

def isBlank (c : CodePoint) : Bool := inRanges blankRanges c

def trimStartBy (drop : CodePoint → Bool) (t : Text) : Text := t.dropWhile drop

def trimEndBy (drop : CodePoint → Bool) (t : Text) : Text :=
  (t.reverse.dropWhile drop).reverse

def trimBy (drop : CodePoint → Bool) (t : Text) : Text := trimEndBy drop (trimStartBy drop t)

def trim (t : Text) : Text := trimBy isBlank t

theorem length_trimStartBy_le (drop : CodePoint → Bool) (t : Text) :
    (trimStartBy drop t).length ≤ t.length :=
  (List.dropWhile_sublist drop).length_le

theorem length_trimEndBy_le (drop : CodePoint → Bool) (t : Text) :
    (trimEndBy drop t).length ≤ t.length := by
  simpa [trimEndBy] using (List.dropWhile_sublist drop (l := t.reverse)).length_le

theorem length_trim_le (t : Text) : (trim t).length ≤ t.length :=
  Nat.le_trans (length_trimEndBy_le _ _) (length_trimStartBy_le _ _)

end Stencil.Text
