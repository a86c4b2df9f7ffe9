import Stencil.Text.Blank

/-!
# Chains

The inner text of a tag is a chain of pieces separated by dots. Dots inside quotes
or parentheses separate nothing. A quote mark after a backslash is an ordinary
character, and parentheses inside quotes do not count.
-/

namespace Stencil.Chain

/-- Where the scanner stands: the quote mark that is open, and the parentheses opened
and not closed, negative after more closing ones. -/
structure Position where
  quote : Option CodePoint
  depth : Int
  deriving DecidableEq, Repr

namespace Position

def start : Position := ⟨none, 0⟩

def isMark (c : CodePoint) : Bool := c == '"' || c == '\''

/-- The open quote mark after reading `c`. -/
def quoteAfter (p : Position) (previous : Option CodePoint) (c : CodePoint) : Option CodePoint :=
  if isMark c && previous != some (.char '\\') then
    match p.quote with
    | none => some c
    | some q => if c = q then none else some q
  else p.quote

def after (p : Position) (previous : Option CodePoint) (c : CodePoint) : Position :=
  let quote := p.quoteAfter previous c
  if quote.isNone && c == '(' then ⟨quote, p.depth + 1⟩
  else if quote.isNone && c == ')' then ⟨quote, p.depth - 1⟩
  else ⟨quote, p.depth⟩

/-- Outside quotes and parentheses. -/
def isOutside (p : Position) : Bool := p.quote.isNone && p.depth == 0

end Position

/-- The pieces of a text, given the position before it, the character before it, and
the current piece so far, last character first. -/
def piecesFrom (p : Position) (previous : Option CodePoint) (piece : Text) : Text → List Text
  | [] => if piece.isEmpty then [] else [piece.reverse]
  | c :: rest =>
    let q := p.after previous c
    if c = '.' ∧ q.isOutside then piece.reverse :: piecesFrom q (some c) [] rest
    else piecesFrom q (some c) (c :: piece) rest

/-- The trimmed pieces; an empty last piece is dropped. -/
def split (t : Text) : List Text := (piecesFrom .start none [] t).map Text.trim

theorem length_piecesFrom_le {p : Position} {previous : Option CodePoint} {piece t s : Text}
    (h : s ∈ piecesFrom p previous piece t) : s.length ≤ piece.length + t.length := by
  induction t generalizing p previous piece with
  | nil =>
    unfold piecesFrom at h
    split at h
    · simp at h
    · simp at h; simp [h]
  | cons c rest ih =>
    unfold piecesFrom at h
    simp only at h
    split at h
    · rcases List.mem_cons.1 h with rfl | hmem
      · simp
      · have := ih hmem
        simp only [List.length_nil, List.length_cons] at *; omega
    · have := ih h
      simp only [List.length_cons] at *; omega

theorem length_split_le {t s : Text} (h : s ∈ split t) : s.length ≤ t.length := by
  obtain ⟨piece, hpiece, rfl⟩ := List.mem_map.1 h
  have := length_piecesFrom_le hpiece
  simp only [List.length_nil, Nat.zero_add] at this
  exact Nat.le_trans (Text.length_trim_le piece) this

end Stencil.Chain
