import Stencil.Text.Digit

/-!
# Tokens

A token is a name, with an argument list in parentheses or without, and with the mark
of a direct call in front or without. One line feed may follow it.
-/

namespace Stencil

structure Token where
  name : Text
  /-- The text between the parentheses. -/
  args : Option Text
  direct : Bool
  deriving DecidableEq, Repr

namespace Token

def directMark : CodePoint := '@'

/-- The canonical text of a token. -/
def source (t : Token) : Text :=
  (if t.direct then [directMark] else []) ++ t.name ++
    match t.args with
    | none => []
    | some args => '(' :: (args ++ [.char ')'])

def dropLineFeed (t : Text) : Text := if t.getLast? = some (.char '\n') then t.dropLast else t

/-- What follows the name: nothing, or an argument list up to the last parenthesis. -/
def readArgs? : Text → Option (Option Text)
  | [] => some none
  | c :: rest =>
    if c = '(' ∧ rest.getLast? = some (.char ')') then some (some rest.dropLast) else none

def splitMark : Text → Bool × Text
  | [] => (false, [])
  | c :: rest => if c = directMark then (true, rest) else (false, c :: rest)

def read? (t : Text) : Option Token :=
  let (direct, body) := splitMark t
  let name := body.takeWhile Text.isNameChar
  if name.isEmpty then none
  else
    (readArgs? (dropLineFeed (body.dropWhile Text.isNameChar))).map fun args =>
      ⟨name, args, direct⟩

theorem length_dropLineFeed_le (t : Text) : (dropLineFeed t).length ≤ t.length := by
  unfold dropLineFeed
  split <;> simp

theorem length_readArgs?_le {t args : Text} (h : readArgs? t = some (some args)) :
    args.length + 2 ≤ t.length := by
  unfold readArgs? at h
  split at h
  · simp at h
  · split at h
    · next c rest hc =>
      simp only [Option.some.injEq] at h
      have hne : rest ≠ [] := by
        rintro rfl
        simp at hc
      have := List.length_pos_iff.2 hne
      simp only [← h, List.length_dropLast, List.length_cons]; omega
    · simp at h

/-- The name and the two parentheses are no part of the arguments. -/
theorem length_args_le {t args : Text} {token : Token} (h : read? t = some token)
    (hargs : token.args = some args) : args.length + 3 ≤ t.length := by
  unfold read? at h
  simp only at h
  split at h
  · simp at h
  · next hname =>
    obtain ⟨found, hfound, rfl⟩ := Option.map_eq_some_iff.1 h
    simp only at hargs
    subst hargs
    have hargs := length_readArgs?_le hfound
    have hdrop := length_dropLineFeed_le ((splitMark t).2.dropWhile Text.isNameChar)
    have hbody : (splitMark t).2.length ≤ t.length := by
      unfold splitMark
      split
      · simp
      · split <;> simp
    have hsplit := congrArg List.length
      (List.takeWhile_append_dropWhile (p := Text.isNameChar) (l := (splitMark t).2))
    have hpos : 0 < ((splitMark t).2.takeWhile Text.isNameChar).length := by
      apply List.length_pos_iff.2
      simpa using hname
    rw [List.length_append] at hsplit
    omega

end Token

end Stencil
