import Stencil.Proofs.TokenTexts

/-!
# The grammar of tokens

A text of the grammar (a mark or none, a name, and any text in parentheses or none) is read as
the token with these parts, and the token says all of the text. Beyond the grammar one line feed
is let pass at the end, and it is the one thing in which two texts of a token can differ.
-/

namespace Stencil

open FunctionTable (isName isName_iff)

namespace Token

/-- One of `a-z`, `A-Z`, `0-9` and `_`. -/
def InName (c : CodePoint) : Prop :=
  ('a' ≤ c ∧ c ≤ 'z') ∨ ('A' ≤ c ∧ c ≤ 'Z') ∨ ('0' ≤ c ∧ c ≤ '9') ∨ c = '_'

/-- The texts `"@"? name ("(" args ")")?`, with at least one character in the name and any
in the arguments. -/
def IsToken (t : Text) : Prop :=
  ∃ mark name args : Text, t = mark ++ (name ++ args) ∧ (mark = [] ∨ mark = [.char '@']) ∧
    (name ≠ [] ∧ ∀ c ∈ name, InName c) ∧
    (args = [] ∨ ∃ body, args = .char '(' :: (body ++ [.char ')']))

theorem isNameChar_iff {c : CodePoint} : Text.isNameChar c = true ↔ InName c := by
  have hdigit : Text.isDigit c = true ↔ '0' ≤ c ∧ c ≤ '9' := by
    rw [Text.isDigit, Text.digitValue?]
    split <;> simp_all
  simp only [Text.isNameChar, Text.isLetter, Bool.or_eq_true, Bool.and_eq_true, decide_eq_true_eq,
    beq_iff_eq, hdigit, InName, or_assoc]

theorem isName_iff_inName {name : Text} :
    isName name = true ↔ name ≠ [] ∧ ∀ c ∈ name, InName c := by
  simp only [isName_iff, isNameChar_iff]

/-- The grammar has the texts of the tokens with a name. -/
theorem isToken_iff {t : Text} :
    IsToken t ↔ ∃ token : Token, isName token.name = true ∧ token.source = t := by
  constructor
  · rintro ⟨mark, name, args, rfl, hmark, hname, hargs⟩
    obtain ⟨direct, rfl⟩ : ∃ direct : Bool, mark = if direct then [directMark] else [] := by
      rcases hmark with rfl | rfl
      · exact ⟨false, rfl⟩
      · exact ⟨true, rfl⟩
    obtain ⟨list, rfl⟩ : ∃ list, args = argsText list := by
      rcases hargs with rfl | ⟨body, rfl⟩
      · exact ⟨none, rfl⟩
      · exact ⟨some body, rfl⟩
    exact ⟨⟨name, list, direct⟩, isName_iff_inName.2 hname, source_eq _⟩
  · rintro ⟨⟨name, list, direct⟩, hname, rfl⟩
    refine ⟨_, name, argsText list, source_eq _, ?_, isName_iff_inName.1 hname, ?_⟩
    · cases direct with
      | true => exact .inr rfl
      | false => exact .inl rfl
    · cases list with
      | none => exact .inl rfl
      | some body => exact .inr ⟨body, rfl⟩

theorem isToken_source_of_read? {t : Text} {token : Token} (h : read? t = some token) :
    IsToken token.source :=
  isToken_iff.2 ⟨token, isName_of_read? h, rfl⟩

theorem IsToken.getLast?_ne {t : Text} (h : IsToken t) : t.getLast? ≠ some (.char '\n') := by
  obtain ⟨token, hname, rfl⟩ := isToken_iff.1 h
  intro hlast
  exact absurd ((trimmed_source hname).last '\n' hlast) (by decide)

/-- Reading accepts the grammar and loses nothing. A text of the grammar is read as a token that
it is the text of. Of the other texts exactly those are read that are one of these and a line
feed, as the token of the text before it. So two texts of one token are the same but for a line
feed at the end of one of them. -/
theorem read?_iff_isToken (t : Text) :
    (IsToken t ↔ ∃ token, read? t = some token ∧ token.source = t) ∧
    ((∃ token, read? t = some token) ↔
      IsToken t ∨ ∃ front, IsToken front ∧ t = front ++ [.char '\n']) ∧
    (∀ token, read? t = some token → t = token.source ∨ t = token.source ++ [.char '\n']) ∧
    ∀ other token, read? t = some token → read? other = some token →
      t = other ∨ t = other ++ [.char '\n'] ∨ other = t ++ [.char '\n'] := by
  have hlossless : IsToken t ↔ ∃ token, read? t = some token ∧ token.source = t := by
    constructor
    · intro h
      obtain ⟨token, hname, rfl⟩ := isToken_iff.1 h
      exact ⟨token, read?_source hname, rfl⟩
    · rintro ⟨token, hread, hsource⟩
      rw [← hsource]
      exact isToken_source_of_read? hread
  refine ⟨hlossless, ?_, fun token => source_of_read?, fun other token hread hother => ?_⟩
  · constructor
    · rintro ⟨token, hread⟩
      rcases source_of_read? hread with hsource | hsource
      · exact .inl (hsource ▸ isToken_source_of_read? hread)
      · exact .inr ⟨token.source, isToken_source_of_read? hread, hsource⟩
    · rintro (h | ⟨front, hfront, rfl⟩)
      · obtain ⟨token, hread, -⟩ := hlossless.1 h
        exact ⟨token, hread⟩
      · obtain ⟨token, hname, rfl⟩ := isToken_iff.1 hfront
        exact ⟨token, read?_source_lineFeed hname⟩
  · rcases source_of_read? hread with rfl | rfl
    · rcases source_of_read? hother with rfl | rfl
      · exact .inl rfl
      · exact .inr (.inr rfl)
    · rcases source_of_read? hother with rfl | rfl
      · exact .inr (.inl rfl)
      · exact .inl rfl

/-- The arguments go on to the last parenthesis, whatever they close and on whichever line. -/
theorem isToken_of_unbalanced :
    IsToken "@f(a)\n(b)".text ∧
    read? "@f(a)\n(b)".text = some ⟨['f'], some "a)\n(b".text, true⟩ := by
  have hread : read? "@f(a)\n(b)".text = some ⟨['f'], some "a)\n(b".text, true⟩ := by decide
  exact ⟨(read?_iff_isToken "@f(a)\n(b)".text).1.2 ⟨_, hread, by decide⟩, hread⟩

/-- A text outside the grammar is read, as the same token as the text without the line feed. -/
theorem read?_lineFeed :
    read? "f\n".text = some ⟨['f'], none, false⟩ ∧ ¬ IsToken "f\n".text ∧
    (⟨['f'], none, false⟩ : Token).source ≠ "f\n".text ∧ read? ['f'] = read? "f\n".text :=
  ⟨by decide, fun h => h.getLast?_ne rfl, by decide, by decide⟩

end Token

end Stencil
