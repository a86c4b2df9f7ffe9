import Mathlib.Data.List.TakeWhile
import Stencil.Proofs.ChainScan
import Stencil.Registry.FunctionTable
import Stencil.Token

/-!
# Texts of tokens

The canonical text of a token is read as that token, whatever its argument text. It stays
in one piece of a chain when its argument text closes its own quotes and parentheses.
-/

namespace Stencil

namespace Text

/-- Text that starts and ends with no blank. -/
structure Trimmed (t : Text) : Prop where
  first : ∀ c, t.head? = some c → isBlank c = false
  last : ∀ c, t.getLast? = some c → isBlank c = false

theorem trimmed_iff {t : Text} :
    Trimmed t ↔ (t.head?.all fun c => !isBlank c) = true ∧
      (t.getLast?.all fun c => !isBlank c) = true := by
  simp only [Option.all_eq_true, Bool.not_eq_true']
  exact ⟨fun h => ⟨h.first, h.last⟩, fun h => ⟨h.1, h.2⟩⟩

instance (t : Text) : Decidable (Trimmed t) := decidable_of_iff _ trimmed_iff.symm

theorem dropWhile_of_head {drop : CodePoint → Bool} {t : Text}
    (h : ∀ c, t.head? = some c → drop c = false) : t.dropWhile drop = t := by
  cases t with
  | nil => rfl
  | cons c rest => rw [List.dropWhile_cons_of_neg (by simp [h c rfl])]

theorem head_of_dropWhile {drop : CodePoint → Bool} {t : Text} (h : t.dropWhile drop = t) :
    ∀ c, t.head? = some c → drop c = false := by
  intro c hc
  have hnot := List.head?_dropWhile_not drop t
  rw [h, hc] at hnot
  exact hnot

/-- Trimming leaves the texts alone that start and end with a character it does not drop. -/
theorem trimBy_eq_self_iff {drop : CodePoint → Bool} {t : Text} :
    trimBy drop t = t ↔
      (∀ c, t.head? = some c → drop c = false) ∧ ∀ c, t.getLast? = some c → drop c = false := by
  rw [trimBy, trimEndBy, trimStartBy, ← List.head?_reverse]
  constructor
  · intro h
    have hstart : t.dropWhile drop = t := by
      refine (List.dropWhile_suffix drop).eq_of_length_le ?_
      have hle := length_trimEndBy_le drop (t.dropWhile drop)
      rwa [trimEndBy, h] at hle
    rw [hstart] at h
    exact ⟨head_of_dropWhile hstart, head_of_dropWhile (List.reverse_eq_iff.1 h)⟩
  · rintro ⟨hfirst, hlast⟩
    rw [dropWhile_of_head hfirst, dropWhile_of_head hlast, List.reverse_reverse]

theorem trimBy_append_left {drop : CodePoint → Bool} {front : Text} (h : ∀ c ∈ front, drop c = true)
    (t : Text) : trimBy drop (front ++ t) = trimBy drop t := by
  rw [trimBy, trimBy, trimStartBy, trimStartBy, List.dropWhile_append_of_pos h]

theorem trimBy_append_right {drop : CodePoint → Bool} {back : Text} (h : ∀ c ∈ back, drop c = true)
    (t : Text) : trimBy drop (t ++ back) = trimBy drop t := by
  have hback : back.dropWhile drop = [] := List.dropWhile_eq_nil_iff.2 h
  have hreverse : ∀ c ∈ back.reverse, drop c = true := by
    intro c hc
    exact h c (List.mem_reverse.1 hc)
  unfold trimBy trimStartBy trimEndBy
  rw [List.dropWhile_append]
  cases hkept : t.dropWhile drop with
  | nil => simp [hback]
  | cons c rest =>
    rw [List.isEmpty_cons, if_neg (by decide), List.reverse_append,
      List.dropWhile_append_of_pos hreverse]

theorem Trimmed.nil : Trimmed [] where
  first := fun c hc => by cases hc
  last := fun c hc => by cases hc

theorem Trimmed.append {front t : Text} (h : Trimmed front) (h' : Trimmed t) (hfront : front ≠ [])
    (ht : t ≠ []) (middle : Text) : Trimmed (front ++ middle ++ t) where
  first := fun c hc => by
    rw [List.append_assoc, List.head?_append, List.head?_eq_some_head hfront, Option.some_or] at hc
    exact h.first c ((List.head?_eq_some_head hfront).trans hc)
  last := fun c hc => by
    rw [List.getLast?_append, List.getLast?_eq_some_getLast ht, Option.some_or] at hc
    exact h'.last c ((List.getLast?_eq_some_getLast ht).trans hc)

theorem Trimmed.trim_eq {t : Text} (h : Trimmed t) : trim t = t :=
  trimBy_eq_self_iff.2 ⟨h.first, h.last⟩

def Blanks (t : Text) : Prop := ∀ c ∈ t, isBlank c = true

instance (t : Text) : Decidable (Blanks t) := decidable_of_iff _ List.all_eq_true

theorem Blanks.nil : Blanks [] := fun c hc => by cases hc

theorem trim_blanks_append {blanks : Text} (h : Blanks blanks) (t : Text) :
    trim (blanks ++ t) = trim t :=
  trimBy_append_left h t

theorem trim_append_blanks {blanks : Text} (h : Blanks blanks) (t : Text) :
    trim (t ++ blanks) = trim t :=
  trimBy_append_right h t

theorem trim_blanks {blanks : Text} (h : Blanks blanks) : trim blanks = [] :=
  trim_append_blanks h []

theorem getLast?_trim_concat {c : CodePoint} (hc : isBlank c = false) (t : Text) :
    (trim (t ++ [c])).getLast? = some c := by
  have hstart : (t ++ [c]).dropWhile isBlank = t.dropWhile isBlank ++ [c] := by
    rw [List.dropWhile_append]
    split
    · next hempty =>
      rw [List.isEmpty_iff.1 hempty, List.nil_append, List.dropWhile_cons_of_neg (by simp [hc])]
    · rfl
  rw [trim, trimBy, trimStartBy, hstart, trimEndBy, List.reverse_concat,
    List.dropWhile_cons_of_neg (by simp [hc]), List.reverse_cons, List.reverse_reverse,
    List.getLast?_concat]

/-- Trimming takes blanks away on both sides. -/
theorem exists_trim (t : Text) :
    ∃ before after, Blanks before ∧ Blanks after ∧ t = before ++ (trim t ++ after) := by
  refine ⟨t.takeWhile isBlank, ((t.dropWhile isBlank).reverse.takeWhile isBlank).reverse,
    ?_, ?_, ?_⟩
  · intro c hc
    exact List.mem_takeWhile_imp hc
  · intro c hc
    exact List.mem_takeWhile_imp (List.mem_reverse.1 hc)
  · unfold trim trimBy trimStartBy trimEndBy
    rw [← List.reverse_append, List.takeWhile_append_dropWhile, List.reverse_reverse,
      List.takeWhile_append_dropWhile]

theorem blanks_of_trim {t : Text} (h : trim t = []) : Blanks t := by
  obtain ⟨before, after, hbefore, hafter, hparts⟩ := exists_trim t
  rw [h, List.nil_append] at hparts
  intro c hc
  rw [hparts] at hc
  rcases List.mem_append.1 hc with hmem | hmem
  · exact hbefore c hmem
  · exact hafter c hmem

theorem mem_join {sep : Text} {pieces : List Text} {c : CodePoint} (h : c ∈ join sep pieces) :
    c ∈ sep ∨ ∃ t ∈ pieces, c ∈ t := by
  induction pieces using join.induct with
  | case1 => cases h
  | case2 t => exact .inr ⟨t, by simp, h⟩
  | case3 t rest hrest ih =>
    rw [join] at h
    · rcases List.mem_append.1 h with hfront | hlater
      · rcases List.mem_append.1 hfront with ht | hsep
        · exact .inr ⟨t, by simp, ht⟩
        · exact .inl hsep
      · rcases ih hlater with hsep | ⟨u, hu, hc⟩
        · exact .inl hsep
        · exact .inr ⟨u, List.mem_cons_of_mem t hu, hc⟩
    · exact hrest

theorem join_cons {sep t : Text} {rest : List Text} (h : rest ≠ []) :
    join sep (t :: rest) = t ++ sep ++ join sep rest := by
  obtain ⟨u, rest, rfl⟩ := List.exists_cons_of_ne_nil h
  rfl

theorem join_ne_nil {sep t : Text} (h : t ≠ []) (rest : List Text) : join sep (t :: rest) ≠ [] := by
  cases rest with
  | nil => exact h
  | cons u rest => simp [join, h]

theorem filter_join (keep : CodePoint → Bool) (sep : Text) (pieces : List Text) :
    (join sep pieces).filter keep =
      join (sep.filter keep) (pieces.map fun t => t.filter keep) := by
  induction pieces with
  | nil => rfl
  | cons t rest ih =>
    cases rest with
    | nil => rfl
    | cons u rest =>
      rw [join, List.filter_append, List.filter_append, ih]
      · rfl
      · simp

theorem code_of_isNameChar {c : CodePoint} (h : isNameChar c = true) :
    (48 ≤ c.toNat ∧ c.toNat ≤ 57) ∨ (65 ≤ c.toNat ∧ c.toNat ≤ 90) ∨ c.toNat = 95 ∨
      (97 ≤ c.toNat ∧ c.toNat ≤ 122) := by
  simp only [isNameChar, isLetter, isDigit, digitValue?, Bool.or_eq_true, Bool.and_eq_true,
    decide_eq_true_eq, beq_iff_eq, CodePoint.le_def] at h
  rcases h with ((⟨h, h'⟩ | ⟨h, h'⟩) | h) | rfl
  · exact .inr (.inr (.inr ⟨h, h'⟩))
  · exact .inr (.inl ⟨h, h'⟩)
  · split at h
    · next hd => exact .inl hd
    · simp at h
  · exact .inr (.inr (.inl rfl))

theorem isBlank_of_isNameChar {c : CodePoint} (h : isNameChar c = true) : isBlank c = false := by
  have hcode := code_of_isNameChar h
  simp [isBlank, inRanges, blankRanges]
  omega

theorem trimmed_of_nameChars {t : Text} (h : ∀ c ∈ t, isNameChar c = true) : Trimmed t where
  first := fun c hc => isBlank_of_isNameChar (h c (List.mem_of_head? hc))
  last := fun c hc => isBlank_of_isNameChar (h c (List.mem_of_getLast? hc))

end Text

namespace FunctionTable

theorem isName_iff {name : Text} :
    isName name = true ↔ name ≠ [] ∧ ∀ c ∈ name, Text.isNameChar c = true := by
  simp [isName]

end FunctionTable

open FunctionTable (isName isName_iff)

namespace Chain

theorem isNeutral_of_isNameChar {c : CodePoint} (h : Text.isNameChar c = true) :
    Position.isNeutral c = true := by
  have hne : ∀ d, Text.isNameChar d = false → c ≠ d := fun d => Text.ne_of_test h
  simp [Position.isNeutral, Position.isMark, hne '"' rfl, hne '\'' rfl, hne '(' rfl, hne ')' rfl]

theorem contained_of_nameChars {t : Text} (h : ∀ c ∈ t, Text.isNameChar c = true) (depth : Int) :
    Contained depth t := by
  refine .of_neutral (fun c hc => isNeutral_of_isNameChar (h c hc)) ?_ ?_
  · exact fun hdot => absurd (h '.' hdot) (by decide)
  · exact fun hslash => absurd (h '\\' hslash) (by decide)

/-- Text that is one token of a chain: it is not empty, starts and ends with no blank, and
the scanner passes over it and ends outside quotes and parentheses. -/
structure Closed (t : Text) : Prop where
  nonempty : t ≠ []
  trimmed : Text.Trimmed t
  whole : Whole t

theorem closed_iff {t : Text} : Closed t ↔ t ≠ [] ∧ Text.Trimmed t ∧ Whole t :=
  ⟨fun h => ⟨h.nonempty, h.trimmed, h.whole⟩, fun h => ⟨h.1, h.2.1, h.2.2⟩⟩

instance (t : Text) : Decidable (Closed t) := decidable_of_iff _ closed_iff.symm

theorem Closed.split_eq {t : Text} (h : Closed t) : split t = [t] := by
  rw [split_whole h.whole h.nonempty, h.trimmed.trim_eq]

end Chain

namespace Token

/-- The canonical text of an argument list, with its parentheses. -/
def argsText : Option Text → Text
  | none => []
  | some args => .char '(' :: (args ++ [.char ')'])

theorem source_eq (t : Token) :
    t.source = (if t.direct then [directMark] else []) ++ (t.name ++ argsText t.args) := by
  rw [source, List.append_assoc]
  cases t.args <;> rfl

/-- A name by itself is the text of its token. -/
theorem source_bare (name : Text) : (⟨name, none, false⟩ : Token).source = name := by
  simp [source]

theorem readArgs?_argsText (args : Option Text) : readArgs? (argsText args) = some args := by
  cases args with
  | none => rfl
  | some args => simp [argsText, readArgs?]

theorem getLast?_argsText (args : Option Text) : (argsText args).getLast? ≠ some (.char '\n') := by
  cases args with
  | none => nofun
  | some args =>
    rw [argsText, ← List.cons_append, List.getLast?_concat]
    decide

theorem head?_argsText {args : Option Text} {c : CodePoint} (h : (argsText args).head? = some c) :
    Text.isNameChar c = false := by
  cases args with
  | none => simp [argsText] at h
  | some args =>
    have heq : '(' = c := by simpa [argsText] using h
    exact heq ▸ by decide

theorem splitMark_source {t : Token} (h : isName t.name = true) (tail : Text) :
    splitMark (t.source ++ tail) = (t.direct, t.name ++ (argsText t.args ++ tail)) := by
  obtain ⟨hne, hchars⟩ := isName_iff.1 h
  obtain ⟨c, rest, hname⟩ := List.exists_cons_of_ne_nil hne
  have hmark : c ≠ directMark := Text.ne_of_test (hchars c (by simp [hname])) rfl
  rw [source_eq]
  cases t.direct with
  | true => simp [splitMark]
  | false => simp [hname, splitMark, hmark]

/-- A token is read from its own text, which a line feed may follow. -/
theorem read?_source_append {t : Token} (h : isName t.name = true) {tail : Text}
    (htail : dropLineFeed (argsText t.args ++ tail) = argsText t.args)
    (hhead : ∀ c, tail.head? = some c → Text.isNameChar c = false) :
    read? (t.source ++ tail) = some t := by
  obtain ⟨hne, hchars⟩ := isName_iff.1 h
  have hkept : ∀ c, (argsText t.args ++ tail).head? = some c → Text.isNameChar c = false := by
    intro c hc
    rw [List.head?_append, Option.or_eq_some_iff] at hc
    rcases hc with hargs | ⟨-, hlater⟩
    · exact head?_argsText hargs
    · exact hhead c hlater
  have hdrop : (t.name ++ (argsText t.args ++ tail)).dropWhile Text.isNameChar =
      argsText t.args ++ tail := by
    rw [List.dropWhile_append_of_pos hchars, Text.dropWhile_of_head hkept]
  have htake : (t.name ++ (argsText t.args ++ tail)).takeWhile Text.isNameChar = t.name := by
    have hsplit := List.takeWhile_append_dropWhile (p := Text.isNameChar)
      (l := t.name ++ (argsText t.args ++ tail))
    rw [hdrop] at hsplit
    exact List.append_cancel_right hsplit
  rw [read?, splitMark_source h]
  simp [htake, hdrop, htail, readArgs?_argsText, hne]

theorem read?_source {t : Token} (h : isName t.name = true) : read? t.source = some t := by
  have htail : dropLineFeed (argsText t.args ++ []) = argsText t.args := by
    rw [List.append_nil, dropLineFeed, if_neg (getLast?_argsText t.args)]
  have hread := read?_source_append h htail nofun
  rwa [List.append_nil] at hread

theorem read?_source_lineFeed {t : Token} (h : isName t.name = true) :
    read? (t.source ++ [.char '\n']) = some t := by
  refine read?_source_append h ?_ ?_
  · rw [dropLineFeed, List.getLast?_concat, if_pos rfl, List.dropLast_concat]
  · intro c hc
    have heq : '\n' = c := by simpa using hc
    exact heq ▸ by decide

/-- Whatever text a token is read from, its name is one that a table takes. -/
theorem isName_of_read? {t : Text} {token : Token} (h : read? t = some token) :
    isName token.name = true := by
  unfold read? at h
  split at h
  next direct body hmark =>
  simp only at h
  split at h
  · cases h
  · next hname =>
    obtain ⟨args, -, rfl⟩ := Option.map_eq_some_iff.1 h
    refine isName_iff.2 ⟨by simpa using hname, fun c hc => ?_⟩
    exact List.mem_takeWhile_imp hc

theorem argsText_of_readArgs? {t : Text} {args : Option Text} (h : readArgs? t = some args) :
    t = argsText args := by
  unfold readArgs? at h
  split at h
  · cases h
    rfl
  · next c rest =>
    split at h
    · next hmarks =>
      obtain ⟨rfl, hlast⟩ := hmarks
      obtain ⟨front, rfl⟩ := List.getLast?_eq_some_iff.1 hlast
      cases h
      rw [List.dropLast_concat, argsText]
    · cases h

theorem eq_of_dropLineFeed (t : Text) :
    t = dropLineFeed t ∨ t = dropLineFeed t ++ [.char '\n'] := by
  unfold dropLineFeed
  split
  · next hlast =>
    obtain ⟨front, rfl⟩ := List.getLast?_eq_some_iff.1 hlast
    rw [List.dropLast_concat]
    exact .inr rfl
  · exact .inl rfl

theorem splitMark_eq (t : Text) :
    t = (if (splitMark t).1 then [directMark] else []) ++ (splitMark t).2 := by
  unfold splitMark
  split
  · rfl
  · next c rest =>
    split
    · next hmark => simp [hmark]
    · rfl

/-- A token is read from its own text, which a line feed may follow, and from no other. -/
theorem source_of_read? {t : Text} {token : Token} (h : read? t = some token) :
    t = token.source ∨ t = token.source ++ [.char '\n'] := by
  have hmark := splitMark_eq t
  unfold read? at h
  split at h
  next direct body hbody =>
  simp only at h
  split at h
  · cases h
  · obtain ⟨args, hargs, rfl⟩ := Option.map_eq_some_iff.1 h
    have hname := List.takeWhile_append_dropWhile (p := Text.isNameChar) (l := body)
    have htail := argsText_of_readArgs? hargs
    rw [hbody] at hmark
    rw [source_eq]
    rcases eq_of_dropLineFeed (body.dropWhile Text.isNameChar) with hline | hline
    · left
      rw [hmark, ← htail, ← hline, hname]
    · right
      rw [List.append_assoc, List.append_assoc, ← htail, ← hline, hname]
      exact hmark

/-- A token has its mark, its name, its parentheses and its arguments, and no other characters. -/
theorem mem_source {t : Token} (h : isName t.name = true) {c : CodePoint} (hc : c ∈ t.source) :
    c ∈ [directMark, '(', ')'] ∨ Text.isNameChar c = true ∨
      ∃ args, t.args = some args ∧ c ∈ args := by
  obtain ⟨-, hchars⟩ := isName_iff.1 h
  rw [source_eq] at hc
  rcases List.mem_append.1 hc with hmark | hc
  · cases hdirect : t.direct with
    | true =>
      rw [hdirect, if_pos rfl, List.mem_singleton] at hmark
      exact .inl (hmark ▸ List.mem_cons_self)
    | false => simp [hdirect] at hmark
  · rcases List.mem_append.1 hc with hname | hc
    · exact .inr (.inl (hchars c hname))
    · cases hargs : t.args with
      | none => simp [hargs, argsText] at hc
      | some args =>
        rw [hargs, argsText] at hc
        rcases List.mem_cons.1 hc with rfl | hc
        · exact .inl (by decide)
        · rcases List.mem_append.1 hc with hmem | hclose
          · exact .inr (.inr ⟨args, rfl, hmem⟩)
          · rw [List.mem_singleton.1 hclose]
            exact .inl (by decide)

/-- The text of a token is one piece of a chain if its arguments close what they open. -/
theorem contained_source {t : Token} (h : isName t.name = true)
    (hargs : ∀ args, t.args = some args → Chain.Contained 1 args) :
    Chain.Contained 0 t.source := by
  obtain ⟨-, hchars⟩ := isName_iff.1 h
  have hmark : Chain.Contained 0 (if t.direct then [directMark] else []) := by
    cases t.direct with
    | true => exact .of_neutral (by simp [directMark]; decide) (by decide) (by decide)
    | false => exact .nil
  rw [source_eq]
  refine hmark.append ((Chain.contained_of_nameChars hchars 0).append ?_)
  cases hsome : t.args with
  | none => exact .nil
  | some args => exact .parenthesized (hargs args hsome)

theorem trimmed_source {t : Token} (h : isName t.name = true) : Text.Trimmed t.source := by
  obtain ⟨hne, hchars⟩ := isName_iff.1 h
  obtain ⟨c, rest, hname⟩ := List.exists_cons_of_ne_nil hne
  have hblank := Text.trimmed_of_nameChars hchars
  rw [source_eq]
  constructor
  · intro d hd
    cases hdirect : t.direct with
    | true =>
      have heq : directMark = d := by simpa [hdirect] using hd
      exact heq ▸ by decide
    | false =>
      have heq : c = d := by simpa [hdirect, hname] using hd
      exact hblank.first d (by simp [hname, heq])
  · intro d hd
    cases hsome : t.args with
    | none =>
      rw [hsome, argsText, List.append_nil, List.getLast?_append,
        List.getLast?_eq_some_getLast hne, Option.some_or] at hd
      exact hblank.last d ((List.getLast?_eq_some_getLast hne).trans hd)
    | some args =>
      rw [hsome, argsText, ← List.cons_append, ← List.append_assoc, ← List.append_assoc,
        List.getLast?_concat] at hd
      cases hd
      decide

theorem closed_source {t : Token} (h : isName t.name = true)
    (hargs : ∀ args, t.args = some args → Chain.Contained 1 args) : Chain.Closed t.source where
  nonempty := by simp [source, (isName_iff.1 h).1]
  trimmed := trimmed_source h
  whole := (contained_source h hargs).whole

end Token

end Stencil
