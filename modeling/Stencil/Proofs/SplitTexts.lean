import Stencil.Library.Lists
import Stencil.Library.Strings
import Stencil.Proofs.TokenTexts

/-!
# Split and replaced texts

Splitting a text and replacing in it find the same occurrences of a separator: from left to
right, each behind the end of the one before it. So the pieces joined by a replacement are the
replaced text, joined by the separator they are the text again, and none of them has the
separator in it, also where occurrences overlap.
-/

namespace Stencil

namespace Text

variable {old sep : Text}

theorem startsWith_iff {pattern t : Text} : startsWith pattern t = true ↔ pattern <+: t :=
  List.isPrefixOf_iff_prefix

theorem startsWith_append (c : CodePoint) (later rest : Text) :
    startsWith (c :: later) (c :: (later ++ rest)) = true :=
  startsWith_iff.2 (List.prefix_append (c :: later) rest)

/-- An occurrence is passed as a whole, and where there is none a single character is. -/
theorem scan_induction (hsep : sep ≠ []) {motive : Text → Prop} (nil : motive [])
    (found : ∀ rest, motive rest → motive (sep ++ rest))
    (other : ∀ c rest, ¬ sep <+: c :: rest → motive rest → motive (c :: rest)) (t : Text) :
    motive t := by
  -- on the length, since an occurrence is passed at once
  induction hlength : t.length using Nat.strong_induction_on generalizing t with
  | _ length ih =>
    subst hlength
    cases t with
    | nil => exact nil
    | cons c rest =>
      by_cases hstarts : sep <+: c :: rest
      · obtain ⟨later, hlater⟩ := hstarts
        have hshorter : later.length < (c :: rest).length := by
          have hpos := List.length_pos_iff.2 hsep
          have hsum := congrArg List.length hlater
          rw [List.length_append] at hsum
          omega
        rw [← hlater]
        exact found later (ih _ hshorter later rfl)
      · exact other c rest hstarts (ih _ (by simp) rest rfl)

/-! ## Pieces -/

theorem splitFrom_skip (sep piece skipped rest : Text) :
    splitFrom sep skipped.length piece (skipped ++ rest) = splitFrom sep 0 piece rest := by
  induction skipped with
  | nil => rfl
  | cons c skipped ih => exact ih

theorem splitFrom_found (hsep : sep ≠ []) (piece rest : Text) :
    splitFrom sep 0 piece (sep ++ rest) = piece.reverse :: splitOn sep rest := by
  obtain ⟨c, later, rfl⟩ := List.exists_cons_of_ne_nil hsep
  rw [List.cons_append, splitFrom, if_pos (startsWith_append c later rest)]
  exact congrArg _ (splitFrom_skip (c :: later) [] later rest)

theorem splitFrom_other {c : CodePoint} {rest : Text} (h : ¬ sep <+: c :: rest) (piece : Text) :
    splitFrom sep 0 piece (c :: rest) = splitFrom sep 0 (c :: piece) rest := by
  rw [splitFrom, if_neg (mt startsWith_iff.1 h)]

theorem splitFrom_ne_nil (hsep : sep ≠ []) (piece t : Text) : splitFrom sep 0 piece t ≠ [] := by
  induction t using scan_induction hsep generalizing piece with
  | nil => simp [splitFrom]
  | found rest => simp [splitFrom_found hsep]
  | other c rest hother ih =>
    rw [splitFrom_other hother]
    exact ih (c :: piece)

/-! ## Replacements -/

theorem replaceFrom_skip (old new skipped rest : Text) :
    replaceFrom old new skipped.length (skipped ++ rest) = replaceFrom old new 0 rest := by
  induction skipped with
  | nil => rfl
  | cons c skipped ih => exact ih

theorem replaceFrom_found (hold : old ≠ []) (new rest : Text) :
    replaceFrom old new 0 (old ++ rest) = new ++ replaceFrom old new 0 rest := by
  obtain ⟨c, later, rfl⟩ := List.exists_cons_of_ne_nil hold
  rw [List.cons_append, replaceFrom, if_pos (startsWith_append c later rest)]
  exact congrArg _ (replaceFrom_skip (c :: later) new later rest)

theorem replaceFrom_other {c : CodePoint} {rest : Text} (h : ¬ old <+: c :: rest) (new : Text) :
    replaceFrom old new 0 (c :: rest) = c :: replaceFrom old new 0 rest := by
  rw [replaceFrom, if_neg (mt startsWith_iff.1 h)]

/-- Each occurrence replaced by itself. -/
theorem replaceFrom_self (hold : old ≠ []) (t : Text) : replaceFrom old old 0 t = t := by
  induction t using scan_induction hold with
  | nil => rfl
  | found rest ih => rw [replaceFrom_found hold, ih]
  | other c rest hother ih => rw [replaceFrom_other hother, ih]

/-! ## Pieces joined again -/

theorem join_splitFrom (hold : old ≠ []) (new piece t : Text) :
    join new (splitFrom old 0 piece t) = piece.reverse ++ replaceFrom old new 0 t := by
  induction t using scan_induction hold generalizing piece with
  | nil => simp [splitFrom, replaceFrom, join]
  | found rest ih =>
    have hrest : join new (splitOn old rest) = replaceFrom old new 0 rest := ih []
    have hne : splitOn old rest ≠ [] := splitFrom_ne_nil hold [] rest
    rw [splitFrom_found hold, join_cons hne, hrest, replaceFrom_found hold, List.append_assoc]
  | other c rest hother ih =>
    rw [splitFrom_other hother, ih, replaceFrom_other hother, List.reverse_cons,
      List.append_assoc, List.singleton_append]

theorem join_splitOn_eq_replace (hold : old ≠ []) (new t : Text) :
    join new (splitOn old t) = replace old new t := by
  rw [replace, if_neg (by simpa using hold)]
  exact join_splitFrom hold new [] t

theorem join_splitOn (hsep : sep ≠ []) (t : Text) : join sep (splitOn sep t) = t :=
  (join_splitFrom hsep sep [] t).trans (replaceFrom_self hsep t)

/-! ## What a piece does not contain -/

/-- No occurrence of the separator starts in the front of a text. -/
def StartsBehind (sep front back : Text) : Prop :=
  ∀ u, u <:+ front → u ≠ [] → ¬ sep <+: u ++ back

theorem StartsBehind.nil (sep back : Text) : StartsBehind sep [] back := by
  intro u hu hne
  exact absurd (List.suffix_nil.1 hu) hne

theorem StartsBehind.concat {front rest : Text} {c : CodePoint}
    (h : StartsBehind sep front (c :: rest)) (hc : ¬ sep <+: c :: rest) :
    StartsBehind sep (front ++ [c]) rest := by
  intro u hu hne
  rcases List.suffix_concat_iff.1 hu with rfl | ⟨v, rfl, hv⟩
  · exact absurd rfl hne
  · rw [List.append_assoc, List.singleton_append]
    by_cases hv' : v = []
    · rw [hv']
      exact hc
    · exact h v hv hv'

theorem StartsBehind.not_infix (hsep : sep ≠ []) {front back : Text}
    (h : StartsBehind sep front back) : ¬ sep <:+: front := by
  rintro ⟨before, after, rfl⟩
  refine h (sep ++ after) ?_ (by simp [hsep]) ?_
  · rw [List.append_assoc]
    exact List.suffix_append before (sep ++ after)
  · rw [List.append_assoc]
    exact List.prefix_append sep (after ++ back)

/-- A piece ends where the first occurrence starts, so none starts in it. -/
theorem not_infix_of_mem_splitFrom (hsep : sep ≠ []) {t u : Text} (piece : Text)
    (hpiece : StartsBehind sep piece.reverse t) (hu : u ∈ splitFrom sep 0 piece t) :
    ¬ sep <:+: u := by
  induction t using scan_induction hsep generalizing piece with
  | nil =>
    rw [List.mem_singleton.1 hu]
    exact hpiece.not_infix hsep
  | found rest ih =>
    rw [splitFrom_found hsep] at hu
    rcases List.mem_cons.1 hu with rfl | hlater
    · exact hpiece.not_infix hsep
    · exact ih [] (.nil sep rest) hlater
  | other c rest hother ih =>
    rw [splitFrom_other hother] at hu
    refine ih (c :: piece) ?_ hu
    rw [List.reverse_cons]
    exact hpiece.concat hother

theorem not_infix_of_mem_splitOn (hsep : sep ≠ []) {t u : Text} (h : u ∈ splitOn sep t) :
    ¬ sep <:+: u :=
  not_infix_of_mem_splitFrom hsep [] (.nil sep t) h

end Text

namespace Library

attribute [local instance (high)] instPowNat

theorem outputs_text (pieces : List Text) : outputs (pieces.map .text) = .ok pieces := by
  induction pieces with
  | nil => rfl
  | cons t rest ih =>
    rw [List.map_cons, outputs, ih]
    rfl

variable {separator v : Value} {sep t : Text}

theorem explode_eq (hsep : separator.output = .ok sep) (hne : sep ≠ []) (ht : v.output = .ok t) :
    explode [separator, v] = .ok (.list ((Text.splitOn sep t).map .text)) := by
  have hnonempty : sep.isEmpty = false := by simpa using hne
  simp [explode, hsep, ht, hnonempty, bind, Except.bind, pure, Except.pure]

/-- A value separates a list of texts that stands behind it. -/
theorem implode_eq (hsep : separator.output = .ok sep) (pieces : List Text) :
    implode [separator, .list (pieces.map .text)] = .ok (.text (Text.join sep pieces)) := by
  have hlist : (Value.list (pieces.map .text)).items? = some (pieces.map .text) := rfl
  simp [implode, hlist, hsep, outputs_text, bind, Except.bind, pure, Except.pure]

/-- A list of texts in front of a value that is not iterated over is separated by it. -/
theorem implode_swapped (hitems : separator.items? = none) (pieces : List Text) :
    implode [.list (pieces.map .text), separator] =
      implode [separator, .list (pieces.map .text)] := by
  have hlist : (Value.list (pieces.map .text)).items? = some (pieces.map .text) := rfl
  simp [implode, hlist, hitems]

/-- Splitting, joining and replacing agree. The separator does not occur in the pieces into which
it splits a value. Joined by it they are the text of the value, also with the list in front if the
separator is not iterated over itself. Joined by the text of a replacement they are that text with
the separator replaced, whichever function replaces it. -/
theorem exploded_pieces_agree (hsep : separator.output = .ok sep) (hne : sep ≠ [])
    (ht : v.output = .ok t) :
    ∃ pieces : List Text,
      explode [separator, v] = .ok (.list (pieces.map .text)) ∧
      implode [separator, .list (pieces.map .text)] = .ok (.text t) ∧
      (separator.items? = none →
        implode [.list (pieces.map .text), separator] = .ok (.text t)) ∧
      (∀ piece ∈ pieces, ¬ sep <:+: piece) ∧
      ∀ replacement : Value,
        replaceIn [separator, replacement, v] = replace [v, separator, replacement] ∧
        replace [v, separator, replacement] = (do
          let new ← replacement.output
          implode [.text new, .list (pieces.map .text)]) := by
  have hjoined := implode_eq hsep (Text.splitOn sep t)
  rw [Text.join_splitOn hne] at hjoined
  refine ⟨Text.splitOn sep t, explode_eq hsep hne ht, hjoined, fun hitems => ?_,
    fun piece => Text.not_infix_of_mem_splitOn hne, fun replacement => ⟨rfl, ?_⟩⟩
  · rw [implode_swapped hitems, hjoined]
  · have hreplace : replace [v, separator, replacement] =
        replacement.output.bind fun new => .ok (.text (Text.replace sep new t)) := by
      simp [replace, replaced, hsep, ht, bind, Except.bind, pure, Except.pure]
    rw [hreplace]
    refine congrArg _ (funext fun new => ?_)
    have hnew : (Value.text new).output = .ok new := rfl
    rw [implode_eq hnew, Text.join_splitOn_eq_replace hne]

/-- Of two occurrences that overlap the first one counts. -/
theorem exploded_overlaps_agree :
    (Value.text ['a', 'a']).output = .ok ['a', 'a'] ∧
    (['a', 'a'] : Text) ≠ [] ∧ (Value.text ['a', 'a', 'a']).output = .ok ['a', 'a', 'a'] ∧
    (Value.text ['a', 'a']).items? = none ∧
    explode [.text ['a', 'a'], .text ['a', 'a', 'a']] = .ok (.list [.text [], .text ['a']]) ∧
    ∃ pieces : List Text,
      explode [.text ['a', 'a'], .text ['a', 'a', 'a']] = .ok (.list (pieces.map .text)) ∧
      implode [.text ['a', 'a'], .list (pieces.map .text)] = .ok (.text ['a', 'a', 'a']) ∧
      ((Value.text ['a', 'a']).items? = none →
        implode [.list (pieces.map .text), .text ['a', 'a']] = .ok (.text ['a', 'a', 'a'])) ∧
      (∀ piece ∈ pieces, ¬ "aa".text <:+: piece) ∧
      ∀ replacement : Value,
        replaceIn [.text ['a', 'a'], replacement, .text ['a', 'a', 'a']] =
          replace [.text ['a', 'a', 'a'], .text ['a', 'a'], replacement] ∧
        replace [.text ['a', 'a', 'a'], .text ['a', 'a'], replacement] = (do
          let new ← replacement.output
          implode [.text new, .list (pieces.map .text)]) :=
  ⟨rfl, by decide, rfl, rfl, rfl, exploded_pieces_agree rfl (by decide) rfl⟩

/-- A range of two numbers. -/
def twoSteps : Value := .iterable [.int 0, .int 1] "range(0, 2)".text true

/-- A separator that is iterated over is separated itself where it stands behind the pieces, and a
value without a text has no pieces. -/
theorem exploded_pieces_disagree :
    (twoSteps.output = .ok "range(0, 2)".text ∧
      explode [twoSteps, .text "a range(0, 2)".text] =
        .ok (.list [.text "a ".text, .text []]) ∧
      implode [.list [.text "a ".text, .text []], twoSteps] =
        .ok (.text "0['a ', '']1".text)) ∧
    (Value.int (10 ^ (4300 : Nat))).output = .error .badValue ∧
    explode [.text [','], .int (10 ^ (4300 : Nat))] = .error .badValue := by
  have hnone : (Value.int (10 ^ (4300 : Nat))).output = .error .badValue := by decide +kernel
  refine ⟨⟨rfl, rfl, rfl⟩, hnone, ?_⟩
  rw [explode, hnone]
  rfl

end Library

end Stencil
