import Stencil.Library.Slug
import Stencil.Proofs.TokenTexts

/-!
# Slugs

The words of a text are its longest runs of small ASCII letters and digits. A slug is the words
of a lower-cased text, joined by the separator, where the separator stands for itself as a
pattern and trimming it takes nothing from a word. Joined by hyphens the words make a slug of
its own: its words are the same, so that it stays as it is.
-/

namespace Stencil.Library

open Stencil.Text (join)

/-! ## Words -/

/-- The longest runs of slug characters. -/
def words (t : Text) : List Text :=
  (t.splitOnP fun c => !isSlugChar c).filter fun w => !w.isEmpty

structure IsWord (w : Text) : Prop where
  nonempty : w ≠ []
  chars : ∀ c ∈ w, isSlugChar c = true

theorem words_nil : words [] = [] := by simp [words]

/-- No word goes on across another character. -/
theorem words_append_gap {c : CodePoint} (hc : isSlugChar c = false) (front back : Text) :
    words (front ++ c :: back) = words front ++ words back := by
  rw [words, List.splitOnP_append_cons front back (by simp [hc]), List.filter_append]
  rfl

theorem words_gap {c : CodePoint} (hc : isSlugChar c = false) (t : Text) :
    words (c :: t) = words t :=
  words_append_gap hc [] t

theorem IsWord.words_eq {w : Text} (h : IsWord w) : words w = [w] := by
  rw [words, List.splitOnP_eq_singleton fun c hc => by simp [h.chars c hc]]
  simp [h.nonempty]

theorem isWord_singleton {c : CodePoint} (hc : isSlugChar c = true) : IsWord [c] where
  nonempty := by simp
  chars := List.forall_mem_singleton.2 hc

theorem IsWord.concat {w : Text} {c : CodePoint} (h : IsWord w) (hc : isSlugChar c = true) :
    IsWord (w ++ [c]) where
  nonempty := by simp
  chars := List.forall_mem_append.2 ⟨h.chars, List.forall_mem_singleton.2 hc⟩

/-- The run before a text may go on in it. -/
theorem isWord_of_mem_words_append {run : Text} (hrun : ∀ c ∈ run, isSlugChar c = true) {t w : Text}
    (h : w ∈ words (run ++ t)) : IsWord w := by
  have hwords : ∀ {run : Text}, (∀ c ∈ run, isSlugChar c = true) → w ∈ words run → IsWord w := by
    intro run hchars hw
    by_cases hne : run = []
    · rw [hne, words_nil] at hw
      cases hw
    · have hword : IsWord run := ⟨hne, hchars⟩
      rw [hword.words_eq] at hw
      rw [List.mem_singleton.1 hw]
      exact hword
  induction t generalizing run with
  | nil =>
    rw [List.append_nil] at h
    exact hwords hrun h
  | cons c rest ih =>
    cases hc : isSlugChar c with
    | true =>
      rw [← List.singleton_append, ← List.append_assoc] at h
      exact ih (List.forall_mem_append.2 ⟨hrun, List.forall_mem_singleton.2 hc⟩) h
    | false =>
      rw [words_append_gap hc] at h
      rcases List.mem_append.1 h with hfront | hback
      · exact hwords hrun hfront
      · exact ih (List.forall_mem_nil _) hback

theorem isWord_of_mem_words {t w : Text} (h : w ∈ words t) : IsWord w :=
  isWord_of_mem_words_append (List.forall_mem_nil _) h

/-- The words of words with gaps between them. -/
theorem words_join {c : CodePoint} (hc : isSlugChar c = false) {ws : List Text}
    (h : ∀ w ∈ ws, IsWord w) : words (join [c] ws) = ws := by
  induction ws with
  | nil => exact words_nil
  | cons w rest ih =>
    have hw : IsWord w := h w (by simp)
    have hrest := ih fun u hu => h u (List.mem_cons_of_mem w hu)
    by_cases hne : rest = []
    · rw [hne]
      exact hw.words_eq
    · rw [Text.join_cons hne, List.append_assoc, List.singleton_append, words_append_gap hc,
        hrest, hw.words_eq, List.singleton_append]

/-! ## Patterns -/

/-- A separator that stands for itself as a pattern: no backslash is the last character or
stands before an ASCII letter, a digit or another backslash. -/
def isLiteral : Text → Bool
  | '\\' :: c :: rest => !(Text.isLetter c || Text.isDigit c || c == '\\') && isLiteral rest
  | c :: rest => c != '\\' && isLiteral rest
  | [] => true

theorem isLiteral_of_not_mem {t : Text} (h : .char '\\' ∉ t) : isLiteral t = true := by
  fun_induction isLiteral t with
  | case1 c rest => exact absurd List.mem_cons_self h
  | case2 c rest hpair ih =>
    obtain ⟨hc, hrest⟩ := not_or.1 (mt List.mem_cons.2 h)
    rw [ih hrest, Bool.and_true, bne_iff_ne]
    exact Ne.symm hc
  | case3 => rfl

namespace Pattern

theorem escape_literal {c : CodePoint} (hletter : Text.isLetter c = false)
    (hdigit : Text.isDigit c = false) (hslash : c ≠ '\\') (rest : Text) :
    escape (c :: rest) = .ok ([.char '\\', .char c], 1) := by
  have hne : ∀ d, Text.isLetter d = true → c ≠ d := by
    rintro d hd rfl
    exact Bool.false_ne_true (hletter.symm.trans hd)
  have hzero : c ≠ '0' := by
    rintro rfl
    exact absurd hdigit (by decide)
  have hcontrol : controlChar? c = none := by
    unfold controlChar?
    split
    case h_8 => exact absurd rfl hslash
    case h_9 => rfl
    all_goals exact absurd hletter (by decide)
  rw [escape, if_neg (hne 'g' (by decide)), if_neg hzero]
  simp [hdigit, hletter, hcontrol]

theorem read_literal {t : Text} (h : isLiteral t = true) : read t = .ok (t.map .char) := by
  fun_induction isLiteral t with
  | case1 c rest ih =>
    simp only [Bool.and_eq_true, Bool.not_eq_true', Bool.or_eq_false_iff, beq_eq_false_iff_ne] at h
    obtain ⟨⟨⟨hletter, hdigit⟩, hslash⟩, hrest⟩ := h
    have hread : readFrom 1 (c :: rest) = .ok (rest.map .char) := ih hrest
    rw [read, readFrom, if_pos rfl, escape_literal hletter hdigit hslash]
    simp [hread, bind, Except.bind, pure, Except.pure]
  | case2 c rest hpair ih =>
    simp only [Bool.and_eq_true, bne_iff_ne] at h
    have hread : readFrom 0 rest = .ok (rest.map .char) := ih h.2
    rw [read, readFrom, if_neg h.1, hread]
    rfl
  | case3 => rfl

theorem expand_chars (t run : Text) : expand (t.map .char) run = t := by
  rw [expand, List.flatMap_map]
  exact List.flatMap_singleton' t

end Pattern

/-! ## Runs between words -/

/-- The words joined by the separator, with characters of the separator behind them. -/
def JoinedBy (sep : Text) (ws : List Text) (out : Text) : Prop :=
  ∃ trail, trail ⊆ sep ∧ out = join sep ws ++ trail

variable {sep : Text}

theorem JoinedBy.cons {ws : List Text} {out : Text} (h : JoinedBy sep ws out) (w : Text) :
    JoinedBy sep (w :: ws) (w ++ (sep ++ out)) := by
  obtain ⟨trail, htrail, rfl⟩ := h
  by_cases hne : ws = []
  · refine ⟨sep ++ trail, List.append_subset.2 ⟨List.Subset.refl sep, htrail⟩, ?_⟩
    simp [hne, join]
  · refine ⟨trail, htrail, ?_⟩
    simp [Text.join_cons hne]

theorem closeRun_chars {run : Text} (h : run ≠ []) : closeRun (sep.map .char) run = sep := by
  rw [closeRun, if_neg (by simpa using h), Pattern.expand_chars]

/-- Behind other characters the separator comes first, behind a word that word goes on. -/
theorem joinedBy_replaceRuns (sep t : Text) :
    (∀ run, run ≠ [] → ∃ out, JoinedBy sep (words t) out ∧
      replaceRuns (sep.map .char) run t = sep ++ out) ∧
    ∀ w, IsWord w → JoinedBy sep (words (w ++ t)) (w ++ replaceRuns (sep.map .char) [] t) := by
  induction t with
  | nil =>
    refine ⟨fun run hrun => ⟨[], ⟨[], List.nil_subset sep, ?_⟩, ?_⟩, fun w hw => ?_⟩
    · rw [words_nil]
      rfl
    · rw [replaceRuns, closeRun_chars hrun, List.append_nil]
    · have hwords : words (w ++ []) = [w] := by rw [List.append_nil, hw.words_eq]
      refine ⟨[], List.nil_subset sep, ?_⟩
      rw [hwords]
      rfl
  | cons c rest ih =>
    obtain ⟨hgap, hword⟩ := ih
    cases hc : isSlugChar c with
    | true =>
      refine ⟨fun run hrun => ?_, fun w hw => ?_⟩
      · refine ⟨_, hword [c] (isWord_singleton hc), ?_⟩
        rw [replaceRuns, if_pos hc, closeRun_chars hrun]
        rfl
      · have hmore := hword (w ++ [c]) (hw.concat hc)
        rw [replaceRuns, if_pos hc]
        simpa [closeRun] using hmore
    | false =>
      have hstep : ∀ run, replaceRuns (sep.map .char) run (c :: rest) =
          replaceRuns (sep.map .char) (c :: run) rest := fun run => by
        rw [replaceRuns, if_neg (by simp [hc])]
      refine ⟨fun run hrun => ?_, fun w hw => ?_⟩
      · rw [hstep, words_gap hc]
        exact hgap (c :: run) (by simp)
      · obtain ⟨out, hout, hreplaced⟩ := hgap [c] (by simp)
        rw [hstep, hreplaced, words_append_gap hc, hw.words_eq]
        exact hout.cons w

theorem JoinedBy.trim_eq {ws : List Text} {out : Text} (h : JoinedBy sep ws out) :
    Text.trimBy sep.contains out = Text.trimBy sep.contains (join sep ws) := by
  obtain ⟨trail, htrail, rfl⟩ := h
  exact Text.trimBy_append_right (fun c hc => by simpa using htrail hc) _

/-- Before the ends are trimmed, characters of the separator alone can stand around the words. -/
theorem trim_replaceRuns (sep t : Text) :
    Text.trimBy sep.contains (replaceRuns (sep.map .char) [] t) =
      Text.trimBy sep.contains (join sep (words t)) := by
  cases t with
  | nil => simp [replaceRuns, closeRun, words_nil, join]
  | cons c rest =>
    obtain ⟨hgap, hword⟩ := joinedBy_replaceRuns sep rest
    cases hc : isSlugChar c with
    | true =>
      have hjoined := hword [c] (isWord_singleton hc)
      rw [replaceRuns, if_pos hc]
      exact hjoined.trim_eq
    | false =>
      obtain ⟨out, hout, hreplaced⟩ := hgap [c] (by simp)
      rw [replaceRuns, if_neg (by simp [hc]), hreplaced,
        Text.trimBy_append_left (fun d hd => by simpa using hd), words_gap hc]
      exact hout.trim_eq

/-! ## Ends of joined words -/

theorem isSlugChar_of_head?_join {ws : List Text} (h : ∀ w ∈ ws, IsWord w) {c : CodePoint}
    (hc : (join sep ws).head? = some c) : isSlugChar c = true := by
  cases ws with
  | nil => cases hc
  | cons w rest =>
    have hw : IsWord w := h w (by simp)
    have hfront : ∃ back, join sep (w :: rest) = w ++ back := by
      by_cases hne : rest = []
      · exact ⟨[], by rw [hne, List.append_nil, join]⟩
      · exact ⟨sep ++ join sep rest, by rw [Text.join_cons hne, List.append_assoc]⟩
    obtain ⟨back, hback⟩ := hfront
    rw [hback, List.head?_append, List.head?_eq_some_head hw.nonempty, Option.some_or,
      ← List.head?_eq_some_head] at hc
    exact hw.chars c (List.mem_of_head? hc)

theorem isSlugChar_of_getLast?_join {ws : List Text} (h : ∀ w ∈ ws, IsWord w) {c : CodePoint}
    (hc : (join sep ws).getLast? = some c) : isSlugChar c = true := by
  induction ws with
  | nil => cases hc
  | cons w rest ih =>
    have hw : IsWord w := h w (by simp)
    have hrest := fun u hu => h u (List.mem_cons_of_mem w hu)
    by_cases hne : rest = []
    · rw [hne] at hc
      exact hw.chars c (List.mem_of_getLast? hc)
    · obtain ⟨u, later, rfl⟩ := List.exists_cons_of_ne_nil hne
      have hlater : join sep (u :: later) ≠ [] :=
        Text.join_ne_nil (hrest u (by simp)).nonempty later
      rw [Text.join_cons hne, List.getLast?_append, List.getLast?_eq_some_getLast hlater,
        Option.some_or, ← List.getLast?_eq_some_getLast] at hc
      exact ih hrest hc

/-- Trimming the characters of the separator changes nothing at ends that it does not have. -/
theorem trim_separator_eq_iff {t : Text} :
    Text.trimBy sep.contains t = t ↔
      ∀ c ∈ sep, t.head? ≠ some c ∧ t.getLast? ≠ some c := by
  rw [Text.trimBy_eq_self_iff]
  simp only [List.contains_eq_mem, decide_eq_false_iff_not]
  constructor
  · rintro ⟨hfirst, hlast⟩ c hmem
    exact ⟨fun hc => hfirst c hc hmem, fun hc => hlast c hc hmem⟩
  · intro h
    exact ⟨fun c hc hmem => (h c hmem).1 hc, fun c hc hmem => (h c hmem).2 hc⟩

/-- Trimming takes nothing from the words if the separator has no slug characters. -/
theorem trim_join (hsep : ∀ c ∈ sep, isSlugChar c = false) {ws : List Text}
    (h : ∀ w ∈ ws, IsWord w) : Text.trimBy sep.contains (join sep ws) = join sep ws := by
  rw [trim_separator_eq_iff]
  intro c hc
  have hne : isSlugChar c ≠ true := ne_true_of_eq_false (hsep c hc)
  constructor
  · intro hfirst
    exact hne (isSlugChar_of_head?_join h hfirst)
  · intro hlast
    exact hne (isSlugChar_of_getLast?_join h hlast)

/-! ## Slugs -/

theorem slug_literal (h : isLiteral sep = true) (v : Value) :
    slug [v, .text sep] = v.output.map fun t =>
      .text (Text.trimBy sep.contains (join sep (words (Text.lower t)))) := by
  cases hv : v.output with
  | error fault => simp [slug, hv, bind, Except.bind, Except.map]
  | ok t =>
    simp [slug, slugText, hv, Pattern.read_literal h, trim_replaceRuns, bind, Except.bind,
      Except.map, pure, Except.pure]

/-- A slug is the words of the lower-cased text, joined by the separator, if the separator has no
slug characters and stands for itself as a pattern. If it stands for itself, that is so exactly
for the texts whose joined words start and end with characters that it does not have. -/
theorem slug_joins_words (hsep : isLiteral sep = true) (v : Value) :
    ((∀ c ∈ sep, isSlugChar c = false) →
      slug [v, .text sep] = v.output.map fun t => .text (join sep (words (Text.lower t)))) ∧
    ∀ t, v.output = .ok t →
      (slug [v, .text sep] = .ok (.text (join sep (words (Text.lower t)))) ↔
        ∀ c ∈ sep, (join sep (words (Text.lower t))).head? ≠ some c ∧
          (join sep (words (Text.lower t))).getLast? ≠ some c) := by
  refine ⟨fun hchars => ?_, fun t ht => ?_⟩
  · rw [slug_literal hsep]
    refine congrArg (Except.map · v.output) (funext fun t => ?_)
    rw [trim_join hchars fun w => isWord_of_mem_words]
  · rw [slug_literal hsep, ht, ← trim_separator_eq_iff]
    simp [Except.map]

/-- Two characters that are no escape separate as they stand. -/
theorem slug_joins_with_backslash :
    isLiteral "\\-".text = true ∧ (∀ c ∈ "\\-".text, isSlugChar c = false) ∧
    slug [.text "Hi, you!".text, .text "\\-".text] = .ok (.text "hi\\-you".text) := by
  have hliteral : isLiteral "\\-".text = true := by decide
  have hchars : ∀ c ∈ "\\-".text, isSlugChar c = false :=
    List.forall_mem_cons.2 ⟨by decide, List.forall_mem_singleton.2 (by decide)⟩
  have hwords : words (Text.lower "Hi, you!".text) = ["hi".text, "you".text] := by
    decide +kernel
  refine ⟨hliteral, hchars, ?_⟩
  rw [(slug_joins_words hliteral (.text "Hi, you!".text)).1 hchars]
  exact congrArg (fun ws => Except.ok (Value.text (join "\\-".text ws))) hwords

/-- A letter that ends a word is trimmed with the separator; a pattern with an escape stands for
another text, or for none. -/
theorem slug_separator_misread :
    slug [.text "a b".text, .text ['b']] = .ok (.text ['a']) ∧
    join ['b'] (words (Text.lower "a b".text)) = "abb".text ∧
    slug [.text "a b".text, .text "\\n".text] = .ok (.text "a\nb".text) ∧
    slug [.text "a b".text, .text ['\\']] = .error .badPattern := by
  have hwords : words (Text.lower "a b".text) = [[.char 'a'], [.char 'b']] := by decide +kernel
  refine ⟨by rfl, ?_, by rfl, by rfl⟩
  rw [hwords]
  decide

/-! ## Slugs of slugs -/

/-- Words separated by single hyphens. -/
def IsSlug (t : Text) : Prop := ∃ ws, (∀ w ∈ ws, IsWord w) ∧ t = join ['-'] ws

theorem lowerChar_of_slugChar {c : CodePoint} (h : isSlugChar c = true ∨ c = '-') :
    Text.lowerChar c = [c] := by
  have hcode : c.toNat < 123 := by
    rcases h with hslug | rfl
    · simp only [isSlugChar, Bool.or_eq_true, Bool.and_eq_true, decide_eq_true_eq, CodePoint.le_def]
        at hslug
      rcases hslug with ⟨-, hle⟩ | ⟨-, hle⟩
      · exact Nat.lt_succ_of_le hle
      · exact Nat.lt_of_le_of_lt hle (by decide)
    · decide
  have hkept : ∀ n < 123, isSlugChar (CodePoint.ofNat n) = true ∨ CodePoint.ofNat n = '-' →
      Text.lowerChar (CodePoint.ofNat n) = [CodePoint.ofNat n] := by decide +kernel
  have hc := hkept c.toNat hcode
  rw [CodePoint.ofNat_toNat] at hc
  exact hc h

/-- Slugs are in lower case. -/
theorem IsSlug.lower_eq {t : Text} (h : IsSlug t) : Text.lower t = t := by
  have hchars : ∀ c ∈ t, isSlugChar c = true ∨ c = '-' := by
    obtain ⟨ws, hws, rfl⟩ := h
    intro c hc
    rcases Text.mem_join hc with hsep | ⟨w, hw, hmem⟩
    · exact .inr (List.mem_singleton.1 hsep)
    · exact .inl ((hws w hw).chars c hmem)
  clear h
  have hafter : ∀ before, Text.lowerAfter before t = t := by
    induction t with
    | nil => exact fun before => rfl
    | cons c rest ih =>
      intro before
      have hc : isSlugChar c = true ∨ c = '-' := hchars c (by simp)
      have hsigma : c ≠ 'Σ' := by
        rintro rfl
        exact absurd hc (by decide)
      rw [Text.lowerAfter, Text.lowerCharWithin, if_neg hsigma, lowerChar_of_slugChar hc,
        ih (fun d hd => hchars d (List.mem_cons_of_mem c hd)), List.singleton_append]
  exact hafter []

theorem slug_default (v : Value) :
    slug [v] = v.output.map fun t => .text (join ['-'] (words (Text.lower t))) := by
  have hjoined : ∀ t, Text.trimBy (['-'] : Text).contains (join ['-'] (words t)) =
      join ['-'] (words t) := fun t =>
    trim_join (List.forall_mem_singleton.2 (by decide)) fun w => isWord_of_mem_words
  have hslug := slug_literal (isLiteral_of_not_mem (t := [.char '-']) (by decide)) v
  simp only [hjoined] at hslug
  exact hslug

theorem IsSlug.slug_eq {t : Text} (h : IsSlug t) : slug [.text t] = .ok (.text t) := by
  have hlower := h.lower_eq
  obtain ⟨ws, hws, rfl⟩ := h
  have htext : (Value.text (join ['-'] ws)).output = .ok (join ['-'] ws) := rfl
  rw [slug_default, htext, Except.map, hlower, words_join (by decide) hws]

/-- The slug of a value that has a text is a sequence of words with single hyphens between them,
perhaps of none, and is its own slug. -/
theorem slug_normalises {v : Value} {t : Text} (ht : v.output = .ok t) :
    ∃ out, slug [v] = .ok (.text out) ∧ IsSlug out ∧ slug [.text out] = .ok (.text out) := by
  have hslug : IsSlug (join ['-'] (words (Text.lower t))) :=
    ⟨_, fun w => isWord_of_mem_words, rfl⟩
  refine ⟨_, ?_, hslug, hslug.slug_eq⟩
  rw [slug_default, ht]
  rfl

/-- A capital I with a dot becomes two characters, and the sign of the kelvin a letter of ASCII. -/
theorem slug_of_kelvin :
    (Value.text "\u0130--\u212a!".text).output = .ok "\u0130--\u212a!".text ∧
    ∃ out, slug [.text "\u0130--\u212a!".text] = .ok (.text out) ∧ out = "i-k".text ∧
      IsSlug out ∧ slug [.text out] = .ok (.text out) := by
  have hslug : slug [.text "\u0130--\u212a!".text] = .ok (.text "i-k".text) := by rfl
  obtain ⟨out, hout, hshape, hagain⟩ := slug_normalises (v := .text "\u0130--\u212a!".text) rfl
  refine ⟨rfl, out, hout, ?_, hshape, hagain⟩
  have heq := hout.symm.trans hslug
  cases heq
  rfl

end Stencil.Library
