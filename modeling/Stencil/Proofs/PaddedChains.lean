import Mathlib.Data.List.Forall2
import Mathlib.Tactic.ByContra
import Stencil.Proofs.ChainTags
import Stencil.Proofs.EvaluationSteps

/-!
# Padded chains

Blanks around the pieces of a chain change nothing: the pieces are read as if they were
joined by dots alone, and the tag of the chain is evaluated alike.
-/

namespace Stencil

/-- A text is a token with blanks before and after it. -/
def Pads (token text : Text) : Prop :=
  ∃ before after, Text.Blanks before ∧ Text.Blanks after ∧ text = before ++ (token ++ after)

namespace Pads

variable {token text : Text}

theorem refl (token : Text) : Pads token token := ⟨[], [], .nil, .nil, by simp⟩

theorem trim_eq (h : Pads token text) : Text.trim text = Text.trim token := by
  obtain ⟨before, after, hbefore, hafter, rfl⟩ := h
  rw [Text.trim_blanks_append hbefore, Text.trim_append_blanks hafter]

theorem filter_eq (h : Pads token text) {keep : CodePoint → Bool}
    (hkeep : ∀ c, Text.isBlank c = true → keep c = false) :
    text.filter keep = token.filter keep := by
  obtain ⟨before, after, hbefore, hafter, rfl⟩ := h
  have hblanks : ∀ blanks, Text.Blanks blanks → blanks.filter keep = [] := by
    intro blanks hblank
    rw [List.filter_eq_nil_iff]
    intro c hc
    simp [hkeep c (hblank c hc)]
  rw [List.filter_append, List.filter_append, hblanks before hbefore, hblanks after hafter,
    List.nil_append, List.append_nil]

end Pads

namespace Chain

theorem isNeutral_of_isBlank {c : CodePoint} (h : Text.isBlank c = true) :
    Position.isNeutral c = true := by
  have hne : ∀ d, Text.isBlank d = false → c ≠ d := fun d => Text.ne_of_test h
  simp [Position.isNeutral, Position.isMark, hne '"' rfl, hne '\'' rfl, hne '(' rfl, hne ')' rfl]

namespace Passes

variable {p q : Position} {previous last : Option CodePoint} {t : Text}

theorem of_blanks (h : Text.Blanks t) (p : Position) (previous : Option CodePoint) :
    Passes p previous t p (t.getLast?.or previous) := by
  refine .of_stays (fun c hc before => ?_) ?_
  · exact Position.after_neutral (isNeutral_of_isBlank (h c hc)) p before
  · rintro c hc ⟨rfl, -⟩
    exact absurd (h '.' hc) (by decide)

/-- What stands before a text matters only if it is a backslash. -/
theorem of_previous (h : Passes p previous t q last) (hprevious : previous ≠ some (.char '\\'))
    {before : Option CodePoint} (hbefore : before ≠ some (.char '\\')) :
    ∃ last, Passes p before t q last := by
  cases h with
  | done => exact ⟨before, .done⟩
  | @read _ _ _ _ c t uncut rest =>
    have hafter : p.after previous c = p.after before c := by
      simp [Position.after, Position.quoteAfter, hprevious, hbefore]
    rw [hafter] at uncut rest
    exact ⟨last, .read uncut rest⟩

end Passes

/-- The scanner passes over the blanks around a token as over the token. -/
theorem Whole.pads {token text : Text} (h : Whole token) (hpads : Pads token text) :
    Whole text := by
  obtain ⟨before, after, hbefore, hafter, rfl⟩ := hpads
  obtain ⟨last, htoken⟩ := h
  have hfront := Passes.of_blanks hbefore .start none
  have hplain : before.getLast?.or none ≠ some (.char '\\') := by
    rw [Option.or_none]
    intro hslash
    exact absurd (hbefore '\\' (List.mem_of_getLast? hslash)) (by decide)
  obtain ⟨final, hmiddle⟩ := htoken.of_previous (by simp) hplain
  exact ⟨_, hfront.append (hmiddle.append (.of_blanks hafter .start final))⟩

/-! ## Blanks at the ends of a chain -/

/-- Blanks at the start of a piece are trimmed from it. -/
theorem map_trim_piecesFrom {p : Position} {previous : Option CodePoint} {piece blanks t : Text}
    (h : Text.Blanks blanks) (hne : piece ≠ [] ∨ t ≠ []) :
    (piecesFrom p previous (piece ++ blanks.reverse) t).map Text.trim =
      (piecesFrom p previous piece t).map Text.trim := by
  have htrim : ∀ piece : Text,
      Text.trim (piece ++ blanks.reverse).reverse = Text.trim piece.reverse := by
    intro piece
    rw [List.reverse_append, List.reverse_reverse, Text.trim_blanks_append h]
  induction t generalizing p previous piece with
  | nil =>
    have hpiece : piece ≠ [] := by simpa using hne
    have hkept : piece.isEmpty = false := by simpa using hpiece
    have hlonger : (piece ++ blanks.reverse).isEmpty = false := by simp [hpiece]
    rw [piecesFrom, piecesFrom, hkept, hlonger, if_neg (by decide), if_neg (by decide),
      List.map_singleton, List.map_singleton, htrim]
  | cons c t ih =>
    rw [piecesFrom, piecesFrom]
    by_cases hcut : c = '.' ∧ (p.after previous c).isOutside = true
    · simp only [if_pos hcut, List.map_cons, htrim]
    · simp only [if_neg hcut]
      exact ih (.inl (List.cons_ne_nil c piece))

theorem split_blanks_append {blanks t : Text} (h : Text.Blanks blanks) (hne : t ≠ []) :
    split (blanks ++ t) = split t := by
  have hplain : blanks.getLast?.or none ≠ some (.char '\\') := by
    rw [Option.or_none]
    intro hslash
    exact absurd (h '\\' (List.mem_of_getLast? hslash)) (by decide)
  have hfront := (Passes.of_blanks h .start none).piecesFrom_append [] t
  have hpieces : (piecesFrom .start none ([] ++ blanks.reverse) t).map Text.trim =
      (piecesFrom .start none [] t).map Text.trim := map_trim_piecesFrom h (.inr hne)
  have hnone : (none : Option CodePoint) ≠ some (.char '\\') := by decide
  rw [split, hfront, piecesFrom_previous .start hplain hnone, List.append_nil, split, ← hpieces,
    List.nil_append]

/-- Blanks behind go to the last piece, or make an empty one of their own after a dot. -/
theorem split_append_blanks {blanks t : Text} (h : Text.Blanks blanks)
    (hlast : (split (t ++ blanks)).getLast? ≠ some []) : split (t ++ blanks) = split t := by
  have hwhole := piecesFrom_append .start none [] t blanks
  have hbehind := (Passes.of_blanks h (finish .start none [] t).1 (t.getLast?.or none)).piecesFrom_append
    (finish .start none [] t).2 []
  rw [List.append_nil] at hbehind
  rw [hbehind, piecesFrom] at hwhole
  unfold split at hlast ⊢
  rw [hwhole, List.map_append] at hlast ⊢
  rw [piecesFrom_eq .start none [] t, List.map_append]
  congr 1
  generalize (finish .start none [] t).2 = piece at hlast ⊢
  cases piece with
  | nil =>
    cases blanks with
    | nil => rfl
    | cons c blanks =>
      refine absurd ?_ hlast
      simp [Text.trim_blanks h]
  | cons c piece =>
    have hlonger : (blanks.reverse ++ c :: piece).isEmpty = false := by simp
    rw [hlonger, List.isEmpty_cons, if_neg (by decide), if_neg (by decide), List.map_singleton,
      List.map_singleton, List.reverse_append, List.reverse_reverse, Text.trim_append_blanks h]

/-- Blanks around a chain whose last token is not empty change nothing in it. -/
theorem split_trim {t : Text} (hlast : (split t).getLast? ≠ some []) :
    split (Text.trim t) = split t := by
  obtain ⟨before, after, hbefore, hafter, hsplit⟩ := Text.exists_trim t
  generalize Text.trim t = core at hsplit ⊢
  subst hsplit
  by_cases hcore : core ++ after = []
  · obtain ⟨rfl, rfl⟩ := List.append_eq_nil_iff.1 hcore
    rw [List.append_nil, List.append_nil] at hlast ⊢
    exact (split_append_blanks (t := []) hbefore hlast).symm
  · rw [split_blanks_append hbefore hcore] at hlast ⊢
    exact (split_append_blanks hafter hlast).symm

/-- Only a dot leaves the last piece empty. -/
theorem getLast?_of_finish {p : Position} {previous : Option CodePoint} {piece t : Text}
    (h : (finish p previous piece t).2 = []) (hne : t ≠ []) : t.getLast? = some (.char '.') := by
  induction t generalizing p previous piece with
  | nil => exact absurd rfl hne
  | cons c rest ih =>
    rw [finish] at h
    cases rest with
    | nil =>
      by_cases hcut : c = '.' ∧ (p.after previous c).isOutside = true
      · rw [hcut.1]
        rfl
      · simp only [if_neg hcut] at h
        cases h
    | cons d more =>
      rw [List.getLast?_cons_cons]
      by_cases hcut : c = '.' ∧ (p.after previous c).isOutside = true
      · simp only [if_pos hcut] at h
        exact ih h (List.cons_ne_nil d more)
      · simp only [if_neg hcut] at h
        exact ih h (List.cons_ne_nil d more)

/-- Blanks around a chain that ends with a dot change nothing in it: they all stand before it. -/
theorem split_trim_of_dot {t : Text} (hdot : t.getLast? = some (.char '.')) :
    split (Text.trim t) = split t := by
  obtain ⟨before, after, hbefore, hafter, hparts⟩ := Text.exists_trim t
  generalize Text.trim t = core at hparts ⊢
  have hnone : after = [] := by
    by_contra hne
    rw [hparts, ← List.append_assoc, List.getLast?_append_of_ne_nil _ hne] at hdot
    exact absurd (hafter '.' (List.mem_of_getLast? hdot)) (by decide)
  rw [hnone, List.append_nil] at hparts
  have hne : core ≠ [] := by
    rintro rfl
    rw [hparts, List.append_nil] at hdot
    exact absurd (hbefore '.' (List.mem_of_getLast? hdot)) (by decide)
  rw [hparts, split_blanks_append hbefore hne]

/-- What stands behind the last dot that cuts the chain is not empty, and blank. -/
def EndsBlank (t : Text) : Prop :=
  (finish .start none [] t).2 ≠ [] ∧ Text.Blanks (finish .start none [] t).2

instance (t : Text) : Decidable (EndsBlank t) := inferInstanceAs (Decidable (_ ∧ _))

/-- Blanks around a chain change nothing in it but where nothing else is behind its last dot. There
they make an empty piece of their own. -/
theorem split_trim_of_not_endsBlank {t : Text} (h : ¬ EndsBlank t) :
    split (Text.trim t) = split t := by
  by_cases hpiece : (finish .start none [] t).2 = []
  · by_cases hne : t = []
    · rw [hne]
      rfl
    · exact split_trim_of_dot (getLast?_of_finish hpiece hne)
  · apply split_trim
    have hkept : (finish .start none [] t).2.isEmpty = false := by simpa using hpiece
    rw [split, piecesFrom_eq, hkept, if_neg (by decide), List.map_append, List.map_singleton,
      List.getLast?_concat]
    intro hempty
    refine h ⟨hpiece, fun c hc => ?_⟩
    exact Text.blanks_of_trim (Option.some.inj hempty) c (List.mem_reverse.2 hc)

end Chain

/-! ## Padded tokens -/

section

variable {tokens texts : List Text}

/-- Each padded token is a piece that the scanner passes over, and trimmed it is the token. -/
theorem Chain.pieces_of_pads (hclosed : ∀ t ∈ tokens, Chain.Closed t)
    (hpads : List.Forall₂ Pads tokens texts) :
    (∀ t ∈ texts, Chain.Whole t ∧ t ≠ []) ∧ texts.map Text.trim = tokens := by
  induction hpads with
  | nil => simp
  | @cons token text tokens texts hpad _ ih =>
    have htoken : Chain.Closed token := hclosed token (by simp)
    obtain ⟨hpieces, htrim⟩ := ih fun t ht => hclosed t (List.mem_cons_of_mem token ht)
    have htext : Text.trim text = token := by rw [hpad.trim_eq, htoken.trimmed.trim_eq]
    refine ⟨fun t ht => ?_, by rw [List.map_cons, htext, htrim]⟩
    rcases List.mem_cons.1 ht with rfl | ht
    · refine ⟨htoken.whole.pads hpad, ?_⟩
      rintro rfl
      exact htoken.nonempty htext.symm
    · exact hpieces t ht

theorem Chain.split_padded (hclosed : ∀ t ∈ tokens, Chain.Closed t)
    (hpads : List.Forall₂ Pads tokens texts) : Chain.split (Text.join ['.'] texts) = tokens := by
  obtain ⟨hpieces, htrim⟩ := Chain.pieces_of_pads hclosed hpads
  rw [Chain.split_join hpieces, htrim]

/-- Trimming the whole leaves the tokens, too, since none of them is empty. -/
theorem Chain.split_trim_padded (hclosed : ∀ t ∈ tokens, Chain.Closed t)
    (hpads : List.Forall₂ Pads tokens texts) :
    Chain.split (Text.trim (Text.join ['.'] texts)) = tokens := by
  have hsplit := Chain.split_padded hclosed hpads
  rw [Chain.split_trim, hsplit]
  rw [hsplit]
  intro hlast
  exact (hclosed [] (List.mem_of_getLast? hlast)).nonempty rfl

theorem filter_padded (hpads : List.Forall₂ Pads tokens texts) :
    (Text.join ['.'] texts).filter Closes.isBrace =
      (Text.join ['.'] tokens).filter Closes.isBrace := by
  have hblank : ∀ c, Text.isBlank c = true → Closes.isBrace c = false := by
    intro c hc
    have hne : ∀ d, Text.isBlank d = false → c ≠ d := fun d => Text.ne_of_test hc
    simp [Closes.isBrace, hne '\x7b' rfl, hne '\x7d' rfl]
  have hfilters : texts.map (fun t => t.filter Closes.isBrace) =
      tokens.map fun t => t.filter Closes.isBrace := by
    induction hpads with
    | nil => rfl
    | cons hpad _ ih => rw [List.map_cons, List.map_cons, ih, hpad.filter_eq hblank]
  rw [Text.filter_join, Text.filter_join, hfilters]

/-- Blanks around the tokens of a chain are of no account. The padded tokens, joined by dots,
split into the tokens. The tag that they make gives the result of the tag of the bare tokens,
after the same calls. -/
theorem render_padded (hclosed : ∀ t ∈ tokens, Chain.Closed t)
    (hpads : List.Forall₂ Pads tokens texts) :
    Chain.split (Text.join ['.'] texts) = tokens ∧
    (Balanced (Text.join ['.'] tokens) →
      ∀ (e : Engine) (bindings : List (Text × Value)) (lenient : Option Bool),
        (e.render (chainTag texts).source bindings lenient).result =
          (e.render (chainTag tokens).source bindings lenient).result ∧
        (e.render (chainTag texts).source bindings lenient).calls =
          (e.render (chainTag tokens).source bindings lenient).calls) := by
  refine ⟨Chain.split_padded hclosed hpads, fun hbody e bindings lenient => ?_⟩
  have hbare : List.Forall₂ Pads tokens tokens := List.forall₂_same.2 fun t _ => .refl t
  have hchain := Chain.ofText_of_split ((Chain.split_trim_padded hclosed hpads).trans
    (Chain.split_trim_padded hclosed hbare).symm) Template.ofText
  have htexts := Template.ofText_body (hbody.of_same_braces (filter_padded hpads).symm)
  rw [hchain] at htexts
  exact Scope.render_same_chain htexts (Template.ofText_body hbody) (e.scope bindings lenient)

end

def spacedTokens : List Text := ["\"a. )\"".text, "f(\x7by\x7d)".text]

def spacedTexts : List Text := [" \"a. )\"\t".text, "\n f(\x7by\x7d) ".text]

def spacedBindings : List (Text × Value) := [("\"a. )\"".text, .int 1), (['y'], .text ['$'])]

/-- Blanks next to the braces and the dot; the other dot and the other blank are in quotes. -/
theorem render_padded_quotes :
    ((∀ t ∈ spacedTokens, Chain.Closed t) ∧ List.Forall₂ Pads spacedTokens spacedTexts ∧
      Balanced (Text.join ['.'] spacedTokens)) ∧
    Chain.split (Text.join ['.'] spacedTexts) = spacedTokens ∧
    (Engine.gathering.render (chainTag spacedTexts).source spacedBindings (some false)).result =
      .ok "[1]".text := by
  have hclosed : ∀ t ∈ spacedTokens, Chain.Closed t := by decide +kernel
  have hpads : List.Forall₂ Pads spacedTokens spacedTexts := by
    refine .cons ⟨[' '], ['\t'], ?_, ?_, rfl⟩ (.cons ⟨"\n ".text, [' '], ?_, ?_, rfl⟩ .nil) <;>
      decide +kernel
  have hbalanced : Balanced (Text.join ['.'] spacedTokens) := by decide +kernel
  have hbare : (Engine.gathering.render (chainTag spacedTokens).source spacedBindings
      (some false)).result = .ok "[1]".text := by decide +kernel
  obtain ⟨hsplit, hrender⟩ := render_padded hclosed hpads
  refine ⟨⟨hclosed, hpads, hbalanced⟩, hsplit, ?_⟩
  rw [(hrender hbalanced Engine.gathering spacedBindings (some false)).1]
  exact hbare

end Stencil
