import Mathlib.Data.List.Basic
import Stencil.Proofs.ArgumentScan
import Stencil.Proofs.ConstantExpressions
import Stencil.Proofs.TokenTexts

/-!
# Spans of lexemes

The text of each lexeme of a literal, as the splitter of chains reads it. Where both readers
take the same characters for quote marks, quotations are passed over whole, brackets change
the depth, and nothing else does. So the splitter passes over every literal that has a value.
-/

namespace Stencil

open Chain (Passes Contained)
open Literal (Lexeme Numeral Quotation Written)

namespace Arguments.Place

/-- The splitter of chains takes the same characters for quote marks as the splitter of
arguments: none that opens or closes a quotation stands behind a backslash. Comments and
quotations with tripled marks are left out, since the splitters know neither. -/
def Legible (p : Place) (previous : Option CodePoint) : Text → Prop
  | [] => True
  | c :: rest =>
    ((p.after c).quote = p.quote ∨ previous ≠ some (.char '\\')) ∧
      (p.quote = none → c ≠ '#' ∧ (isMark c = true → Text.startsWith [c, c] rest = false)) ∧
      (p.after c).Legible (some c) rest

instance decidableLegible : (p : Place) → (previous : Option CodePoint) → (t : Text) →
    Decidable (p.Legible previous t)
  | _, _, [] => isTrue trivial
  | p, _, c :: rest =>
    have := decidableLegible (p.after c) (some c) rest
    inferInstanceAs (Decidable (_ ∧ _ ∧ _))

/-- Only a backslash before a text matters. -/
theorem Legible.of_previous {p : Place} {before before' : Option CodePoint} {t : Text}
    (h : p.Legible before t) (h' : before' ≠ some (.char '\\')) : p.Legible before' t := by
  cases t with
  | nil => trivial
  | cons c rest => exact ⟨.inr h', h.2⟩

theorem Legible.of_append {p : Place} {previous : Option CodePoint} {front rest : Text}
    (h : p.Legible previous (front ++ rest)) : p.Legible previous front := by
  induction front generalizing p previous with
  | nil => trivial
  | cons c front ih =>
    obtain ⟨hmark, houtside, hrest⟩ := h
    refine ⟨hmark, fun hquote => ⟨(houtside hquote).1, fun hc => ?_⟩, ih hrest⟩
    rw [Bool.eq_false_iff]
    intro hprefix
    have hlonger : [c, c] <+: front ++ rest :=
      (List.isPrefixOf_iff_prefix.1 hprefix).trans (List.prefix_append front rest)
    exact Bool.eq_false_iff.1 ((houtside hquote).2 hc) (List.isPrefixOf_iff_prefix.2 hlonger)

end Arguments.Place

namespace Chain

open Arguments (Place)

/-- Characters that neither reader minds outside quotes, but for dots and commas. -/
def isIdle (c : CodePoint) : Bool := Position.isNeutral c && c != '\\'

/-- From a text the splitter passes over what stands before its rest, outside quotes at both
ends, and the rest is legible if the text is. -/
def Spans (depth depth' : Int) (t rest : Text) : Prop :=
  ∀ previous, previous ≠ some (.char '\\') → Place.outside.Legible previous t →
    ∃ front last, t = front ++ rest ∧ last ≠ some (.char '\\') ∧
      Passes ⟨none, depth⟩ previous front ⟨none, depth'⟩ last ∧
      Place.outside.Legible last rest

namespace Spans

variable {depth depth' depth'' : Int} {t rest later : Text}

theorem refl (depth : Int) (t : Text) : Spans depth depth t t :=
  fun previous hprevious hlegible => ⟨[], previous, rfl, hprevious, .done, hlegible⟩

theorem trans (h : Spans depth depth' t rest) (h' : Spans depth' depth'' rest later) :
    Spans depth depth'' t later := by
  intro previous hprevious hlegible
  obtain ⟨front, middle, rfl, hmiddle, hfront, hrest⟩ := h previous hprevious hlegible
  obtain ⟨back, last, rfl, hlast, hback, hlater⟩ := h' middle hmiddle hrest
  exact ⟨front ++ back, last, (List.append_assoc ..).symm, hlast, hfront.append hback, hlater⟩

/-- One character that is no quote mark. -/
theorem char {c : CodePoint} (hmark : Arguments.isMark c = false) (hslash : c ≠ '\\')
    (hafter : ∀ previous, (⟨none, depth⟩ : Position).after previous c = ⟨none, depth'⟩)
    (huncut : c = '.' → depth' ≠ 0) (rest : Text) : Spans depth depth' (c :: rest) rest := by
  intro previous _ hlegible
  have hplace : Place.outside.after c = .outside := by
    simp [Place.after, Place.outside, hmark]
  obtain ⟨-, -, hrest⟩ := hlegible
  rw [hplace] at hrest
  refine ⟨[c], some c, rfl, by simpa using hslash, .read ?_ ?_, hrest⟩
  · rw [hafter]
    rintro ⟨hdot, houtside⟩
    exact huncut hdot (by simpa [Position.isOutside] using houtside)
  · rw [hafter]
    exact .done

/-- Characters that neither reader minds are passed over between brackets. -/
theorem idle (hdepth : depth ≠ 0) {front : Text} (h : ∀ c ∈ front, isIdle c = true) (rest : Text) :
    Spans depth depth (front ++ rest) rest := by
  induction front with
  | nil => exact refl depth rest
  | cons c front ih =>
    rw [List.forall_mem_cons] at h
    obtain ⟨hc, hfront⟩ := h
    rw [isIdle, Bool.and_eq_true, bne_iff_ne] at hc
    have hmark : Arguments.isMark c = false := by
      have hneutral := hc.1
      simp only [Position.isNeutral, Bool.and_eq_true, Bool.not_eq_true'] at hneutral
      exact hneutral.1.1
    have hfirst : Spans depth depth (c :: (front ++ rest)) (front ++ rest) :=
      char hmark hc.2 (Position.after_neutral hc.1 _) (fun _ => hdepth) _
    exact hfirst.trans (ih hfront)

end Spans

/-! ## Quotations -/

theorem after_escaped (mark : CodePoint) (depth : Int) (c : CodePoint) :
    (⟨some mark, depth⟩ : Position).after (some '\\') c = ⟨some mark, depth⟩ := by
  simp [Position.after, Position.quoteAfter]

/-- The splitter, inside quotes, passes over what stands before a rest and is outside them there,
and the rest is legible. -/
def Closes (mark : CodePoint) (depth : Int) (previous : Option CodePoint) (t rest : Text) : Prop :=
  ∃ front last, t = front ++ rest ∧ last ≠ some (.char '\\') ∧
    Passes ⟨some mark, depth⟩ previous front ⟨none, depth⟩ last ∧ Place.outside.Legible last rest

section

variable {mark : CodePoint} {depth : Int} {previous : Option CodePoint} {t rest after : Text}

theorem not_cut_inside (mark : CodePoint) (depth : Int) (c : CodePoint) :
    ¬ (c = '.' ∧ (⟨some mark, depth⟩ : Position).isOutside) := by
  rintro ⟨-, houtside⟩
  simp [Position.isOutside] at houtside

/-- A backslash takes the next character along, whatever it is. -/
theorem Closes.escaped (hslash : mark ≠ '\\') {c : CodePoint}
    (h : Closes mark depth (some c) rest after) :
    Closes mark depth previous ('\\' :: c :: rest) after := by
  obtain ⟨front, last, rfl, hlast, hpass, hlegible⟩ := h
  refine ⟨'\\' :: c :: front, last, rfl, hlast, .read ?_ (.read ?_ ?_), hlegible⟩
  · rw [Position.after_inside hslash.symm]
    exact not_cut_inside mark depth '\\'
  · rw [Position.after_inside hslash.symm, after_escaped]
    exact not_cut_inside mark depth c
  · rw [Position.after_inside hslash.symm, after_escaped]
    exact hpass

/-- The mark itself closes the quotation. -/
theorem Closes.closing (hmark : Position.isMark mark = true) (hslash : mark ≠ '\\')
    (hprevious : previous ≠ some (.char '\\')) (h : Place.outside.Legible (some mark) after) :
    Closes mark depth previous (mark :: after) after := by
  have hclosing := Position.after_closing_mark hmark depth hprevious
  refine ⟨[mark], some mark, rfl, by simpa using hslash, .read ?_ ?_, h⟩
  · rintro ⟨hdot, -⟩
    exact Text.ne_of_test hmark rfl hdot
  · rw [hclosing]
    exact .done

/-- Any other character stands inside the quotation. -/
theorem Closes.other {c : CodePoint} (hc : c ≠ mark) (h : Closes mark depth (some c) rest after) :
    Closes mark depth previous (c :: rest) after := by
  obtain ⟨front, last, rfl, hlast, hpass, hlegible⟩ := h
  refine ⟨c :: front, last, rfl, hlast, .read ?_ ?_, hlegible⟩
  · rw [Position.after_inside hc]
    exact not_cut_inside mark depth c
  · rw [Position.after_inside hc]
    exact hpass

theorem legible_escaped {c : CodePoint}
    (h : Place.Legible ⟨some mark, false⟩ previous ('\\' :: c :: rest)) :
    Place.Legible ⟨some mark, false⟩ (some c) rest := by
  have hplace : ((⟨some mark, false⟩ : Place).after '\\').after c = ⟨some mark, false⟩ := by
    simp [Place.after]
  obtain ⟨-, -, -, -, hrest⟩ := h
  rwa [hplace] at hrest

/-- Both readers take a legible mark for the end of its quotation. -/
theorem legible_mark (hslash : mark ≠ '\\')
    (h : Place.Legible ⟨some mark, false⟩ previous (mark :: rest)) :
    previous ≠ some (.char '\\') ∧ Place.outside.Legible (some mark) rest := by
  have hplace : (⟨some mark, false⟩ : Place).after mark = .outside := by
    simp [Place.after, Place.outside, hslash]
  obtain ⟨hcounted, -, hrest⟩ := h
  rw [hplace] at hcounted hrest
  exact ⟨hcounted.resolve_left (by simp [Place.outside]), hrest⟩

theorem legible_other {c : CodePoint} (hc : c ≠ mark) (hslash : c ≠ '\\')
    (h : Place.Legible ⟨some mark, false⟩ previous (c :: rest)) :
    Place.Legible ⟨some mark, false⟩ (some c) rest := by
  have hplace : (⟨some mark, false⟩ : Place).after c = ⟨some mark, false⟩ := by
    simp [Place.after, hc, hslash]
  obtain ⟨-, -, hrest⟩ := h
  rwa [hplace] at hrest

/-- Between its marks a quotation is passed over, and at its closing mark both readers leave it. -/
theorem spans_body (hmark : Position.isMark mark = true) {body : Text}
    (h : Quotation.body? [mark] t = some (body, after))
    (hlegible : Place.Legible ⟨some mark, false⟩ previous t) (depth : Int) :
    Closes mark depth previous t after := by
  have hslash : mark ≠ '\\' := Text.ne_of_test hmark rfl
  induction t using Literal.Quotation.body?.induct [mark] generalizing body previous with
  | case1 => cases h
  | case2 => cases h
  | case3 c rest ih =>
    rw [Literal.Quotation.body?] at h
    obtain ⟨⟨inner, behind⟩, hbody, h⟩ := Option.map_eq_some_iff.1 h
    cases h
    exact .escaped hslash (ih hbody (legible_escaped hlegible))
  | case4 c rest _ _ hstarts =>
    rw [Literal.Quotation.body?, if_pos hstarts] at h
    · obtain rfl : mark = c := by simpa [Text.startsWith, List.isPrefixOf] using hstarts
      cases h
      obtain ⟨hprevious, hrest⟩ := legible_mark hslash hlegible
      exact .closing hmark hslash hprevious hrest
    · assumption
    · assumption
  | case5 c rest _ _ hstarts hline =>
    rw [Literal.Quotation.body?, if_neg hstarts, if_pos hline] at h
    · cases h
    · assumption
    · assumption
  | case6 c rest hescape hend hstarts hline ih =>
    rw [Literal.Quotation.body?, if_neg hstarts, if_neg hline] at h
    · obtain ⟨⟨inner, behind⟩, hbody, h⟩ := Option.map_eq_some_iff.1 h
      cases h
      have hc : c ≠ mark := by
        rintro rfl
        exact hstarts (by simp [Text.startsWith, List.isPrefixOf])
      have hplain : c ≠ '\\' := by
        rintro rfl
        cases rest with
        | nil => exact hescape rfl rfl
        | cons d more => exact hend d more rfl rfl
      exact .other hc (ih hbody (legible_other hc hplain hlegible))
    · assumption
    · assumption

end

/-! ## Numbers -/

/-- The rest of a text behind characters that neither reader minds. -/
def Idles (t rest : Text) : Prop := ∃ front, t = front ++ rest ∧ ∀ c ∈ front, isIdle c = true

/-- The characters that one of the readers minds. -/
def special : Text := [.char '"', .char '\'', .char '(', .char ')', .char '\\']

theorem isIdle_of_test {test : CodePoint → Bool} {c : CodePoint} (h : test c = true)
    (hspecial : special.all (fun d => !test d) = true) : isIdle c = true := by
  have hne : ∀ d ∈ special, c ≠ d := by
    intro d hd
    have hnot : test d = false := by simpa using List.all_eq_true.1 hspecial d hd
    exact Text.ne_of_test h hnot
  simp only [special, List.forall_mem_cons] at hne
  simp [isIdle, Position.isNeutral, Position.isMark, hne]

namespace Idles

variable {t rest later : Text}

theorem refl (t : Text) : Idles t t := ⟨[], rfl, by simp⟩

theorem trans (h : Idles t rest) (h' : Idles rest later) : Idles t later := by
  obtain ⟨front, rfl, hfront⟩ := h
  obtain ⟨back, rfl, hback⟩ := h'
  refine ⟨front ++ back, (List.append_assoc ..).symm, fun c hc => ?_⟩
  exact (List.mem_append.1 hc).elim (hfront c) (hback c)

theorem cons {c : CodePoint} (hc : isIdle c = true) (h : Idles t rest) : Idles (c :: t) rest := by
  obtain ⟨front, rfl, hfront⟩ := h
  exact ⟨c :: front, rfl, List.forall_mem_cons.2 ⟨hc, hfront⟩⟩

theorem run {test : CodePoint → Bool} (hspecial : special.all (fun d => !test d) = true)
    (t : Text) :
    Idles t (t.dropWhile test) := by
  refine ⟨t.takeWhile test, List.takeWhile_append_dropWhile.symm, fun c hc => ?_⟩
  exact isIdle_of_test (List.mem_takeWhile_imp hc) hspecial

theorem spans (h : Idles t rest) {depth : Int} (hdepth : depth ≠ 0) : Spans depth depth t rest := by
  obtain ⟨front, rfl, hfront⟩ := h
  exact .idle hdepth hfront rest

open Literal.Numeral

theorem digitRun {digits : Text} (h : digitRun? t = some (digits, rest)) : Idles t rest := by
  obtain ⟨found, -, h⟩ := Option.bind_eq_some_iff.1 h
  cases h
  exact run (by decide) t

theorem fraction {found : Option Text} (h : fraction? t = some (found, rest)) : Idles t rest := by
  unfold fraction? at h
  split at h
  · refine cons (by decide) ?_
    split at h
    · cases h
    · obtain ⟨⟨digits, behind⟩, hrun, h⟩ := Option.map_eq_some_iff.1 h
      cases h
      exact digitRun hrun
  · cases h
    exact refl t

theorem sign (t : Text) : Idles t (Number.splitSign t).2 := by
  unfold Number.splitSign
  split
  · exact cons (by decide) (refl _)
  · exact cons (by decide) (refl _)
  · exact refl t

theorem power {found : Option Int} (h : power? t = some (found, rest)) : Idles t rest := by
  unfold power? at h
  split at h
  · next c later =>
    dsimp only at h
    split at h
    · next hpower =>
      have hc : isIdle c = true := by
        rcases hpower.1 with rfl | rfl <;> decide
      obtain ⟨⟨digits, behind⟩, hrun, h⟩ := Option.bind_eq_some_iff.1 h
      dsimp only at h
      split at h
      · cases h
      · obtain ⟨n, -, h⟩ := Option.bind_eq_some_iff.1 h
        cases h
        exact cons hc ((sign later).trans (digitRun hrun))
    · cases h
      exact refl _
  · cases h
    exact refl _

theorem based {base n : Nat} (h : readBased? base t = some (n, rest)) : Idles t rest := by
  obtain ⟨digits, -, h⟩ := Option.bind_eq_some_iff.1 h
  dsimp only at h
  split at h
  · cases h
  · obtain ⟨value, -, h⟩ := Option.bind_eq_some_iff.1 h
    cases h
    refine run (List.all_eq_true.2 fun d hd => ?_) t
    have hnone : special.all (fun d => Text.hexValue? d == none && d != '_') = true := by decide
    have hd : Text.hexValue? d = none ∧ d ≠ '_' := by simpa using List.all_eq_true.1 hnone d hd
    simp [hd]

theorem decimal {n : Numeral} (h : readDecimal? t = some (n, rest)) : Idles t rest := by
  obtain ⟨⟨front, a⟩, hfront, h⟩ := Option.bind_eq_some_iff.1 h
  obtain ⟨⟨fractional, b⟩, hfraction, h⟩ := Option.bind_eq_some_iff.1 h
  obtain ⟨⟨exponent, d⟩, hpower, h⟩ := Option.bind_eq_some_iff.1 h
  have hdigits := ((digitRun hfront).trans (fraction hfraction)).trans (power hpower)
  -- What ends the numeral is the end of its digits, or an imaginary unit behind them.
  have hplain : ∀ coefficient : Nat,
      (if (!ends d) = true then none
      else if fractional.isNone = true ∧ exponent.isNone = true then
        if coefficient ≠ 0 ∧
          (front.head? = some (.char '0') ∨
            Number.digitLimit < (front ++ fractional.getD []).length) then none
        else some (whole coefficient, d)
      else some (real (.ofDecimal false coefficient
        (exponent.getD 0 - ((fractional.getD []).length : Int))), d)) = some (n, rest) → d = rest := by
    intro coefficient hbare
    split at hbare
    · cases hbare
    · split at hbare
      · split at hbare
        · cases hbare
        · cases hbare
          rfl
      · cases hbare
        rfl
  dsimp only at h
  split at h
  · cases h
  · obtain ⟨coefficient, -, h⟩ := Option.bind_eq_some_iff.1 h
    split at h
    · next c later _ =>
      split at h
      · next hunit =>
        have hc : isIdle c = true := by
          rcases hunit with rfl | rfl <;> decide
        split at h
        · cases h
          exact hdigits.trans (cons hc (refl _))
        · cases h
      · obtain rfl := hplain coefficient h
        exact hdigits
    · obtain rfl := hplain coefficient h
      exact hdigits

theorem numeral {n : Numeral} (h : Literal.Numeral.read? t = some (n, rest)) : Idles t rest := by
  unfold Literal.Numeral.read? at h
  split at h
  · next c later =>
    split at h
    · next base hbase =>
      obtain ⟨⟨value, behind⟩, hbased, h⟩ := Option.map_eq_some_iff.1 h
      cases h
      have hc : isIdle c = true :=
        @isIdle_of_test (fun c => (base? c).isSome) c (by simp [hbase]) (by decide)
      exact cons (by decide) (cons hc (based hbased))
    · exact decimal h
  · exact decimal h

end Idles

end Chain

/-! ## Brackets among lexemes -/

namespace Literal.Lexeme

/-- How many round brackets are open behind a lexeme, unless it closes one that is not. -/
def level? (l : Lexeme) (depth : Nat) : Option Nat :=
  if l = .mark ['('] then some (depth + 1)
  else if l = .mark [')'] then if depth = 0 then none else some (depth - 1)
  else some depth

/-- How many are open behind all lexemes. -/
def nest? (depth : Nat) : List Lexeme → Option Nat
  | [] => some depth
  | l :: rest => (l.level? depth).bind fun depth => nest? depth rest

/-- Lexemes that are no round brackets. -/
def IsLevel (l : Lexeme) : Prop := l ≠ .mark ['('] ∧ l ≠ .mark [')']

instance (l : Lexeme) : Decidable l.IsLevel := inferInstanceAs (Decidable (_ ∧ _))

theorem level?_of_isLevel {l : Lexeme} (h : l.IsLevel) (depth : Nat) :
    l.level? depth = some depth := by
  rw [level?, if_neg h.1, if_neg h.2]

theorem nest?_level {l : Lexeme} (h : l.IsLevel) (depth : Nat) (rest : List Lexeme) :
    nest? depth (l :: rest) = nest? depth rest := by
  rw [nest?, level?_of_isLevel h]
  rfl

theorem nest?_levels {ls : List Lexeme} (h : ∀ l ∈ ls, l.IsLevel) (depth : Nat)
    (rest : List Lexeme) : nest? depth (ls ++ rest) = nest? depth rest := by
  induction ls with
  | nil => rfl
  | cons l ls ih =>
    rw [List.forall_mem_cons] at h
    rw [List.cons_append, nest?_level h.1, ih h.2]

/-- A plain expression closes the brackets that it opens. -/
theorem nest?_written {w : List Lexeme} (h : Written w) (depth : Nat) (rest : List Lexeme) :
    nest? depth (w ++ rest) = nest? depth rest := by
  induction h generalizing depth rest with
  | number n => exact nest?_level (l := .number n) ⟨nofun, nofun⟩ depth rest
  | word t => exact nest?_level (l := .word t) ⟨nofun, nofun⟩ depth rest
  | ellipsis => exact nest?_level (l := Grammar.mark "...") (by decide) depth rest
  | quotations q more =>
    refine nest?_levels (fun l hl => ?_) depth rest
    obtain ⟨q, -, rfl⟩ := List.mem_map.1 hl
    exact ⟨nofun, nofun⟩
  | signed hsign _ ih =>
    rw [List.cons_append, nest?_level, ih]
    rcases hsign with rfl | rfl <;> decide
  | grouped _ ih =>
    have hopening : (Grammar.mark "(").level? depth = some (depth + 1) := rfl
    have hclosing : (Grammar.mark ")").level? (depth + 1) = some depth := rfl
    rw [List.cons_append, nest?, hopening, Option.bind_some, List.append_assoc, ih,
      List.singleton_append, nest?, hclosing, Option.bind_some]

theorem nest?_joinLines {depth : Nat} {ls joined : List Lexeme}
    (h : joinLines? depth ls = some joined) (outer : Nat) : nest? outer ls = nest? outer joined := by
  induction ls generalizing depth joined outer with
  | nil =>
    cases h
    rfl
  | cons l rest ih =>
    -- A lexeme that is kept counts the same on both sides.
    have hkept : ∀ {deeper : Nat}, (joinLines? deeper rest).map (l :: ·) = some joined →
        nest? outer (l :: rest) = nest? outer joined := by
      intro deeper hmap
      obtain ⟨later, hlater, rfl⟩ := Option.map_eq_some_iff.1 hmap
      simp only [nest?, ih hlater]
    unfold joinLines? at h
    split at h
    · next hline =>
      rw [nest?_level, ih h]
      rcases hline.1 with rfl | rfl <;> exact ⟨nofun, nofun⟩
    · split at h
      · split at h
        · exact hkept h
        · cases h
      · split at h
        · exact hkept h
        · exact hkept h

theorem isLevel_of_mem_lineStart {t : Text} {l : Lexeme} (h : l ∈ lineStart t) : l.IsLevel := by
  unfold lineStart at h
  split at h
  · cases h
  · split at h
    · rw [List.mem_singleton] at h
      subst h
      exact ⟨nofun, nofun⟩
    · cases h

theorem nest?_lineEnds {ls : List Lexeme} (h : ∀ l ∈ ls, l = .lineEnd) (depth : Nat) :
    nest? depth ls = some depth := by
  have hlevel : ∀ l ∈ ls, l.IsLevel := by
    intro l hl
    rw [h l hl]
    exact ⟨nofun, nofun⟩
  have hall := nest?_levels hlevel depth []
  rwa [List.append_nil] at hall

theorem nest?_append_lineEnd (ls : List Lexeme) (depth : Nat) :
    nest? depth (ls ++ [.lineEnd]) = nest? depth ls := by
  induction ls generalizing depth with
  | nil => rfl
  | cons l ls ih =>
    rw [List.cons_append]
    simp only [nest?, ih]

/-- The lexemes of a literal with a value close the brackets that they open. -/
theorem nest?_of_read {t : Text} {v : Value} (h : Literal.read t = .ok v) :
    ∃ ls, readAll? ((unifyLines t).length + 1) (unifyLines t) = some ls ∧
      ∀ depth, nest? depth ls = some depth := by
  obtain ⟨ls, w, rest, hls, hw, hsplit, hends⟩ := written_of_read h
  unfold ofText? at hls
  split at hls
  · cases hls
  · obtain ⟨lexemes, hread, hjoin⟩ := Option.bind_eq_some_iff.1 hls
    refine ⟨lexemes, hread, fun depth => ?_⟩
    have hfront : ∀ l ∈ ls.takeWhile (· == .lineEnd), l.IsLevel := by
      intro l hl
      have heq : l = .lineEnd := by simpa using List.mem_takeWhile_imp hl
      rw [heq]
      exact ⟨nofun, nofun⟩
    calc nest? depth lexemes
      _ = nest? depth (lineStart (unifyLines t) ++ lexemes) :=
        (nest?_levels (fun l => isLevel_of_mem_lineStart) depth lexemes).symm
      _ = nest? depth ls := nest?_joinLines hjoin depth
      _ = nest? depth (ls.takeWhile (· == .lineEnd) ++ ls.dropWhile (· == .lineEnd)) := by
        rw [List.takeWhile_append_dropWhile]
      _ = nest? depth (ls.dropWhile (· == .lineEnd)) := nest?_levels hfront depth _
      _ = nest? depth (w ++ rest) := by rw [← hsplit, nest?_append_lineEnd]
      _ = nest? depth rest := nest?_written hw depth rest
      _ = some depth := nest?_lineEnds hends depth

end Literal.Lexeme

/-! ## Lexemes in a text -/

/-- What follows a quotation with single marks follows its body. -/
theorem Literal.Quotation.exists_body_of_read? {letters later rest : Text} {mark : CodePoint}
    {q : Quotation} (hsingle : Text.startsWith [mark, mark] later = false)
    (h : read? letters (mark :: later) = some (q, rest)) :
    ∃ body, body? [mark] later = some (body, rest) := by
  obtain ⟨⟨kind, raw⟩, -, h⟩ := Option.bind_eq_some_iff.1 h
  dsimp only at h
  rw [hsingle, if_neg (by decide)] at h
  obtain ⟨⟨body, behind⟩, hbody, h⟩ := Option.bind_eq_some_iff.1 h
  dsimp only at h
  cases kind with
  | text =>
    dsimp only at h
    split at h
    · cases h
      exact ⟨body, hbody⟩
    · obtain ⟨s, -, h⟩ := Option.bind_eq_some_iff.1 h
      cases h
      exact ⟨body, hbody⟩
  | bytes =>
    dsimp only at h
    split at h
    · cases h
      exact ⟨body, hbody⟩
    · cases h
  | formatted =>
    cases h
    exact ⟨body, hbody⟩

namespace Chain.Spans

open Arguments (Place)
open Literal.Lexeme

variable {t rest : Text}

/-- A line that is joined to the next one. -/
theorem joinedLine {depth : Int} (hdepth : depth ≠ 0) (rest : Text) :
    Spans depth depth ('\\' :: '\n' :: rest) rest := by
  intro previous _ hlegible
  have hneutral : ∀ c, Position.isNeutral c = true → ∀ before,
      (⟨none, depth⟩ : Position).after before c = ⟨none, depth⟩ := fun c hc before =>
    Position.after_neutral hc _ before
  have huncut : ∀ c : CodePoint, ¬ (c = '.' ∧ (⟨none, depth⟩ : Position).isOutside) := by
    rintro c ⟨-, houtside⟩
    exact hdepth (by simpa [Position.isOutside] using houtside)
  obtain ⟨-, -, -, -, hrest⟩ := hlegible
  refine ⟨['\\', '\n'], some '\n', rfl, by decide, .read ?_ (.read ?_ ?_), hrest⟩
  · rw [hneutral '\\' (by decide)]
    exact huncut '\\'
  · rw [hneutral '\\' (by decide), hneutral '\n' (by decide)]
    exact huncut '\n'
  · rw [hneutral '\\' (by decide), hneutral '\n' (by decide)]
    exact .done

theorem skipSpace {depth : Int} (hdepth : depth ≠ 0) (t : Text) :
    Spans depth depth t (Lexeme.skipSpace t) := by
  induction t using Literal.Lexeme.skipSpace.induct with
  | case1 c rest ih =>
    rw [Lexeme.skipSpace]
    exact (joinedLine hdepth (c :: rest)).trans ih
  | case2 c rest hjoin hspace ih =>
    rw [Lexeme.skipSpace, if_pos hspace]
    · have hidle : ∀ d ∈ [c], isIdle d = true := by
        intro d hd
        rw [List.mem_singleton.1 hd]
        exact isIdle_of_test hspace (by decide)
      exact (idle hdepth hidle rest).trans ih
    · exact hjoin
  | case3 c rest hjoin hspace =>
    rw [Lexeme.skipSpace, if_neg hspace]
    · exact .refl depth (c :: rest)
    · exact hjoin
  | case4 => exact .refl depth []

/-- A legible text has no comment. -/
theorem skipComment (depth : Int) (t : Text) : Spans depth depth t (Lexeme.skipComment t) := by
  intro previous hprevious hlegible
  unfold Lexeme.skipComment
  split
  · exact absurd rfl (hlegible.2.1 rfl).1
  · exact refl depth t previous hprevious hlegible

theorem isIdle_of_continuesName {c : CodePoint} (h : Literal.Numeral.continuesName c = true) :
    isIdle c = true :=
  isIdle_of_test h (by decide)

/-- A quotation, with the letters before it. -/
theorem quotation {letters after : Text} {q : Quotation} {depth : Int}
    (hletters : ∀ c ∈ letters, isIdle c = true) (hdepth : depth ≠ 0)
    (hmark : after.head?.any Literal.Quotation.isMark)
    (h : Literal.Quotation.read? letters after = some (q, rest)) :
    Spans depth depth (letters ++ after) rest := by
  refine (idle hdepth hletters after).trans fun previous hprevious hlegible => ?_
  cases after with
  | nil => cases h
  | cons mark later =>
    have hmark : Position.isMark mark = true := hmark
    obtain ⟨-, houtside, hlater⟩ := hlegible
    have hsingle : Text.startsWith [mark, mark] later = false := (houtside rfl).2 hmark
    have hplace : Place.outside.after mark = ⟨some mark, false⟩ := by
      have hopens : Arguments.isMark mark = true := hmark
      simp [Place.after, Place.outside, hopens]
    obtain ⟨body, hbody⟩ := Literal.Quotation.exists_body_of_read? hsingle h
    rw [hplace] at hlater
    obtain ⟨front, last, hsplit, hlast, hpass, hrest⟩ := spans_body hmark hbody hlater depth
    have hopening := Position.after_opening_mark hmark depth hprevious
    refine ⟨mark :: front, last, ?_, hlast, .read ?_ ?_, hrest⟩
    · rw [List.cons_append, ← hsplit]
    · rintro ⟨hdot, -⟩
      exact Text.ne_of_test hmark rfl hdot
    · rw [hopening]
      exact hpass

theorem mark {l : Lexeme} (h : readMark? t = some (l, rest)) {depth deeper : Nat}
    (hlevel : l.level? depth = some deeper) : Spans (depth + 1) (deeper + 1) t rest := by
  unfold readMark? at h
  obtain ⟨m, hm, h⟩ := List.exists_of_findSome?_eq_some h
  obtain ⟨behind, hprefix, h⟩ := Option.map_eq_some_iff.1 h
  cases h
  obtain rfl : m.text ++ rest = t := List.append_eq_of_isPrefixOf?_eq_some hprefix
  have hmarks : marks.all (fun m => m.text == [.char '('] || m.text == [.char ')'] ||
      decide (Lexeme.mark m.text).IsLevel && m.text.all isIdle) = true := by decide
  have hkind := List.all_eq_true.1 hmarks m hm
  simp only [Bool.or_eq_true, Bool.and_eq_true, beq_iff_eq, decide_eq_true_eq,
    List.all_eq_true, or_assoc] at hkind
  rcases hkind with hopening | hclosing | ⟨hlevel', hidle⟩
  · rw [hopening] at hlevel ⊢
    cases hlevel
    refine char (by decide) (by decide) (fun previous => ?_) (fun hdot => by cases hdot) rest
    rw [Position.after_opening_parenthesis, Int.natCast_succ]
  · rw [hclosing] at hlevel ⊢
    rw [level?, if_neg (by decide), if_pos rfl] at hlevel
    split at hlevel
    · cases hlevel
    · next hpositive =>
      cases hlevel
      have hdepth : ((depth : Int) + 1) - 1 = ((depth - 1 : Nat) : Int) + 1 := by omega
      refine char (by decide) (by decide) (fun previous => ?_) (fun hdot => by cases hdot) rest
      rw [Position.after_closing_parenthesis, hdepth]
  · rw [level?_of_isLevel hlevel'] at hlevel
    cases hlevel
    exact idle (by omega) hidle rest

theorem lexeme {l : Lexeme} (h : Lexeme.read? t = some (l, rest)) {depth deeper : Nat}
    (hlevel : l.level? depth = some deeper) : Spans (depth + 1) (deeper + 1) t rest := by
  have hdepth : (depth : Int) + 1 ≠ 0 := by omega
  -- All lexemes but marks leave the depth as it is.
  have hflat : l.IsLevel → Spans (depth + 1) (depth + 1) t rest →
      Spans (depth + 1) (deeper + 1) t rest := by
    intro hl hspans
    rw [level?_of_isLevel hl] at hlevel
    cases hlevel
    exact hspans
  have hletters : ∀ c ∈ t.takeWhile Literal.Numeral.continuesName, isIdle c = true := fun c hc =>
    isIdle_of_continuesName (List.mem_takeWhile_imp hc)
  have hsplit : t.takeWhile Literal.Numeral.continuesName ++
      t.dropWhile Literal.Numeral.continuesName = t := List.takeWhile_append_dropWhile
  unfold Lexeme.read? at h
  extract_lets startsNumber letters after at h
  clear_value startsNumber
  split at h
  · obtain ⟨⟨n, behind⟩, hnumeral, h⟩ := Option.map_eq_some_iff.1 h
    cases h
    exact hflat ⟨nofun, nofun⟩ ((Idles.numeral hnumeral).spans hdepth)
  · split at h
    · next hquoted =>
      obtain ⟨⟨q, behind⟩, hquotation, h⟩ := Option.map_eq_some_iff.1 h
      cases h
      have hspans := quotation hletters hdepth hquoted.1 hquotation
      rw [hsplit] at hspans
      exact hflat ⟨nofun, nofun⟩ hspans
    · split at h
      · exact mark h hlevel
      · obtain ⟨word, hword, h⟩ := Option.map_eq_some_iff.1 h
        obtain rfl : word = l := congrArg Prod.fst h
        have hrest : after = rest := congrArg Prod.snd h
        have hspans := idle hdepth hletters after
        rw [hsplit] at hspans
        refine hflat ?_ (hrest ▸ hspans)
        unfold ofName? at hword
        split at hword
        · cases hword
          exact ⟨nofun, nofun⟩
        · split at hword
          · cases hword
            exact ⟨nofun, nofun⟩
          · cases hword

/-- The text of lexemes, with all that stands between them. -/
theorem readAll {fuel : Nat} {ls : List Lexeme} (h : readAll? fuel t = some ls)
    {depth deeper : Nat} (hnest : nest? depth ls = some deeper) :
    Spans (depth + 1) (deeper + 1) t [] := by
  induction fuel generalizing t ls depth with
  | zero => cases h
  | succ fuel ih =>
    have hdepth : (depth : Int) + 1 ≠ 0 := by omega
    refine ((skipSpace hdepth t).trans (skipComment _ _)).trans ?_
    unfold readAll? at h
    split at h
    · next hempty =>
      cases h
      cases hnest
      rw [hempty]
      exact .refl _ _
    · next rest hline =>
      obtain ⟨later, hlater, h⟩ := Option.bind_eq_some_iff.1 h
      cases h
      rw [nest?_level (by decide), nest?_levels fun l => isLevel_of_mem_lineStart] at hnest
      rw [hline]
      have hfeed : ∀ c ∈ [.char '\n'], isIdle c = true := List.forall_mem_singleton.2 (by decide)
      exact (idle hdepth hfeed rest).trans (ih hlater hnest)
    · obtain ⟨⟨l, rest⟩, hread, h⟩ := Option.bind_eq_some_iff.1 h
      obtain ⟨later, hlater, h⟩ := Option.bind_eq_some_iff.1 h
      cases h
      obtain ⟨middle, hlevel, hnest⟩ := Option.bind_eq_some_iff.1 hnest
      exact (lexeme hread hlevel).trans (ih hlater hnest)

end Chain.Spans

/-! ## Ends of lines -/

namespace Literal.Lexeme

/-- Only ends of lines are changed. -/
theorem eq_cons_of_unifyLines {t u : Text} {c : CodePoint} (h : unifyLines t = c :: u)
    (hc : c ≠ '\n') :
    ∃ rest, t = c :: rest ∧ unifyLines rest = u := by
  unfold unifyLines at h
  split at h
  · cases h
    exact absurd rfl hc
  · cases h
    exact absurd rfl hc
  · cases h
    exact ⟨_, rfl, rfl⟩
  · cases h

theorem startsWith_of_unifyLines {t : Text} {c : CodePoint} (hc : c ≠ '\n')
    (h : Text.startsWith [c, c] (unifyLines t) = true) : Text.startsWith [c, c] t = true := by
  obtain ⟨u, hu⟩ := List.isPrefixOf_iff_prefix.1 h
  obtain ⟨rest, rfl, hrest⟩ := eq_cons_of_unifyLines hu.symm hc
  obtain ⟨more, rfl, -⟩ := eq_cons_of_unifyLines hrest hc
  simp [Text.startsWith, List.isPrefixOf]

end Literal.Lexeme

namespace Arguments.Place

/-- Only quote marks are open. -/
def Proper (p : Place) : Prop := ∀ q, p.quote = some q → isMark q = true

theorem Proper.after {p : Place} (h : p.Proper) (c : CodePoint) : (p.after c).Proper := by
  intro q hq
  rcases p.quote_after c hq with hsame | ⟨-, hmark⟩
  · exact h q hsame
  · exact hmark

/-- The splitter of arguments does not tell the ends of lines apart. -/
theorem after_end {p : Place} (h : p.Proper) : p.after '\r' = p.after '\n' ∧
    (p.after '\n').after '\n' = p.after '\n' ∧ (p.after '\n').quote = p.quote := by
  obtain ⟨quote, escaped⟩ := p
  cases quote with
  | none => exact ⟨rfl, rfl, rfl⟩
  | some q =>
    have hmark : isMark q = true := h q rfl
    have hreturn : '\r' ≠ q := (Text.ne_of_test hmark rfl).symm
    have hfeed : '\n' ≠ q := (Text.ne_of_test hmark rfl).symm
    cases escaped <;> simp [Place.after, hreturn, hfeed]

theorem Legible.unifyLines {t : Text} {p : Place} {previous before : Option CodePoint}
    (hp : p.Proper) (h : p.Legible previous t)
    (hbefore : before = some (.char '\\') → previous = some (.char '\\')) :
    p.Legible before (Lexeme.unifyLines t) := by
  induction t using Literal.Lexeme.unifyLines.induct generalizing p previous before with
  | case1 rest ih =>
    obtain ⟨hreturn, hfeed, hquote⟩ := after_end hp
    obtain ⟨-, -, -, -, hrest⟩ := h
    rw [hreturn, hfeed] at hrest
    exact ⟨.inl hquote, fun _ => ⟨by decide, nofun⟩, ih (hp.after '\n') hrest nofun⟩
  | case2 rest hpair ih =>
    obtain ⟨hreturn, -, hquote⟩ := after_end hp
    obtain ⟨-, -, hrest⟩ := h
    rw [hreturn] at hrest
    rw [Lexeme.unifyLines]
    · exact ⟨.inl hquote, fun _ => ⟨by decide, nofun⟩, ih (hp.after '\n') hrest nofun⟩
    · exact hpair
  | case3 c rest hpair hreturn ih =>
    obtain ⟨hcounted, houtside, hrest⟩ := h
    rw [Lexeme.unifyLines]
    · refine ⟨hcounted.imp_right (mt hbefore), fun hquote => ⟨(houtside hquote).1, fun hmark => ?_⟩,
        ih (hp.after c) hrest id⟩
      have hsingle := (houtside hquote).2 hmark
      rw [Bool.eq_false_iff] at hsingle ⊢
      exact fun htriple => hsingle
        (Literal.Lexeme.startsWith_of_unifyLines (Text.ne_of_test hmark rfl) htriple)
    · exact hpair
    · exact hreturn
  | case4 => trivial

end Arguments.Place

namespace Chain

theorem Passes.of_unifyLines {t : Text} {p q : Position} {previous before last : Option CodePoint}
    (h : Passes p before (Lexeme.unifyLines t) q last)
    (hbefore : before = some (.char '\\') ↔ previous = some (.char '\\')) :
    ∃ final, Passes p previous t q final ∧
      (final = some (.char '\\') ↔ last = some (.char '\\')) := by
  have hend : ∀ c : CodePoint, c = '\r' ∨ c = '\n' → ∀ (p : Position) (before : Option CodePoint),
      p.after before c = p ∧ c ≠ '.' := by
    rintro c (rfl | rfl) p before
    · exact ⟨Position.after_neutral (by decide) p before, by decide⟩
    · exact ⟨Position.after_neutral (by decide) p before, by decide⟩
  induction t using Literal.Lexeme.unifyLines.induct generalizing p previous before with
  | case1 rest ih =>
    cases h with
    | read uncut hrest =>
      rw [(hend '\n' (.inr rfl) p before).1] at hrest
      have hsame : some (CodePoint.char '\n') = some (.char '\\') ↔
          some (CodePoint.char '\n') = some (.char '\\') := Iff.rfl
      obtain ⟨final, hpass, hfinal⟩ := ih hrest hsame
      refine ⟨final, .read ?_ (.read ?_ ?_), hfinal⟩
      · exact fun hcut => (hend '\r' (.inl rfl) p previous).2 hcut.1
      · exact fun hcut => (hend '\n' (.inr rfl) p previous).2 hcut.1
      · rw [(hend '\r' (.inl rfl) p previous).1, (hend '\n' (.inr rfl) p _).1]
        exact hpass
  | case2 rest hpair ih =>
    rw [Lexeme.unifyLines] at h
    · cases h with
      | read uncut hrest =>
        rw [(hend '\n' (.inr rfl) p before).1] at hrest
        have hsame : some (CodePoint.char '\n') = some (.char '\\') ↔
            some (CodePoint.char '\r') = some (.char '\\') := by decide
        obtain ⟨final, hpass, hfinal⟩ := ih hrest hsame
        refine ⟨final, .read ?_ ?_, hfinal⟩
        · exact fun hcut => (hend '\r' (.inl rfl) p previous).2 hcut.1
        · rw [(hend '\r' (.inl rfl) p previous).1]
          exact hpass
    · exact hpair
  | case3 c rest hpair hreturn ih =>
    rw [Lexeme.unifyLines] at h
    · cases h with
      | read uncut hrest =>
        have hafter : p.after before c = p.after previous c := by
          simp [Position.after, Position.quoteAfter, hbefore]
        rw [hafter] at uncut hrest
        obtain ⟨final, hpass, hfinal⟩ := ih hrest Iff.rfl
        exact ⟨final, .read uncut hpass, hfinal⟩
    · exact hpair
    · exact hreturn
  | case4 =>
    cases h
    exact ⟨previous, .done, hbefore.symm⟩

/-- The splitter of chains passes over a legible literal that has a value. -/
theorem contained_of_read {t : Text} {v : Value} (h : Literal.read t = .ok v)
    (hlegible : Arguments.Place.outside.Legible none t) : Contained 1 t := by
  intro previous hprevious
  obtain ⟨ls, hread, hnest⟩ := Literal.Lexeme.nest?_of_read h
  have hspans := Spans.readAll hread (hnest 0)
  have hunified : Arguments.Place.outside.Legible previous (Lexeme.unifyLines t) :=
    hlegible.unifyLines nofun fun heq => absurd heq hprevious
  obtain ⟨front, last, hsplit, hlast, hpass, -⟩ := hspans previous hprevious hunified
  rw [List.append_nil] at hsplit
  rw [← hsplit] at hpass
  obtain ⟨final, hpass, hfinal⟩ := hpass.of_unifyLines Iff.rfl
  exact ⟨final, fun heq => hlast (hfinal.1 heq), hpass⟩

end Chain

end Stencil
