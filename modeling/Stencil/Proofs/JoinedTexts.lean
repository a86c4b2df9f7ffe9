import Stencil.Proofs.FirstFailure
import Stencil.Proofs.EvaluationSteps
import Stencil.Proofs.OutermostTags

/-!
# Joined texts

A text that follows another changes nothing in it, and is changed in nothing by it, unless
braces match across the seam or an exclamation mark at the end of the first escapes a tag
at the start of the second. Then the tags of the whole are those of the parts, and rendering
the whole is rendering one part after the other.
-/

namespace Stencil

/-- Each opening brace is matched. -/
def AllClosed (t : Text) : Prop := ∀ i, t[i]? = some (.char '{') → ∃ j, Matched t i j

/-- Each closing brace is matched. -/
def AllOpened (t : Text) : Prop := ∀ j, t[j]? = some (.char '}') → ∃ i, Matched t i j

theorem allClosed_iff {t : Text} :
    AllClosed t ↔ ∀ i < t.length, t[i]? = some (.char '{') → ∃ j < t.length, Matched t i j := by
  constructor
  · intro h i _ hi
    obtain ⟨j, hj⟩ := h i hi
    exact ⟨j, (List.getElem?_eq_some_iff.1 hj.closing).1, hj⟩
  · intro h i hi
    obtain ⟨j, -, hj⟩ := h i (List.getElem?_eq_some_iff.1 hi).1 hi
    exact ⟨j, hj⟩

theorem allOpened_iff {t : Text} :
    AllOpened t ↔ ∀ j < t.length, t[j]? = some (.char '}') → ∃ i < t.length, Matched t i j := by
  constructor
  · intro h j _ hj
    obtain ⟨i, hi⟩ := h j hj
    exact ⟨i, (List.getElem?_eq_some_iff.1 hi.opening).1, hi⟩
  · intro h j hj
    obtain ⟨i, -, hi⟩ := h j (List.getElem?_eq_some_iff.1 hj).1 hj
    exact ⟨i, hi⟩

instance (t : Text) : Decidable (AllClosed t) := decidable_of_iff _ allClosed_iff.symm

instance (t : Text) : Decidable (AllOpened t) := decidable_of_iff _ allOpened_iff.symm

/-- Two texts with nothing across their seam: no braces match and no tag is escaped. -/
structure Joinable (front back : Text) : Prop where
  apart : AllClosed front ∨ AllOpened back
  unescaped : ¬ (front.getLast? = some (.char '!') ∧ back.head? = some (.char '{'))

theorem joinable_iff {front back : Text} :
    Joinable front back ↔ (AllClosed front ∨ AllOpened back) ∧
      ¬ (front.getLast? = some (.char '!') ∧ back.head? = some (.char '{')) :=
  ⟨fun h => ⟨h.apart, h.unescaped⟩, fun h => ⟨h.1, h.2⟩⟩

instance (front back : Text) : Decidable (Joinable front back) :=
  decidable_of_iff _ joinable_iff.symm

/-! ## Braces of joined texts -/

namespace Matched

variable {front back : Text} {i j k : Nat}

theorem closing_lt (h : Matched front i j) : j < front.length :=
  (List.getElem?_eq_some_iff.1 h.closing).1

/-- Text behind a matched pair leaves it as it is. -/
theorem append_left_iff (hj : j < front.length) :
    Matched (front ++ back) i j ↔ Matched front i j := by
  have hget : ∀ k ≤ j, (front ++ back)[k]? = front[k]? := by
    intro k hk
    exact List.getElem?_append_left (by omega)
  have hslice : (front ++ back).slice (i + 1) j = front.slice (i + 1) j := by
    unfold Text.slice
    rw [List.take_append_of_le_length (by omega)]
  constructor
  · intro h
    have horder := h.order
    refine ⟨horder, ?_, ?_, hslice ▸ h.between⟩
    · rw [← hget i (by omega)]
      exact h.opening
    · rw [← hget j (by omega)]
      exact h.closing
  · intro h
    have horder := h.order
    refine ⟨horder, ?_, ?_, hslice ▸ h.between⟩
    · rw [hget i (by omega)]
      exact h.opening
    · rw [hget j (by omega)]
      exact h.closing

theorem append_left (h : Matched front i j) (back : Text) : Matched (front ++ back) i j :=
  (append_left_iff h.closing_lt).2 h

theorem opening_unique (h : Matched front i k) (h' : Matched front j k) : i = j := by
  have horder := h.order
  have horder' := h'.order
  rcases Nat.lt_trichotomy i j with hlt | heq | hlt
  · have hnested := h.nested_or_apart h' hlt
    omega
  · exact heq
  · have hnested := h'.nested_or_apart h hlt
    omega

end Matched

theorem AllClosed.of_append {front back : Text} (h : AllClosed (front ++ back)) :
    AllClosed back := by
  intro i hi
  have hopening : (front ++ back)[front.length + i]? = some (.char '{') := by
    rw [List.getElem?_append_right (by omega), Nat.add_sub_cancel_left, hi]
  obtain ⟨j, hj⟩ := h _ hopening
  have horder := hj.order
  obtain ⟨k, rfl⟩ : ∃ k, j = front.length + k := ⟨j - front.length, by omega⟩
  exact ⟨k, Matched.append_iff.1 hj⟩

namespace Joinable

variable {front back : Text}

theorem of_append (first : Text) (h : Joinable (first ++ front) back) : Joinable front back where
  apart := by
    rcases h.apart with hclosed | hopened
    · exact .inl hclosed.of_append
    · exact .inr hopened
  unescaped := by
    rintro ⟨hmark, hopening⟩
    refine h.unescaped ⟨?_, hopening⟩
    rw [List.getLast?_append, hmark, Option.some_or]

/-- A pair of the whole that opens in the first text closes in it. -/
theorem closing_lt (h : Joinable front back) {i j : Nat} (hmatched : Matched (front ++ back) i j)
    (hi : i < front.length) : j < front.length := by
  by_contra hj
  obtain ⟨k, rfl⟩ : ∃ k, j = front.length + k := ⟨j - front.length, by omega⟩
  rcases h.apart with hclosed | hopened
  · have hopening : front[i]? = some (.char '{') := by
      rw [← List.getElem?_append_left hi]
      exact hmatched.opening
    obtain ⟨l, hl⟩ := hclosed i hopening
    have heq := hmatched.closing_unique (hl.append_left back)
    have hlt := hl.closing_lt
    omega
  · have hclosing : back[k]? = some (.char '}') := by
      have := hmatched.closing
      rwa [List.getElem?_append_right (by omega), Nat.add_sub_cancel_left] at this
    obtain ⟨l, hl⟩ := hopened k hclosing
    have heq := hmatched.opening_unique (Matched.append_iff.2 hl)
    omega

/-- The brace of a tag at the head of the whole stands in the first text. -/
theorem opening_lt (h : Joinable front back) (hne : front ≠ []) {tag : Tag} {after : Text}
    (hsplit : front ++ back = tag.source ++ after) :
    (⟨tag, 0, tag.source.length⟩ : TagSpan).opening < front.length := by
  obtain ⟨c, rest, rfl⟩ := List.exists_cons_of_ne_nil hne
  cases hescaped : tag.escaped with
  | false => simp [TagSpan.opening, hescaped]
  | true =>
    cases rest with
    | nil =>
      simp only [Tag.source, hescaped, if_true, List.cons_append, List.nil_append,
        List.cons.injEq] at hsplit
      obtain ⟨rfl, rfl⟩ := hsplit
      exact absurd ⟨rfl, rfl⟩ h.unescaped
    | cons d rest => simp [TagSpan.opening, hescaped]

/-- A tag at the head of the whole is there before the second text follows. -/
theorem at?_eq_none (h : Joinable front back) (hne : front ≠ []) (hnone : Tag.at? front = none) :
    Tag.at? (front ++ back) = none := by
  rw [Option.eq_none_iff_forall_ne_some]
  intro tag htag
  obtain ⟨hbody, after, hsplit⟩ := Tag.at?_eq_some_iff.1 htag
  have hcut : (⟨tag, 0, tag.source.length⟩ : TagSpan).Cuts (front ++ back) [] after :=
    ⟨hsplit, rfl, (Nat.zero_add _).symm, hbody, by simp⟩
  have hclosing := h.closing_lt hcut.matched (h.opening_lt hne hsplit)
  have hwithin : tag.source <+: front := by
    refine List.prefix_of_prefix_length_le ⟨after, hsplit.symm⟩ (List.prefix_append ..) ?_
    have hpos := List.length_pos_iff.2 tag.source_ne_nil
    simp only at hclosing
    omega
  obtain ⟨rest, hrest⟩ := hwithin
  have hsome : Tag.at? front = some tag := Tag.at?_eq_some_iff.2 ⟨hbody, rest, hrest.symm⟩
  cases hnone.symm.trans hsome

end Joinable

/-! ## Tags of joined texts -/

theorem segments_append {front back : Text} (h : Joinable front back) :
    segments (front ++ back) = segments front ++ segments back := by
  induction front using segments_induction with
  | nil => rfl
  | plain c rest hplain ih =>
    have hwhole : Tag.at? (c :: (rest ++ back)) = none := h.at?_eq_none (by simp) hplain
    have hrest : Joinable rest back := Joinable.of_append [c] h
    rw [List.cons_append, segments_plain hwhole, segments_plain hplain, ih hrest,
      List.cons_append]
  | tag tag rest hbody ih =>
    rw [List.append_assoc, segments_tag hbody, segments_tag hbody, ih (h.of_append tag.source),
      List.cons_append]

/-- The spans of segments that stand behind others. -/
theorem spansFrom_append (position : Nat) (front back : List Segment) :
    spansFrom position (front ++ back) =
      spansFrom position front ++
        spansFrom (position + (front.flatMap Segment.source).length) back := by
  induction front generalizing position with
  | nil => rfl
  | cons segment front ih =>
    rw [List.cons_append, List.flatMap_cons, List.length_append, ← Nat.add_assoc]
    cases segment with
    | plain c => exact ih (position + 1)
    | tag tag => rw [spansFrom, spansFrom, ih, List.cons_append, Segment.source]

/-- The sources of the segments make up the text. -/
theorem flatMap_source_segments (t : Text) : (segments t).flatMap Segment.source = t := by
  induction t using segments_induction with
  | nil => rfl
  | plain c rest hplain ih =>
    rw [segments_plain hplain, List.flatMap_cons, ih]
    rfl
  | tag tag rest hbody ih =>
    rw [segments_tag hbody, List.flatMap_cons, ih]
    rfl

theorem findTags_append {front back : Text} (h : Joinable front back) :
    findTags (front ++ back) = findTags front ++ (findTags back).map (.shift front.length) := by
  have hback := spansFrom_add front.length 0 (segments back)
  rw [findTags, segments_append h, spansFrom_append, flatMap_source_segments, Nat.add_comm 0, hback]
  rfl

theorem Template.ofText_append {front back : Text} (h : Joinable front back) :
    Template.ofText (front ++ back) = Template.ofText front ++ Template.ofText back := by
  rw [ofText_eq, ofText_eq, ofText_eq, segments_append h, List.map_append]

/-! ## Renders of joined texts -/

namespace Scope

theorem renderPieces_append (s : Scope) (depth : Nat) (front back : List Piece) :
    renderPieces s depth (front ++ back) = (do
      let x ← renderPieces s depth front
      let y ← renderPieces s depth back
      return x ++ y) := by
  induction front with
  | nil => simp [renderPieces]
  | cons piece front ih =>
    simp only [List.cons_append, renderPieces, ih, bind_assoc, pure_bind, List.append_assoc]

/-- The depth is checked for each part, with one answer. -/
theorem render_append (s : Scope) {front back : Text} (h : Joinable front back) :
    s.render (front ++ back) = (do
      let x ← s.render front
      let y ← s.render back
      return x ++ y) := by
  by_cases hdepth : s.maxDepth < 0
  · rw [render_of_neg hdepth, render_of_neg hdepth]
    rfl
  · rw [render_eq, render_eq, render_eq, Template.ofText_append h, renderPieces_append,
      guardDepth_of_le (by omega)]
    simp

end Scope

namespace Engine

/-- Rendering is compositional. The tags of two joinable texts are those of the first and,
moved behind it, those of the second. Rendering both renders the first and then the second,
so that in a strict render the first failure of the first ends it. A lenient render goes on:
calls and records of the first come before those of the second. -/
theorem render_joined {front back : Text} (h : Joinable front back) :
    findTags (front ++ back) = findTags front ++ (findTags back).map (.shift front.length) ∧
    ∀ (e : Engine) (bindings : List (Text × Value)),
      (∀ lenient, e.render (front ++ back) bindings lenient = (do
        let x ← e.render front bindings lenient
        let y ← e.render back bindings lenient
        return x ++ y)) ∧
      (0 ≤ e.maxDepth → ∃ x y,
        (e.render front bindings (some true)).result = .ok x ∧
        (e.render back bindings (some true)).result = .ok y ∧
        e.render (front ++ back) bindings (some true) =
          ⟨.ok (x ++ y), (e.render front bindings (some true)).trace ++
            (e.render back bindings (some true)).trace⟩) := by
  refine ⟨findTags_append h, fun e bindings => ?_⟩
  have hjoined : ∀ lenient, e.render (front ++ back) bindings lenient = (do
      let x ← e.render front bindings lenient
      let y ← e.render back bindings lenient
      return x ++ y) := fun lenient => (e.scope bindings lenient).render_append h
  refine ⟨hjoined, fun hdepth => ?_⟩
  have hok : ∀ t, ∃ out, (e.render t bindings (some true)).result = .ok out :=
    (e.scope bindings (some true)).render_ok rfl hdepth
  obtain ⟨x, hx⟩ := hok front
  obtain ⟨y, hy⟩ := hok back
  refine ⟨x, y, hx, hy, ?_⟩
  rw [hjoined, Run.bind_of_ok hx, Run.bind_of_ok hy]
  simp [pure, Run.pure]

/-- An open brace and a tag that fails. -/
def openFront : Text := "\x7b\x7b@g\x7d!".text

def closedBack : Text := " \x7bx\x7d!\x7by\x7d".text

/-- The brace of the first text stays open, its mark escapes nothing, and its failure is its own. -/
theorem render_joined_open_front :
    Joinable openFront closedBack ∧
    ((Engine.ofFunctions [] 0).render (openFront ++ closedBack) [(['x'], .int 1)]
      (some true)).result = .ok "\x7b! 1\x7by\x7d".text := by
  have hjoinable : Joinable openFront closedBack := by decide +kernel
  have hfront : ((Engine.ofFunctions [] 0).render openFront [(['x'], .int 1)]
      (some true)).result = .ok "\x7b!".text := by decide +kernel
  have hback : ((Engine.ofFunctions [] 0).render closedBack [(['x'], .int 1)]
      (some true)).result = .ok " 1\x7by\x7d".text := by decide +kernel
  obtain ⟨x, y, hx, hy, hboth⟩ :=
    ((render_joined hjoinable).2 (.ofFunctions [] 0) [(['x'], .int 1)]).2 (by decide)
  refine ⟨hjoinable, ?_⟩
  cases hx.symm.trans hfront
  cases hy.symm.trans hback
  rw [hboth]
  rfl

end Engine

end Stencil
