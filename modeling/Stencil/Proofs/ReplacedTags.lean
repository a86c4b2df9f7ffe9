import Stencil.Proofs.ChainTags
import Stencil.Proofs.EvaluationSteps

/-!
# Replaced tags

A text with something else in place of each of its tags keeps what stands between them. A render
that returns gives the text with what each tag gives in its place.
-/

namespace Stencil

/-! ## Texts with replaced tags -/

/-- The text between the spans, from a position on, with what replaces the tags in their places. -/
def weaveWith (f : Tag → Text) (t : Text) (position : Nat) : List TagSpan → Text
  | [] => t.drop position
  | s :: rest => t.slice position s.start ++ (f s.tag ++ weaveWith f t s.stop rest)

/-- A text with each of its tags replaced. -/
def replaceTags (f : Tag → Text) (t : Text) : Text := weaveWith f t 0 (findTags t)

def Segment.replaced (f : Tag → Text) : Segment → Text
  | plain c => [c]
  | tag t => f t

theorem weaveWith_shift (f : Tag → Text) (front t : Text) (position : Nat)
    (spans : List TagSpan) :
    weaveWith f (front ++ t) (front.length + position) (spans.map (.shift front.length)) =
      weaveWith f t position spans := by
  induction spans generalizing position with
  | nil => exact List.drop_length_add_append position
  | cons s rest ih =>
    simp only [List.map_cons, weaveWith, TagSpan.shift, Text.slice_append_right, ih]

theorem weaveWith_front (f : Tag → Text) (front t : Text) (spans : List TagSpan) :
    weaveWith f (front ++ t) 0 (spans.map (.shift front.length)) =
      front ++ weaveWith f t 0 spans := by
  cases spans with
  | nil => rfl
  | cons s rest =>
    have hfront : (front ++ t).slice 0 front.length = front := by
      have h := Text.slice_of_append [] front t
      simpa using h
    have hback : (front ++ t).slice front.length (front.length + s.start) = t.slice 0 s.start :=
      Text.slice_append_right front t 0 s.start
    simp only [List.map_cons, weaveWith, TagSpan.shift, weaveWith_shift]
    rw [Text.slice_split front.length (Nat.zero_le _) (Nat.le_add_right _ _), hfront, hback,
      List.append_assoc]

theorem replaceTags_eq (f : Tag → Text) (t : Text) :
    replaceTags f t = (segments t).flatMap (Segment.replaced f) := by
  induction t using segments_induction with
  | nil => rfl
  | plain c rest hplain ih =>
    rw [replaceTags, findTags_plain hplain, segments_plain hplain, List.flatMap_cons, ← ih]
    exact weaveWith_front f [c] rest (findTags rest)
  | tag tag rest hbody ih =>
    have hrest := weaveWith_shift f tag.source rest 0 (findTags rest)
    rw [Nat.add_zero] at hrest
    rw [replaceTags, findTags_tag hbody, segments_tag hbody, List.flatMap_cons, ← ih, weaveWith,
      hrest]
    simp [Text.slice, Segment.replaced, replaceTags]

theorem replaceTags_plain {c : CodePoint} {rest : Text} (h : Tag.at? (c :: rest) = none)
    (f : Tag → Text) : replaceTags f (c :: rest) = c :: replaceTags f rest := by
  rw [replaceTags_eq, replaceTags_eq, segments_plain h]
  rfl

theorem replaceTags_tag {tag : Tag} (hbody : Balanced tag.body) (rest : Text) (f : Tag → Text) :
    replaceTags f (tag.source ++ rest) = f tag ++ replaceTags f rest := by
  rw [replaceTags_eq, replaceTags_eq, segments_tag hbody]
  rfl

def Segment.tag? : Segment → Option Tag
  | plain _ => none
  | tag t => some t

/-- The tags of the spans are the tags among the segments, in the same order. -/
theorem tags_eq (t : Text) :
    (findTags t).map TagSpan.tag = (segments t).filterMap Segment.tag? := by
  have hspans : ∀ position segs,
      (spansFrom position segs).map TagSpan.tag = segs.filterMap Segment.tag? := by
    intro position segs
    induction segs generalizing position with
    | nil => rfl
    | cons segment rest ih =>
      cases segment with
      | plain c => exact ih (position + 1)
      | tag tag => rw [spansFrom, List.map_cons, ih]; rfl
  exact hspans 0 (segments t)

theorem mem_tags_iff {t : Text} {tag : Tag} :
    tag ∈ (findTags t).map TagSpan.tag ↔ .tag tag ∈ segments t := by
  rw [tags_eq, List.mem_filterMap]
  constructor
  · rintro ⟨segment, hmem, hsome⟩
    cases segment with
    | plain c => cases hsome
    | tag other =>
      cases hsome
      exact hmem
  · intro hmem
    exact ⟨_, hmem, rfl⟩

theorem forall_tags_iff {t : Text} {P : Tag → Prop} :
    (∀ span ∈ findTags t, P span.tag) ↔ ∀ tag, .tag tag ∈ segments t → P tag := by
  simp only [← mem_tags_iff, List.forall_mem_map]

/-! ## Loose braces -/

namespace Tag

/-- How many closing braces of a text close none of its own. -/
def loose (t : Text) : Nat := (marks t).2

theorem loose_other {c : CodePoint} (hopen : c ≠ '{') (hclose : c ≠ '}') (t : Text) :
    loose (c :: t) = loose t := by
  rw [loose, marks, if_neg hopen, if_neg hclose, loose]

theorem loose_cons_congr {s t : Text} (h : loose s = loose t) (c : CodePoint) :
    loose (c :: s) = loose (c :: t) := by
  by_cases hopen : c = '{'
  · subst hopen
    exact congrArg (· - 1) h
  · by_cases hclose : c = '}'
    · subst hclose
      exact congrArg (· + 1) h
    · rw [loose_other hopen hclose, loose_other hopen hclose, h]

/-- An opening brace is unmatched if no closing brace behind it is loose. -/
theorem body?_eq_none_iff {t : Text} : body? 0 t = none ↔ loose t = 0 := by
  rw [← Option.not_isSome_iff_eq_none, isSome_body?, loose]
  simp

theorem body?_of_at?_eq_none {rest : Text} (h : at? ('{' :: rest) = none) :
    body? 0 rest = none := by
  simpa [at?] using h

theorem loose_append {depth : Nat} {front : Text} (h : Closes depth front) (back : Text) :
    loose (front ++ back) = depth + loose back := by
  induction front generalizing depth with
  | nil => rw [Closes.nil.1 h, List.nil_append, Nat.zero_add]
  | cons c rest ih =>
    by_cases hopen : c = '{'
    · subst hopen
      have hrest := ih (Closes.opening.1 h)
      change loose (rest ++ back) - 1 = depth + loose back
      omega
    · by_cases hclose : c = '}'
      · subst hclose
        cases depth with
        | zero => exact absurd h Closes.not_closing_first
        | succ depth =>
          have hrest := ih (Closes.closing.1 h)
          change loose (rest ++ back) + 1 = depth + 1 + loose back
          omega
      · rw [List.cons_append, loose_other hopen hclose, ih ((Closes.plain hopen hclose).1 h)]

/-- A pair of braces with balanced text in it changes nothing in front of a text. -/
theorem loose_braces {body : Text} (hbody : Balanced body) (rest : Text) :
    loose (.char '{' :: (body ++ .char '}' :: rest)) = loose rest := by
  have hinner := loose_append (closes_zero.2 hbody) ('}' :: rest)
  change loose (body ++ .char '}' :: rest) - 1 = loose rest
  change _ = 0 + (loose rest + 1) at hinner
  omega

theorem loose_source {tag : Tag} (hbody : Balanced tag.body) (rest : Text) :
    loose (tag.source ++ rest) = loose rest := by
  have hbraces := loose_braces hbody rest
  cases h : tag.escaped with
  | false => simpa [source, h] using hbraces
  | true => simpa [source, h, loose_other] using hbraces

end Tag

/-- What is put in place of the tags leaves as many braces loose as the tags did, if all its own
braces are paired. -/
theorem loose_replaceTags {f : Tag → Text} {t : Text}
    (h : ∀ tag, .tag tag ∈ segments t → Balanced tag.body →
      ∀ rest, Tag.loose (f tag ++ rest) = Tag.loose rest) :
    Tag.loose (replaceTags f t) = Tag.loose t := by
  induction t using segments_induction with
  | nil => rfl
  | plain c rest hplain ih =>
    rw [segments_plain hplain] at h
    rw [replaceTags_plain hplain]
    exact Tag.loose_cons_congr (ih fun tag hmem => h tag (List.mem_cons_of_mem _ hmem)) c
  | tag tag rest hbody ih =>
    rw [segments_tag hbody] at h
    rw [replaceTags_tag hbody, h tag List.mem_cons_self hbody, Tag.loose_source hbody]
    exact ih fun other hmem => h other (List.mem_cons_of_mem _ hmem)

/-! ## Renders as replacements -/

namespace Scope

variable {s : Scope}

/-- What is put in place of a tag of a text that is rendered. -/
def renderTag (s : Scope) (tag : Tag) : Run Text :=
  (Piece.ofSegment Template.ofText (.tag tag)).render s 0

/-- The text in place of a tag, which is empty where there is none. -/
def textOf (s : Scope) (tag : Tag) : Text :=
  match (s.renderTag tag).result with
  | .ok out => out
  | .error _ => []

theorem renderPieces_cons_ok_iff {depth : Nat} {p : Piece} {rest : List Piece} {out : Text} :
    (renderPieces s depth (p :: rest)).result = .ok out ↔
      ∃ front back, (p.render s depth).result = .ok front ∧
        (renderPieces s depth rest).result = .ok back ∧ out = front ++ back := by
  rw [renderPieces]
  constructor
  · intro h
    obtain ⟨front, hfront, h⟩ := Run.exists_of_bind_ok h
    obtain ⟨back, hback, h⟩ := Run.exists_of_bind_ok h
    cases h
    exact ⟨front, back, hfront, hback, rfl⟩
  · rintro ⟨front, back, hfront, hback, rfl⟩
    rw [Run.bind_of_ok hfront, Run.bind_of_ok hback]
    rfl

theorem renderPieces_segments_ok_iff {segs : List Segment} {out : Text} :
    (renderPieces s 0 (segs.map (Piece.ofSegment Template.ofText))).result = .ok out ↔
      (∀ tag, .tag tag ∈ segs → ∃ x, (s.renderTag tag).result = .ok x) ∧
        out = segs.flatMap (Segment.replaced s.textOf) := by
  induction segs generalizing out with
  | nil =>
    simp only [List.map_nil, renderPieces]
    constructor
    · intro h
      cases h
      simp
    · rintro ⟨-, rfl⟩
      rfl
  | cons segment rest ih =>
    rw [List.map_cons, renderPieces_cons_ok_iff, List.flatMap_cons]
    simp only [ih]
    cases segment with
    | plain c =>
      constructor
      · rintro ⟨front, back, hfront, ⟨hrest, rfl⟩, rfl⟩
        cases hfront
        exact ⟨by simpa using hrest, rfl⟩
      · rintro ⟨hrest, rfl⟩
        exact ⟨[c], _, rfl, ⟨by simpa using hrest, rfl⟩, rfl⟩
    | tag tag =>
      constructor
      · rintro ⟨front, back, hfront, ⟨hrest, rfl⟩, rfl⟩
        have htag : (s.renderTag tag).result = .ok front := hfront
        refine ⟨fun other hmem => ?_, by simp [Segment.replaced, textOf, htag]⟩
        rcases List.mem_cons.1 hmem with heq | hmem
        · cases heq
          exact ⟨front, htag⟩
        · exact hrest other hmem
      · rintro ⟨hall, rfl⟩
        obtain ⟨front, htag⟩ := hall tag List.mem_cons_self
        refine ⟨front, _, htag, ⟨fun other hmem => ?_, rfl⟩, by
          simp [Segment.replaced, textOf, htag]⟩
        exact hall other (List.mem_cons_of_mem _ hmem)

/-- A render returns where the depth is allowed and each tag gives a text, and it returns the text
with these in place of the tags. -/
theorem render_ok_iff {t out : Text} :
    (s.render t).result = .ok out ↔
      0 ≤ s.maxDepth ∧ (∀ span ∈ findTags t, ∃ x, (s.renderTag span.tag).result = .ok x) ∧
        out = replaceTags s.textOf t := by
  rw [forall_tags_iff (P := fun tag => ∃ x, (s.renderTag tag).result = .ok x), replaceTags_eq,
    ← renderPieces_segments_ok_iff, ← Template.ofText_eq]
  by_cases hdepth : 0 ≤ s.maxDepth
  · rw [render_eq, guardDepth_of_le (by simpa using hdepth), pure_bind]
    simp [hdepth]
  · rw [render_of_neg (by omega)]
    simp [hdepth, Run.fail]

/-- The text of an escaped tag is printed between its braces, and nothing else is done. -/
theorem renderPieces_escaped {segs : List Segment}
    (h : ∀ tag, .tag tag ∈ segs → tag.escaped = true) (depth : Nat) :
    renderPieces s depth (segs.map (Piece.ofSegment Template.ofText)) =
      pure (segs.flatMap (Segment.replaced fun tag => Tag.source ⟨false, tag.inner⟩)) := by
  induction segs with
  | nil => rfl
  | cons segment rest ih =>
    have hrest := ih fun tag hmem => h tag (List.mem_cons_of_mem _ hmem)
    rw [List.map_cons, renderPieces, hrest, List.flatMap_cons]
    cases segment with
    | plain c => rfl
    | tag tag =>
      rw [Piece.ofSegment, if_pos (h tag List.mem_cons_self)]
      simp [Piece.render, Segment.replaced, Tag.source]

/-- A text whose tags are all escaped is rendered without any call or record. -/
theorem render_escaped {t : Text} (h : ∀ span ∈ findTags t, span.tag.escaped = true)
    (hdepth : 0 ≤ s.maxDepth) :
    s.render t = pure (replaceTags (fun tag => Tag.source ⟨false, tag.inner⟩) t) := by
  rw [render_eq, guardDepth_of_le (by simpa using hdepth), pure_bind, Template.ofText_eq,
    renderPieces_escaped (forall_tags_iff.1 h), replaceTags_eq]

end Scope

end Stencil
