import Stencil.Proofs.CallListings
import Stencil.Proofs.ReplacedTags

/-!
# Escaped texts

With one more mark before the opening brace of each of its tags a text keeps its tags, and all of
them are escaped; the marks that were there before stay as characters. So any text can be quoted:
its escaped form renders as the text itself, with only the blanks inside the braces of its tags
trimmed.
-/

namespace Stencil

/-! ## Escaping a text -/

namespace Tag

/-- What stands before the opening brace of a tag and belongs to it. -/
def mark (tag : Tag) : Text := if tag.escaped then ['!'] else []

/-- The tag with one more mark before its opening brace. -/
def marked (tag : Tag) : Text := tag.mark ++ .char '!' :: .char '{' :: (tag.body ++ [.char '}'])

/-- The tag with the text between its braces trimmed. -/
def trimmed (tag : Tag) : Text := tag.mark ++ .char '{' :: (Text.trim tag.body ++ [.char '}'])

end Tag

/-- The text with a mark before the opening brace of each of its tags. -/
def escapeTags (t : Text) : Text := replaceTags Tag.marked t

/-- The text with the text between the braces of each of its tags trimmed. -/
def trimTags (t : Text) : Text := replaceTags Tag.trimmed t

theorem escapeTags_plain {c : CodePoint} {rest : Text} (h : Tag.at? (c :: rest) = none) :
    escapeTags (c :: rest) = c :: escapeTags rest :=
  replaceTags_plain h Tag.marked

theorem escapeTags_tag {tag : Tag} (hbody : Balanced tag.body) (rest : Text) :
    escapeTags (tag.source ++ rest) = tag.marked ++ escapeTags rest :=
  replaceTags_tag hbody rest Tag.marked

/-- A segment of a text, as it stands in the escaped text. -/
def Segment.marked : Segment → List Segment
  | plain c => [plain c]
  | tag t => t.mark.map plain ++ [tag ⟨true, t.body⟩]

/-! ## The tags of an escaped text -/

/-- The marks change nothing in the pairs of braces. -/
theorem loose_escapeTags (t : Text) : Tag.loose (escapeTags t) = Tag.loose t := by
  refine loose_replaceTags fun tag _ hbody rest => ?_
  have hbraces := Tag.loose_braces hbody rest
  cases h : tag.escaped <;> simpa [Tag.marked, Tag.mark, h, Tag.loose_other] using hbraces

/-- A mark starts a tag only where an opening brace behind it does. -/
theorem Tag.at?_mark_eq_none {rest : Text}
    (h : ∀ later, rest = .char '{' :: later → body? 0 later = none) :
    at? (.char '!' :: rest) = none := by
  cases rest with
  | nil => rfl
  | cons c later =>
    by_cases hopen : c = '{'
    · subst hopen
      simp [at?, h later rfl]
    · unfold at?
      split
      · next heq => simp_all
      · next heq => simp at heq
      · rfl

/-- Where no tag starts, none starts in the escaped text. -/
theorem Tag.at?_escapeTags {c : CodePoint} {rest : Text} (h : at? (c :: rest) = none) :
    at? (c :: escapeTags rest) = none := by
  have hclosed : ∀ later, body? 0 later = none → body? 0 (escapeTags later) = none := by
    intro later hnone
    rwa [body?_eq_none_iff, loose_escapeTags, ← body?_eq_none_iff]
  by_cases hopen : c = '{'
  · subst hopen
    simpa [at?] using hclosed rest (body?_of_at?_eq_none h)
  · by_cases hmark : c = '!'
    · subst hmark
      refine at?_mark_eq_none fun later hlater => ?_
      cases rest with
      | nil => cases hlater
      | cons d rest =>
        cases hat : at? (d :: rest) with
        | none =>
          rw [escapeTags_plain hat] at hlater
          obtain ⟨rfl, rfl⟩ := List.cons.inj hlater
          exact hclosed rest (body?_of_at?_eq_none hat)
        | some tag =>
          -- What stands for a tag in the escaped text starts with a mark and not with a brace.
          obtain ⟨hbody, after, hsplit⟩ := at?_eq_some_iff.1 hat
          rw [hsplit, escapeTags_tag hbody, marked, mark] at hlater
          cases hescaped : tag.escaped <;> simp [hescaped] at hlater
    · exact at?_of_first hopen hmark _

theorem segments_escapeTags (t : Text) :
    segments (escapeTags t) = (segments t).flatMap Segment.marked := by
  induction t using segments_induction with
  | nil => rfl
  | plain c rest hplain ih =>
    rw [escapeTags_plain hplain, segments_plain (Tag.at?_escapeTags hplain),
      segments_plain hplain, List.flatMap_cons, ← ih]
    rfl
  | tag tag rest hbody ih =>
    have hescaped :
        segments (.char '!' :: .char '{' :: (tag.body ++ .char '}' :: escapeTags rest)) =
        .tag ⟨true, tag.body⟩ :: segments (escapeTags rest) := by
      have h := @segments_tag ⟨true, tag.body⟩ hbody (escapeTags rest)
      simpa [Tag.source] using h
    have hmark : Tag.at? (.char '!' :: .char '!' :: .char '{' ::
        (tag.body ++ .char '}' :: escapeTags rest)) = none :=
      Tag.at?_mark_eq_none fun later hlater => by cases hlater
    rw [escapeTags_tag hbody, segments_tag hbody, List.flatMap_cons, ← ih]
    cases h : tag.escaped with
    | false => simpa [Tag.marked, Tag.mark, h, Segment.marked] using hescaped
    | true =>
      simp [Tag.marked, Tag.mark, h, Segment.marked, segments_plain hmark, hescaped]

/-- The tags of the escaped text are those of the text, each escaped. -/
theorem tags_escapeTags (t : Text) :
    (findTags (escapeTags t)).map TagSpan.tag =
      (findTags t).map fun span => ⟨true, span.tag.body⟩ := by
  have hmarked : ∀ segment : Segment, segment.marked.filterMap Segment.tag? =
      (segment.tag?.map fun tag => (⟨true, tag.body⟩ : Tag)).toList := by
    intro segment
    cases segment with
    | plain c => rfl
    | tag tag =>
      rw [Segment.marked, Tag.mark]
      split <;> rfl
  have htags : (findTags t).map (fun span => (⟨true, span.tag.body⟩ : Tag)) =
      ((findTags t).map TagSpan.tag).map fun tag => ⟨true, tag.body⟩ := by
    rw [List.map_map]
    rfl
  rw [htags, tags_eq, tags_eq, segments_escapeTags]
  induction segments t with
  | nil => rfl
  | cons segment rest ih =>
    rw [List.flatMap_cons, List.filterMap_append, ih, hmarked, List.filterMap_cons]
    cases segment.tag? <;> rfl

/-- With the mark that was added taken away again, only blanks are missing. -/
theorem replaceTags_escapeTags (t : Text) :
    replaceTags (fun tag => Tag.source ⟨false, tag.inner⟩) (escapeTags t) = trimTags t := by
  rw [trimTags, replaceTags_eq, replaceTags_eq, segments_escapeTags, List.flatMap_assoc]
  congr 1
  funext segment
  cases segment with
  | plain c => rfl
  | tag tag =>
    rw [Segment.marked, Tag.mark]
    cases h : tag.escaped <;>
      simp [Segment.replaced, Tag.source, Tag.trimmed, Tag.mark, h, Tag.inner]

/-! ## The render of an escaped text -/

theorem forall_escaped_escapeTags (t : Text) :
    ∀ span ∈ findTags (escapeTags t), span.tag.escaped = true := by
  intro span hspan
  have hmem := List.mem_map_of_mem (f := TagSpan.tag) hspan
  rw [tags_escapeTags] at hmem
  obtain ⟨original, -, hspan⟩ := List.mem_map.1 hmem
  rw [← hspan]

/-- A text whose tags are all escaped reads no variable and names no function. -/
theorem Template.listings_of_escaped {t : Text}
    (h : ∀ span ∈ findTags t, span.tag.escaped = true) :
    Template.heads t = [] ∧ Template.callees t = [] := by
  have hsegs : ∀ segs : List Segment, (∀ tag, .tag tag ∈ segs → tag.escaped = true) →
      piecesHeads (segs.map (Piece.ofSegment Template.ofText)) = [] ∧
        piecesCallees (segs.map (Piece.ofSegment Template.ofText)) = [] := by
    intro segs hescaped
    induction segs with
    | nil => exact ⟨rfl, rfl⟩
    | cons segment rest ih =>
      obtain ⟨hheads, hcallees⟩ := ih fun tag hmem => hescaped tag (List.mem_cons_of_mem _ hmem)
      rw [List.map_cons, piecesHeads, piecesCallees, hheads, hcallees]
      cases segment with
      | plain c => exact ⟨rfl, rfl⟩
      | tag tag =>
        rw [Piece.ofSegment, if_pos (hescaped tag List.mem_cons_self)]
        exact ⟨rfl, rfl⟩
  rw [Template.heads, Template.callees, Template.ofText_eq]
  exact hsegs (segments t) (forall_tags_iff.1 h)

namespace Engine

/-- Escaping quotes any text: its escaped form renders as the text with the text between the
braces of its tags trimmed. No call is made and nothing recorded, and there is no variable that
it reads and no function that it names. -/
theorem render_escapeTags {e : Engine} (hdepth : 0 ≤ e.maxDepth) (t : Text)
    (bindings : List (Text × Value)) (lenient : Option Bool) :
    e.render (escapeTags t) bindings lenient = ⟨.ok (trimTags t), []⟩ ∧
      Template.heads (escapeTags t) = [] ∧ Template.callees (escapeTags t) = [] := by
  have hescaped := forall_escaped_escapeTags t
  refine ⟨?_, Template.listings_of_escaped hescaped⟩
  rw [← replaceTags_escapeTags]
  exact Scope.render_escaped hescaped hdepth

/-- A tag in a tag, an escaped one right behind it, and braces that pair with nothing. -/
def markedTemplate : Text := "\x7d!\x7b a\x7b b \x7d \x7d!!\x7b\tx\x7d\x7b!\x7by \x7d".text

theorem render_escapeTags_marked : 0 ≤ gathering.maxDepth ∧
    escapeTags markedTemplate =
      "\x7d!!\x7b a\x7b b \x7d \x7d!!!\x7b\tx\x7d\x7b!!\x7by \x7d".text ∧
    gathering.render (escapeTags markedTemplate) [(['x'], .int 1)] (some false) =
      ⟨.ok "\x7d!\x7ba\x7b b \x7d\x7d!!\x7bx\x7d\x7b!\x7by\x7d".text, []⟩ := by
  refine ⟨by decide, by decide +kernel, ?_⟩
  have htrimmed : trimTags markedTemplate =
      "\x7d!\x7ba\x7b b \x7d\x7d!!\x7bx\x7d\x7b!\x7by\x7d".text := by decide +kernel
  rw [← htrimmed]
  exact (render_escapeTags (by decide) markedTemplate _ _).1

end Engine

end Stencil
