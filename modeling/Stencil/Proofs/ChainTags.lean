import Stencil.Proofs.RelatedScopes
import Stencil.Proofs.TagSpans
import Stencil.Proofs.TokenTexts

/-!
# Tags of chains

The tag of a chain has the pieces of the chain between braces, with dots between them.
Its tree is that of the pieces, each read by itself.
-/

namespace Stencil

open FunctionTable (isName isName_iff)

/-- A text that a chain can have as a piece, as it is written, in a tag. -/
structure IsPiece (t : Text) : Prop where
  contained : Chain.Contained 0 t
  trimmed : Text.Trimmed t
  nonempty : t ≠ []
  unopened : .char '{' ∉ t
  unclosed : .char '}' ∉ t

theorem IsPiece.closed {t : Text} (h : IsPiece t) : Chain.Closed t where
  nonempty := h.nonempty
  trimmed := h.trimmed
  whole := h.contained.whole

theorem trimmed_join {pieces : List Text} (h : ∀ t ∈ pieces, IsPiece t) :
    Text.Trimmed (Text.join ['.'] pieces) := by
  induction pieces with
  | nil => exact .nil
  | cons t rest ih =>
    have ht : IsPiece t := h t (by simp)
    have hrest : ∀ u ∈ rest, IsPiece u := fun u hu => h u (List.mem_cons_of_mem t hu)
    cases rest with
    | nil => exact ht.trimmed
    | cons u rest =>
      have hlater : Text.join ['.'] (u :: rest) ≠ [] :=
        Text.join_ne_nil (hrest u (by simp)).nonempty rest
      rw [Text.join]
      · exact ht.trimmed.append (ih hrest) ht.nonempty hlater ['.']
      · simp

/-- The tag that holds a chain of the given pieces. -/
def chainTag (pieces : List Text) : Tag := ⟨false, Text.join ['.'] pieces⟩

theorem split_chainTag {pieces : List Text} (h : ∀ t ∈ pieces, IsPiece t) :
    Chain.split (chainTag pieces).inner = pieces := by
  have hsplit : Chain.split (Text.join ['.'] pieces) = pieces.map Text.trim :=
    Chain.split_join fun t ht => ⟨(h t ht).contained.whole, (h t ht).nonempty⟩
  have htrim : pieces.map Text.trim = pieces := by
    rw [List.map_congr_left fun t ht => (h t ht).trimmed.trim_eq, List.map_id']
  rw [Tag.inner, chainTag, (trimmed_join h).trim_eq, hsplit, htrim]

/-- The chain of a text depends on its pieces alone. -/
theorem Chain.ofText_of_split {s t : Text} (h : Chain.split s = Chain.split t)
    (nested : Text → Template) : Chain.ofText nested s = Chain.ofText nested t := by
  unfold Chain.ofText
  rw [h]

/-- The tree of a text that starts with a tag. -/
theorem Template.ofText_tag {tag : Tag} (h : Balanced tag.body) (rest : Text) :
    Template.ofText (tag.source ++ rest) =
      Piece.ofSegment Template.ofText (.tag tag) :: Template.ofText rest := by
  rw [ofText_eq, ofText_eq, segments_tag h, List.map_cons]

/-- The tree of a text that is one tag. -/
theorem Template.ofText_body {body : Text} (h : Balanced body) :
    Template.ofText (Tag.source ⟨false, body⟩) =
      [.tag (Tag.source ⟨false, body⟩) (Chain.ofText Template.ofText (Text.trim body))] := by
  have htree := @Template.ofText_tag ⟨false, body⟩ h []
  rwa [List.append_nil] at htree

/-- The tree of the tag of a chain has the trees of its pieces. -/
theorem Template.ofText_chainTag {head : Text} {rest : List Text}
    (h : ∀ t ∈ head :: rest, IsPiece t) :
    Template.ofText (chainTag (head :: rest)).source =
      [.tag (chainTag (head :: rest)).source
        (.from (Head.ofSource Template.ofText head)
          (rest.map (Call.ofSource Template.ofText false)))] := by
  have hbraces : ∀ c : CodePoint, c ≠ '.' → (∀ t ∈ head :: rest, c ∉ t) →
      c ∉ (chainTag (head :: rest)).body := by
    intro c hdot hpieces hmem
    rcases Text.mem_join hmem with hsep | ⟨t, ht, hc⟩
    · exact hdot (List.mem_singleton.1 hsep)
    · exact hpieces t ht hc
  have hbody : Balanced (chainTag (head :: rest)).body :=
    closes_zero.1 (.of_no_braces (hbraces '{' (by decide) fun t ht => (h t ht).unopened)
      (hbraces '}' (by decide) fun t ht => (h t ht).unclosed))
  have hsplit := split_chainTag h
  unfold Tag.inner at hsplit
  refine (Template.ofText_body hbody).trans ?_
  rw [Chain.ofText, hsplit]
  rfl

/-- The tree of a text that starts with no tag and with no mark of one. -/
theorem Template.ofText_cons {c : CodePoint} (hopening : c ≠ '{') (hmark : c ≠ '!') (rest : Text) :
    Template.ofText (c :: rest) = .plain c :: Template.ofText rest := by
  rw [ofText_eq, ofText_eq, segments_plain (Tag.at?_of_first hopening hmark rest), List.map_cons]
  rfl

/-- The tree of a text without tags is its characters. -/
theorem Template.ofText_untagged {t : Text} (h : findTags t = []) :
    Template.ofText t = t.map .plain := by
  rw [Template.ofText_eq, findTags_eq_nil_iff.1 h, List.map_map]
  rfl

/-- A text without an opening brace has no tags. -/
theorem findTags_of_no_opening {t : Text} (h : .char '{' ∉ t) : findTags t = [] :=
  findTags_eq_nil_iff.2 (segments_of_no_opening h)

theorem Template.ofText_plain {t : Text} (h : .char '{' ∉ t) : Template.ofText t = t.map .plain :=
  Template.ofText_untagged (findTags_of_no_opening h)

namespace Token

theorem isPiece_source {t : Token} (h : isName t.name = true)
    (hargs : ∀ args, t.args = some args →
      Chain.Contained 1 args ∧ .char '{' ∉ args ∧ .char '}' ∉ args) :
    IsPiece t.source where
  contained := contained_source h fun args hsome => (hargs args hsome).1
  trimmed := trimmed_source h
  nonempty := by simp [source, (isName_iff.1 h).1]
  unopened := by
    intro hmem
    rcases mem_source h hmem with hmark | hname | ⟨args, hsome, hc⟩
    · exact absurd hmark (by decide)
    · exact absurd hname (by decide)
    · exact (hargs args hsome).2.1 hc
  unclosed := by
    intro hmem
    rcases mem_source h hmem with hmark | hname | ⟨args, hsome, hc⟩
    · exact absurd hmark (by decide)
    · exact absurd hname (by decide)
    · exact (hargs args hsome).2.2 hc

end Token

theorem isPiece_of_isName {name : Text} (h : isName name = true) : IsPiece name := by
  rw [← Token.source_bare name]
  exact Token.isPiece_source h (by simp)

/-- A call read from the text of its token. Only the first of a chain may be direct. -/
theorem Call.ofSource_source {nested : Text → Template} {first : Bool} {t : Token}
    (h : isName t.name = true) (hdirect : t.direct = true → first = true) :
    Call.ofSource nested first t.source =
      match t.args with
      | none => .bare t.name
      | some args => .applied t.name (nested args) := by
  have hallowed : (t.direct && !first) = false := by
    cases hd : t.direct with
    | false => rfl
    | true => simp [hdirect hd]
  rw [Call.ofSource, Token.read?_source h]
  cases hargs : t.args <;> simp [hallowed, hargs]

theorem Call.ofSource_name {nested : Text → Template} {first : Bool} {name : Text}
    (h : isName name = true) : Call.ofSource nested first name = .bare name := by
  have hcall : Call.ofSource nested first (⟨name, none, false⟩ : Token).source = .bare name :=
    Call.ofSource_source h (by simp)
  rwa [Token.source_bare] at hcall

theorem Head.ofSource_name {nested : Text → Template} {name : Text} (h : isName name = true) :
    Head.ofSource nested name = .variable name := by
  obtain ⟨hne, hchars⟩ := isName_iff.1 h
  have hmark : name.head? ≠ some Token.directMark := by
    intro heq
    exact absurd (hchars _ (List.mem_of_head? heq)) (by decide)
  rw [Head.ofSource, if_neg hmark]

theorem Head.ofSource_direct {nested : Text → Template} {t : Token}
    (hdirect : t.direct = true) :
    Head.ofSource nested t.source = .direct (Call.ofSource nested true t.source) := by
  rw [Head.ofSource, if_pos]
  simp [Token.source, hdirect]

/-! ## Chains of one token -/

namespace Chain

/-- The chain of a name is the variable of that name. -/
theorem ofText_name {name : Text} (h : isName name = true) (nested : Text → Template) :
    ofText nested name = .from (.variable name) [] := by
  unfold ofText
  rw [(isPiece_of_isName h).closed.split_eq]
  exact congrArg (Chain.from · []) (Head.ofSource_name h)

/-- The chain of a direct call whose arguments close what they open is that call. -/
theorem ofText_direct {t : Token} {args : Text} (h : isName t.name = true)
    (hdirect : t.direct = true) (hargs : t.args = some args) (hcontained : Contained 1 args)
    (nested : Text → Template) :
    ofText nested t.source = .from (.direct (.applied t.name (nested args))) [] := by
  have hclosed : Closed t.source := by
    refine Token.closed_source h fun other hother => ?_
    cases hargs.symm.trans hother
    exact hcontained
  have hcall : Call.ofSource nested true t.source = .applied t.name (nested args) := by
    rw [Call.ofSource_source h fun _ => rfl, hargs]
  unfold ofText
  rw [hclosed.split_eq]
  change Chain.from (Head.ofSource nested t.source) [] = _
  rw [Head.ofSource_direct hdirect, hcall]

end Chain

/-- The tree of a text that starts with the tag of a variable. -/
theorem Template.ofText_variable {name : Text} (h : isName name = true) (rest : Text) :
    Template.ofText (Tag.source ⟨false, name⟩ ++ rest) =
      .tag (Tag.source ⟨false, name⟩) (.from (.variable name) []) :: Template.ofText rest := by
  have hpiece : IsPiece name := isPiece_of_isName h
  have hbody : Balanced name := closes_zero.1 (.of_no_braces hpiece.unopened hpiece.unclosed)
  have hinner : Tag.inner ⟨false, name⟩ = name := hpiece.trimmed.trim_eq
  rw [Template.ofText_tag hbody, Piece.ofSegment, hinner, Chain.ofText_name h]
  rfl

end Stencil
