import Stencil.Proofs.TagSpans

/-!
# Tags are the outermost matched pairs

Each tag the scanner finds stands on a matched pair of braces that lies inside no other,
and each such pair has a tag. The spans follow each other without overlap, also where an
exclamation mark directly follows a tag, and with the text between them they make up the
whole text.
-/

namespace Stencil

/-- A matched pair that lies strictly inside no other. -/
def Outermost (t : Text) (i j : Nat) : Prop :=
  Matched t i j ∧ ∀ k l, Matched t k l → ¬ (k < i ∧ j < l)

namespace TagSpan

/-- Where the opening brace of the tag stands. -/
def opening (s : TagSpan) : Nat := if s.tag.escaped then s.start + 1 else s.start

/-- The tag of the braces at `i` and `j`: an exclamation mark before the opening brace
belongs to it and escapes it. -/
structure IsTagOf (s : TagSpan) (t : Text) (i j : Nat) : Prop where
  stop : s.stop = j + 1
  escaped : s.tag.escaped = true ↔ 0 < i ∧ t[i - 1]? = some (.char '!')
  start : s.start = if s.tag.escaped then i - 1 else i
  source : s.tag.source = t.slice s.start s.stop
  inner : s.tag.inner = (t.slice (i + 1) j).trim

/-- A span cuts its text in three. An unescaped tag has no exclamation mark before it. -/
structure Cuts (s : TagSpan) (t before after : Text) : Prop where
  text : t = before ++ (s.tag.source ++ after)
  start : s.start = before.length
  stop : s.stop = before.length + s.tag.source.length
  balanced : Balanced s.tag.body
  unescaped : s.tag.escaped = false → before.getLast? ≠ some (.char '!')

/-- More text in front moves the cut, unless that text is an exclamation mark which
escapes the tag. -/
theorem Cuts.shift {s : TagSpan} {t before after : Text} (h : s.Cuts t before after)
    (front : Text)
    (hfront : before = [] → s.tag.escaped = false → front.getLast? ≠ some (.char '!')) :
    (s.shift front.length).Cuts (front ++ t) (front ++ before) after where
  text := by rw [h.text, List.append_assoc]; rfl
  start := by simp [TagSpan.shift, h.start]
  stop := by simp [TagSpan.shift, h.stop, Nat.add_assoc]
  balanced := h.balanced
  unescaped := by
    intro hunescaped
    cases hbefore : before with
    | nil =>
      rw [List.append_nil]
      exact hfront hbefore hunescaped
    | cons c rest =>
      have hlast := h.unescaped hunescaped
      rw [hbefore, List.getLast?_cons] at hlast
      rwa [List.getLast?_append, List.getLast?_cons, Option.some_or]

end TagSpan

theorem cuts_of_mem_findTags {t : Text} :
    ∀ s ∈ findTags t, ∃ before after, s.Cuts t before after := by
  induction t using segments_induction with
  | nil => simp [findTags, segments_eq, Segment.scan, spansFrom]
  | plain c rest hplain ih =>
    rw [findTags_plain hplain]
    intro s hs
    obtain ⟨s, hmem, rfl⟩ := List.mem_map.1 hs
    obtain ⟨before, after, h⟩ := ih s hmem
    refine ⟨[c] ++ before, after, h.shift [c] ?_⟩
    -- An exclamation mark right before an unescaped tag would have started a tag itself.
    rintro rfl hunescaped hmark
    obtain rfl : c = '!' := by simpa using hmark
    have hat : Tag.at? ('!' :: rest) = some ⟨true, s.tag.body⟩ := by
      refine Tag.at?_eq_some_iff.2 ⟨h.balanced, after, ?_⟩
      rw [h.text]
      simp [Tag.source, hunescaped]
    cases hplain.symm.trans hat
  | tag tag rest hbody ih =>
    rw [findTags_tag hbody]
    intro s hs
    rcases List.mem_cons.1 hs with rfl | hs
    · exact ⟨[], rest, rfl, rfl, (Nat.zero_add _).symm, hbody, by simp⟩
    · obtain ⟨s, hmem, rfl⟩ := List.mem_map.1 hs
      obtain ⟨before, after, h⟩ := ih s hmem
      refine ⟨tag.source ++ before, after, h.shift tag.source fun _ _ => ?_⟩
      rw [tag.getLast?_source]
      decide

theorem findTags_ordered (t : Text) :
    (findTags t).Pairwise fun a b => a.start < b.start ∧ a.stop ≤ b.start := by
  induction t using segments_induction with
  | nil => simp [findTags, segments_eq, Segment.scan, spansFrom]
  | plain c rest hplain ih =>
    rw [findTags_plain hplain, List.pairwise_map]
    exact ih.imp fun h => by simpa [TagSpan.shift] using h
  | tag tag rest hbody ih =>
    rw [findTags_tag hbody, List.pairwise_cons, List.pairwise_map]
    refine ⟨fun s hs => ?_, ih.imp fun h => by simpa [TagSpan.shift] using h⟩
    obtain ⟨s, -, rfl⟩ := List.mem_map.1 hs
    have hpos := List.length_pos_iff.2 tag.source_ne_nil
    simp only [TagSpan.shift]
    omega

namespace TagSpan.Cuts

variable {s : TagSpan} {t before after : Text}

/-- What stands before the opening brace, and the brace itself with what follows. -/
theorem braces (h : s.Cuts t before after) :
    ∃ front, t = front ++ .char '{' :: (s.tag.body ++ .char '}' :: after) ∧
      s.opening = front.length ∧
      s.stop = front.length + (s.tag.body.length + 1) + 1 := by
  have htext := h.text
  have hstart := h.start
  have hstop := h.stop
  unfold Tag.source at htext hstop
  cases hescaped : s.tag.escaped with
  | false =>
    refine ⟨before, ?_, ?_, ?_⟩
    · simpa [hescaped] using htext
    · simp [TagSpan.opening, hescaped, hstart]
    · simp [hescaped] at hstop
      omega
  | true =>
    refine ⟨before ++ [.char '!'], ?_, ?_, ?_⟩
    · simpa [hescaped] using htext
    · simp [TagSpan.opening, hescaped, hstart]
    · simp [hescaped] at hstop
      simp
      omega

theorem matched (h : s.Cuts t before after) : Matched t s.opening (s.stop - 1) := by
  obtain ⟨front, rfl, hopening, hstop⟩ := h.braces
  rw [hopening, hstop, Nat.add_sub_cancel]
  exact Matched.of_split front h.balanced after

/-- A span shows on the text what its tag is. -/
theorem isTagOf (h : s.Cuts t before after) : s.IsTagOf t s.opening (s.stop - 1) := by
  obtain ⟨front, hsplit, hopening, hstop⟩ := h.braces
  refine ⟨by omega, ?_, ?_, ?_, ?_⟩
  · cases hescaped : s.tag.escaped with
    | true =>
      have hmark : t[before.length]? = some (.char '!') := by
        rw [h.text, List.getElem?_append_right (Nat.le_refl _)]
        simp [Tag.source, hescaped]
      simp [TagSpan.opening, hescaped, h.start, hmark]
    | false =>
      have hlast := h.unescaped hescaped
      have hbefore : s.opening = before.length := by simp [TagSpan.opening, hescaped, h.start]
      rw [List.getLast?_eq_getElem?] at hlast
      rw [hbefore]
      constructor
      · intro hfalse
        cases hfalse
      · rintro ⟨hpos, hmark⟩
        rw [h.text, List.getElem?_append_left (by omega)] at hmark
        exact absurd hmark hlast
  · unfold TagSpan.opening
    split <;> simp
  · rw [h.start, h.stop, h.text]
    exact (Text.slice_of_append before s.tag.source after).symm
  · have hbody := Text.slice_of_append (front ++ [.char '{']) s.tag.body (.char '}' :: after)
    rw [List.append_assoc, List.singleton_append, ← hsplit, List.length_append,
      List.length_singleton] at hbody
    rw [hopening, hstop, Tag.inner, Nat.add_sub_cancel, ← Nat.add_assoc,
      Nat.add_right_comm, hbody]

end TagSpan.Cuts

namespace TagSpan

theorem opening_shift (n : Nat) (s : TagSpan) : (s.shift n).opening = n + s.opening := by
  cases h : s.tag.escaped with
  | true => simp [opening, shift, h, Nat.add_assoc]
  | false => simp [opening, shift, h]

end TagSpan

/-- A matched pair that opens inside the first tag lies within its braces. -/
theorem Matched.inside_first {tag : Tag} (hbody : Balanced tag.body) {rest : Text} {i j : Nat}
    (h : Matched (tag.source ++ rest) i j) (hi : i < tag.source.length) :
    (⟨tag, 0, tag.source.length⟩ : TagSpan).opening ≤ i ∧ j < tag.source.length := by
  have hcut : (⟨tag, 0, tag.source.length⟩ : TagSpan).Cuts (tag.source ++ rest) [] rest :=
    ⟨rfl, rfl, (Nat.zero_add _).symm, hbody, by simp⟩
  generalize hs : (⟨tag, 0, tag.source.length⟩ : TagSpan) = s at hcut ⊢
  have hstop : s.stop = tag.source.length := by rw [← hs]
  have hmatched := hcut.matched
  have hclosing := hmatched.closing
  have hopening : s.opening ≤ i := by
    by_contra hlt
    cases hescaped : tag.escaped with
    | false => simp [← hs, TagSpan.opening, hescaped] at hlt
    | true =>
      obtain rfl : i = 0 := by simpa [← hs, TagSpan.opening, hescaped] using hlt
      have hmark := h.opening
      simp [Tag.source, hescaped] at hmark
  refine ⟨hopening, ?_⟩
  rcases Nat.eq_or_lt_of_le hopening with heq | hlt
  · have := hmatched.closing_unique (heq ▸ h)
    omega
  · rcases hmatched.nested_or_apart h hlt with hafter | hinside
    · have hlast : i = s.stop - 1 := by omega
      cases h.opening.symm.trans (hlast ▸ hclosing)
    · omega

/-- Every matched pair lies within the braces of a tag. -/
theorem exists_tag_around {t : Text} {i j : Nat} (h : Matched t i j) :
    ∃ s ∈ findTags t, s.opening ≤ i ∧ j < s.stop := by
  induction t using segments_induction generalizing i j with
  | nil => simpa using h.opening
  | plain c rest hplain ih =>
    rw [findTags_plain hplain]
    cases i with
    | zero =>
      obtain ⟨body, hbody, after, hsplit⟩ := h.exists_split
      have hat : Tag.at? (c :: rest) = some ⟨false, body⟩ :=
        Tag.at?_eq_some_iff.2 ⟨hbody, after, by simpa [Tag.source] using hsplit⟩
      cases hplain.symm.trans hat
    | succ k =>
      obtain ⟨l, rfl⟩ : ∃ l, j = 1 + l := ⟨j - 1, by have := h.order; omega⟩
      rw [Nat.add_comm k] at h
      have hrest : Matched rest k l := by
        change Matched ([c] ++ rest) (1 + k) (1 + l) at h
        exact Matched.append_iff.1 h
      obtain ⟨s, hmem, hopening, hstop⟩ := ih hrest
      refine ⟨s.shift 1, List.mem_map_of_mem hmem, ?_, ?_⟩
      · rw [TagSpan.opening_shift]
        omega
      · simp only [TagSpan.shift]
        omega
  | tag tag rest hbody ih =>
    rw [findTags_tag hbody]
    by_cases hi : i < tag.source.length
    · exact ⟨_, List.mem_cons_self, h.inside_first hbody hi⟩
    · obtain ⟨k, rfl⟩ : ∃ k, i = tag.source.length + k := ⟨i - tag.source.length, by omega⟩
      obtain ⟨l, rfl⟩ : ∃ l, j = tag.source.length + l :=
        ⟨j - tag.source.length, by have := h.order; omega⟩
      obtain ⟨s, hmem, hopening, hstop⟩ := ih (Matched.append_iff.1 h)
      refine ⟨s.shift tag.source.length, List.mem_cons_of_mem _ (List.mem_map_of_mem hmem), ?_, ?_⟩
      · rw [TagSpan.opening_shift]
        omega
      · simp only [TagSpan.shift]
        omega

theorem opening_lt_stop {t : Text} {s : TagSpan} (hs : s ∈ findTags t) :
    s.start ≤ s.opening ∧ s.opening + 1 < s.stop := by
  obtain ⟨before, after, h⟩ := cuts_of_mem_findTags s hs
  have horder := h.matched.order
  constructor
  · unfold TagSpan.opening
    split <;> omega
  · omega

/-- Two tags with a common position are the same. -/
theorem eq_of_overlap {t : Text} {a b : TagSpan} (ha : a ∈ findTags t) (hb : b ∈ findTags t)
    (hab : a.start < b.stop) (hba : b.start < a.stop) : a = b := by
  have hordered := findTags_ordered t
  have happart := List.Pairwise.forall_of_forall_of_flip
    (R := fun x y : TagSpan => x = y ∨ x.stop ≤ y.start ∨ y.stop ≤ x.start)
    (fun x _ => .inl rfl) (hordered.imp fun h => .inr (.inl h.2))
    (hordered.imp fun h => .inr (.inr h.2)) ha hb
  rcases happart with h | h | h
  · exact h
  · omega
  · omega

/-- The braces of a tag lie inside no other matched pair. -/
theorem outermost_of_mem_findTags {t : Text} {s : TagSpan} (hs : s ∈ findTags t) :
    Outermost t s.opening (s.stop - 1) := by
  obtain ⟨before, after, h⟩ := cuts_of_mem_findTags s hs
  refine ⟨h.matched, fun k l hkl ⟨hopening, hclosing⟩ => ?_⟩
  obtain ⟨s', hs', hopening', hstop'⟩ := exists_tag_around hkl
  have hspan := opening_lt_stop hs
  have hspan' := opening_lt_stop hs'
  obtain rfl := eq_of_overlap hs hs' (by omega) (by omega)
  omega

/-- An outermost pair is the pair of braces of some tag. -/
theorem exists_tag_of_outermost {t : Text} {i j : Nat} (h : Outermost t i j) :
    ∃ s ∈ findTags t, s.opening = i ∧ s.stop - 1 = j := by
  obtain ⟨s, hs, hopening, hstop⟩ := exists_tag_around h.1
  obtain ⟨before, after, hcut⟩ := cuts_of_mem_findTags s hs
  have hinside := h.2 _ _ hcut.matched
  rcases Nat.eq_or_lt_of_le hopening with heq | hlt
  · exact ⟨s, hs, heq, (heq ▸ hcut.matched).closing_unique h.1⟩
  · have horder := h.1.order
    have hnested := hcut.matched.nested_or_apart h.1 hlt
    omega

theorem TagSpan.IsTagOf.position {s : TagSpan} {t : Text} {i j : Nat} (h : s.IsTagOf t i j) :
    s.opening = i ∧ s.stop - 1 = j := by
  have hstart := h.start
  have hstop := h.stop
  refine ⟨?_, by omega⟩
  unfold TagSpan.opening
  split
  · next hescaped =>
    have := (h.escaped.1 hescaped).1
    rw [if_pos hescaped] at hstart
    omega
  · next hescaped =>
    rwa [if_neg hescaped] at hstart

/-- The text between the spans, from a position on, with the sources of the tags in their
places. -/
def weave (t : Text) (position : Nat) : List TagSpan → Text
  | [] => t.drop position
  | s :: rest => t.slice position s.start ++ (s.tag.source ++ weave t s.stop rest)

theorem weave_eq_drop {t : Text} {spans : List TagSpan} {position : Nat}
    (hsource : ∀ s ∈ spans, s.tag.source = t.slice s.start s.stop)
    (hbounds : ∀ s ∈ spans, s.start ≤ s.stop ∧ s.stop ≤ t.length)
    (hordered : spans.Pairwise fun a b => a.start < b.start ∧ a.stop ≤ b.start)
    (hposition : ∀ s ∈ spans, position ≤ s.start) :
    weave t position spans = t.drop position := by
  induction spans generalizing position with
  | nil => rfl
  | cons s rest ih =>
    have hdrop : ∀ n, t.drop n = t.slice n t.length := fun n => by simp [Text.slice]
    have hs : s ∈ s :: rest := List.mem_cons_self
    obtain ⟨hnext, hrest⟩ := List.pairwise_cons.1 hordered
    have hfirst := hposition s hs
    obtain ⟨hstart, hstop⟩ := hbounds s hs
    rw [weave, hsource s hs, ih (fun x hx => hsource x (List.mem_cons_of_mem s hx))
      (fun x hx => hbounds x (List.mem_cons_of_mem s hx)) hrest (fun x hx => (hnext x hx).2)]
    rw [hdrop, hdrop, ← Text.slice_split s.stop hstart hstop,
      ← Text.slice_split s.start hfirst (by omega)]

theorem weave_findTags (t : Text) : weave t 0 (findTags t) = t := by
  refine weave_eq_drop ?_ ?_ (findTags_ordered t) (fun s _ => Nat.zero_le _)
  · intro s hs
    obtain ⟨before, after, h⟩ := cuts_of_mem_findTags s hs
    exact h.isTagOf.source
  · intro s hs
    obtain ⟨before, after, h⟩ := cuts_of_mem_findTags s hs
    have hlength : t.length = before.length + (s.tag.source.length + after.length) := by
      rw [h.text, List.length_append, List.length_append]
    have hstart := h.start
    have hstop := h.stop
    omega

/-- The tags of a text are those of its outermost matched pairs, in order and without
overlap, and the text is made up of them and what is between them. -/
theorem findTags_iff_outermost (t : Text) :
    (∀ i j, Outermost t i j ↔ ∃ s ∈ findTags t, s.IsTagOf t i j) ∧
    (∀ s ∈ findTags t, ∃ i j, s.IsTagOf t i j) ∧
    ((findTags t).Pairwise fun a b => a.start < b.start ∧ a.stop ≤ b.start) ∧
    weave t 0 (findTags t) = t := by
  have htag : ∀ s ∈ findTags t, s.IsTagOf t s.opening (s.stop - 1) := by
    intro s hs
    obtain ⟨before, after, h⟩ := cuts_of_mem_findTags s hs
    exact h.isTagOf
  refine ⟨fun i j => ⟨fun h => ?_, ?_⟩, fun s hs => ⟨_, _, htag s hs⟩, findTags_ordered t,
    weave_findTags t⟩
  · obtain ⟨s, hs, rfl, rfl⟩ := exists_tag_of_outermost h
    exact ⟨s, hs, htag s hs⟩
  · rintro ⟨s, hs, h⟩
    obtain ⟨rfl, rfl⟩ := h.position
    exact outermost_of_mem_findTags hs

end Stencil
