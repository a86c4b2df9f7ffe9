import Mathlib.Tactic.ByContra
import Stencil.Proofs.BalancedText

/-!
# The spans of tags

The scanner finds the outermost matched pairs of braces, in order. The scan splits a text
at its first tag or character, and every statement about its tags follows that split:
what stands before a tag only moves it.
-/

namespace Stencil

/-! ## Matched braces -/

/-- An opening and a closing brace with balanced text between them. -/
structure Matched (t : Text) (i j : Nat) : Prop where
  order : i < j
  opening : t[i]? = some (.char '{')
  closing : t[j]? = some (.char '}')
  between : Balanced (t.slice (i + 1) j)

theorem matched_iff {t : Text} {i j : Nat} :
    Matched t i j ↔
      i < j ∧ t[i]? = some (.char '{') ∧ t[j]? = some (.char '}') ∧ Balanced (t.slice (i + 1) j) :=
  ⟨fun h => ⟨h.order, h.opening, h.closing, h.between⟩, fun h => ⟨h.1, h.2.1, h.2.2.1, h.2.2.2⟩⟩

instance (t : Text) (i j : Nat) : Decidable (Matched t i j) := decidable_of_iff _ matched_iff.symm

namespace Matched

theorem append_iff {front back : Text} {i j : Nat} :
    Matched (front ++ back) (front.length + i) (front.length + j) ↔ Matched back i j := by
  have hget : ∀ k, (front ++ back)[front.length + k]? = back[k]? := by
    intro k
    rw [List.getElem?_append_right (by omega), Nat.add_sub_cancel_left]
  have hslice : (front ++ back).slice (front.length + i + 1) (front.length + j) =
      back.slice (i + 1) j := by
    rw [Nat.add_assoc, Text.slice_append_right]
  constructor
  · rintro ⟨order, opening, closing, between⟩
    exact ⟨by omega, hget i ▸ opening, hget j ▸ closing, hslice ▸ between⟩
  · rintro ⟨order, opening, closing, between⟩
    exact ⟨by omega, (hget i).trans opening, (hget j).trans closing, hslice ▸ between⟩

theorem of_split (front : Text) {body : Text} (hbody : Balanced body) (back : Text) :
    Matched (front ++ .char '{' :: (body ++ .char '}' :: back)) front.length
      (front.length + (body.length + 1)) := by
  refine append_iff (i := 0).2 ⟨by omega, rfl, by simp, ?_⟩
  have h := Text.slice_of_append ['{'] body ('}' :: back)
  rw [List.singleton_append, List.length_singleton, Nat.add_comm 1] at h
  rwa [h]

theorem exists_split {t : Text} {i j : Nat} (h : Matched t i j) :
    ∃ body, Balanced body ∧ ∃ after, t = t.take i ++ .char '{' :: (body ++ .char '}' :: after) := by
  have horder := h.order
  have hlength : j < t.length := (List.getElem?_eq_some_iff.1 h.closing).1
  have hrest : t.drop i = t.slice i t.length := by simp [Text.slice]
  refine ⟨_, h.between, t.slice (j + 1) t.length, ?_⟩
  rw [← Text.slice_cons h.closing hlength, ← Text.slice_split j (by omega) (by omega),
    ← Text.slice_cons h.opening (by omega), ← hrest, List.take_append_drop]

/-- A matched pair that opens inside another one closes inside it. -/
theorem nested_or_apart {t : Text} {i j k l : Nat} (h : Matched t i j) (h' : Matched t k l)
    (hik : i < k) : j < k ∨ l < j := by
  by_contra hcontra
  have hkj : k < j := by
    have hne : k ≠ j := by
      rintro rfl
      cases h'.opening.symm.trans h.closing
    omega
  have hsplit : t.slice (i + 1) j = t.slice (i + 1) k ++ .char '{' :: t.slice (k + 1) j := by
    rw [Text.slice_split k (by omega) (by omega), Text.slice_cons h'.opening hkj]
  have hinner : t.slice (k + 1) j <+: t.slice (k + 1) l := by
    rw [Text.slice_split j (Nat.succ_le_of_lt hkj) (by omega : j ≤ l)]
    exact List.prefix_append ..
  have hbefore := h.between.prefixes _ (hsplit ▸ List.prefix_append ..)
  have hafter := h'.between.prefixes _ hinner
  have htotal := h.between.total
  rw [hsplit, List.count_append, List.count_append, List.count_cons, List.count_cons] at htotal
  simp at htotal
  omega

theorem closing_le {t : Text} {i j l : Nat} (h : Matched t i j) (h' : Matched t i l) : l ≤ j := by
  by_contra hlt
  have hsplit : t.slice (i + 1) l = t.slice (i + 1) j ++ [.char '}'] ++ t.slice (j + 1) l := by
    have horder := h.order
    rw [Text.slice_split j (by omega) (by omega),
      Text.slice_cons h.closing (by omega), List.append_assoc, List.singleton_append]
  have hearly := h'.between.prefixes _ (hsplit ▸ List.prefix_append ..)
  have htotal := h.between.total
  rw [List.count_append, List.count_append] at hearly
  simp at hearly
  omega

theorem closing_unique {t : Text} {i j l : Nat} (h : Matched t i j) (h' : Matched t i l) :
    j = l :=
  Nat.le_antisymm (h'.closing_le h) (h.closing_le h')

end Matched

/-! ## The split of a text at its first segment -/

namespace Segment

theorem scan_skip (skip : Nat) (t : Text) : scan skip t = scan 0 (t.drop skip) := by
  induction t generalizing skip with
  | nil => simp [scan]
  | cons c rest ih =>
    cases skip with
    | zero => rfl
    | succ n => exact ih n

end Segment

theorem Tag.source_ne_nil (tag : Tag) : tag.source ≠ [] := by
  simp [Tag.source]

theorem Tag.getLast?_source (tag : Tag) : tag.source.getLast? = some (.char '}') := by
  unfold Tag.source
  rw [← List.cons_append, ← List.append_assoc]
  exact List.getLast?_concat ..

/-- A tag starts with its brace or with the mark before it. -/
theorem Tag.at?_of_first {c : CodePoint} (hopening : c ≠ '{') (hmark : c ≠ '!') (rest : Text) :
    Tag.at? (c :: rest) = none := by
  rw [Option.eq_none_iff_forall_ne_some]
  intro tag hsome
  obtain ⟨-, after, hsplit⟩ := Tag.at?_eq_some_iff.1 hsome
  cases hescaped : tag.escaped with
  | false =>
    simp only [Tag.source, hescaped] at hsplit
    exact hopening (List.cons.inj hsplit).1
  | true =>
    simp only [Tag.source, hescaped] at hsplit
    exact hmark (List.cons.inj hsplit).1

theorem segments_tag {tag : Tag} (hbody : Balanced tag.body) (rest : Text) :
    segments (tag.source ++ rest) = .tag tag :: segments rest := by
  obtain ⟨c, source, hsource⟩ := List.exists_cons_of_ne_nil tag.source_ne_nil
  have hat : Tag.at? (c :: (source ++ rest)) = some tag :=
    Tag.at?_eq_some_iff.2 ⟨hbody, rest, by rw [hsource, List.cons_append]⟩
  rw [segments_eq, segments_eq, hsource, List.cons_append, Segment.scan, hat]
  simp [Segment.scan_skip (source.length), hsource]

theorem segments_plain {c : CodePoint} {rest : Text} (h : Tag.at? (c :: rest) = none) :
    segments (c :: rest) = .plain c :: segments rest := by
  rw [segments_eq, segments_eq, Segment.scan, h]

/-- A text without an opening brace has no tag. -/
theorem segments_of_no_opening {t : Text} (h : .char '{' ∉ t) : segments t = t.map .plain := by
  induction t with
  | nil => rfl
  | cons c rest ih =>
    have hat : Tag.at? (c :: rest) = none := by
      rw [Option.eq_none_iff_forall_ne_some]
      intro tag hsome
      obtain ⟨-, after, hsplit⟩ := Tag.at?_eq_some_iff.1 hsome
      refine h (hsplit ▸ List.mem_append_left after ?_)
      simp [Tag.source]
    rw [segments_plain hat, ih fun hrest => h (List.mem_cons_of_mem c hrest), List.map_cons]

/-- Induction along the scan: a text starts with a tag, or with a character where none starts. -/
theorem segments_induction {motive : Text → Prop} (nil : motive [])
    (plain : ∀ c rest, Tag.at? (c :: rest) = none → motive rest → motive (c :: rest))
    (tag : ∀ (tag : Tag) rest, Balanced tag.body → motive rest → motive (tag.source ++ rest))
    (t : Text) : motive t := by
  induction hlength : t.length using Nat.strongRecOn generalizing t with
  | ind n ih =>
    subst hlength
    cases t with
    | nil => exact nil
    | cons c rest =>
      cases hat : Tag.at? (c :: rest) with
      | none => exact plain c rest hat (ih rest.length (by simp) rest rfl)
      | some first =>
        obtain ⟨hbody, after, hsplit⟩ := Tag.at?_eq_some_iff.1 hat
        rw [hsplit]
        refine tag first after hbody (ih after.length ?_ after rfl)
        have hpos := List.length_pos_iff.2 first.source_ne_nil
        rw [hsplit, List.length_append]
        omega

/-! ## Spans -/

namespace TagSpan

/-- The span in a text that has `n` characters more in front. -/
def shift (n : Nat) (s : TagSpan) : TagSpan := ⟨s.tag, n + s.start, n + s.stop⟩

end TagSpan

theorem spansFrom_add (n position : Nat) (segs : List Segment) :
    spansFrom (n + position) segs = (spansFrom position segs).map (.shift n) := by
  induction segs generalizing position with
  | nil => rfl
  | cons seg rest ih =>
    cases seg with
    | plain c => simp only [spansFrom, Nat.add_assoc, ih]
    | tag tag => simp only [spansFrom, Nat.add_assoc, ih, List.map_cons, TagSpan.shift]

theorem findTags_plain {c : CodePoint} {rest : Text} (h : Tag.at? (c :: rest) = none) :
    findTags (c :: rest) = (findTags rest).map (.shift 1) := by
  rw [findTags, segments_plain h, spansFrom, Nat.add_comm]
  exact spansFrom_add 1 0 _

theorem findTags_tag {tag : Tag} (hbody : Balanced tag.body) (rest : Text) :
    findTags (tag.source ++ rest) =
      ⟨tag, 0, tag.source.length⟩ :: (findTags rest).map (.shift tag.source.length) := by
  rw [findTags, segments_tag hbody, spansFrom, Nat.add_comm 0, spansFrom_add]
  rfl

theorem spansFrom_plain (position : Nat) (t : Text) : spansFrom position (t.map .plain) = [] := by
  induction t generalizing position with
  | nil => rfl
  | cons c rest ih => exact ih (position + 1)

/-- A text has no tags if its segments are its characters. -/
theorem findTags_eq_nil_iff {t : Text} : findTags t = [] ↔ segments t = t.map .plain := by
  constructor
  · intro h
    induction t using segments_induction with
    | nil => rfl
    | plain c rest hat ih =>
      rw [findTags_plain hat, List.map_eq_nil_iff] at h
      rw [segments_plain hat, ih h, List.map_cons]
    | tag tag rest hbody _ =>
      rw [findTags_tag hbody] at h
      cases h
  · intro h
    rw [findTags, h, spansFrom_plain]

end Stencil
