import Stencil.Proofs.ReplacedTags

/-!
# Settled texts

Between the tags of a text stand closing braces that close nothing and opening braces that are
never closed, and no loose closing brace stands behind such an opening one. So with text without
braces in place of its tags a text has no tag, whatever comes to stand next to each other, and a
render of it is its own last one.
-/

namespace Stencil

/-! ## Texts without tags -/

/-- A text has no tag if no opening brace in it is closed. -/
theorem findTags_eq_nil_of_unmatched {t : Text}
    (h : ∀ later, .char '{' :: later <:+ t → Tag.body? 0 later = none) : findTags t = [] := by
  induction t with
  | nil => rfl
  | cons c rest ih =>
    have hplain : Tag.at? (c :: rest) = none := by
      rw [Option.eq_none_iff_forall_ne_some]
      intro tag hsome
      obtain ⟨hbody, after, hsplit⟩ := Tag.at?_eq_some_iff.1 hsome
      have hsuffix : .char '{' :: (tag.body ++ .char '}' :: after) <:+ c :: rest := by
        rw [hsplit, Tag.source]
        exact ⟨if tag.escaped then ['!'] else [], by simp⟩
      have hfound : Tag.body? 0 (tag.body ++ .char '}' :: after) = some tag.body :=
        Tag.body?_eq_some_iff.2 ⟨closes_zero.2 hbody, after, rfl⟩
      rw [h _ hsuffix] at hfound
      cases hfound
    have hrest := ih fun later hsuffix => h later (hsuffix.trans (List.suffix_cons c rest))
    rw [findTags_plain hplain, hrest, List.map_nil]

theorem suffix_of_opening_suffix {front back later : Text} (hfront : .char '{' ∉ front)
    (h : .char '{' :: later <:+ front ++ back) : .char '{' :: later <:+ back := by
  induction front with
  | nil => exact h
  | cons c rest ih =>
    rcases List.suffix_cons_iff.1 h with heq | hsuffix
    · exact absurd ((List.cons.inj heq).1 ▸ List.mem_cons_self) hfront
    · exact ih (fun hmem => hfront (List.mem_cons_of_mem c hmem)) hsuffix

/-- With text without braces in place of its tags a text has no tag. -/
theorem findTags_replaceTags {f : Tag → Text} {t : Text}
    (h : ∀ span ∈ findTags t, .char '{' ∉ f span.tag ∧ .char '}' ∉ f span.tag) :
    findTags (replaceTags f t) = [] := by
  have hplain := (forall_tags_iff (P := fun tag => .char '{' ∉ f tag ∧ .char '}' ∉ f tag)).1 h
  clear h
  refine findTags_eq_nil_of_unmatched fun later hlater => ?_
  induction t using segments_induction with
  | nil => cases List.suffix_nil.1 hlater
  | plain c rest hat ih =>
    rw [segments_plain hat] at hplain
    have hrest := fun tag hmem => hplain tag (List.mem_cons_of_mem _ hmem)
    rw [replaceTags_plain hat] at hlater
    rcases List.suffix_cons_iff.1 hlater with heq | hsuffix
    · -- The brace closes nothing in the text, and what is put in for the tags changes no pair.
      obtain ⟨rfl, rfl⟩ := List.cons.inj heq
      have hloose : Tag.loose (replaceTags f rest) = Tag.loose rest := by
        refine loose_replaceTags fun tag hmem _ back => ?_
        obtain ⟨hopen, hclose⟩ := hrest tag hmem
        rw [Tag.loose_append (Closes.of_no_braces hopen hclose), Nat.zero_add]
      rw [Tag.body?_eq_none_iff, hloose, ← Tag.body?_eq_none_iff]
      exact Tag.body?_of_at?_eq_none hat
    · exact ih hrest hsuffix
  | tag tag rest hbody ih =>
    rw [segments_tag hbody] at hplain
    rw [replaceTags_tag hbody] at hlater
    exact ih (fun other hmem => hplain other (List.mem_cons_of_mem _ hmem))
      (suffix_of_opening_suffix (hplain tag List.mem_cons_self).1 hlater)

/-! ## Renders of rendered texts -/

namespace Engine

/-- A text without tags renders as itself. -/
theorem render_untagged {e : Engine} (hdepth : 0 ≤ e.maxDepth) {t : Text} (ht : findTags t = [])
    (bindings : List (Text × Value)) (lenient : Option Bool) :
    e.render t bindings lenient = ⟨.ok t, []⟩ := by
  have hescaped : ∀ span ∈ findTags t, span.tag.escaped = true := by simp [ht]
  have hrender := Scope.render_escaped (s := e.scope bindings lenient) hescaped hdepth
  rw [replaceTags, ht] at hrender
  exact hrender

/-- Where no brace is put in place of a tag, the text that a render returns has no tags, and every
render of it returns it unchanged. -/
theorem render_settles {e : Engine} {t out : Text} {bindings : List (Text × Value)}
    {lenient : Option Bool} (hout : (e.render t bindings lenient).result = .ok out)
    (hplain : ∀ span ∈ findTags t, .char '{' ∉ (e.scope bindings lenient).textOf span.tag ∧
      .char '}' ∉ (e.scope bindings lenient).textOf span.tag) :
    out = replaceTags (e.scope bindings lenient).textOf t ∧ findTags out = [] ∧
      ∀ (e' : Engine) (bindings' : List (Text × Value)) (lenient' : Option Bool),
        0 ≤ e'.maxDepth → e'.render out bindings' lenient' = ⟨.ok out, []⟩ := by
  obtain ⟨-, -, rfl⟩ := Scope.render_ok_iff.1 hout
  have huntagged := findTags_replaceTags hplain
  refine ⟨rfl, huntagged, ?_⟩
  intro e' bindings' lenient' hdepth
  exact render_untagged hdepth huntagged bindings' lenient'

/-- Tags side by side, with a closing brace before them and an opening one behind. -/
def strayTemplate : Text := "\x7d\x7bx\x7d\x7b \x7d\x7b@f\x7d\x7b".text

theorem render_settles_stray :
    (gathering.render strayTemplate [(['x'], .int 1)] (some false)).result =
      .ok "\x7d1[]\x7b".text ∧
    findTags "\x7d1[]\x7b".text = [] ∧
    gathering.render "\x7d1[]\x7b".text [] (some true) = ⟨.ok "\x7d1[]\x7b".text, []⟩ := by
  have hout : (gathering.render strayTemplate [(['x'], .int 1)] (some false)).result =
      .ok "\x7d1[]\x7b".text := by decide +kernel
  have hplain : ∀ span ∈ findTags strayTemplate,
      .char '{' ∉ (gathering.scope [([.char 'x'], .int 1)] (some false)).textOf span.tag ∧
        .char '}' ∉ (gathering.scope [([.char 'x'], .int 1)] (some false)).textOf span.tag := by
    decide +kernel
  obtain ⟨-, huntagged, hagain⟩ := render_settles hout hplain
  exact ⟨hout, huntagged, hagain gathering [] (some true) (by decide)⟩

end Engine

end Stencil
