import Stencil.Proofs.NestingDepth
import Stencil.Proofs.TagSpans

/-!
# Levels of tags

A tag of a text stands at level zero; one in an argument list of a tag stands a level deeper than
that tag. The depth limit is no limit on these levels: an argument list is rendered one level
deeper than the tag around it, whether there is a tag in it or not. So the guard stops nothing
where the tags with argument lists stand at levels below the limit, and tags at the limit itself
go through only without.
-/

namespace Stencil

namespace Template

/-- A tag stands at a level of a text. Escaped tags and what is in them are not evaluated, and
stand at no level. -/
inductive Stands : Nat → Tag → Text → Prop where
  | here {tag : Tag} {t : Text} (htag : .tag tag ∈ segments t) (hplain : tag.escaped = false) :
      Stands 0 tag t
  | inside {level : Nat} {tag outer : Tag} {args t : Text} (houter : .tag outer ∈ segments t)
      (hplain : outer.escaped = false) (hargs : args ∈ Chain.argumentTexts outer.inner)
      (h : Stands level tag args) : Stands (level + 1) tag t

/-- The nesting of a text is one more than the highest level at which a tag with an argument list
stands in it. -/
theorem nesting_le_iff_levels {t : Text} {n : Nat} :
    nesting t ≤ n ↔
      ∀ level tag, Stands level tag t → Chain.argumentTexts tag.inner ≠ [] → level < n := by
  constructor
  · intro h level tag hstands hlist
    induction hstands generalizing n with
    | here htag hplain =>
      obtain ⟨args, hargs⟩ := List.exists_mem_of_ne_nil _ hlist
      have hdeeper := nesting_le_iff.1 h _ htag hplain args hargs
      omega
    | inside houter hplain hargs _ ih =>
      have hdeeper := nesting_le_iff.1 h _ houter hplain _ hargs
      have hlevel := ih (n := n - 1) (by omega) hlist
      omega
  · intro h
    -- Each argument list takes one level, so its text nests one less deep.
    induction n generalizing t with
    | zero =>
      refine nesting_le_iff.2 fun tag htag hplain args hargs => ?_
      have hlevel := h 0 tag (.here htag hplain) (List.ne_nil_of_mem hargs)
      omega
    | succ n ih =>
      refine nesting_le_iff.2 fun outer houter hplain args hargs => ?_
      have hinner : nesting args ≤ n := ih fun level tag hstands hlist =>
        Nat.lt_of_succ_lt_succ (h _ tag (.inside houter hplain hargs hstands) hlist)
      omega

/-- Where no argument list has a brace in it, all tags stand at level zero. -/
theorem Stands.eq_zero {level : Nat} {tag : Tag} {t : Text} (h : Stands level tag t)
    (hlists : ∀ outer, .tag outer ∈ segments t →
      ∀ args ∈ Chain.argumentTexts outer.inner, .char '{' ∉ args) : level = 0 := by
  cases h with
  | here => rfl
  | inside houter _ hargs hinner =>
    have hplain := segments_of_no_opening (hlists _ houter _ hargs)
    cases hinner with
    | here htag => simp [hplain] at htag
    | inside htag => simp [hplain] at htag

end Template

/-- Scopes whose limits reach as far as a text nests render it alike, and unguarded. -/
theorem Scope.freely_render {s s' : Scope} (halike : Alike s s') {t : Text}
    (h : s.Allows 0 (Template.nesting t)) (h' : s'.Allows 0 (Template.nesting t)) :
    s.Freely (s.render t) (s'.render t) := by
  rw [render_eq, render_eq]
  exact (Freely.guard h h').bind fun _ _ => Freely.pieces halike (Template.ofText t) h h'

theorem Scope.unguarded_render {s : Scope} {t : Text} (h : s.Allows 0 (Template.nesting t)) :
    s.Unguarded (s.render t) :=
  (freely_render ⟨rfl, rfl, rfl⟩ h h).unguarded

namespace Engine

/-- Where the tags with argument lists stand below the limit, so that no tag stands above it, the
guard stops nothing in either mode: no error of too deep nesting is raised or recorded but those
that a called function gave. -/
theorem unguarded_of_levels (e : Engine) {t : Text} (hlimit : 0 ≤ e.maxDepth)
    (hlevels : ∀ level tag, Template.Stands level tag t →
      Chain.argumentTexts tag.inner ≠ [] → (level : Int) < e.maxDepth)
    (bindings : List (Text × Value)) (lenient : Option Bool) :
    (e.scope bindings lenient).Unguarded (e.render t bindings lenient) := by
  have hnesting : Template.nesting t ≤ e.maxDepth.toNat :=
    Template.nesting_le_iff_levels.2 fun level tag hstands hlist => by
      have hlevel := hlevels level tag hstands hlist
      omega
  have hallows : (e.scope bindings lenient).Allows 0 (Template.nesting t) := by
    change ((0 + Template.nesting t : Nat) : Int) ≤ e.maxDepth
    omega
  exact Scope.unguarded_render hallows

/-- Two calls stand below the limit, and a variable in the list of the inner one at the limit. -/
theorem unguarded_of_nested_levels :
    (0 ≤ (gathering.withLimit 2).maxDepth ∧
      ∀ level tag, Template.Stands level tag nestedTemplate →
        Chain.argumentTexts tag.inner ≠ [] → (level : Int) < (gathering.withLimit 2).maxDepth) ∧
    ((gathering.withLimit 2).scope [] none).Unguarded
      ((gathering.withLimit 2).render nestedTemplate [] none) := by
  have hlimit : 0 ≤ (gathering.withLimit 2).maxDepth := by decide
  have hnesting : Template.nesting nestedTemplate ≤ 2 := by decide +kernel
  have hlevels : ∀ level tag, Template.Stands level tag nestedTemplate →
      Chain.argumentTexts tag.inner ≠ [] → (level : Int) < (gathering.withLimit 2).maxDepth :=
    fun level tag hstands hlist =>
      Int.ofNat_lt.2 (Template.nesting_le_iff_levels.1 hnesting level tag hstands hlist)
  exact ⟨⟨hlimit, hlevels⟩, unguarded_of_levels _ hlimit hlevels [] none⟩

/-- A call with a number for its argument. -/
def literalTemplate : Text := "\x7b@f(1)\x7d".text

/-- The one tag stands at level zero, which the limit allows. There is no tag in its argument list,
and yet the list is refused as too deep: the function is not called. -/
theorem literal_argument_too_deep :
    0 ≤ (gathering.withLimit 0).maxDepth ∧
    (∀ level tag, Template.Stands level tag literalTemplate →
      (level : Int) ≤ (gathering.withLimit 0).maxDepth) ∧
    ((gathering.withLimit 0).render literalTemplate [] (some false)).result =
      .error (.nestingTooDeep 0) ∧
    ((gathering.withLimit 0).render literalTemplate [] (some true)).failures =
      [(literalTemplate, .nestingTooDeep 0)] ∧
    ((gathering.withLimit 0).render literalTemplate [] (some true)).calls = [] := by
  have hlists : ∀ outer, .tag outer ∈ segments literalTemplate →
      ∀ args ∈ Chain.argumentTexts outer.inner, .char '{' ∉ args := by
    have hsegments : segments literalTemplate = [.tag ⟨false, "@f(1)".text⟩] := by
      decide +kernel
    intro outer houter
    rw [hsegments, List.mem_singleton, Segment.tag.injEq] at houter
    subst houter
    decide +kernel
  refine ⟨by decide, fun level tag hstands => ?_, by decide +kernel, by decide +kernel, ?_⟩
  · rw [hstands.eq_zero hlists]
    decide
  · rw [← List.isEmpty_iff]
    decide +kernel

end Engine

end Stencil
