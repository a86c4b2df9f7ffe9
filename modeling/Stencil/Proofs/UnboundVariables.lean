import Stencil.Proofs.FirstFailure
import Stencil.Proofs.VariableReads

/-!
# Unbound variables

A lenient render takes a head that is not bound for the empty text, and goes on with the calls
behind it. To bind such heads to the empty text changes nothing in it, at any nesting level. A
strict render stops at them; where it ends well with them bound so, the lenient render without
them is that render.
-/

namespace Stencil

/-- The variables with the given names bound to the empty text; those that are bound keep their
values. -/
def withBlanks (bindings : List (Text × Value)) (names : List Text) : List (Text × Value) :=
  bindings ++ names.map fun name => (name, .text [])

theorem lookup_blanks (names : List Text) (name : Text) :
    (names.map fun name => (name, Value.text [])).lookup name =
      if name ∈ names then some (.text []) else none := by
  induction names with
  | nil => rfl
  | cons first rest ih =>
    rw [List.map_cons, List.lookup_cons, ih]
    by_cases hfirst : name = first
    · simp [hfirst]
    · have hne : (name == first) = false := by simpa using hfirst
      simp [hne, hfirst]

theorem lookup_withBlanks (bindings : List (Text × Value)) (names : List Text) (name : Text) :
    (withBlanks bindings names).lookup name =
      (bindings.lookup name).or (if name ∈ names then some (.text []) else none) := by
  rw [withBlanks, List.lookup_append, lookup_blanks]

/-- The heads of a template that are not bound. -/
def Template.unboundHeads (t : Text) (bindings : List (Text × Value)) : List Text :=
  (heads t).filter fun name => (bindings.lookup name).isNone

/-- With its unbound heads bound to the empty text, a template has all its heads bound. -/
theorem isSome_lookup_withBlanks {t : Text} (bindings : List (Text × Value)) {name : Text}
    (hname : name ∈ Template.heads t) :
    ((withBlanks bindings (Template.unboundHeads t bindings)).lookup name).isSome := by
  rw [lookup_withBlanks]
  cases hbound : bindings.lookup name with
  | some v => rfl
  | none =>
    have hmem : name ∈ Template.unboundHeads t bindings :=
      List.mem_filter.2 ⟨hname, by rw [hbound]; rfl⟩
    rw [if_pos hmem]
    rfl

/-- In a lenient scope a head that is not bound has the empty text for its value. -/
theorem Scope.eval_head_leniently {s : Scope} (hs : s.lenient = true) (depth : Nat) (name : Text) :
    (Head.variable name).eval s depth = pure ((s.valueOf? name).getD (.text [])) := by
  rw [Head.eval]
  cases s.valueOf? name with
  | some v => rfl
  | none => rw [hs]; rfl

namespace Engine

/-- Names bound to the empty text are to a lenient render as names that are not bound. -/
theorem render_blanks (e : Engine) (t : Text) (bindings : List (Text × Value))
    (names : List Text) :
    e.render t bindings (some true) = e.render t (withBlanks bindings names) (some true) := by
  have hheads : ∀ name ∈ Template.heads t, ∀ depth,
      (Head.variable name).eval (e.scope bindings (some true)) depth =
        (Head.variable name).eval (e.scope (withBlanks bindings names) (some true)) depth := by
    intro name _ depth
    rw [Scope.eval_head_leniently rfl, Scope.eval_head_leniently rfl]
    simp only [scope, lookup_withBlanks]
    cases bindings.lookup name with
    | some v => rfl
    | none => split <;> rfl
  exact ((e.scope bindings (some true)).related_of_heads hheads).render (List.Subset.refl _)

/-- To bind names that are not bound to the empty text changes neither the result nor the trace of
a lenient render. Where a strict render with all unbound heads bound so returns, the lenient render
without them returns the same after the same calls, and no tag fails in it. -/
theorem render_unbound (e : Engine) (t : Text) (bindings : List (Text × Value)) :
    (∀ names, e.render t (withBlanks bindings names) (some true) =
      e.render t bindings (some true)) ∧
    ∀ out, (e.render t (withBlanks bindings (Template.unboundHeads t bindings))
        (some false)).result = .ok out →
      (e.render t bindings (some true)).result = .ok out ∧
      (e.render t bindings (some true)).calls =
        (e.render t (withBlanks bindings (Template.unboundHeads t bindings)) (some false)).calls ∧
      (e.render t bindings (some true)).failures = [] := by
  refine ⟨fun names => (e.render_blanks t bindings names).symm, fun out hout => ?_⟩
  obtain ⟨silent, follows⟩ := e.foretells_render fun _ => isSome_lookup_withBlanks bindings
  rw [e.render_blanks t bindings (Template.unboundHeads t bindings)]
  rcases follows with hsame | ⟨error, herror, -⟩
  · rw [hsame]
    exact ⟨hout, rfl, silent⟩
  · rw [hout] at herror
    cases herror

/-- Two unbound heads, each with a call behind it, one of them in an argument list. -/
def unboundTemplate : Text := "\x7bx.f\x7d \x7b@f(\"\x7by.f\x7d\")\x7d".text

theorem render_unbound_nested :
    (gathering).render unboundTemplate (withBlanks [] [['y']]) (some true) =
      (gathering).render unboundTemplate [] (some true) ∧
    ((gathering).render unboundTemplate
      (withBlanks [] (Template.unboundHeads unboundTemplate [])) (some false)).result =
        .ok "[''] [\"['']\"]".text ∧
    ((gathering).render unboundTemplate [] (some true)).result =
      .ok "[''] [\"['']\"]".text := by
  have hstrict : ((gathering).render unboundTemplate
      (withBlanks [] (Template.unboundHeads unboundTemplate [])) (some false)).result =
        .ok "[''] [\"['']\"]".text := by decide +kernel
  obtain ⟨hblanks, hlenient⟩ := render_unbound (gathering) unboundTemplate []
  exact ⟨hblanks [['y']], hstrict, (hlenient _ hstrict).1⟩

end Engine

end Stencil
