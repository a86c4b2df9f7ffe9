import Stencil.Proofs.RelatedScopes

/-!
# The variables that a render reads

A render reads the heads that stand in the template and nothing else. Values and results
of functions become text of arguments, which is read as literals; braces in them start no
tag, so no value decides which variables are read.
-/

namespace Stencil

/-- Scopes that differ in their variables alone, and give the heads of the given names alike. -/
theorem Scope.related_of_heads (s : Scope) {read : Text → Option Value} {names : List Text}
    (hheads : ∀ name ∈ names, ∀ depth, (Head.variable name).eval s depth =
      (Head.variable name).eval { s with valueOf? := read } depth) :
    Related (fun _ => Eq) names s { s with valueOf? := read } where
  calm := fun _ => rfl
  bind := by
    intro α β x y f g hxy hfg
    rw [hxy, funext hfg]
  find := fun _ => rfl
  guard := fun _ => rfl
  head := fun depth name hname => hheads name hname depth
  settle := by
    intro source x y hxy
    rw [hxy]
    rfl

/-- Scopes that differ in their variables alone, and not in those of the given names. -/
theorem Scope.related_of_agree (s : Scope) {read : Text → Option Value} {names : List Text}
    (hagree : ∀ name ∈ names, s.valueOf? name = read name) :
    Related (fun _ => Eq) names s { s with valueOf? := read } :=
  s.related_of_heads fun name hname depth => by simp only [Head.eval, hagree name hname]

namespace Engine

/-- Variables that are no head of the template change neither the result nor the trace. -/
theorem render_eq_of_agree_on_heads (e : Engine) (t : Text) (lenient : Option Bool)
    (bindings others : List (Text × Value))
    (hagree : ∀ name ∈ Template.heads t, bindings.lookup name = others.lookup name) :
    e.render t bindings lenient = e.render t others lenient :=
  ((e.scope bindings lenient).related_of_agree hagree).render (List.Subset.refl _)

def bracesTemplate : Text := "\x7bx\x7d \x7b@f(\"\x7bx\x7d\").f\x7d !\x7by\x7d".text

def bracesEngine : Engine :=
  .ofFunctions [(['f'], ⟨.builtin ['f'], fun args => .ok (args.headD .null)⟩)] 1

/-- A value that looks like a tag, put between the quotes of an argument, reads nothing. -/
theorem render_eq_of_value_with_braces :
    (∀ name ∈ Template.heads bracesTemplate,
      [([.char 'x'], .text "\x7by\x7d".text), ([.char 'y'], .int 1)].lookup name =
        [([.char 'x'], Value.text "\x7by\x7d".text)].lookup name) ∧
    bracesEngine.render bracesTemplate [(['x'], .text "\x7by\x7d".text), (['y'], .int 1)] none =
      bracesEngine.render bracesTemplate [(['x'], .text "\x7by\x7d".text)] none := by
  have hheads : Template.heads bracesTemplate = [[.char 'x'], [.char 'x']] := by decide +kernel
  have hagree : ∀ name ∈ Template.heads bracesTemplate,
      [([.char 'x'], .text "\x7by\x7d".text), ([.char 'y'], .int 1)].lookup name =
        [([.char 'x'], Value.text "\x7by\x7d".text)].lookup name := by
    intro name hname
    rw [hheads] at hname
    obtain rfl : name = [.char 'x'] := by simpa using hname
    rfl
  exact ⟨hagree, render_eq_of_agree_on_heads bracesEngine bracesTemplate none _ _ hagree⟩

end Engine

end Stencil
