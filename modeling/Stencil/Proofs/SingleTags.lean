import Stencil.Proofs.PaddedChains

/-!
# Single tags

A text that is one tag is rendered by evaluating what stands between its braces, without the
blanks around it. The two ways fail alike in a strict scope; in a lenient one the tag is empty
where the expression fails. The expression with its blanks evaluates like the one without, unless
nothing but blanks stands behind its last dot: a chain counts them as a piece, a tag does not.
-/

namespace Stencil

namespace Scope

variable {s : Scope} {t : Text}

/-- The tag of an expression is the expression without the blanks around it, under the policy at
a tag. -/
theorem render_body (hbalanced : Balanced t) (hdepth : 0 ≤ s.maxDepth) :
    s.render (Tag.source ⟨false, t⟩) =
      s.settle (Tag.source ⟨false, t⟩) (s.evaluate (Text.trim t)) := by
  rw [render_chain hdepth (Template.ofText_body hbalanced), evaluate_eq]

/-- Expressions of the same pieces evaluate alike. -/
theorem evaluate_of_split {u : Text} (h : Chain.split t = Chain.split u) (s : Scope) :
    s.evaluate t = s.evaluate u := by
  rw [evaluate_eq, evaluate_eq, Chain.ofText_of_split h]

end Scope

namespace Engine

/-- The strict render of a tag is the strict evaluation of its expression: the same text or the
same error, after the same calls. The lenient render is the lenient evaluation where that returns,
and otherwise empty, with the failure recorded behind what the evaluation had called and recorded.
An expression counts without the blanks around it, and these make a difference to the evaluation
only where nothing else stands behind the last dot. -/
theorem render_single_tag {t : Text} (hbalanced : Balanced t) (e : Engine)
    (hdepth : 0 ≤ e.maxDepth) (bindings : List (Text × Value)) :
    e.render (Tag.source ⟨false, t⟩) bindings (some false) =
      e.evaluate (Text.trim t) bindings (some false) ∧
    (∀ out, (e.evaluate (Text.trim t) bindings (some true)).result = .ok out →
      e.render (Tag.source ⟨false, t⟩) bindings (some true) =
        e.evaluate (Text.trim t) bindings (some true)) ∧
    (∀ error, (e.evaluate (Text.trim t) bindings (some true)).result = .error error →
      e.render (Tag.source ⟨false, t⟩) bindings (some true) =
        ⟨.ok [], (e.evaluate (Text.trim t) bindings (some true)).trace ++
          [.failed (Tag.source ⟨false, t⟩) error]⟩) ∧
    (¬ Chain.EndsBlank t → ∀ lenient,
      e.evaluate (Text.trim t) bindings lenient = e.evaluate t bindings lenient) := by
  have hrender : ∀ lenient, e.render (Tag.source ⟨false, t⟩) bindings lenient =
      (e.scope bindings lenient).settle (Tag.source ⟨false, t⟩)
        (e.evaluate (Text.trim t) bindings lenient) :=
    fun lenient => Scope.render_body hbalanced hdepth
  refine ⟨?_, fun out hout => ?_, fun error herror => ?_, fun hend lenient => ?_⟩
  · rw [hrender]
    rfl
  · rw [hrender, Scope.settle_of_ok hout]
  · rw [hrender]
    exact Run.recover_of_error herror _ _
  · exact Scope.evaluate_of_split (Chain.split_trim_of_not_endsBlank hend) _

/-- Blanks at both ends, next to a dot in quotes, and a tag that fails in the argument list. -/
def blankedExpression : Text := " x . f(\". \x7bx.g\x7d\") \n".text

theorem render_blanked_tag :
    (Balanced blankedExpression ∧ 0 ≤ gathering.maxDepth ∧
      ¬ Chain.EndsBlank blankedExpression) ∧
    gathering.render (Tag.source ⟨false, blankedExpression⟩) [(['x'], .int 1)] (some false) =
      gathering.evaluate blankedExpression [(['x'], .int 1)] (some false) ∧
    (gathering.render (Tag.source ⟨false, blankedExpression⟩) [(['x'], .int 1)]
      (some true)).result = .ok "[1, '. ']".text := by
  have hbalanced : Balanced blankedExpression := by decide +kernel
  have hend : ¬ Chain.EndsBlank blankedExpression := by decide +kernel
  obtain ⟨hstrict, hlenient, -, htrim⟩ :=
    render_single_tag hbalanced gathering (by decide) [(['x'], .int 1)]
  have hout : (gathering.evaluate (Text.trim blankedExpression) [(['x'], .int 1)]
      (some true)).result = .ok "[1, '. ']".text := by decide +kernel
  refine ⟨⟨hbalanced, by decide, hend⟩, ?_, ?_⟩
  · rw [hstrict, htrim hend]
  · rw [hlenient _ hout, hout]

/-- A variable, a dot, and a blank behind it. -/
def blankEnd : Text := "x. ".text

def blankAlone : Text := "  ".text

/-- The tag has the text of the variable, and the expression alone fails in both modes: the blank
behind its dot counts as a token, though without it the dot ends the chain. Blanks alone are an
empty tag, and an expression that reads the variable of the empty name. -/
theorem evaluate_blank_end_fails :
    (Balanced blankEnd ∧ Balanced blankAlone ∧ 0 ≤ gathering.maxDepth) ∧
    (∀ lenient, (gathering.render (Tag.source ⟨false, blankEnd⟩) [(['x'], .int 1)]
      (some lenient)).result = .ok ['1'] ∧
      (gathering.evaluate ['x', '.'] [(['x'], .int 1)] (some lenient)).result = .ok ['1'] ∧
      (gathering.evaluate blankEnd [(['x'], .int 1)] (some lenient)).result =
        .error (.invalidToken [])) ∧
    (gathering.render (Tag.source ⟨false, blankAlone⟩) [] (some false)).result = .ok [] ∧
    (gathering.evaluate blankAlone [] (some false)).result = .error (.undefinedVariable []) := by
  refine ⟨⟨?_, ?_, by decide⟩, ?_, ?_, ?_⟩ <;> decide +kernel

end Engine

end Stencil
