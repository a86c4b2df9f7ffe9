import Stencil.Proofs.LiteralCalls
import Stencil.Proofs.NestedValues
import Stencil.Proofs.NestingDepth
import Stencil.Proofs.PaddedChains
import Stencil.Validity

/-!
# Nested expressions

A call whose argument is an expression in a tag gets the text that the expression evaluates
to, and what it gives goes on to the next call. The splitter of chains knows no braces; it
reads the quotes, parentheses and dots of the expression as those of the chain around it. So
this holds for expressions over which it passes as part of the argument list, and not for all.
-/

namespace Stencil

open FunctionTable (isName isName_iff)

/-! ## The chain around a nested expression -/

theorem Token.whole_source {t : Token} (h : isName t.name = true)
    (hargs : Chain.Whole (argsText t.args)) : Chain.Whole t.source := by
  have hfront : Chain.Contained 0 (Token.source ⟨t.name, none, t.direct⟩) :=
    contained_source h (by simp)
  obtain ⟨last, hlast, hpass⟩ := hfront none (by simp)
  obtain ⟨first, hrest⟩ := hargs
  obtain ⟨final, hrest⟩ := hrest.of_previous (by simp) hlast
  have hsource : t.source = Token.source ⟨t.name, none, t.direct⟩ ++ argsText t.args := by
    rw [source_eq, source_eq]
    simp [argsText]
  rw [hsource]
  exact ⟨final, hpass.append hrest⟩

/-- A direct call with an expression for its argument, in a tag in quotes. -/
def nestedCall (f expression : Text) : Token := ⟨f, some (quotedTag expression), true⟩

/-- The splitter passes over the argument list that holds the expression. -/
def Chain.Transparent (expression : Text) : Prop :=
  Whole (Token.argsText (some (quotedTag expression)))

instance (expression : Text) : Decidable (Chain.Transparent expression) :=
  inferInstanceAs (Decidable (Chain.Whole _))

/-- An expression without the quote mark around it is never taken for a part of the chain. -/
theorem Chain.transparent_of_no_mark {expression : Text} (h : .char '"' ∉ expression) :
    Transparent expression := by
  have hmark : .char '"' ∉ Tag.source ⟨false, expression⟩ := by
    intro hmem
    exact h (by simpa [Tag.source] using hmem)
  have hend : (Tag.source ⟨false, expression⟩).getLast? ≠ some (.char '\\') := by
    rw [Tag.getLast?_source]
    decide
  exact (Contained.parenthesized (.quoted (by decide) hmark hend)).whole

section

variable {f g expression : Text}

theorem Chain.split_nestedCall (hf : isName f = true) (hg : isName g = true)
    (h : Transparent expression) :
    split ((nestedCall f expression).source ++ .char '.' :: g) =
      [(nestedCall f expression).source, g] := by
  have hwhole : Whole (nestedCall f expression).source := Token.whole_source hf h
  have htrimmed : Text.Trimmed (nestedCall f expression).source := Token.trimmed_source hf
  have hne : (nestedCall f expression).source ≠ [] := by simp [Token.source, nestedCall]
  rw [(hwhole.finished hne).split_append_dot, split_whole hwhole hne, htrimmed.trim_eq,
    (isPiece_of_isName hg).closed.split_eq]
  rfl

theorem Chain.ofText_nestedCall (hf : isName f = true) (hg : isName g = true)
    (h : Transparent expression) (nested : Text → Template) :
    ofText nested ((nestedCall f expression).source ++ .char '.' :: g) =
      .from (.direct (.applied f (nested (quotedTag expression)))) [.bare g] := by
  unfold ofText
  rw [split_nestedCall hf hg h]
  simp only [List.map_singleton]
  rw [Head.ofSource_direct rfl, Call.ofSource_source hf fun _ => rfl, Call.ofSource_name hg]
  rfl

/-- The tree of the argument text has the chain of the expression. -/
theorem Template.ofText_quotedTag (h : Balanced expression) :
    Template.ofText (quotedTag expression) =
      [.plain '"', .tag (Tag.source ⟨false, expression⟩)
        (Chain.ofText Template.ofText (Text.trim expression)), .plain '"'] := by
  have htag := @Template.ofText_tag ⟨false, expression⟩ h ['"']
  rw [quotedTag, Text.inQuotes, Template.ofText_cons (by decide) (by decide), htag,
    Template.ofText_plain (by decide)]
  rfl

end

/-! ## Expressions that evaluate -/

namespace Chain

variable {s : Scope} {depth : Nat} {t : Text}

theorem malformed_not_mem {value w : Value} {calls : List Call} {source : Text}
    (h : (runCalls s depth value calls).result = .ok w) : .malformed source ∉ calls := by
  intro hmem
  obtain ⟨piped, v, hrun⟩ := Scope.exists_run_of_runCalls h hmem
  rw [Call.run] at hrun
  cases hrun

/-- A text with one piece that is empty is blank, or ends with a dot. -/
theorem getLast?_of_split (h : split t = [[]]) :
    Text.trim t = [] ∨ t.getLast? = some (.char '.') := by
  have hne : t ≠ [] := by
    rintro rfl
    cases h
  rw [split, piecesFrom_eq] at h
  by_cases hpiece : (finish .start none [] t).2 = []
  · exact .inr (getLast?_of_finish hpiece hne)
  · left
    have hkept : (finish .start none [] t).2.isEmpty = false := by simpa using hpiece
    rw [hkept, if_neg (by decide), List.map_append] at h
    have hcuts : cutsFrom .start none [] t = [] := by
      have hlength := congrArg List.length h
      simpa using hlength
    have hwhole := (passes_of_cutsFrom hcuts).finish_eq []
    rw [hcuts, List.map_nil, List.nil_append, List.map_singleton] at h
    have hreverse : (finish .start none [] t).2.reverse = t := by
      rw [hwhole, List.append_nil, List.reverse_reverse]
    rw [hreverse] at h
    simpa using h

/-- Blanks around a chain that evaluates change nothing in it, unless it is blank. -/
theorem split_trim_of_eval {v : Value} (hblank : Text.trim t = [] → t = [])
    (h : ((ofText Template.ofText t).eval s depth).result = .ok v) :
    split (Text.trim t) = split t := by
  by_cases hlast : (split t).getLast? = some []
  · obtain ⟨head, rest, hsplit⟩ : ∃ head rest, split t = head :: rest :=
      List.exists_cons_of_ne_nil fun hnil => by simp [hnil] at hlast
    -- An empty piece after the first one would be no token.
    have hrest : rest = [] := by
      by_contra hne
      have hmem : [] ∈ rest := by
        rw [hsplit, List.getLast?_cons, List.getLast?_eq_some_getLast hne, Option.getD_some,
          Option.some.injEq] at hlast
        exact hlast ▸ List.getLast_mem hne
      unfold ofText at h
      rw [hsplit, Chain.eval] at h
      cases hhead : ((Head.ofSource Template.ofText head).eval s depth).result with
      | error e =>
        rw [Run.bind_of_error hhead] at h
        cases h
      | ok w =>
        rw [Run.bind_of_ok hhead] at h
        exact malformed_not_mem h (List.mem_map_of_mem hmem)
    have hhead : head = [] := by simpa [hsplit, hrest] using hlast
    rw [hrest, hhead] at hsplit
    have hne : Text.trim t ≠ [] := by
      intro htrim
      rw [hblank htrim] at hsplit
      cases hsplit
    exact split_trim_of_dot ((getLast?_of_split hsplit).resolve_left hne)
  · exact split_trim hlast

end Chain

/-! ## Runs of nested expressions -/

theorem Run.bind_congr_of_ok {α β : Type} {x : Run α} {a : α} (h : x.result = .ok a)
    {f g : α → Run β} (hfg : f a = g a) : x >>= f = x >>= g := by
  rw [bind_of_ok h, bind_of_ok h, hfg]

namespace Scope

variable {s : Scope} {f g expression t : Text} {F G : Callable}

/-- An expression evaluates in an argument list as it does by itself. -/
theorem eval_nested (hdepth : (Chain.ofText Template.ofText expression).nesting + 1 ≤ s.maxDepth)
    (hblank : Text.trim expression = [] → expression = [])
    (ht : (s.evaluate expression).result = .ok t) :
    (Chain.ofText Template.ofText (Text.trim expression)).eval s 1 >>= printed =
      s.evaluate expression := by
  rw [evaluate_eq] at ht ⊢
  have hallows : s.Allows 0 (Chain.ofText Template.ofText expression).nesting := by
    unfold Allows
    omega
  have hdeeper : s.Allows 1 (Chain.ofText Template.ofText expression).nesting := by
    unfold Allows
    omega
  have hsame := (Freely.chain ⟨rfl, rfl, rfl⟩ _ hallows hdeeper).same
  cases heval : ((Chain.ofText Template.ofText expression).eval s 0).result with
  | error e =>
    rw [Run.bind_of_error heval] at ht
    cases ht
  | ok v =>
    rw [Chain.ofText_of_split (Chain.split_trim_of_eval hblank heval), hsame]

/-- The argument text is the text of the expression in quotes. -/
theorem renderPieces_quotedTag (hbalanced : Balanced expression)
    (hdepth : (Chain.ofText Template.ofText expression).nesting + 1 ≤ s.maxDepth)
    (hblank : Text.trim expression = [] → expression = [])
    (ht : (s.evaluate expression).result = .ok t) :
    renderPieces s 1 (Template.ofText (quotedTag expression)) =
      (do
        let t ← s.evaluate expression
        pure (Text.inQuotes t)) := by
  have hnested := eval_nested hdepth hblank ht
  rw [Template.ofText_quotedTag hbalanced]
  simp only [renderPieces, render_tag, hnested]
  rw [settle_of_ok ht]
  simp [Piece.render, Text.inQuotes]

/-- The call gets the text of the expression, and the next call what it gives. -/
theorem evaluate_nestedCall (hf : isName f = true) (hg : isName g = true)
    (hF : s.resolve? f = some F) (hG : s.resolve? g = some G) (hbalanced : Balanced expression)
    (htransparent : Chain.Transparent expression)
    (hdepth : (Chain.ofText Template.ofText expression).nesting + 1 ≤ s.maxDepth)
    (hblank : Text.trim expression = [] → expression = [])
    (ht : (s.evaluate expression).result = .ok t) (hverbatim : Text.Verbatim t) :
    s.evaluate ((nestedCall f expression).source ++ .char '.' :: g) = (do
      let t ← s.evaluate expression
      let r ← invoke f F none [.text t]
      let w ← invoke g G (some r) []
      printed w) := by
  have hread : Arguments.read f (Text.inQuotes t) = .ok [.text t] :=
    Arguments.read_join Text.Blanks.nil (.cons (.verbatim hverbatim) .nil) f
  have hcall : (Call.applied f (Template.ofText (quotedTag expression))).run s 0 none = (do
      let t ← s.evaluate expression
      invoke f F none [.text t]) := by
    have hguard : s.guardDepth (0 + 1) = pure () := guardDepth_of_le (by omega)
    rw [Call.run, find_of_resolve hF, pure_bind, hguard, pure_bind,
      renderPieces_quotedTag hbalanced hdepth hblank ht, bind_assoc]
    refine Run.bind_congr_of_ok ht ?_
    rw [pure_bind, hread]
    exact pure_bind _ _
  rw [evaluate_eq, Chain.ofText_nestedCall hf hg htransparent]
  simp only [Chain.eval, Head.eval, runCalls, hcall, run_bare hG, bind_pure, bind_assoc]

end Scope

namespace Engine

variable {e : Engine} {bindings : List (Text × Value)} {lenient : Option Bool}
  {f g expression t : Text} {F G : Callable}

/-- A nested expression that the splitter passes over is evaluated by itself, in either mode. Its
text is the one argument of the call around it, and the result of that call is the one argument of
the next; these are all the calls. -/
theorem nested_expression_arrives (hf : isName f = true) (hg : isName g = true)
    (hF : e.resolve? f = some F) (hG : e.resolve? g = some G) (hbalanced : Balanced expression)
    (htransparent : Chain.Transparent expression)
    (hdepth : (Chain.ofText Template.ofText expression).nesting + 1 ≤ e.maxDepth)
    (hblank : Text.trim expression = [] → expression = [])
    (ht : (e.evaluate expression bindings lenient).result = .ok t) (hverbatim : Text.Verbatim t) :
    (e.evaluate ((nestedCall f expression).source ++ .char '.' :: g) bindings lenient).calls =
      (e.evaluate expression bindings lenient).calls ++ (F.label, [.text t]) ::
        (match F.run [.text t] with
          | .ok r => [(G.label, [r])]
          | .error _ => []) ∧
    e.evaluate ((nestedCall f expression).source ++ .char '.' :: g) bindings lenient = (do
      let t ← e.evaluate expression bindings lenient
      let r ← Scope.invoke f F none [.text t]
      let w ← Scope.invoke g G (some r) []
      Scope.printed w) := by
  have hwhole := Scope.evaluate_nestedCall (s := e.scope bindings lenient) hf hg hF hG hbalanced
    htransparent hdepth hblank ht hverbatim
  refine ⟨?_, hwhole⟩
  have hcalls := Run.calls_bind_of_ok ht fun t => do
    let r ← Scope.invoke f F none [.text t]
    let w ← Scope.invoke g G (some r) []
    Scope.printed w
  rw [(Scope.pipes_invoke f g F G [.text t]).calls] at hcalls
  exact (congrArg Run.calls hwhole).trans hcalls

/-- An engine with a function that lists its arguments and one that gives the first of them. -/
def nestingEngine : Engine := .ofFunctions [(['f'], listing), (['g'], leading)] 2

def dottedExpression : Text := "@g(\"a.b\")".text

/-- The dot in the expression stands outside the quotes that the splitter counts, and inside its
parentheses. -/
theorem dotted_expression_arrives :
    (isName ['f'] = true ∧ isName ['g'] = true ∧ nestingEngine.resolve? ['f'] = some listing ∧
      nestingEngine.resolve? ['g'] = some leading ∧ Balanced dottedExpression ∧
      Chain.Transparent dottedExpression ∧
      (Chain.ofText Template.ofText dottedExpression).nesting + 1 ≤ nestingEngine.maxDepth ∧
      (Text.trim dottedExpression = [] → dottedExpression = []) ∧
      (nestingEngine.evaluate dottedExpression [] none).result = .ok "a.b".text ∧
      Text.Verbatim "a.b".text) ∧
    (nestingEngine.evaluate ((nestedCall ['f'] dottedExpression).source ++ ".g".text) []
      none).calls = (nestingEngine.evaluate dottedExpression [] none).calls ++
        [(listing.label, [.text "a.b".text]), (leading.label, [.list [.text "a.b".text]])] := by
  have hf : isName ['f'] = true := by decide +kernel
  have hg : isName ['g'] = true := by decide +kernel
  have hF : nestingEngine.resolve? ['f'] = some listing := rfl
  have hG : nestingEngine.resolve? ['g'] = some leading := rfl
  have hbalanced : Balanced dottedExpression :=
    closes_zero.1 (.of_no_braces (by decide) (by decide))
  have htransparent : Chain.Transparent dottedExpression := by decide +kernel
  have hdepth : (Chain.ofText Template.ofText dottedExpression).nesting + 1 ≤
      nestingEngine.maxDepth := by decide +kernel
  have hblank : Text.trim dottedExpression = [] → dottedExpression = [] := by decide
  have ht : (nestingEngine.evaluate dottedExpression [] none).result = .ok "a.b".text := by
    decide +kernel
  have hverbatim : Text.Verbatim "a.b".text := by decide
  refine ⟨⟨hf, hg, hF, hG, hbalanced, htransparent, hdepth, hblank, ht, hverbatim⟩, ?_⟩
  exact (nested_expression_arrives hf hg hF hG hbalanced htransparent hdepth hblank ht
    hverbatim).1

def parenthesisExpression : Text := "@g(\")\")".text

/-- The expression is valid and evaluates, but the splitter counts its parenthesis, and the chain
around it falls apart: nothing is called. -/
theorem parenthesis_expression_lost :
    Balanced parenthesisExpression ∧ Chain.isValid parenthesisExpression = .ok true ∧
    (Chain.ofText Template.ofText parenthesisExpression).nesting + 1 ≤ nestingEngine.maxDepth ∧
    (nestingEngine.evaluate parenthesisExpression [] none).result = .ok [')'] ∧
    Text.Verbatim [')'] ∧ ¬ Chain.Transparent parenthesisExpression ∧
    (nestingEngine.evaluate ((nestedCall ['f'] parenthesisExpression).source ++ ".g".text) []
      none).calls = [] := by
  refine ⟨closes_zero.1 (.of_no_braces (by decide) (by decide)), by decide +kernel,
    by decide +kernel, by decide +kernel, by decide, by decide +kernel, ?_⟩
  rw [← List.isEmpty_iff]
  decide +kernel

end Engine

end Stencil
