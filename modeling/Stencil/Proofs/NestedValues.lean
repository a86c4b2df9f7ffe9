import Stencil.Proofs.ArgumentLists
import Stencil.Proofs.ChainTags
import Stencil.Proofs.EvaluationSteps
import Stencil.Settings

/-!
# Nested values

A call whose arguments are variables in quotes gets the texts of the variables. The chain is
cut as it is written, the argument list as it stands with the texts put in; the quote marks
hold each text together, whatever else it holds.
-/

namespace Stencil

open FunctionTable (isName isName_iff)

/-! ## The call as it is written -/

/-- The tag of a variable, in quotes. -/
def quotedTag (name : Text) : Text := Text.inQuotes (Tag.source ⟨false, name⟩)

/-- A direct call with variables for its arguments, each in quotes. -/
def quotedCall (f : Text) (names : List Text) : Token :=
  ⟨f, some (Text.join [',', ' '] (names.map quotedTag)), true⟩

example : (quotedCall ['f'] [['x'], ['y']]).source = "@f(\"\x7bx\x7d\", \"\x7by\x7d\")".text := by
  decide +kernel

theorem contained_quotedTag {name : Text} (h : isName name = true) (depth : Int) :
    Chain.Contained depth (quotedTag name) := by
  have hchars := (isName_iff.1 h).2
  have hmark : .char '"' ∉ Tag.source ⟨false, name⟩ := by
    intro hmem
    have hname : .char '"' ∈ name := by simpa [Tag.source] using hmem
    exact absurd (hchars '"' hname) (by decide)
  have hend : (Tag.source ⟨false, name⟩).getLast? ≠ some (.char '\\') := by
    rw [Tag.getLast?_source]
    decide
  exact .quoted (by decide) hmark hend

theorem contained_quotedArguments {names : List Text} (h : ∀ name ∈ names, isName name = true)
    (depth : Int) : Chain.Contained depth (Text.join [',', ' '] (names.map quotedTag)) := by
  have hseparator : Chain.Contained depth [',', ' '] := by
    refine .of_neutral ?_ (by decide) (by decide)
    simp [Chain.Position.isNeutral, Chain.Position.isMark]
  refine .join hseparator fun t ht => ?_
  obtain ⟨name, hname, rfl⟩ := List.mem_map.1 ht
  exact contained_quotedTag (h name hname) depth

/-! ## The argument text as it is rendered -/

namespace Scope

/-- The text is rendered into another one, and nothing is called. -/
def Renders (s : Scope) (depth : Nat) (t out : Text) : Prop :=
  renderPieces s depth (Template.ofText t) = pure out

/-- The variable has a value that prints as the text. -/
def Shows (s : Scope) (name text : Text) : Prop :=
  ∃ v, s.valueOf? name = some v ∧ v.output = .ok text

namespace Renders

variable {s : Scope} {depth : Nat} {t out name text : Text}

theorem nil : s.Renders depth [] [] := by
  rw [Renders, Template.ofText_eq, segments_eq]
  rfl

theorem cons {c : CodePoint} (hopening : c ≠ '{') (hmark : c ≠ '!') (h : s.Renders depth t out) :
    s.Renders depth (c :: t) (c :: out) := by
  rw [Renders, Template.ofText_cons hopening hmark, renderPieces, h]
  rfl

/-- The tag of a variable is rendered into the text of its value, in either mode. -/
theorem variableTag (hname : isName name = true) (hshows : s.Shows name text)
    (h : s.Renders depth t out) :
    s.Renders depth (Tag.source ⟨false, name⟩ ++ t) (text ++ out) := by
  obtain ⟨v, hvalue, houtput⟩ := hshows
  have hprinted : (Chain.from (.variable name) []).eval s depth >>= printed = pure text := by
    simp only [Chain.eval, Head.eval, hvalue, runCalls, pure_bind, printed, houtput]
  have hrender : (Piece.tag (Tag.source ⟨false, name⟩) (.from (.variable name) [])).render s depth =
      pure text := by
    rw [render_tag, hprinted]
    exact settle_of_ok rfl s _
  rw [Renders, Template.ofText_variable hname, renderPieces, hrender, h]
  rfl

theorem quotedTag (hname : isName name = true) (hshows : s.Shows name text)
    (h : s.Renders depth t out) :
    s.Renders depth (quotedTag name ++ t) (Text.inQuotes text ++ out) := by
  have hclosing : s.Renders depth ('"' :: t) ('"' :: out) := h.cons (by decide) (by decide)
  have hwhole := (Renders.variableTag hname hshows hclosing).cons (c := '"') (by decide) (by decide)
  simpa [Stencil.quotedTag, Text.inQuotes] using hwhole

/-- The variables in a list are rendered one by one. -/
theorem quotedArguments {names texts : List Text} (hnames : ∀ name ∈ names, isName name = true)
    (hshows : List.Forall₂ s.Shows names texts) :
    s.Renders depth (Text.join [',', ' '] (names.map Stencil.quotedTag))
      (Text.join [',', ' '] (texts.map Text.inQuotes)) := by
  induction hshows with
  | nil => exact .nil
  | @cons name text names texts hshow hrest ih =>
    have hname : isName name = true := hnames name (by simp)
    have hlater := ih fun other hother => hnames other (List.mem_cons_of_mem name hother)
    cases hrest with
    | nil =>
      have hlast : s.Renders depth (Stencil.quotedTag name ++ []) (Text.inQuotes text ++ []) :=
        Renders.nil.quotedTag hname hshow
      rwa [List.append_nil, List.append_nil] at hlast
    | cons hnext hmore =>
      have hcomma := (hlater.cons (c := ' ') (by decide) (by decide)).cons (c := ',')
        (by decide) (by decide)
      have hwhole := hcomma.quotedTag hname hshow
      simpa [Text.join] using hwhole

end Renders

variable {s : Scope} {f : Text} {F : Callable} {names texts : List Text}

/-- The call is made with the texts of the variables. -/
theorem evaluate_quotedCall (hdepth : 1 ≤ s.maxDepth) (hf : isName f = true)
    (hF : s.resolve? f = some F) (hnames : ∀ name ∈ names, isName name = true)
    (hshows : List.Forall₂ s.Shows names texts) (hverbatim : ∀ t ∈ texts, Text.Verbatim t) :
    s.evaluate (quotedCall f names).source = (do
      let r ← invoke f F none (texts.map .text)
      printed r) := by
  have hrenders : s.Renders 1 (Text.join [',', ' '] (names.map quotedTag))
      (Text.join [',', ' '] (texts.map Text.inQuotes)) := .quotedArguments hnames hshows
  have hitems : List.Forall₂ Arguments.Item (texts.map Text.inQuotes) (texts.map .text) := by
    rw [List.forall₂_map_left_iff, List.forall₂_map_right_iff]
    exact List.forall₂_same.2 fun t ht => .verbatim (hverbatim t ht)
  have hgap : Text.Blanks [' '] := by decide
  have hread := Arguments.read_join hgap hitems f
  have hchain := Chain.ofText_direct (t := quotedCall f names) hf rfl rfl
    (contained_quotedArguments hnames 1) Template.ofText
  have hnested : ((0 + 1 : Nat) : Int) ≤ s.maxDepth := hdepth
  have hrun := run_applied hF hnested hrenders hread none
  rw [evaluate_eq, hchain]
  simp only [Chain.eval, Head.eval, runCalls, bind_pure]
  rw [← hrun]
  rfl

end Scope

namespace Engine

variable {e : Engine} {bindings : List (Text × Value)} {f : Text} {F : Callable}
  {names texts : List Text}

/-- Values that stand in quotes arrive as their texts, in either mode. The function is called
once, with the texts as they are, and its result is printed. So the library's replacement puts
the second text for the first one in the third. -/
theorem quoted_values_arrive (hdepth : 1 ≤ e.maxDepth) (hf : isName f = true)
    (hF : e.resolve? f = some F) (hnames : ∀ name ∈ names, isName name = true)
    (hvalues : List.Forall₂
      (fun name t => ∃ v, bindings.lookup name = some v ∧ v.output = .ok t) names texts)
    (hverbatim : ∀ t ∈ texts, Text.Verbatim t) (lenient : Option Bool) :
    (e.evaluate (quotedCall f names).source bindings lenient).calls =
      [(F.label, texts.map .text)] ∧
    e.evaluate (quotedCall f names).source bindings lenient = (do
      let r ← Scope.invoke f F none (texts.map .text)
      Scope.printed r) ∧
    ∀ label old new text, F = Library.callable label Library.replaceIn →
      texts = [old, new, text] →
      (e.evaluate (quotedCall f names).source bindings lenient).result =
        .ok (Text.replace old new text) := by
  have hwhole := Scope.evaluate_quotedCall (s := e.scope bindings lenient) hdepth hf hF hnames
    hvalues hverbatim
  rw [evaluate, hwhole]
  refine ⟨Scope.calls_invoke_printed f F _, rfl, ?_⟩
  rintro label old new text rfl rfl
  have hrun : (Library.callable label Library.replaceIn).run
      [.text old, .text new, .text text] = .ok (.text (Text.replace old new text)) := rfl
  rw [List.map_cons, List.map_cons, List.map_singleton,
    Run.bind_of_ok (Scope.result_invoke_of_ok hrun f)]
  rfl

/-- A new engine on a machine with room for everything. -/
def freshEngine : Engine := create .standard .ideal none none none

def markedNames : List Text := ["old", "new", "text"].map String.text

def markedTexts : List Text := ["\x7bb\x7d", "'$', ", " a.\x7bb\x7d(\x7bb\x7d "].map String.text

def markedBindings : List (Text × Value) := markedNames.zip (markedTexts.map .text)

/-- Texts with every character that cuts, closes or opens something where the call is written. -/
theorem marked_texts_arrive :
    (1 ≤ freshEngine.maxDepth ∧ isName "str_replace".text = true ∧
      freshEngine.resolve? "str_replace".text =
        some (Library.callable (.library "str_replace".text) Library.replaceIn) ∧
      (∀ name ∈ markedNames, isName name = true) ∧
      List.Forall₂ (fun name t => ∃ v, markedBindings.lookup name = some v ∧ v.output = .ok t)
        markedNames markedTexts ∧
      ∀ t ∈ markedTexts, Text.Verbatim t) ∧
    (freshEngine.evaluate (quotedCall "str_replace".text markedNames).source markedBindings
      (some false)).result = .ok " a.'$', ('$',  ".text := by
  have hdepth : 1 ≤ freshEngine.maxDepth := by decide
  have hf : isName "str_replace".text = true := by decide +kernel
  have hF : freshEngine.resolve? "str_replace".text =
      some (Library.callable (.library "str_replace".text) Library.replaceIn) := rfl
  have hnames : ∀ name ∈ markedNames, isName name = true := by decide +kernel
  have hvalues : List.Forall₂
      (fun name t => ∃ v, markedBindings.lookup name = some v ∧ v.output = .ok t)
      markedNames markedTexts :=
    .cons ⟨_, rfl, rfl⟩ (.cons ⟨_, rfl, rfl⟩ (.cons ⟨_, rfl, rfl⟩ .nil))
  have hverbatim : ∀ t ∈ markedTexts, Text.Verbatim t := by decide +kernel
  obtain ⟨-, -, hreplaced⟩ :=
    quoted_values_arrive hdepth hf hF hnames hvalues hverbatim (some false)
  refine ⟨⟨hdepth, hf, hF, hnames, hvalues, hverbatim⟩, ?_⟩
  rw [hreplaced _ _ _ _ rfl rfl]
  rfl

/-- The first half of a pair of surrogates. -/
def loneSurrogate : Text := [.surrogate 0x3D]

/-- The length of a text, asked for through a variable between quotes. -/
def quotedLength (name text : Text) : Run Text :=
  freshEngine.evaluate (quotedCall "strlen".text [name]).source [(name, .text text)] (some false)

/-- Neither value has a character that means something between quotes. But a text with a surrogate
is no source of a literal, so nothing is called; and a tag without a name is the empty chain, also
where a variable has the empty name. -/
theorem quoted_values_lost :
    (1 ≤ freshEngine.maxDepth ∧ isName "strlen".text = true ∧
      freshEngine.resolve? "strlen".text =
        some (Library.callable (.library "strlen".text) Library.textLength)) ∧
    (isName "x".text = true ∧ (Value.text loneSurrogate).output = .ok loneSurrogate ∧
      (∀ c ∈ "\"\\\n\r\x00".text, c ∉ loneSurrogate) ∧
      (quotedLength "x".text loneSurrogate).calls = [] ∧
      (quotedLength "x".text loneSurrogate).result = .error (.badArguments "strlen".text
        (some (.notLiteral (Text.inQuotes loneSurrogate))))) ∧
    (Text.Verbatim "a".text ∧ (Value.text "a".text).output = .ok "a".text ∧
      (quotedLength [] "a".text).calls = [(.library "strlen".text, [.text []])] ∧
      (quotedLength [] "a".text).result = .ok "0".text) := by
  refine ⟨⟨by decide, by decide +kernel, rfl⟩,
    ⟨by decide +kernel, rfl, by decide, ?_, by decide +kernel⟩,
    ⟨by decide, rfl, rfl, by decide +kernel⟩⟩
  rw [← List.isEmpty_iff]
  decide +kernel

end Engine

end Stencil
