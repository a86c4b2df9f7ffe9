import Stencil.Proofs.ArgumentLists
import Stencil.Proofs.ChainTags
import Stencil.Proofs.EvaluationSteps

/-!
# Calls with literal arguments

A literal argument list in a tag reaches the function as it was printed. Four scanners
read the tag: for its braces, its dots, its name and its commas. Each passes over the
printed list, and the literals in it are read back.
-/

namespace Stencil

open FunctionTable (isName)

/-! ## Arguments with the piped value -/

/-- The values of a list whose first placeholder is the piped value; without a placeholder
the piped value stands in front. -/
def Argument.valuesWith (piped : Value) (args : List Argument) : List Value :=
  match args.idxOf? (.text ['$']) with
  | some k => (args.map value).set k piped
  | none => piped :: args.map value

theorem Argument.value_eq_placeholder {a : Argument} :
    a.value = .text ['$'] ↔ a = .text ['$'] := by
  cases a <;> simp [value]

theorem Argument.replaceFirst?_value (piped : Value) (a : Argument) (rest : List Value) :
    Arguments.replaceFirst? piped (a.value :: rest) =
      if a = .text ['$'] then some (piped :: rest)
      else (Arguments.replaceFirst? piped rest).map (a.value :: ·) := by
  split
  · next h =>
    subst h
    rfl
  · next h =>
    rw [Arguments.replaceFirst?]
    exact fun hvalue => h (value_eq_placeholder.1 hvalue)

theorem Argument.replaceFirst?_values (piped : Value) (args : List Argument) :
    Arguments.replaceFirst? piped (args.map value) =
      (args.idxOf? (.text ['$'])).map fun k => (args.map value).set k piped := by
  induction args with
  | nil => rfl
  | cons a rest ih =>
    rw [List.map_cons, replaceFirst?_value, List.idxOf?_cons]
    by_cases h : a = .text ['$']
    · simp [h]
    · simp [h, ih, Function.comp_def]

theorem Argument.place_values (piped : Value) (args : List Argument) :
    Arguments.place piped (args.map value) = valuesWith piped args := by
  rw [Arguments.place, replaceFirst?_values, valuesWith]
  cases args.idxOf? (.text ['$']) <;> rfl

/-! ## Runs of two calls -/

/-- The run calls `F` with the values and then `G` with the raw result of `F`, each once and
nothing else, and prints what `G` gives. -/
structure Run.Pipes (x : Run Text) (F G : Callable) (values : List Value) : Prop where
  calls : x.calls = (F.label, values) :: (match F.run values with
    | .ok r => [(G.label, [r])]
    | .error _ => [])
  prints : ∀ r w t, F.run values = .ok r → G.run [r] = .ok w → w.output = .ok t → x.result = .ok t

namespace Scope

theorem pipes_settle {x : Run Text} {F G : Callable} {values : List Value}
    (h : x.Pipes F G values) (s : Scope) (source : Text) :
    (s.settle source x).Pipes F G values where
  calls := by rw [calls_settle, h.calls]
  prints := fun r w t hF hG ht => by
    have hresult := h.prints r w t hF hG ht
    rw [settle_of_ok hresult, hresult]

/-- The second call is made with the raw result of the first, if there is one. -/
theorem pipes_invoke (f g : Text) (F G : Callable) (values : List Value) :
    (do
      let r ← invoke f F none values
      let w ← invoke g G (some r) []
      printed w : Run Text).Pipes F G values := by
  have hsecond : ∀ r, invoke g G (some r) [] = invoke g G none [r] := fun _ => rfl
  simp only [hsecond]
  cases hF : F.run values with
  | error e =>
    obtain ⟨e', he'⟩ := result_invoke_of_error hF f
    refine ⟨?_, fun r w t hr => ?_⟩
    · rw [Run.calls_bind_of_error he', calls_invoke, hF]
    · cases hF.symm.trans hr
  | ok r =>
    have hfirst := result_invoke_of_ok hF f
    refine ⟨?_, fun r' w t hr hG ht => ?_⟩
    · rw [Run.calls_bind_of_ok hfirst, calls_invoke, hF, List.singleton_append]
      congr 1
      exact calls_invoke_printed g G [r]
    · cases hF.symm.trans hr
      rw [Run.bind_of_ok hfirst, Run.bind_of_ok (result_invoke_of_ok hG g), printed, ht]
      rfl

/-- A call with printed arguments is made with their values. -/
theorem run_printed {s : Scope} {p : Printer} {f : Text} {F : Callable} (hF : s.resolve? f = some F)
    {depth : Nat} (hdepth : (depth + 1 : Nat) ≤ s.maxDepth) (piped : Option Value)
    (args : List Argument) :
    (Call.applied f (Template.ofText (p.arguments args))).run s depth piped =
      invoke f F piped (args.map Argument.value) := by
  have hopening : .char '{' ∉ p.arguments args := fun h =>
    absurd (Printer.isPlain_of_mem_arguments h) (by decide)
  have hrender : renderPieces s (depth + 1) (Template.ofText (p.arguments args)) =
      pure (p.arguments args) := by
    rw [Template.ofText_plain hopening, renderPieces_plain]
  exact run_applied hF hdepth hrender (Arguments.read_arguments f args) piped

end Scope

/-! ## Calls in a tag -/

/-- The token of a call with printed arguments. -/
def Printer.token (p : Printer) (direct : Bool) (f : Text) (args : List Argument) : Token :=
  ⟨f, some (p.arguments args), direct⟩

theorem Printer.isPiece_token {f : Text} (hf : isName f = true) (p : Printer) (direct : Bool)
    (args : List Argument) : IsPiece (p.token direct f args).source := by
  refine Token.isPiece_source hf ?_
  rintro _ ⟨⟩
  exact ⟨contained_arguments 1 args,
    fun h => absurd (isPlain_of_mem_arguments h) (by decide),
    fun h => absurd (isPlain_of_mem_arguments h) (by decide)⟩

theorem Call.ofSource_token {f : Text} (hf : isName f = true) (p : Printer) {direct first : Bool}
    (hdirect : direct = true → first = true) (args : List Argument) :
    Call.ofSource Template.ofText first (p.token direct f args).source =
      .applied f (Template.ofText (p.arguments args)) :=
  Call.ofSource_source (t := p.token direct f args) hf hdirect

section

variable {s : Scope} {f g v : Text} {F G : Callable} {value : Value}

theorem Scope.render_direct (hdepth : 1 ≤ s.maxDepth) (hf : isName f = true)
    (hg : isName g = true) (hF : s.resolve? f = some F) (hG : s.resolve? g = some G)
    (p : Printer) (args : List Argument) :
    (s.render (chainTag [(p.token true f args).source, g]).source).Pipes F G
      (args.map Argument.value) := by
  have hpieces : ∀ t ∈ [(p.token true f args).source, g], IsPiece t := by
    simp [p.isPiece_token hf, isPiece_of_isName hg]
  have hhead : Head.ofSource Template.ofText (p.token true f args).source =
      .direct (.applied f (Template.ofText (p.arguments args))) := by
    rw [Head.ofSource_direct rfl, Call.ofSource_token hf p fun _ => rfl]
  have heval : (Chain.from (.direct (.applied f (Template.ofText (p.arguments args))))
      [.bare g]).eval s 0 = (do
        let r ← invoke f F none (args.map Argument.value)
        invoke g G (some r) []) := by
    simp only [Chain.eval, Head.eval, runCalls, run_printed hF hdepth, run_bare hG, bind_pure]
  rw [render_chain (by omega) (Template.ofText_chainTag hpieces), hhead, List.map_singleton,
    Call.ofSource_name hg, heval, bind_assoc]
  exact pipes_settle (pipes_invoke f g F G _) s _

theorem Scope.render_piped (hdepth : 1 ≤ s.maxDepth) (hf : isName f = true)
    (hg : isName g = true) (hv : isName v = true) (hF : s.resolve? f = some F)
    (hG : s.resolve? g = some G) (hvalue : s.valueOf? v = some value) (p : Printer)
    (args : List Argument) :
    (s.render (chainTag [v, (p.token false f args).source, g]).source).Pipes F G
      (Argument.valuesWith value args) := by
  have hpieces : ∀ t ∈ [v, (p.token false f args).source, g], IsPiece t := by
    simp [p.isPiece_token hf, isPiece_of_isName hg, isPiece_of_isName hv]
  have hcall : Call.ofSource Template.ofText false (p.token false f args).source =
      .applied f (Template.ofText (p.arguments args)) :=
    Call.ofSource_token hf p (fun h => h) args
  have hplaced : invoke f F (some value) (args.map Argument.value) =
      invoke f F none (Argument.valuesWith value args) := by
    rw [← Argument.place_values]
    rfl
  have heval : (Chain.from (.variable v)
      [.applied f (Template.ofText (p.arguments args)), .bare g]).eval s 0 = (do
        let r ← invoke f F none (Argument.valuesWith value args)
        invoke g G (some r) []) := by
    simp only [Chain.eval, Head.eval, hvalue, pure_bind, runCalls, run_printed hF hdepth,
      run_bare hG, bind_pure, hplaced]
  rw [render_chain (by omega) (Template.ofText_chainTag hpieces), Head.ofSource_name hv,
    List.map_cons, List.map_singleton, hcall, Call.ofSource_name hg, heval, bind_assoc]
  exact pipes_settle (pipes_invoke f g F G _) s _

end

namespace Engine

variable {e : Engine} {f g : Text} {F G : Callable}

/-- Every list of literal arguments arrives as it was printed. A direct call gets exactly the
list; a piped call gets the list with the piped value at the first placeholder, or in front. -/
theorem printed_arguments_arrive (hdepth : 1 ≤ e.maxDepth) (hf : isName f = true)
    (hg : isName g = true) (hF : e.resolve? f = some F) (hG : e.resolve? g = some G)
    (p : Printer) (args : List Argument) (bindings : List (Text × Value))
    (lenient : Option Bool) :
    (e.render (chainTag [(p.token true f args).source, g]).source bindings lenient).Pipes F G
      (args.map Argument.value) ∧
    ∀ v value, isName v = true → bindings.lookup v = some value →
      (e.render (chainTag [v, (p.token false f args).source, g]).source bindings lenient).Pipes F G
        (Argument.valuesWith value args) := by
  have hscope : 1 ≤ (e.scope bindings lenient).maxDepth := hdepth
  refine ⟨Scope.render_direct hscope hf hg hF hG p args, fun v value hv hvalue => ?_⟩
  exact Scope.render_piped hscope hf hg hv hF hG hvalue p args

def delimiters : List Argument :=
  [.text "a.\",('\x7b".text, .text ['$'], .int (-5) (by decide), .null, .text ['$']]

def listing : Callable := ⟨.builtin ['f'], fun args => .ok (.list args)⟩

def leading : Callable := ⟨.builtin ['g'], fun args => .ok (args.headD .null)⟩

def listingEngine : Engine := .ofFunctions [(['f'], listing), (['g'], leading)] 1

/-- Two placeholders, of which the first takes the piped value, among delimiters. -/
theorem delimiters_arrive :
    (1 ≤ listingEngine.maxDepth ∧ isName ['f'] = true ∧ isName ['g'] = true ∧
      listingEngine.resolve? ['f'] = some listing ∧ listingEngine.resolve? ['g'] = some leading ∧
      isName [.char 'v'] = true ∧ [("v".text, Value.int 7)].lookup "v".text = some (.int 7)) ∧
    (listingEngine.render (chainTag [['v'], (Printer.shortest.token false ['f'] delimiters).source,
      ['g']]).source [(['v'], .int 7)] none).Pipes listing leading
        [.text "a.\",('\x7b".text, .int 7, .int (-5), .null, .text ['$']] := by
  have hdepth : 1 ≤ listingEngine.maxDepth := by decide
  have hf : listingEngine.resolve? ['f'] = some listing := rfl
  have hg : listingEngine.resolve? ['g'] = some leading := rfl
  have hv : [("v".text, Value.int 7)].lookup "v".text = some (.int 7) := rfl
  obtain ⟨-, hpiped⟩ := printed_arguments_arrive hdepth (by decide) (by decide) hf hg
    Printer.shortest delimiters [(['v'], .int 7)] none
  exact ⟨⟨hdepth, by decide, by decide, hf, hg, by decide, hv⟩, hpiped ['v'] (.int 7) (by decide) hv⟩

end Engine

end Stencil
