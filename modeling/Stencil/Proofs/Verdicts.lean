import Stencil.Proofs.JoinedChains
import Stencil.Proofs.JoinedTexts
import Stencil.Validity

/-!
# Verdicts on expressions

The check of an expression reads its tokens and argument lists without evaluating anything. An
evaluation that returns has read them all, so what is found invalid fails wherever it stands, on
every engine. The other way round an expression that is found valid evaluates, as far as nothing
is nested in it and its functions return, if the check has read its argument lists. It reads none
with an opening brace, and one brace makes no tag; such lists must be readable besides.
-/

namespace Stencil

namespace Chain

/-! ## Calls of a chain -/

/-- The pieces of a chain that are calls, each with whether it is the first of the chain. -/
def called (t : Text) : List (Bool × Text) :=
  match split t with
  | [] => []
  | head :: rest =>
    (if head.head? = some Token.directMark then [(true, head)] else []) ++ rest.map (false, ·)

/-- The tokens of the calls in a chain, where they are tokens. -/
def tokens (t : Text) : List Token := (called t).filterMap (Token.read? ·.2)

theorem head?_of_mem_called {t : Text} {piece : Bool × Text} (h : piece ∈ called t)
    (hfirst : piece.1 = true) : piece.2.head? = some Token.directMark := by
  unfold called at h
  split at h
  · cases h
  · rcases List.mem_append.1 h with hhead | hrest
    · split at hhead
      · next hdirect =>
        cases List.mem_singleton.1 hhead
        exact hdirect
      · cases hhead
    · obtain ⟨source, -, rfl⟩ := List.mem_map.1 hrest
      cases hfirst

end Chain

namespace Scope

open Chain (called)

variable {s : Scope} {depth : Nat} {t : Text}

/-- Where a chain has a value, each of its calls has returned. -/
theorem exists_run_of_eval {v : Value}
    (h : ((Chain.ofText Template.ofText t).eval s depth).result = .ok v) {piece : Bool × Text}
    (hpiece : piece ∈ called t) :
    ∃ piped w,
      ((Call.ofSource Template.ofText piece.1 piece.2).run s depth piped).result = .ok w := by
  unfold Chain.ofText at h
  unfold called at hpiece
  cases hsplit : Chain.split t with
  | nil => simp [hsplit] at hpiece
  | cons head rest =>
    simp only [hsplit] at h hpiece
    rw [Chain.eval] at h
    obtain ⟨value, hhead, hrest⟩ := Run.exists_of_bind_ok h
    rcases List.mem_append.1 hpiece with hfirst | hlater
    · split at hfirst
      · next hdirect =>
        cases List.mem_singleton.1 hfirst
        rw [Head.ofSource, if_pos hdirect] at hhead
        exact ⟨none, value, hhead⟩
      · cases hfirst
    · obtain ⟨source, hsource, rfl⟩ := List.mem_map.1 hlater
      exact exists_run_of_runCalls hrest (List.mem_map_of_mem hsource)

/-- A chain has a value if its head is bound where it is a variable and its calls return. -/
theorem exists_eval
    (hhead : ∀ head ∈ (Chain.split t).head?, head.head? ≠ some Token.directMark →
      (s.valueOf? head).isSome)
    (hcalls : ∀ piece ∈ called t, ∀ piped, ∃ v,
      ((Call.ofSource Template.ofText piece.1 piece.2).run s depth piped).result = .ok v) :
    ∃ v, ((Chain.ofText Template.ofText t).eval s depth).result = .ok v := by
  unfold Chain.ofText
  unfold called at hcalls
  cases hsplit : Chain.split t with
  | nil => exact ⟨_, rfl⟩
  | cons head rest =>
    simp only [hsplit, List.forall_mem_append, List.forall_mem_map] at hcalls
    obtain ⟨value, hvalue⟩ :
        ∃ v, ((Head.ofSource Template.ofText head).eval s depth).result = .ok v := by
      by_cases hdirect : head.head? = some Token.directMark
      · rw [if_pos hdirect] at hcalls
        rw [Head.ofSource, if_pos hdirect]
        exact hcalls.1 _ (List.mem_singleton.2 rfl) none
      · have hbound := hhead head (by rw [hsplit]; rfl) hdirect
        obtain ⟨v, hv⟩ := Option.isSome_iff_exists.1 hbound
        rw [Head.ofSource, if_neg hdirect, Head.eval, hv]
        exact ⟨v, rfl⟩
    obtain ⟨w, hw⟩ := exists_runCalls (List.forall_mem_map.2 hcalls.2) value
    exact ⟨w, by rw [Chain.eval, Run.bind_of_ok hvalue, hw]⟩

/-- A call that returns has a token where it stands, and an argument list without tags that can be
read as it is. -/
theorem exists_token_of_run {first : Bool} {source : Text} {piped : Option Value} {v : Value}
    (h : ((Call.ofSource Template.ofText first source).run s depth piped).result = .ok v) :
    ∃ token, Token.read? source = some token ∧ (token.direct && !first) = false ∧
      ∀ args, token.args = some args → findTags args = [] →
        ∃ values, Arguments.read token.name args = .ok values := by
  unfold Call.ofSource at h
  cases htoken : Token.read? source with
  | none =>
    simp only [htoken] at h
    cases h
  | some token =>
    simp only [htoken] at h
    split at h
    · cases h
    · next hplace =>
      refine ⟨token, rfl, by simpa using hplace, fun args hargs hflat => ?_⟩
      simp only [hargs, Template.ofText_untagged hflat, Call.run, renderPieces_plain,
        pure_bind] at h
      obtain ⟨F, -, h⟩ := Run.exists_of_bind_ok h
      obtain ⟨-, -, h⟩ := Run.exists_of_bind_ok h
      obtain ⟨values, hvalues, -⟩ := Run.exists_of_bind_ok h
      exact ⟨values, hvalues⟩

/-- A call returns if its token stands where it may, its function returns, and its argument list
can be read and has no tags. -/
theorem exists_run {first : Bool} {source : Text} {token : Token} {F : Callable}
    (hdepth : (depth + 1 : Nat) ≤ s.maxDepth) (htoken : Token.read? source = some token)
    (hplace : (token.direct && !first) = false) (hF : s.resolve? token.name = some F)
    (hreturns : ∀ args, ∃ r, F.run args = .ok r)
    (hargs : ∀ args, token.args = some args → findTags args = [] ∧
      ∃ values, Arguments.read token.name args = .ok values) (piped : Option Value) :
    ∃ v, ((Call.ofSource Template.ofText first source).run s depth piped).result = .ok v := by
  have hinvoke : ∀ args, ∃ v, (invoke token.name F piped args).result = .ok v := by
    intro args
    obtain ⟨r, hr⟩ := hreturns (piped.elim args (Arguments.place · args))
    refine ⟨r, ?_⟩
    cases piped <;> exact result_invoke_of_ok hr token.name
  cases hlist : token.args with
  | none =>
    have hcall : Call.ofSource Template.ofText first source = .bare token.name := by
      simp only [Call.ofSource, htoken, hplace, hlist, Bool.false_eq_true, if_false]
    rw [hcall, run_bare hF]
    exact hinvoke []
  | some args =>
    have hcall : Call.ofSource Template.ofText first source =
        .applied token.name (Template.ofText args) := by
      simp only [Call.ofSource, htoken, hplace, hlist, Bool.false_eq_true, if_false]
    obtain ⟨hflat, values, hread⟩ := hargs args hlist
    have hrender : renderPieces s (depth + 1) (Template.ofText args) = pure args := by
      rw [Template.ofText_untagged hflat, renderPieces_plain]
    rw [hcall, run_applied hF hdepth hrender hread]
    exact hinvoke values

end Scope

/-! ## The check -/

namespace Chain

theorem argumentsValid_iff {token : Token} :
    argumentsValid token = .ok true ↔
      ∀ args, token.args = some args → .char '{' ∉ args →
        ∃ values, Arguments.read token.name args = .ok values := by
  unfold argumentsValid
  cases token.args with
  | none => simp
  | some args =>
    by_cases hbrace : .char '{' ∈ args
    · simp [hbrace]
    · cases hread : Arguments.read token.name args with
      | ok values => simp [hbrace, hread]
      | error e => cases e <;> simp [hbrace, hread]

/-- A call is valid if it is a token where it stands and its arguments are valid. -/
theorem tokenValid_iff {first : Bool} {source : Text}
    (hcalled : first = true → source.head? = some Token.directMark) :
    tokenValid first source = .ok true ↔
      ∃ token, Token.read? source = some token ∧ (token.direct && !first) = false ∧
        argumentsValid token = .ok true := by
  have hchecked : (first && source.head? != some Token.directMark) = false := by
    cases first with
    | false => rfl
    | true => simp [hcalled rfl]
  rw [tokenValid, hchecked, if_neg (by decide)]
  cases Token.read? source with
  | none => simp
  | some token =>
    simp only [Option.some.injEq, exists_eq_left']
    cases token.direct && !first <;> simp

theorem tokensValid_cons_iff {first : Bool} {source : Text} {rest : List Text} :
    tokensValid first (source :: rest) = .ok true ↔
      tokenValid first source = .ok true ∧ tokensValid false rest = .ok true := by
  rw [tokensValid]
  cases h : tokenValid first source with
  | error e => simp [bind, Except.bind]
  | ok valid => cases valid <;> simp [bind, Except.bind, pure, Except.pure]

theorem tokensValid_iff {sources : List Text} :
    tokensValid false sources = .ok true ↔
      ∀ source ∈ sources, tokenValid false source = .ok true := by
  induction sources with
  | nil => simp [tokensValid]
  | cons source rest ih => rw [tokensValid_cons_iff, ih, List.forall_mem_cons]

/-- A chain is valid if its calls are. -/
theorem isValid_iff {t : Text} :
    isValid t = .ok true ↔ ∀ piece ∈ called t, tokenValid piece.1 piece.2 = .ok true := by
  unfold isValid called
  cases split t with
  | nil => simp [tokensValid]
  | cons head rest =>
    simp only [tokensValid_cons_iff, tokensValid_iff, List.forall_mem_append, List.forall_mem_map]
    refine and_congr_left fun _ => ?_
    by_cases hdirect : head.head? = some Token.directMark
    · rw [if_pos hdirect, List.forall_mem_singleton]
    · simp [tokenValid, hdirect]

/-- A chain that has a value is valid. -/
theorem isValid_of_eval {s : Scope} {depth : Nat} {t : Text} {v : Value}
    (h : ((ofText Template.ofText t).eval s depth).result = .ok v) : isValid t = .ok true := by
  refine isValid_iff.2 fun piece hpiece => ?_
  obtain ⟨piped, w, hrun⟩ := Scope.exists_run_of_eval h hpiece
  obtain ⟨token, htoken, hplace, hread⟩ := Scope.exists_token_of_run hrun
  refine (tokenValid_iff (head?_of_mem_called hpiece)).2 ⟨token, htoken, hplace, ?_⟩
  exact argumentsValid_iff.2 fun args hargs hbrace =>
    hread args hargs (findTags_of_no_opening hbrace)

end Chain

/-! ## What is found invalid fails -/

namespace Scope

/-- An expression that is found invalid fails in every scope. -/
theorem evaluate_invalid {t : Text} (h : Chain.isValid t = .ok false) (s : Scope) :
    ∃ error, (s.evaluate t).result = .error error := by
  cases hresult : (s.evaluate t).result with
  | error e => exact ⟨e, rfl⟩
  | ok out =>
    rw [evaluate_eq] at hresult
    obtain ⟨v, hv, -⟩ := Run.exists_of_bind_ok hresult
    cases h.symm.trans (Chain.isValid_of_eval hv)

/-- The render of some of the segments of a template. -/
def renderSegments (s : Scope) (segs : List Segment) : Run Text :=
  renderPieces s 0 (segs.map (Piece.ofSegment Template.ofText))

section

variable {s : Scope} {template : Text} {front back : List Segment} {tag : Tag}

/-- A template is rendered up to a tag, then the tag, then the rest. -/
theorem render_around (hsegments : segments template = front ++ .tag tag :: back)
    (hplain : tag.escaped = false) (s : Scope) :
    s.render template = (do
      s.guardDepth 0
      let before ← s.renderSegments front
      let shown ← s.settle tag.source (s.evaluate tag.inner)
      let after ← s.renderSegments back
      pure (before ++ (shown ++ after))) := by
  have hpiece : Piece.ofSegment Template.ofText (.tag tag) =
      .tag tag.source (Chain.ofText Template.ofText tag.inner) := by
    rw [Piece.ofSegment, hplain, if_neg (by decide)]
  rw [render_eq, Template.ofText_eq, hsegments, List.map_append, List.map_cons,
    renderPieces_append, hpiece]
  simp only [renderSegments, renderPieces, render_tag, evaluate_eq, bind_assoc, pure_bind]

/-- A tag that fails ends a strict render. -/
theorem render_around_strictly (hsegments : segments template = front ++ .tag tag :: back)
    (hplain : tag.escaped = false) (hs : s.lenient = false) {error : Error}
    (herror : (s.evaluate tag.inner).result = .error error) :
    ∃ error, (s.render template).result = .error error := by
  cases hresult : (s.render template).result with
  | error e => exact ⟨e, rfl⟩
  | ok out =>
    rw [render_around hsegments hplain, settle, hs] at hresult
    obtain ⟨-, -, hresult⟩ := Run.exists_of_bind_ok hresult
    obtain ⟨before, -, hresult⟩ := Run.exists_of_bind_ok hresult
    obtain ⟨shown, hshown, -⟩ := Run.exists_of_bind_ok hresult
    cases herror.symm.trans hshown

/-- A tag that fails is empty in a lenient render. -/
theorem render_around_leniently (hsegments : segments template = front ++ .tag tag :: back)
    (hplain : tag.escaped = false) (hs : s.lenient = true) (hdepth : 0 ≤ s.maxDepth)
    {error : Error} (herror : (s.evaluate tag.inner).result = .error error) :
    ∃ before after, (s.renderSegments front).result = .ok before ∧
      (s.renderSegments back).result = .ok after ∧
      (s.render template).result = .ok (before ++ after) := by
  obtain ⟨before, hbefore⟩ : ∃ before, (s.renderSegments front).result = .ok before :=
    renderPieces_ok hs 0 _
  obtain ⟨after, hafter⟩ : ∃ after, (s.renderSegments back).result = .ok after :=
    renderPieces_ok hs 0 _
  refine ⟨before, after, hbefore, hafter, ?_⟩
  have hshown : (s.settle tag.source (s.evaluate tag.inner)).result = .ok [] := by
    rw [settle, if_pos hs, Run.recover_of_error herror]
  rw [render_around hsegments hplain, guardDepth_of_le (by simpa using hdepth), pure_bind,
    Run.bind_of_ok hbefore, Run.bind_of_ok hshown, Run.bind_of_ok hafter]
  rfl

end

end Scope

namespace Engine

/-- An expression that is found invalid fails on every engine in both modes. A tag of it in a
template ends a strict render, and a lenient render has nothing between what stands before the
tag and what stands behind it. -/
theorem invalid_expression_fails {t : Text} (h : Chain.isValid t = .ok false) (e : Engine)
    (bindings : List (Text × Value)) :
    (∀ lenient, ∃ error, (e.evaluate t bindings lenient).result = .error error) ∧
    ∀ (template : Text) (front back : List Segment) (tag : Tag),
      segments template = front ++ .tag tag :: back → tag.escaped = false → tag.inner = t →
      (∃ error, (e.render template bindings (some false)).result = .error error) ∧
      (0 ≤ e.maxDepth → ∃ before after,
        ((e.scope bindings (some true)).renderSegments front).result = .ok before ∧
        ((e.scope bindings (some true)).renderSegments back).result = .ok after ∧
        (e.render template bindings (some true)).result = .ok (before ++ after)) := by
  have hfails : ∀ lenient, ∃ error, (e.evaluate t bindings lenient).result = .error error :=
    fun lenient => Scope.evaluate_invalid h (e.scope bindings lenient)
  refine ⟨hfails, ?_⟩
  rintro template front back tag hsegments hplain rfl
  obtain ⟨strict, hstrict⟩ := hfails (some false)
  obtain ⟨lenient, hlenient⟩ := hfails (some true)
  exact ⟨Scope.render_around_strictly hsegments hplain rfl hstrict,
    fun hdepth => Scope.render_around_leniently hsegments hplain rfl hdepth hlenient⟩

/-- A name stands in the argument list where only literals may. -/
def nameCall : Text := "v.f(a)".text

theorem invalid_name_call_fails :
    Chain.isValid nameCall = .ok false ∧
    (∃ error, (gathering.evaluate nameCall [(['v'], .int 1)] (some true)).result =
      .error error) ∧
    (∃ error, (gathering.render (.char '<' :: Tag.source ⟨false, nameCall⟩ ++ [.char '>'])
      [(['v'], .int 1)] (some false)).result = .error error) ∧
    (gathering.render (.char '<' :: Tag.source ⟨false, nameCall⟩ ++ [.char '>'])
      [(['v'], .int 1)] (some true)).result = .ok ['<', '>'] := by
  have hinvalid : Chain.isValid nameCall = .ok false := by decide +kernel
  have hsegments : segments (.char '<' :: Tag.source ⟨false, nameCall⟩ ++ [.char '>']) =
      [.plain '<'] ++ .tag ⟨false, nameCall⟩ :: [.plain '>'] := by decide +kernel
  obtain ⟨hfails, htag⟩ := invalid_expression_fails hinvalid gathering [(['v'], .int 1)]
  obtain ⟨hstrict, hlenient⟩ := htag _ _ _ _ hsegments rfl (by decide +kernel)
  obtain ⟨before, after, hbefore, hafter, hrender⟩ := hlenient (by decide)
  refine ⟨hinvalid, hfails (some true), hstrict, ?_⟩
  cases hbefore
  cases hafter
  exact hrender

end Engine

/-! ## What is found valid evaluates -/

namespace Chain

/-- No tag stands in the argument list of a call. -/
def Flat (t : Text) : Prop := ∀ token ∈ tokens t, ∀ args ∈ token.args, findTags args = []

instance (t : Text) : Decidable (Flat t) := inferInstanceAs (Decidable (∀ _ ∈ _, _))

/-- The argument lists that the check leaves out, those with an opening brace, can be read. -/
def BracesRead (t : Text) : Prop :=
  ∀ token ∈ tokens t, ∀ args ∈ token.args, .char '{' ∈ args →
    ∃ values, Arguments.read token.name args = .ok values

instance (t : Text) : Decidable (BracesRead t) := inferInstanceAs (Decidable (∀ _ ∈ _, _))

/-- The head of a chain is a direct call, or a variable that is bound. -/
def HeadBound (t : Text) (bindings : List (Text × Value)) : Prop :=
  ∀ head ∈ (split t).head?, head.head? ≠ some Token.directMark → (bindings.lookup head).isSome

instance (t : Text) (bindings : List (Text × Value)) : Decidable (HeadBound t bindings) :=
  inferInstanceAs (Decidable (∀ _ ∈ _, _))

/-- A flat chain that has a value has read its argument lists as they stand. -/
theorem exists_read_of_eval {s : Scope} {depth : Nat} {t : Text} {v : Value} (hflat : Flat t)
    (h : ((ofText Template.ofText t).eval s depth).result = .ok v) {token : Token}
    (htoken : token ∈ tokens t) {args : Text} (hargs : args ∈ token.args) :
    ∃ values, Arguments.read token.name args = .ok values := by
  obtain ⟨piece, hpiece, hread⟩ := List.mem_filterMap.1 htoken
  obtain ⟨piped, w, hrun⟩ := Scope.exists_run_of_eval h hpiece
  obtain ⟨other, hother, -, hlists⟩ := Scope.exists_token_of_run hrun
  cases hread.symm.trans hother
  exact hlists args hargs (hflat token htoken args hargs)

end Chain

namespace Engine

/-- An engine has the functions of a chain, and they return whatever they are given. -/
def Serves (e : Engine) (t : Text) : Prop :=
  ∀ token ∈ Chain.tokens t, ∃ F, e.resolve? token.name = some F ∧ ∀ args, ∃ r, F.run args = .ok r

variable {e : Engine} {t : Text} {bindings : List (Text × Value)}

/-- The calls of a flat chain that is found valid return, whatever is passed to them. -/
theorem exists_run_of_isValid (hdepth : 1 ≤ e.maxDepth) (hflat : Chain.Flat t)
    (hserves : e.Serves t) (hvalid : Chain.isValid t = .ok true) (hbraces : Chain.BracesRead t)
    {piece : Bool × Text} (hpiece : piece ∈ Chain.called t) (lenient : Option Bool)
    (piped : Option Value) :
    ∃ v, ((Call.ofSource Template.ofText piece.1 piece.2).run (e.scope bindings lenient) 0
      piped).result = .ok v := by
  have htokenValid := Chain.isValid_iff.1 hvalid piece hpiece
  obtain ⟨token, htoken, hplace, hlists⟩ :=
    (Chain.tokenValid_iff (Chain.head?_of_mem_called hpiece)).1 htokenValid
  have hmem : token ∈ Chain.tokens t := List.mem_filterMap.2 ⟨piece, hpiece, htoken⟩
  obtain ⟨F, hF, hreturns⟩ := hserves token hmem
  refine Scope.exists_run hdepth htoken hplace hF hreturns (fun args hargs => ?_) piped
  refine ⟨hflat token hmem args hargs, ?_⟩
  -- The check has read the lists without a brace, and no others.
  by_cases hbrace : .char '{' ∈ args
  · exact hbraces token hmem args hargs hbrace
  · exact Chain.argumentsValid_iff.1 hlists args hargs hbrace

/-- An expression without nested tags, of which the functions return, has a value exactly if it is
found valid and its argument lists with opening braces can be read. It then evaluates to the text
of that value; nothing but a value without a text can stop it. -/
theorem valid_expression_evaluates (hdepth : 1 ≤ e.maxDepth) (hflat : Chain.Flat t)
    (hserves : e.Serves t) (hhead : Chain.HeadBound t bindings) (lenient : Option Bool) :
    (Chain.isValid t = .ok true ∧ Chain.BracesRead t) ↔
      ∃ v, (e.value t bindings lenient).result = .ok v ∧
        (e.evaluate t bindings lenient).result = v.output.mapError .fault := by
  constructor
  · rintro ⟨hvalid, hbraces⟩
    obtain ⟨v, hv⟩ : ∃ v, (e.value t bindings lenient).result = .ok v :=
      Scope.exists_eval hhead fun piece hpiece =>
        exists_run_of_isValid hdepth hflat hserves hvalid hbraces hpiece lenient
    refine ⟨v, hv, ?_⟩
    rw [evaluate_eq_value, Run.bind_of_ok hv]
    exact Scope.result_printed v
  · rintro ⟨v, hv, -⟩
    exact ⟨Chain.isValid_of_eval hv, fun token htoken args hargs _ =>
      Chain.exists_read_of_eval hflat hv htoken hargs⟩

theorem gathering_serves {t : Text} (h : ∀ token ∈ Chain.tokens t, token.name = [.char 'f']) :
    gathering.Serves t := by
  intro token htoken
  rw [h token htoken]
  exact ⟨.gather, rfl, fun args => ⟨.list args, rfl⟩⟩

/-- An opening brace in quotes, which is no tag. -/
def quotedBraceCall : Text := "v.f(\"\x7b\", 1)".text

theorem valid_quoted_brace_evaluates :
    (1 ≤ gathering.maxDepth ∧ Chain.Flat quotedBraceCall ∧ gathering.Serves quotedBraceCall ∧
      Chain.HeadBound quotedBraceCall [(['v'], .null)]) ∧
    (Chain.isValid quotedBraceCall = .ok true ∧ Chain.BracesRead quotedBraceCall) ∧
    ∃ v, (gathering.value quotedBraceCall [(['v'], .null)] none).result = .ok v ∧
      (gathering.evaluate quotedBraceCall [(['v'], .null)] none).result =
        v.output.mapError .fault := by
  have hflat : Chain.Flat quotedBraceCall := by decide +kernel
  have hserves : gathering.Serves quotedBraceCall := gathering_serves (by decide +kernel)
  have hhead : Chain.HeadBound quotedBraceCall [(['v'], .null)] := by decide +kernel
  have hvalid : Chain.isValid quotedBraceCall = .ok true := by decide +kernel
  have hbraces : Chain.BracesRead quotedBraceCall := by decide +kernel
  refine ⟨⟨by decide, hflat, hserves, hhead⟩, ⟨hvalid, hbraces⟩, ?_⟩
  exact (valid_expression_evaluates (by decide) hflat hserves hhead none).1 ⟨hvalid, hbraces⟩

/-- An opening brace alone, which is no tag and no literal. -/
def braceCall : Text := "v.f(\x7b)".text

/-- The call is found valid, since its argument list is not read for the brace in it. It fails when
it is made. -/
theorem valid_brace_call_fails :
    (1 ≤ gathering.maxDepth ∧ Chain.Flat braceCall ∧ gathering.Serves braceCall ∧
      Chain.HeadBound braceCall [(['v'], .null)]) ∧
    Chain.isValid braceCall = .ok true ∧
    ∀ lenient, (gathering.evaluate braceCall [(['v'], .null)] (some lenient)).result =
      .error (.badArguments ['f'] (some (.notLiteral ['{']))) := by
  have hserves : gathering.Serves braceCall := gathering_serves (by decide +kernel)
  exact ⟨⟨by decide, by decide +kernel, hserves, by decide +kernel⟩, by decide +kernel,
    by decide +kernel⟩

end Engine

end Stencil
