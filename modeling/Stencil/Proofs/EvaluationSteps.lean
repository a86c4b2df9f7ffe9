import Stencil.Proofs.RelatedScopes

/-!
# Steps of an evaluation

What each step of an evaluation gives when nothing stands in its way: the depth is
allowed, the function is there, the characters are plain, the function returns. Where one
of these is not so the step fails, with an error that says which. From the trace of a step
one reads the calls it made.
-/

namespace Stencil

/-- The values of a call, the piped one in its place among the others. -/
def Arguments.given (piped : Option Value) (values : List Value) : List Value :=
  match piped with
  | some v => place v values
  | none => values

/-- An error of a function as it leaves a call by the name. -/
def Error.under (name : Text) : Error → Error
  | fault cause => invocation name cause
  | textless instead => instead
  | error => error

namespace Scope

variable {s : Scope}

/-! ## Results and calls -/

theorem calls_settle (source : Text) (x : Run Text) :
    (s.settle source x).calls = x.calls := by
  unfold settle
  split
  · exact Run.calls_recover x source []
  · rfl

theorem settle_of_ok {x : Run Text} {t : Text} (h : x.result = .ok t) (s : Scope)
    (source : Text) : s.settle source x = x := by
  unfold settle
  rw [Run.recover_of_ok h, ite_self]

/-- The source of a tag is recorded, and changes nothing else. -/
theorem result_settle (source other : Text) (x : Run Text) :
    (s.settle source x).result = (s.settle other x).result := by
  unfold settle
  split
  · cases h : x.result with
    | ok t => rw [Run.recover_of_ok h, Run.recover_of_ok h]
    | error e => rw [Run.recover_of_error h, Run.recover_of_error h]
  · rfl

theorem calls_printed (v : Value) : (printed v).calls = [] := by
  unfold printed
  split <;> rfl

theorem result_printed (v : Value) : (printed v).result = v.output.mapError .fault := by
  unfold printed
  cases v.output <;> rfl

theorem calls_invoke (name : Text) (F : Callable) (args : List Value) :
    (invoke name F none args).calls = [(F.label, args)] := rfl

theorem calls_invoke_given (name : Text) (F : Callable) (piped : Option Value)
    (values : List Value) :
    (invoke name F piped values).calls = [(F.label, Arguments.given piped values)] := rfl

theorem result_invoke_given (name : Text) (F : Callable) (piped : Option Value)
    (values : List Value) : (invoke name F piped values).result =
      underName name (F.run (Arguments.given piped values)) := rfl

theorem result_invoke_of_ok {F : Callable} {args : List Value} {r : Value}
    (h : F.run args = .ok r) (name : Text) : (invoke name F none args).result = .ok r := by
  change underName name (F.run args) = .ok r
  rw [h]
  rfl

theorem result_invoke_of_error {F : Callable} {args : List Value} {e : Error}
    (h : F.run args = .error e) (name : Text) :
    ∃ e', (invoke name F none args).result = .error e' := by
  change ∃ e', underName name (F.run args) = .error e'
  rw [h]
  cases e <;> exact ⟨_, rfl⟩

/-- Printing what a function gives calls nothing more. -/
theorem calls_invoke_printed (name : Text) (F : Callable) (args : List Value) :
    (do
      let r ← invoke name F none args
      printed r : Run Text).calls = [(F.label, args)] := by
  cases h : (invoke name F none args).result with
  | error e => rw [Run.calls_bind_of_error h, calls_invoke]
  | ok r => rw [Run.calls_bind_of_ok h, calls_invoke, calls_printed, List.append_nil]

/-! ## Steps that go through -/

theorem guardDepth_of_le {depth : Nat} (h : (depth : Int) ≤ s.maxDepth) :
    s.guardDepth depth = pure () :=
  if_neg (by omega)

theorem resolve_of_find {name : Text} {f : Callable} (h : (s.find name).result = .ok f) :
    s.resolve? name = some f := by
  unfold find at h
  split at h
  · next hname =>
    cases h
    exact hname
  · cases h

theorem find_of_resolve {name : Text} {F : Callable} (h : s.resolve? name = some F) :
    s.find name = pure F := by
  rw [find, h]

theorem renderPieces_plain (depth : Nat) (t : Text) :
    renderPieces s depth (t.map .plain) = pure t := by
  induction t with
  | nil => rfl
  | cons c t ih =>
    rw [List.map_cons, renderPieces, ih, Piece.render, pure_bind, pure_bind, List.singleton_append]

theorem render_chain {t source : Text} {chain : Chain} (hdepth : 0 ≤ s.maxDepth)
    (htree : Template.ofText t = [.tag source chain]) :
    s.render t = s.settle source (chain.eval s 0 >>= printed) := by
  rw [render_eq, htree, guardDepth_of_le (by simpa using hdepth), pure_bind, renderPieces,
    render_tag]
  simp [renderPieces]

/-- Below depth zero nothing is rendered. -/
theorem render_of_neg (h : s.maxDepth < 0) (t : Text) :
    s.render t = .fail (.nestingTooDeep s.maxDepth) := by
  have hguard : s.guardDepth 0 = .fail (.nestingTooDeep s.maxDepth) := if_pos h
  rw [render_eq, hguard]
  rfl

/-- Two tags with one chain are rendered alike. -/
theorem render_same_chain {t t' source source' : Text} {chain : Chain}
    (h : Template.ofText t = [.tag source chain]) (h' : Template.ofText t' = [.tag source' chain])
    (s : Scope) :
    (s.render t).result = (s.render t').result ∧ (s.render t).calls = (s.render t').calls := by
  by_cases hdepth : 0 ≤ s.maxDepth
  · rw [render_chain hdepth h, render_chain hdepth h']
    exact ⟨result_settle source source' _, by rw [calls_settle, calls_settle]⟩
  · rw [render_of_neg (by omega), render_of_neg (by omega)]
    exact ⟨rfl, rfl⟩

/-- A call is made with the values that its rendered argument text is read as. -/
theorem run_applied {f : Text} {F : Callable} (hF : s.resolve? f = some F) {depth : Nat}
    (hdepth : (depth + 1 : Nat) ≤ s.maxDepth) {args : List Piece} {t : Text} {values : List Value}
    (hargs : renderPieces s (depth + 1) args = pure t)
    (hread : Arguments.read f t = .ok values) (piped : Option Value) :
    (Call.applied f args).run s depth piped = invoke f F piped values := by
  rw [Call.run, find_of_resolve hF, pure_bind, guardDepth_of_le hdepth, pure_bind, hargs,
    pure_bind, hread]
  exact pure_bind _ _

theorem run_bare {f : Text} {F : Callable} (hF : s.resolve? f = some F) (depth : Nat)
    (piped : Option Value) : (Call.bare f).run s depth piped = invoke f F piped [] := by
  rw [Call.run, find_of_resolve hF, pure_bind]

/-! ## Steps that fail -/

theorem guardDepth_error_iff {depth : Nat} {error : Error} :
    (s.guardDepth depth).result = .error error ↔
      s.maxDepth < depth ∧ error = .nestingTooDeep s.maxDepth := by
  unfold guardDepth
  split
  · next h =>
    simp only [Run.fail, Except.error.injEq, h, true_and]
    exact eq_comm
  · next h => simp [h, pure, Run.pure]

theorem find_error_iff {name : Text} {error : Error} :
    (s.find name).result = .error error ↔
      s.resolve? name = none ∧ error = .functionNotFound name := by
  unfold find
  split
  · next f hf => simp [hf, pure, Run.pure]
  · next hnone =>
    simp only [Run.fail, Except.error.injEq, hnone, true_and]
    exact eq_comm

theorem find_ok_iff {name : Text} {f : Callable} :
    (s.find name).result = .ok f ↔ s.resolve? name = some f := by
  constructor
  · exact resolve_of_find
  · intro h
    rw [find_of_resolve h]
    rfl

theorem underName_error_iff {name : Text} {outcome : Except Error Value} {error : Error} :
    underName name outcome = .error error ↔
      ∃ cause, outcome = .error cause ∧ error = cause.under name := by
  cases outcome with
  | ok v => simp [underName]
  | error cause =>
    cases cause <;> simp [underName, Error.under, eq_comm]

theorem invoke_error_iff {name : Text} {f : Callable} {piped : Option Value} {values : List Value}
    {error : Error} :
    (invoke name f piped values).result = .error error ↔
      ∃ cause, f.run (Arguments.given piped values) = .error cause ∧ error = cause.under name := by
  rw [result_invoke_given, underName_error_iff]

/-! ## Chains of calls -/

variable {depth : Nat}

/-- Where a chain of calls returns, each of its calls has returned. -/
theorem exists_run_of_runCalls {value w : Value} {calls : List Call}
    (h : (runCalls s depth value calls).result = .ok w) {call : Call} (hcall : call ∈ calls) :
    ∃ piped v, (call.run s depth piped).result = .ok v := by
  induction calls generalizing value with
  | nil => cases hcall
  | cons first rest ih =>
    rw [runCalls] at h
    obtain ⟨v, hfirst, hrest⟩ := Run.exists_of_bind_ok h
    rcases List.mem_cons.1 hcall with rfl | hmem
    · exact ⟨some value, v, hfirst⟩
    · exact ih hrest hmem

/-- Calls that return whatever is passed to them return one after the other. -/
theorem exists_runCalls {calls : List Call}
    (h : ∀ call ∈ calls, ∀ piped, ∃ v, (call.run s depth piped).result = .ok v) (value : Value) :
    ∃ w, (runCalls s depth value calls).result = .ok w := by
  induction calls generalizing value with
  | nil => exact ⟨value, rfl⟩
  | cons first rest ih =>
    rw [List.forall_mem_cons] at h
    obtain ⟨v, hfirst⟩ := h.1 (some value)
    obtain ⟨w, hrest⟩ := ih h.2 v
    exact ⟨w, by rw [runCalls, Run.bind_of_ok hfirst, hrest]⟩

end Scope

end Stencil
