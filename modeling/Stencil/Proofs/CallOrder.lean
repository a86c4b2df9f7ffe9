import Mathlib.Data.List.Forall2
import Stencil.Proofs.CallListings
import Stencil.Proofs.EvaluationSteps

/-!
# The order of calls

An evaluation takes the steps of its text one after the other, and makes their calls. A step that
fails ends the tag that it stands in, and in a strict scope the render.
-/

namespace Stencil

namespace Scope

/-! ## What a step does -/

/-- The call of a name is one of the function that the name resolves to. -/
def Made (s : Scope) (name : Text) (call : Label × List Value) : Prop :=
  ∃ f, s.resolve? name = some f ∧ call.1 = f.label

/-- A step goes through. What it does depends on values that the steps before it gave. -/
inductive Goes (s : Scope) : Step → List (Label × List Value) → Prop
  | read {name : Text} (h : (s.valueOf? name).isSome = true ∨ s.lenient = true) :
    Goes s (.read name) []
  | find {name : Text} (h : (s.resolve? name).isSome = true) : Goes s (.find name) []
  | enter {depth : Nat} (h : (depth : Int) ≤ s.maxDepth) : Goes s (.enter depth) []
  | readArguments {name text : Text} {values : List Value}
    (h : Arguments.read name text = .ok values) : Goes s (.readArguments name) []
  | call {name : Text} {f : Callable} {args : List Value} {v : Value}
    (hf : s.resolve? name = some f) (h : f.run args = .ok v) :
    Goes s (.call name) [(f.label, args)]
  | print {v : Value} {text : Text} (h : v.output = .ok text) : Goes s .print []

/-- A step fails. A function that fails has been called. -/
inductive Fails (s : Scope) : Step → List (Label × List Value) → Error → Prop
  | read {name : Text} (h : s.valueOf? name = none) (hstrict : s.lenient = false) :
    Fails s (.read name) [] (.undefinedVariable name)
  | reject {source : Text} : Fails s (.reject source) [] (.invalidToken source)
  | find {name : Text} (h : s.resolve? name = none) :
    Fails s (.find name) [] (.functionNotFound name)
  | enter {depth : Nat} (h : s.maxDepth < depth) :
    Fails s (.enter depth) [] (.nestingTooDeep s.maxDepth)
  | readArguments {name text : Text} {error : Error}
    (h : Arguments.read name text = .error error) : Fails s (.readArguments name) [] error
  | call {name : Text} {f : Callable} {args : List Value} {cause error : Error}
    (hf : s.resolve? name = some f) (h : f.run args = .error cause)
    (hname : underName name (.error cause) = .error error) :
    Fails s (.call name) [(f.label, args)] error
  | print {v : Value} {cause : Fault} (h : v.output = .error cause) :
    Fails s .print [] (.fault cause)

/-- The calls that steps make, and the error that they end with, if any. What fails in a tag ends
the tag; in a strict scope it ends the steps behind the tag as well, and in a lenient one these go
on as if the tag had been empty. -/
inductive Trail (s : Scope) : List Step → List (Label × List Value) → Option Error → Prop
  | done : Trail s [] [] none
  | goes {step : Step} {rest : List Step} {front back : List (Label × List Value)}
    {outcome : Option Error} (h : s.Goes step front) (hrest : Trail s rest back outcome) :
    Trail s (step :: rest) (front ++ back) outcome
  | fails {step : Step} {rest : List Step} {calls : List (Label × List Value)} {error : Error}
    (h : s.Fails step calls error) : Trail s (step :: rest) calls (some error)
  | tag {steps rest : List Step} {front back : List (Label × List Value)} {outcome : Option Error}
    (h : Trail s steps front none) (hrest : Trail s rest back outcome) :
    Trail s (.tag steps :: rest) (front ++ back) outcome
  | raised {steps rest : List Step} {calls : List (Label × List Value)} {error : Error}
    (hstrict : s.lenient = false) (h : Trail s steps calls (some error)) :
    Trail s (.tag steps :: rest) calls (some error)
  | emptied {steps rest : List Step} {front back : List (Label × List Value)} {error : Error}
    {outcome : Option Error} (hlenient : s.lenient = true) (h : Trail s steps front (some error))
    (hrest : Trail s rest back outcome) : Trail s (.tag steps :: rest) (front ++ back) outcome

end Scope

/-- The error that a run ends with. -/
def Run.error? {α : Type} (x : Run α) : Option Error :=
  match x.result with
  | .ok _ => none
  | .error e => some e

namespace Scope

variable {s : Scope}

/-- A run takes the given steps. -/
def Takes {α : Type} (s : Scope) (steps : List Step) (x : Run α) : Prop :=
  s.Trail steps x.calls x.error?

/-- Steps that go through are followed by what stands behind them. -/
theorem Trail.append {front back : List Step} {calls later : List (Label × List Value)}
    {outcome : Option Error} (h : s.Trail front calls none) (h' : s.Trail back later outcome) :
    s.Trail (front ++ back) (calls ++ later) outcome := by
  -- A tag that failed and was emptied goes through as well, so the index is kept open.
  generalize hnone : none = ended at h
  induction h with
  | done => exact h'
  | goes hgoes hrest ih =>
    rw [List.append_assoc]
    exact .goes hgoes (ih hnone)
  | fails hfails => cases hnone
  | tag h hrest ih ihrest =>
    rw [List.append_assoc]
    exact .tag h (ihrest hnone)
  | raised hstrict h ih => cases hnone
  | emptied hlenient h hrest ih ihrest =>
    rw [List.append_assoc]
    exact .emptied hlenient h (ihrest hnone)

/-- Behind a failure nothing is done. -/
theorem Trail.extend {front : List Step} {calls : List (Label × List Value)} {error : Error}
    (h : s.Trail front calls (some error)) (back : List Step) :
    s.Trail (front ++ back) calls (some error) := by
  generalize hsome : some error = ended at h ⊢
  induction h with
  | done => cases hsome
  | goes hgoes hrest ih => exact .goes hgoes (ih hsome)
  | fails hfails => exact .fails hfails
  | tag h hrest ih ihrest => exact .tag h (ihrest hsome)
  | raised hstrict h ih => exact .raised hstrict h
  | emptied hlenient h hrest ih ihrest => exact .emptied hlenient h (ihrest hsome)

namespace Takes

variable {α β : Type} {steps front back : List Step} {x : Run α}

theorem of_ok {a : α} (h : x.result = .ok a) : s.Takes steps x ↔ s.Trail steps x.calls none := by
  unfold Takes Run.error?
  rw [h]

theorem of_error {error : Error} (h : x.result = .error error) :
    s.Takes steps x ↔ s.Trail steps x.calls (some error) := by
  unfold Takes Run.error?
  rw [h]

/-- Runs that follow each other take their steps one after the other. -/
theorem bind {f : α → Run β} (h : s.Takes front x)
    (hf : ∀ a, x.result = .ok a → s.Takes back (f a)) : s.Takes (front ++ back) (x >>= f) := by
  cases hx : x.result with
  | ok a =>
    have herror : (x >>= f).error? = (f a).error? := by
      unfold Run.error?
      rw [Run.bind_of_ok hx]
    unfold Takes
    rw [herror, Run.calls_bind_of_ok hx]
    exact ((of_ok hx).1 h).append (hf a hx)
  | error error =>
    have hresult : (x >>= f).result = .error error := by rw [Run.bind_of_error hx]
    rw [of_error hresult, Run.calls_bind_of_error hx]
    exact ((of_error hx).1 h).extend back

/-! ## Single steps -/

theorem pure (a : α) : s.Takes [] (Pure.pure a : Run α) := .done

theorem of_goes {step : Step} {a : α} (hx : x.result = .ok a) (h : s.Goes step x.calls) :
    s.Takes [step] x := by
  have htrail : s.Trail [step] (x.calls ++ []) none := .goes h .done
  rw [List.append_nil] at htrail
  exact (of_ok hx).2 htrail

theorem of_fails {step : Step} {error : Error} (hx : x.result = .error error)
    (h : s.Fails step x.calls error) : s.Takes [step] x := (of_error hx).2 (.fails h)

theorem find (s : Scope) (name : Text) : s.Takes [.find name] (s.find name) := by
  unfold Scope.find
  cases h : s.resolve? name with
  | some f => exact of_goes rfl (.find (by simp [h]))
  | none => exact of_fails rfl (.find h)

theorem guard (s : Scope) (depth : Nat) : s.Takes [.enter depth] (s.guardDepth depth) := by
  unfold guardDepth
  split
  · next h => exact of_fails rfl (.enter h)
  · next h => exact of_goes rfl (.enter (by omega))

theorem readArguments (s : Scope) (name text : Text) :
    s.Takes [.readArguments name] (Run.ofExcept (Arguments.read name text)) := by
  cases h : Arguments.read name text with
  | ok values => exact of_goes rfl (.readArguments h)
  | error error => exact of_fails rfl (.readArguments h)

theorem invoke {name : Text} {f : Callable} (hf : s.resolve? name = some f) (piped : Option Value)
    (args : List Value) : s.Takes [.call name] (Scope.invoke name f piped args) := by
  have hcalls := calls_invoke_given name f piped args
  have hresult := result_invoke_given name f piped args
  cases h : f.run (Arguments.given piped args) with
  | ok v =>
    rw [h] at hresult
    exact of_goes (a := v) hresult (hcalls ▸ .call hf h)
  | error cause =>
    have hname : underName name (.error cause) = .error (cause.under name) :=
      underName_error_iff.2 ⟨cause, rfl, rfl⟩
    rw [h, hname] at hresult
    exact of_fails hresult (hcalls ▸ .call hf h hname)

theorem printed (s : Scope) (v : Value) : s.Takes [.print] (Scope.printed v) := by
  unfold Scope.printed
  cases h : v.output with
  | ok text => exact of_goes rfl (.print h)
  | error cause => exact of_fails rfl (.print h)

theorem settle (source : Text) {x : Run Text} (h : s.Takes steps x) :
    s.Takes [.tag steps] (s.settle source x) := by
  cases hx : x.result with
  | ok text =>
    have htrail : s.Trail [.tag steps] (x.calls ++ []) none := .tag ((of_ok hx).1 h) .done
    rw [List.append_nil] at htrail
    rw [settle_of_ok hx]
    exact (of_ok hx).2 htrail
  | error error =>
    cases hmode : s.lenient with
    | false =>
      have hsettle : s.settle source x = x := by simp [Scope.settle, hmode]
      rw [hsettle]
      exact (of_error hx).2 (.raised hmode ((of_error hx).1 h))
    | true =>
      have hempty : (s.settle source x).result = .ok [] := by
        simp [Scope.settle, hmode, Run.recover_of_error hx]
      have htrail : s.Trail [.tag steps] (x.calls ++ []) none :=
        .emptied hmode ((of_error hx).1 h) .done
      rw [List.append_nil] at htrail
      rw [of_ok hempty, calls_settle]
      exact htrail

/-! ## Whole trees -/

mutual

theorem piece (s : Scope) (depth : Nat) : ∀ p : Piece, s.Takes (p.steps depth) (p.render s depth)
  | .plain c => pure [c]
  | .escaped inner => pure (.char '{' :: (inner ++ [.char '}']))
  | .tag source c => by
    rw [render_tag]
    exact settle source ((chain s depth c).bind fun v _ => printed s v)
termination_by structural p => p

theorem pieces (s : Scope) (depth : Nat) :
    ∀ ps : List Piece, s.Takes (piecesSteps depth ps) (renderPieces s depth ps)
  | [] => pure []
  | p :: rest => by
    refine (piece s depth p).bind fun front _ => ?_
    have hrest := (pieces s depth rest).bind fun back _ => pure (s := s) (front ++ back)
    rwa [List.append_nil] at hrest
termination_by structural ps => ps

theorem chain (s : Scope) (depth : Nat) :
    ∀ c : Chain, s.Takes (c.steps depth) (c.eval s depth)
  | .empty => pure (Value.text [])
  | .from hd calls => (headOf s depth hd).bind fun v _ => callsOf s depth v calls
termination_by structural c => c

theorem headOf (s : Scope) (depth : Nat) :
    ∀ hd : Head, s.Takes (hd.steps depth) (hd.eval s depth)
  | .variable name => by
    rw [Head.eval]
    cases h : s.valueOf? name with
    | some v => exact of_goes rfl (.read (.inl (by simp [h])))
    | none =>
      cases hmode : s.lenient with
      | false => exact of_fails rfl (.read h hmode)
      | true => exact of_goes rfl (.read (.inr hmode))
  | .direct c => call s depth none c
termination_by structural hd => hd

theorem callsOf (s : Scope) (depth : Nat) (value : Value) :
    ∀ cs : List Call, s.Takes (callsSteps depth cs) (runCalls s depth value cs)
  | [] => pure value
  | c :: rest => (call s depth (some value) c).bind fun v _ => callsOf s depth v rest
termination_by structural cs => cs

theorem call (s : Scope) (depth : Nat) (piped : Option Value) :
    ∀ c : Call, s.Takes (c.steps depth) (c.run s depth piped)
  | .malformed source => of_fails rfl .reject
  | .bare name => (find s name).bind fun f hf => invoke (resolve_of_find hf) piped []
  | .applied name args => by
    -- What was found is what the step of the call is about, after all that lies between.
    refine (find s name).bind fun f hf => (guard s (depth + 1)).bind fun _ _ => ?_
    refine (pieces s (depth + 1) args).bind fun text _ => ?_
    exact (readArguments s name text).bind fun values _ =>
      invoke (resolve_of_find hf) piped values
termination_by structural c => c

end

/-- A render takes the steps of its text. -/
theorem render (s : Scope) (t : Text) : s.Takes (Template.steps t) (s.render t) := by
  rw [render_eq]
  exact (guard s 0).bind fun _ _ => pieces s 0 (Template.ofText t)

end Takes

/-! ## What a trail calls -/

variable {step : Step} {steps : List Step} {calls : List (Label × List Value)}

/-- A step that goes through is no tag, and calls what it lists. -/
theorem Goes.made (h : s.Goes step calls) :
    step.leaves = [step] ∧ List.Forall₂ s.Made step.callee?.toList calls := by
  cases h with
  | call hf hrun => exact ⟨rfl, .cons ⟨_, hf, rfl⟩ .nil⟩
  | _ => exact ⟨rfl, .nil⟩

theorem Fails.made {error : Error} (h : s.Fails step calls error) :
    step.leaves = [step] ∧ List.Forall₂ s.Made step.callee?.toList calls := by
  cases h with
  | call hf hrun => exact ⟨rfl, .cons ⟨_, hf, rfl⟩ .nil⟩
  | _ => exact ⟨rfl, .nil⟩

theorem exists_sublist_tag {rest : List Step} {front back : List (Label × List Value)}
    (h : ∃ names, names.Sublist (stepsCallees steps) ∧ List.Forall₂ s.Made names front)
    (hrest : ∃ names, names.Sublist (stepsCallees rest) ∧ List.Forall₂ s.Made names back) :
    ∃ names, names.Sublist (stepsCallees (.tag steps :: rest)) ∧
      List.Forall₂ s.Made names (front ++ back) := by
  obtain ⟨names, hnames, hmade⟩ := h
  obtain ⟨later, hlater, hmadeLater⟩ := hrest
  refine ⟨names ++ later, ?_, List.rel_append hmade hmadeLater⟩
  rw [stepsCallees_tag]
  exact hnames.append hlater

/-- In whatever mode, the calls are some of those listed, in the order of the listing. -/
theorem Trail.sublist {outcome : Option Error} (h : s.Trail steps calls outcome) :
    ∃ names, names.Sublist (stepsCallees steps) ∧ List.Forall₂ s.Made names calls := by
  induction h with
  | done => exact ⟨[], .slnil, .nil⟩
  | @goes step rest front back outcome hgoes hrest ih =>
    obtain ⟨names, hnames, hmade⟩ := ih
    obtain ⟨hleaf, hfirst⟩ := hgoes.made
    refine ⟨step.callee?.toList ++ names, ?_, List.rel_append hfirst hmade⟩
    rw [stepsCallees_leaf hleaf]
    exact hnames.append_left _
  | @fails step rest calls error hfails =>
    obtain ⟨hleaf, hmade⟩ := hfails.made
    refine ⟨step.callee?.toList, ?_, hmade⟩
    rw [stepsCallees_leaf hleaf]
    exact List.sublist_append_left _ _
  | tag h hrest ih ihrest => exact exists_sublist_tag ih ihrest
  | @raised steps rest calls error hstrict h ih =>
    obtain ⟨names, hnames, hmade⟩ := ih
    refine ⟨names, ?_, hmade⟩
    rw [stepsCallees_tag]
    exact hnames.trans (List.sublist_append_left _ _)
  | emptied hlenient h hrest ih ihrest => exact exists_sublist_tag ih ihrest

/-- In a strict scope, steps that go through make the calls listed. -/
theorem Trail.made (hstrict : s.lenient = false) (h : s.Trail steps calls none) :
    List.Forall₂ s.Made (stepsCallees steps) calls := by
  generalize hnone : none = ended at h
  induction h with
  | done => exact .nil
  | goes hgoes hrest ih =>
    obtain ⟨hleaf, hfirst⟩ := hgoes.made
    rw [stepsCallees_leaf hleaf]
    exact List.rel_append hfirst (ih hnone)
  | fails hfails => cases hnone
  | tag h hrest ih ihrest =>
    rw [stepsCallees_tag]
    exact List.rel_append (ih rfl) (ihrest hnone)
  | raised hmode h ih => cases hnone
  | emptied hlenient h hrest ih ihrest => simp [hstrict] at hlenient

/-- In a strict scope, the calls before a step that fails are those listed before it. -/
theorem Trail.made_before (hstrict : s.lenient = false) {error : Error}
    (h : s.Trail steps calls (some error)) :
    ∃ before step later last, stepsLeaves steps = before ++ step :: later ∧
      s.Fails step last error ∧
      List.Forall₂ s.Made (before.filterMap Step.callee? ++ step.callee?.toList) calls := by
  generalize hsome : some error = ended at h
  induction h with
  | done => cases hsome
  | @goes first rest front back outcome hgoes hrest ih =>
    obtain ⟨before, step, later, last, hleaves, hfails, hmade⟩ := ih hsome
    obtain ⟨hleaf, hfirst⟩ := hgoes.made
    refine ⟨first :: before, step, later, last, ?_, hfails, ?_⟩
    · rw [stepsLeaves, hleaf, hleaves]
      rfl
    · have hcons : (first :: before).filterMap Step.callee? =
          first.callee?.toList ++ before.filterMap Step.callee? := by
        rw [List.filterMap_cons]
        cases first.callee? <;> rfl
      rw [hcons, List.append_assoc]
      exact List.rel_append hfirst hmade
  | @fails step rest calls error hfails =>
    cases hsome
    obtain ⟨hleaf, hmade⟩ := hfails.made
    refine ⟨[], step, stepsLeaves rest, calls, ?_, hfails, hmade⟩
    rw [stepsLeaves, hleaf]
    rfl
  | @tag steps rest front back outcome h hrest ih ihrest =>
    obtain ⟨before, step, later, last, hleaves, hfails, hmade⟩ := ihrest hsome
    refine ⟨stepsLeaves steps ++ before, step, later, last, ?_, hfails, ?_⟩
    · rw [stepsLeaves, Step.leaves, hleaves, List.append_assoc]
    · rw [List.filterMap_append, List.append_assoc]
      exact List.rel_append (h.made hstrict) hmade
  | @raised steps rest calls error hmode h ih =>
    -- The steps behind the tag stand behind the step that failed in it.
    obtain ⟨before, step, later, last, hleaves, hfails, hmade⟩ := ih hsome
    refine ⟨before, step, later ++ stepsLeaves rest, last, ?_, hfails, hmade⟩
    rw [stepsLeaves, Step.leaves, hleaves, List.append_assoc, List.cons_append]
  | emptied hlenient h hrest ih ihrest => simp [hstrict] at hlenient

/-! ## Calls that are not made -/

variable {name : Text} {args : List Piece} {depth : Nat}

/-- Where the function is not found, nothing in its argument list is called. -/
theorem calls_of_not_found (h : s.resolve? name = none) (depth : Nat) (piped : Option Value) :
    ((Call.applied name args).run s depth piped).calls = [] := by
  have hfind : (s.find name).result = .error (.functionNotFound name) := by
    rw [Scope.find, h]
    rfl
  have hcalls : (s.find name).calls = [] := by
    rw [Scope.find, h]
    rfl
  rw [Call.run, Run.calls_bind_of_error hfind, hcalls]

/-- Where the arguments cannot be read, everything in them has been called, and the function has
not. -/
theorem calls_of_misread {f : Callable} (hf : s.resolve? name = some f)
    (hdepth : (depth + 1 : Nat) ≤ s.maxDepth) {text : Text}
    (htext : (renderPieces s (depth + 1) args).result = .ok text) {error : Error}
    (hread : Arguments.read name text = .error error) (piped : Option Value) :
    ((Call.applied name args).run s depth piped).result = .error error ∧
      ((Call.applied name args).run s depth piped).calls =
        (renderPieces s (depth + 1) args).calls := by
  have hrun : (Call.applied name args).run s depth piped = (do
      let text ← renderPieces s (depth + 1) args
      let values ← Run.ofExcept (Arguments.read name text)
      Scope.invoke name f piped values) := by
    rw [Call.run, find_of_resolve hf, pure_bind, guardDepth_of_le hdepth, pure_bind]
  have hmisread : (Run.ofExcept (Arguments.read name text) >>= fun values =>
      Scope.invoke name f piped values) = ⟨.error error, []⟩ := by
    rw [hread]
    rfl
  rw [hrun, Run.calls_bind_of_ok htext, Run.bind_of_ok htext, hmisread]
  exact ⟨rfl, List.append_nil _⟩

/-- In a strict scope, argument text that is rendered has made the calls listed in it. -/
theorem made_of_rendered (hstrict : s.lenient = false) {ps : List Piece} {text : Text}
    (h : (renderPieces s depth ps).result = .ok text) :
    List.Forall₂ s.Made (piecesCallees ps) (renderPieces s depth ps).calls := by
  rw [← piecesCallees_steps depth ps]
  exact ((Takes.of_ok h).1 (Takes.pieces s depth ps)).made hstrict

end Scope

namespace Engine

/-- The calls of a render are those listed for its text, innermost first and from left to right,
each once: all of them where a strict render succeeds, and those listed before the step that fails
where it does not. In either mode the calls follow the steps of the text, tag by tag, so that what
is left out stands behind a failure in its tag. A function that is not found is missed before
anything in its argument list is called, and arguments that cannot be read are found out after
everything in them was. -/
theorem render_calls_in_order (e : Engine) (t : Text) (bindings : List (Text × Value)) :
    (∀ lenient,
      (e.scope bindings lenient).Trail (Template.steps t) (e.render t bindings lenient).calls
        (e.render t bindings lenient).error? ∧
      ∃ names, names.Sublist (Template.callees t) ∧
        List.Forall₂ (e.scope bindings lenient).Made names (e.render t bindings lenient).calls) ∧
    (∀ out, (e.render t bindings (some false)).result = .ok out →
      List.Forall₂ (e.scope bindings (some false)).Made (Template.callees t)
        (e.render t bindings (some false)).calls) ∧
    (∀ error, (e.render t bindings (some false)).result = .error error →
      ∃ before step later, stepsLeaves (Template.steps t) = before ++ step :: later ∧
        (∃ last, (e.scope bindings (some false)).Fails step last error) ∧
        before.filterMap Step.callee? ++ step.callee?.toList <+: Template.callees t ∧
        List.Forall₂ (e.scope bindings (some false)).Made
          (before.filterMap Step.callee? ++ step.callee?.toList)
          (e.render t bindings (some false)).calls) ∧
    (∀ lenient name args depth piped,
      let s := e.scope bindings lenient
      let run := (Call.applied name args).run s depth piped
      (s.resolve? name = none → run.calls = []) ∧
      ∀ f text error, s.resolve? name = some f → (depth + 1 : Nat) ≤ s.maxDepth →
        (renderPieces s (depth + 1) args).result = .ok text →
        Arguments.read name text = .error error →
        run.result = .error error ∧ run.calls = (renderPieces s (depth + 1) args).calls ∧
        (s.lenient = false → List.Forall₂ s.Made (piecesCallees args) run.calls)) := by
  have htrail : ∀ lenient, (e.scope bindings lenient).Trail (Template.steps t)
      (e.render t bindings lenient).calls (e.render t bindings lenient).error? :=
    fun lenient => Scope.Takes.render (e.scope bindings lenient) t
  refine ⟨fun lenient => ⟨htrail lenient, ?_⟩, fun out hout => ?_, fun error herror => ?_,
    fun lenient name args depth piped => ⟨fun h => Scope.calls_of_not_found h depth piped, ?_⟩⟩
  · rw [← Template.callees_steps]
    exact (htrail lenient).sublist
  · rw [← Template.callees_steps]
    exact ((Scope.Takes.of_ok hout).1 (htrail (some false))).made rfl
  · obtain ⟨before, step, later, last, hleaves, hfails, hmade⟩ :=
      ((Scope.Takes.of_error herror).1 (htrail (some false))).made_before rfl
    refine ⟨before, step, later, hleaves, ⟨last, hfails⟩, ?_, hmade⟩
    have hlisted : Template.callees t =
        (before.filterMap Step.callee? ++ step.callee?.toList) ++
          later.filterMap Step.callee? := by
      rw [← Template.callees_steps, stepsCallees, hleaves, List.filterMap_append,
        List.filterMap_cons]
      cases step.callee? <;> simp
    exact ⟨_, hlisted.symm⟩
  · intro f text error hf hdepth htext hread
    obtain ⟨hresult, hcalls⟩ := Scope.calls_of_misread hf hdepth htext hread piped
    refine ⟨hresult, hcalls, fun hstrict => ?_⟩
    rw [hcalls]
    exact Scope.made_of_rendered hstrict htext

/-- Two functions, called `f` and `g`. -/
def pairing : Engine :=
  .ofFunctions [(['f'], .gather), (['g'], ⟨.host ['g'], fun _ => .ok .null⟩)] 1

/-- A call in an argument list, with another behind it, and an escaped tag. -/
def nestedCalls : Text := "\x7b@f(\"\x7b@g\x7d\").g\x7d!\x7b@g\x7d\x7b@f\x7d".text

/-- Arguments that cannot be read, with two calls in them. -/
def misreadArguments : Text := "\"\x7b@g.g\x7d\", x".text

/-- A tag with those arguments and a call behind them. -/
def misreadTag : Text := "\x7b@f(".text ++ misreadArguments ++ ").g\x7d".text

theorem render_calls_of_nested :
    (Template.callees nestedCalls = [[.char 'g'], [.char 'f'], [.char 'g'], [.char 'f']] ∧
      List.Forall₂ (pairing.scope [] (some false)).Made (Template.callees nestedCalls)
        (pairing.render nestedCalls [] (some false)).calls) ∧
    ((pairing.render misreadTag [] (some false)).result =
        .error (.badArguments ['f'] (some (.notLiteral ['x']))) ∧
      (pairing.render misreadTag [] (some false)).calls.map (·.1) = [.host ['g'], .host ['g']] ∧
      ∃ names, names <+: Template.callees misreadTag ∧
        List.Forall₂ (pairing.scope [] (some false)).Made names
          (pairing.render misreadTag [] (some false)).calls) ∧
    ((Call.applied ['h'] (Template.ofText misreadArguments)).run (pairing.scope [] (some false))
      0 none).calls = [] ∧
    List.Forall₂ (pairing.scope [] (some false)).Made
      (piecesCallees (Template.ofText misreadArguments))
      ((Call.applied ['f'] (Template.ofText misreadArguments)).run (pairing.scope [] (some false))
        0 none).calls := by
  have hout : ∃ out, (pairing.render nestedCalls [] (some false)).result = .ok out := by
    decide +kernel
  have herror : (pairing.render misreadTag [] (some false)).result =
      .error (.badArguments ['f'] (some (.notLiteral ['x']))) := by decide +kernel
  have htext : (renderPieces (pairing.scope [] (some false)) 1
      (Template.ofText misreadArguments)).result = .ok "\"\", x".text := by decide +kernel
  have hread : Arguments.read ['f'] "\"\", x".text =
      .error (.badArguments ['f'] (some (.notLiteral ['x']))) := by decide +kernel
  obtain ⟨out, hout⟩ := hout
  obtain ⟨-, hmade, -, -⟩ := render_calls_in_order pairing nestedCalls []
  obtain ⟨-, -, hbefore, hcall⟩ := render_calls_in_order pairing misreadTag []
  obtain ⟨before, step, later, -, -, hlisted, hcalls⟩ := hbefore _ herror
  obtain ⟨hmissed, -⟩ := hcall (some false) ['h'] (Template.ofText misreadArguments) 0 none
  obtain ⟨-, hmisread⟩ := hcall (some false) ['f'] (Template.ofText misreadArguments) 0 none
  obtain ⟨-, -, hnested⟩ := hmisread _ _ _ rfl (by decide) htext hread
  exact ⟨⟨by decide +kernel, hmade out hout⟩, ⟨herror, by decide +kernel, _, hlisted, hcalls⟩,
    hmissed rfl, hnested rfl⟩

end Engine

end Stencil
