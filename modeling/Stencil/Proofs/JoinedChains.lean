import Stencil.Proofs.ChainTags
import Stencil.Proofs.EvaluationSteps
import Stencil.Proofs.VariableReads

/-!
# Joined chains

A chain that is cut at a dot is evaluated in two runs. The first gives a value, as it is
before printing; the second passes that value on, as if it were the value of a variable
that nothing else in it reads.
-/

namespace Stencil

open FunctionTable (isName)

namespace Chain

/-- The calls that a text stands for where it follows a dot. -/
def callsOf (t : Text) : List Call := (split t).map (Call.ofSource Template.ofText false)

/-- The variables that the tags nested in those calls read. -/
def nestedHeads (t : Text) : List Text := callsHeads (callsOf t)

end Chain

/-- The value of a chain, as it is before printing. -/
def Engine.value (e : Engine) (t : Text) (bindings : List (Text × Value))
    (lenient : Option Bool) : Run Value :=
  (Chain.ofText Template.ofText t).eval (e.scope bindings lenient) 0

namespace Scope

variable {s : Scope}

theorem runCalls_append (depth : Nat) (value : Value) (front back : List Call) :
    runCalls s depth value (front ++ back) = (do
      let w ← runCalls s depth value front
      runCalls s depth w back) := by
  induction front generalizing value with
  | nil => rw [List.nil_append, runCalls, pure_bind]
  | cons call front ih => simp only [List.cons_append, runCalls, ih, bind_assoc]

/-- What follows a finished chain and a dot is called with the value of that chain. -/
theorem eval_append_dot {front : Text} (h : Chain.Finished front) (rest : Text) (depth : Nat) :
    (Chain.ofText Template.ofText (front ++ .char '.' :: rest)).eval s depth = (do
      let w ← (Chain.ofText Template.ofText front).eval s depth
      runCalls s depth w (Chain.callsOf rest)) := by
  obtain ⟨head, later, hfront⟩ := List.exists_cons_of_ne_nil h.split_ne_nil
  rw [Chain.ofText, h.split_append_dot, Chain.ofText, hfront, List.cons_append]
  simp only [Chain.eval, List.map_append, runCalls_append, bind_assoc]
  rfl

/-- Calls that do not read a variable are made alike whatever it is bound to. -/
theorem runCalls_of_fresh {read : Text → Option Value} {calls : List Call} {name : Text}
    (hread : ∀ other, other ≠ name → s.valueOf? other = read other)
    (hfresh : name ∉ callsHeads calls) (depth : Nat) (value : Value) :
    runCalls s depth value calls = runCalls { s with valueOf? := read } depth value calls := by
  have hagree : ∀ other ∈ callsHeads calls, s.valueOf? other = read other := by
    intro other hother
    apply hread
    rintro rfl
    exact hfresh hother
  exact (s.related_of_agree hagree).callsOf depth value calls (List.Subset.refl _)

end Scope

namespace Engine

variable {e : Engine} {bindings : List (Text × Value)} {lenient : Option Bool}

theorem evaluate_eq_value (t : Text) :
    e.evaluate t bindings lenient = e.value t bindings lenient >>= Scope.printed :=
  (e.scope bindings lenient).evaluate_eq t

/-- A name with a dot after it passes the value of its variable on. -/
theorem value_name_dot {name : Text} (h : isName name = true) (w : Value) (rest : Text) :
    e.value (name ++ .char '.' :: rest) ((name, w) :: bindings) lenient =
      runCalls (e.scope ((name, w) :: bindings) lenient) 0 w (Chain.callsOf rest) := by
  have hclosed : Chain.Closed name := (isPiece_of_isName h).closed
  have hfinished := hclosed.whole.finished hclosed.nonempty
  have hhead : (Chain.ofText Template.ofText name).eval (e.scope ((name, w) :: bindings) lenient) 0 =
      pure w := by
    rw [Chain.ofText_name h]
    simp [Chain.eval, Head.eval, runCalls, scope]
  rw [value, Scope.eval_append_dot hfinished, hhead, pure_bind]

/-- Chains compose. A dot behind a finished chain cuts the text into its pieces and those of
the rest. The value of the first chain goes through the calls of the rest as the value of a
variable would that they do not read; what the first chain calls and records comes before,
and where it fails, the whole fails with its error. -/
theorem evaluate_joined {front : Text} (h : Chain.Finished front) (rest : Text) :
    Chain.split (front ++ .char '.' :: rest) = Chain.split front ++ Chain.split rest ∧
    ∀ (e : Engine) (bindings : List (Text × Value)) (lenient : Option Bool),
      (∀ w name, (e.value front bindings lenient).result = .ok w →
        isName name = true → name ∉ Chain.nestedHeads rest →
        e.evaluate (front ++ .char '.' :: rest) bindings lenient =
          ⟨(e.evaluate (name ++ .char '.' :: rest) ((name, w) :: bindings) lenient).result,
            (e.value front bindings lenient).trace ++
              (e.evaluate (name ++ .char '.' :: rest) ((name, w) :: bindings) lenient).trace⟩) ∧
      (∀ error, (e.value front bindings lenient).result = .error error →
        (e.evaluate (front ++ .char '.' :: rest) bindings lenient).result = .error error) := by
  refine ⟨h.split_append_dot rest, fun e bindings lenient => ?_⟩
  have hwhole : e.evaluate (front ++ .char '.' :: rest) bindings lenient = (do
      let w ← e.value front bindings lenient
      let r ← runCalls (e.scope bindings lenient) 0 w (Chain.callsOf rest)
      Scope.printed r) := by
    rw [evaluate_eq_value, value, Scope.eval_append_dot h, bind_assoc]
    rfl
  refine ⟨fun w name hw hname hfresh => ?_, fun error herror => ?_⟩
  · have hread : ∀ other, other ≠ name →
        (e.scope bindings lenient).valueOf? other = ((name, w) :: bindings).lookup other := by
      intro other hother
      have hne : (other == name) = false := by simpa using hother
      simp [scope, List.lookup_cons, hne]
    have hrest : e.evaluate (name ++ .char '.' :: rest) ((name, w) :: bindings) lenient = (do
        let r ← runCalls (e.scope bindings lenient) 0 w (Chain.callsOf rest)
        Scope.printed r) := by
      rw [evaluate_eq_value, value_name_dot hname, Scope.runCalls_of_fresh hread hfresh]
      rfl
    rw [hwhole, Run.bind_of_ok hw, hrest]
  · rw [hwhole, Run.bind_of_error herror]

def quotedDotChain : Text := "\"a.b\".f".text

def nestedTagCall : Text := "f(\x7by\x7d)".text

def quotedDotBindings : List (Text × Value) :=
  [("\"a.b\"".text, .int 1), (['y'], .text ['$'])]

/-- A dot in quotes cuts nothing, and the list goes on as a list, not as its text. -/
theorem evaluate_joined_list :
    (Chain.Finished quotedDotChain ∧ isName ['t'] = true ∧
      [.char 't'] ∉ Chain.nestedHeads nestedTagCall ∧
      (gathering.value quotedDotChain quotedDotBindings none).result =
        .ok (.list [.int 1])) ∧
    (gathering.evaluate (quotedDotChain ++ .char '.' :: nestedTagCall) quotedDotBindings
      none).result = .ok "[[1]]".text := by
  have hfinished : Chain.Finished quotedDotChain := by decide +kernel
  have hfresh : [.char 't'] ∉ Chain.nestedHeads nestedTagCall := by decide +kernel
  have hvalue : (gathering.value quotedDotChain quotedDotBindings none).result =
      .ok (.list [.int 1]) := by
    have hsplit : Chain.split quotedDotChain = ["\"a.b\"".text, ['f']] := by decide +kernel
    unfold value Chain.ofText
    rw [hsplit]
    rfl
  have hwhole := ((evaluate_joined hfinished nestedTagCall).2 gathering quotedDotBindings
    none).1 _ ['t'] hvalue (by decide) hfresh
  refine ⟨⟨hfinished, by decide, hfresh, hvalue⟩, ?_⟩
  rw [hwhole]
  decide +kernel

end Engine

end Stencil
