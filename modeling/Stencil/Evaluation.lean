import Stencil.Arguments
import Stencil.Run
import Stencil.Template
import Stencil.Value.Text

/-!
# Evaluation

Templates are rendered and chains evaluated in a scope. Argument text is rendered one
level deeper, then read as literals; it is never scanned for tags again. In a lenient
scope a tag that fails is rendered empty and recorded.
-/

namespace Stencil

structure Scope where
  resolve? : Text → Option Callable
  valueOf? : Text → Option Value
  lenient : Bool
  maxDepth : Int

namespace Scope

def find (s : Scope) (name : Text) : Run Callable :=
  match s.resolve? name with
  | some f => pure f
  | none => .fail (.functionNotFound name)

def guardDepth (s : Scope) (depth : Nat) : Run Unit :=
  if s.maxDepth < depth then .fail (.nestingTooDeep s.maxDepth) else pure ()

/-- A fault of the function is reported under the name that called it, with its text. Where it has
none, what is raised instead of the text leaves in place of the report. -/
def underName (name : Text) : Except Error Value → Except Error Value
  | .error (.fault cause) => .error (.invocation name cause)
  | .error (.textless instead) => .error instead
  | outcome => outcome

/-- Calls a function, with the piped value in its place among the arguments. -/
def invoke (name : Text) (f : Callable) (piped : Option Value) (args : List Value) :
    Run Value := do
  let args := match piped with
    | some v => Arguments.place v args
    | none => args
  .event (.called f.label args)
  .ofExcept (underName name (f.run args))

def printed (v : Value) : Run Text :=
  match v.output with
  | .ok t => pure t
  | .error cause => .fail (.fault cause)

end Scope

mutual

/-- Renders one piece of a template that stands `depth` levels deep. -/
def Piece.render (s : Scope) (depth : Nat) : Piece → Run Text
  | .plain c => pure [c]
  | .escaped inner => pure (.char '{' :: (inner ++ [.char '}']))
  | .tag source chain =>
    let run := do Scope.printed (← chain.eval s depth)
    if s.lenient then run.recover source [] else run
termination_by structural p => p

def renderPieces (s : Scope) (depth : Nat) : List Piece → Run Text
  | [] => pure []
  | p :: rest => do
    let front ← p.render s depth
    let back ← renderPieces s depth rest
    pure (front ++ back)
termination_by structural ps => ps

/-- The value of a chain, before it is printed. -/
def Chain.eval (s : Scope) (depth : Nat) : Chain → Run Value
  | .empty => pure (.text [])
  | .from head calls => do
    let value ← head.eval s depth
    runCalls s depth value calls
termination_by structural c => c

def Head.eval (s : Scope) (depth : Nat) : Head → Run Value
  | .variable name =>
    match s.valueOf? name with
    | some v => pure v
    | none => if s.lenient then pure (.text []) else .fail (.undefinedVariable name)
  | .direct call => call.run s depth none
termination_by structural h => h

def runCalls (s : Scope) (depth : Nat) (value : Value) : List Call → Run Value
  | [] => pure value
  | call :: rest => do
    let value ← call.run s depth (some value)
    runCalls s depth value rest
termination_by structural cs => cs

/-- The function is found before its arguments are rendered, and these are rendered
before they are read. -/
def Call.run (s : Scope) (depth : Nat) (piped : Option Value) : Call → Run Value
  | .malformed source => .fail (.invalidToken source)
  | .bare name => do
    let f ← s.find name
    Scope.invoke name f piped []
  | .applied name args => do
    let f ← s.find name
    s.guardDepth (depth + 1)
    let text ← renderPieces s (depth + 1) args
    let values ← Run.ofExcept (Arguments.read name text)
    Scope.invoke name f piped values
termination_by structural c => c

end

namespace Scope

/-- Renders a text. Its tree is read no deeper than the scope allows. -/
def render (s : Scope) (t : Text) : Run Text := do
  s.guardDepth 0
  renderPieces s 0 (Template.ofTextWithin (s.maxDepth.toNat + 1) t)

/-- Evaluates the inner text of a tag, which is not rendered empty when it fails. -/
def evaluate (s : Scope) (t : Text) : Run Text := do
  printed (← (Chain.ofText (Template.ofTextWithin s.maxDepth.toNat) t).eval s 0)

theorem guardDepth_bind_congr {s : Scope} {depth : Nat} {x y : Run α}
    (h : (depth : Int) ≤ s.maxDepth → x = y) :
    (s.guardDepth depth >>= fun _ => x) = (s.guardDepth depth >>= fun _ => y) := by
  by_cases hdepth : s.maxDepth < depth
  · simp [guardDepth, hdepth, bind, Run.bind, Run.fail]
  · rw [h (by omega)]

/-- Two readers of argument text that a scope cannot tell apart `depth` levels deep. -/
def Agree (s : Scope) (depth : Nat) (f g : Text → Template) : Prop :=
  (depth : Int) ≤ s.maxDepth → ∀ args, renderPieces s depth (f args) = renderPieces s depth (g args)

theorem run_call_congr {s : Scope} {depth : Nat} {f g : Text → Template}
    (h : s.Agree (depth + 1) f g) (piped : Option Value) (first : Bool) (source : Text) :
    (Call.ofSource f first source).run s depth piped =
      (Call.ofSource g first source).run s depth piped := by
  unfold Call.ofSource
  split
  · rfl
  · split
    · rfl
    · split
      · rfl
      · next token _ _ args _ =>
        simp only [Call.run]
        congr 1
        funext callable
        exact guardDepth_bind_congr fun hdepth => by rw [h hdepth args]

theorem runCalls_congr {s : Scope} {depth : Nat} {f g : Text → Template}
    (h : s.Agree (depth + 1) f g) (value : Value) (sources : List Text) :
    runCalls s depth value (sources.map (Call.ofSource f false)) =
      runCalls s depth value (sources.map (Call.ofSource g false)) := by
  induction sources generalizing value with
  | nil => rfl
  | cons source rest ih =>
    simp only [List.map_cons, runCalls, run_call_congr h, ih]

theorem eval_chain_congr {s : Scope} {depth : Nat} {f g : Text → Template}
    (h : s.Agree (depth + 1) f g) (t : Text) :
    (Chain.ofText f t).eval s depth = (Chain.ofText g t).eval s depth := by
  unfold Chain.ofText
  split
  · rfl
  · next head rest _ =>
    simp only [Chain.eval, runCalls_congr h]
    congr 1
    unfold Head.ofSource
    split
    · simp only [Head.eval, run_call_congr h]
    · rfl

theorem renderPieces_congr {s : Scope} {depth : Nat} {f g : Text → Template}
    (h : s.Agree (depth + 1) f g) (pieces : List Segment) :
    renderPieces s depth (pieces.map (Piece.ofSegment f)) =
      renderPieces s depth (pieces.map (Piece.ofSegment g)) := by
  induction pieces with
  | nil => rfl
  | cons piece rest ih =>
    simp only [List.map_cons, renderPieces, ih]
    congr 1
    cases piece with
    | plain c => rfl
    | tag t =>
      simp only [Piece.ofSegment]
      split
      · rfl
      · simp only [Piece.render, eval_chain_congr h]

/-- A tree that is read as deep as the scope allows renders like the whole tree. -/
theorem agree_ofTextWithin {s : Scope} {fuel depth : Nat} (h : s.maxDepth < depth + fuel) :
    s.Agree depth (Template.ofTextWithin fuel) Template.ofText := by
  induction fuel generalizing depth with
  | zero => intro hdepth; omega
  | succ fuel ih =>
    intro _ args
    rw [Template.ofText_eq]
    exact renderPieces_congr (ih (by omega)) _

theorem render_eq (s : Scope) (t : Text) :
    s.render t = (do s.guardDepth 0; renderPieces s 0 (Template.ofText t)) :=
  guardDepth_bind_congr fun hdepth => agree_ofTextWithin (by omega) hdepth t

theorem evaluate_eq (s : Scope) (t : Text) :
    s.evaluate t = (do printed (← (Chain.ofText Template.ofText t).eval s 0)) := by
  unfold evaluate
  rw [eval_chain_congr (agree_ofTextWithin (by omega)) t]

end Scope

end Stencil
