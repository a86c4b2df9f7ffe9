import Stencil.Engine
import Stencil.Proofs.Traces

/-!
# Related scopes

Two runs of one template in two scopes are compared step by step. A relation between
runs that holds of each step the two scopes share, of the names they are asked for and
of the policy at a tag, and that binding keeps, holds of the two runs of every tree.
-/

namespace Stencil

mutual

/-- The variables that a piece reads: the heads of its chains that are no direct calls,
at any nesting level. Escaped tags read none. -/
def Piece.heads : Piece → List Text
  | .plain _ => []
  | .escaped _ => []
  | .tag _ chain => chain.heads
termination_by structural p => p

def piecesHeads : List Piece → List Text
  | [] => []
  | p :: rest => p.heads ++ piecesHeads rest
termination_by structural ps => ps

def Chain.heads : Chain → List Text
  | .empty => []
  | .from head calls => head.heads ++ callsHeads calls
termination_by structural c => c

def Head.heads : Head → List Text
  | .variable name => [name]
  | .direct call => call.heads
termination_by structural h => h

def callsHeads : List Call → List Text
  | [] => []
  | call :: rest => call.heads ++ callsHeads rest
termination_by structural cs => cs

def Call.heads : Call → List Text
  | .malformed _ => []
  | .bare _ => []
  | .applied _ args => piecesHeads args
termination_by structural c => c

end

/-- The chain heads of a text that are no direct calls, at any nesting level. -/
def Template.heads (t : Text) : List Text := piecesHeads (Template.ofText t)

namespace Scope

/-- The policy at a tag: a lenient scope renders a failed tag empty. -/
def settle (s : Scope) (source : Text) (run : Run Text) : Run Text :=
  if s.lenient then run.recover source [] else run

theorem render_tag (s : Scope) (depth : Nat) (source : Text) (chain : Chain) :
    (Piece.tag source chain).render s depth =
      s.settle source (chain.eval s depth >>= printed) := rfl

/-- A relation between the runs in two scopes that every step of an evaluation keeps. -/
structure Related (R : (α : Type) → Run α → Run α → Prop) (names : List Text)
    (s s' : Scope) : Prop where
  calm : ∀ {α : Type} {x : Run α}, x.failures = [] → R α x x
  bind : ∀ {α β : Type} {x y : Run α} {f g : α → Run β},
    R α x y → (∀ a, R β (f a) (g a)) → R β (x >>= f) (y >>= g)
  find : ∀ name, R Callable (s.find name) (s'.find name)
  guard : ∀ depth, R Unit (s.guardDepth depth) (s'.guardDepth depth)
  head : ∀ depth, ∀ name ∈ names,
    R Value ((Head.variable name).eval s depth) ((Head.variable name).eval s' depth)
  settle : ∀ source {x y : Run Text}, R Text x y → R Text (s.settle source x) (s'.settle source y)

theorem failures_find (s : Scope) (name : Text) : (s.find name).failures = [] := by
  unfold find
  split <;> rfl

theorem failures_guardDepth (s : Scope) (depth : Nat) : (s.guardDepth depth).failures = [] := by
  unfold guardDepth
  split <;> rfl

theorem failures_printed (v : Value) : (printed v).failures = [] := by
  unfold printed
  split <;> rfl

theorem failures_invoke (name : Text) (f : Callable) (piped : Option Value) (args : List Value) :
    (invoke name f piped args).failures = [] := rfl

namespace Related

variable {R : (α : Type) → Run α → Run α → Prop} {names : List Text} {s s' : Scope}

theorem invoke (h : Related R names s s') (name : Text) (f : Callable) (piped : Option Value)
    (args : List Value) :
    R Value (Scope.invoke name f piped args) (Scope.invoke name f piped args) :=
  h.calm (failures_invoke name f piped args)

mutual

theorem piece (h : Related R names s s') (depth : Nat) :
    ∀ p : Piece, p.heads ⊆ names → R Text (p.render s depth) (p.render s' depth)
  | .plain _, _ => h.calm rfl
  | .escaped _, _ => h.calm rfl
  | .tag source c, hp => by
    rw [render_tag, render_tag]
    exact h.settle source (h.bind (chain h depth c hp) fun v => h.calm (failures_printed v))
termination_by structural p => p

theorem pieces (h : Related R names s s') (depth : Nat) :
    ∀ ps : List Piece, piecesHeads ps ⊆ names →
      R Text (renderPieces s depth ps) (renderPieces s' depth ps)
  | [], _ => h.calm rfl
  | p :: rest, hps => by
    obtain ⟨hp, hrest⟩ := List.append_subset.1 hps
    refine h.bind (piece h depth p hp) fun front => ?_
    exact h.bind (pieces h depth rest hrest) fun back => h.calm rfl
termination_by structural ps => ps

theorem chain (h : Related R names s s') (depth : Nat) :
    ∀ c : Chain, c.heads ⊆ names → R Value (c.eval s depth) (c.eval s' depth)
  | .empty, _ => h.calm rfl
  | .from hd calls, hc => by
    obtain ⟨hhead, hcalls⟩ := List.append_subset.1 hc
    exact h.bind (headOf h depth hd hhead) fun value => callsOf h depth value calls hcalls
termination_by structural c => c

theorem headOf (h : Related R names s s') (depth : Nat) :
    ∀ hd : Head, hd.heads ⊆ names → R Value (hd.eval s depth) (hd.eval s' depth)
  | .variable name, hhd => h.head depth name (hhd (List.mem_singleton.2 rfl))
  | .direct c, hhd => call h depth none c hhd
termination_by structural hd => hd

theorem callsOf (h : Related R names s s') (depth : Nat) (value : Value) :
    ∀ cs : List Call, callsHeads cs ⊆ names →
      R Value (runCalls s depth value cs) (runCalls s' depth value cs)
  | [], _ => h.calm rfl
  | c :: rest, hcs => by
    obtain ⟨hc, hrest⟩ := List.append_subset.1 hcs
    exact h.bind (call h depth (some value) c hc) fun v => callsOf h depth v rest hrest
termination_by structural cs => cs

theorem call (h : Related R names s s') (depth : Nat) (piped : Option Value) :
    ∀ c : Call, c.heads ⊆ names → R Value (c.run s depth piped) (c.run s' depth piped)
  | .malformed _, _ => h.calm rfl
  | .bare name, _ => h.bind (h.find name) fun f => h.invoke name f piped []
  | .applied name args, hc => by
    refine h.bind (h.find name) fun f => ?_
    refine h.bind (h.guard (depth + 1)) fun _ => ?_
    refine h.bind (pieces h (depth + 1) args hc) fun text => ?_
    exact h.bind (h.calm rfl) fun values => h.invoke name f piped values
termination_by structural c => c

end

/-- The relation holds of the two renders of a text whose heads it knows. -/
theorem render (h : Related R names s s') {t : Text} (ht : Template.heads t ⊆ names) :
    R Text (s.render t) (s'.render t) := by
  rw [render_eq, render_eq]
  exact h.bind (h.guard 0) fun _ => h.pieces 0 (Template.ofText t) ht

end Related

end Scope

/-- A lenient engine that has the given functions and nothing else. -/
def Engine.ofFunctions (functions : List (Text × Callable)) (maxDepth : Int) : Engine :=
  ⟨.ofList functions, .empty, [], true, maxDepth⟩

/-- The list of the arguments. -/
def Callable.gather : Callable := ⟨.builtin ['f'], fun args => .ok (.list args)⟩

/-- An engine whose one function lists its arguments. -/
def Engine.gathering : Engine := .ofFunctions [(['f'], .gather)] 1

end Stencil
