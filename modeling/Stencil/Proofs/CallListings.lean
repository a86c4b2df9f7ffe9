import Stencil.Template

/-!
# Listings of calls

What a template calls is listed from its tree alone: tags in the order of the text, the tokens of
a chain from left to right, and the calls of the tags in an argument list before the call that it
belongs to. The same listing with all that is done between the calls is that of the steps.
-/

namespace Stencil

/-! ## Listings of names -/

mutual

/-- The names that a piece calls, each where its call is made. -/
def Piece.callees : Piece → List Text
  | .plain _ => []
  | .escaped _ => []
  | .tag _ chain => chain.callees
termination_by structural p => p

def piecesCallees : List Piece → List Text
  | [] => []
  | p :: rest => p.callees ++ piecesCallees rest
termination_by structural ps => ps

def Chain.callees : Chain → List Text
  | .empty => []
  | .from head calls => head.callees ++ callsCallees calls
termination_by structural c => c

def Head.callees : Head → List Text
  | .variable _ => []
  | .direct call => call.callees
termination_by structural h => h

def callsCallees : List Call → List Text
  | [] => []
  | call :: rest => call.callees ++ callsCallees rest
termination_by structural cs => cs

def Call.callees : Call → List Text
  | .malformed _ => []
  | .bare name => [name]
  | .applied name args => piecesCallees args ++ [name]
termination_by structural c => c

end

/-- The names that a text calls: those in an argument list before the name in front of it. -/
def Template.callees (t : Text) : List Text := piecesCallees (Template.ofText t)

/-! ## Listings of steps -/

/-- One thing that an evaluation does, which may fail. A tag is a step of its own: what fails in
it may be caught there. -/
inductive Step where
  | read (name : Text)
  | reject (source : Text)
  | find (name : Text)
  | enter (depth : Nat)
  | readArguments (name : Text)
  | call (name : Text)
  | print
  | tag (steps : List Step)

def Step.callee? : Step → Option Text
  | call name => some name
  | _ => none

mutual

/-- The steps of a piece that stands `depth` levels deep. -/
def Piece.steps (depth : Nat) : Piece → List Step
  | .plain _ => []
  | .escaped _ => []
  | .tag _ chain => [.tag (chain.steps depth ++ [.print])]
termination_by structural p => p

def piecesSteps (depth : Nat) : List Piece → List Step
  | [] => []
  | p :: rest => p.steps depth ++ piecesSteps depth rest
termination_by structural ps => ps

def Chain.steps (depth : Nat) : Chain → List Step
  | .empty => []
  | .from head calls => head.steps depth ++ callsSteps depth calls
termination_by structural c => c

def Head.steps (depth : Nat) : Head → List Step
  | .variable name => [.read name]
  | .direct call => call.steps depth
termination_by structural h => h

def callsSteps (depth : Nat) : List Call → List Step
  | [] => []
  | call :: rest => call.steps depth ++ callsSteps depth rest
termination_by structural cs => cs

/-- The tags of an argument list stand between the search for the function, which may fail before
them, and the reading of the arguments, which may fail behind them. -/
def Call.steps (depth : Nat) : Call → List Step
  | .malformed source => [.reject source]
  | .bare name => [.find name, .call name]
  | .applied name args =>
    [.find name, .enter (depth + 1)] ++ (piecesSteps (depth + 1) args ++
      [.readArguments name, .call name])
termination_by structural c => c

end

/-- The steps of a render. -/
def Template.steps (t : Text) : List Step := .enter 0 :: piecesSteps 0 (Template.ofText t)

mutual

/-- The steps without the bounds of the tags. -/
def Step.leaves : Step → List Step
  | .tag steps => stepsLeaves steps
  | .read name => [.read name]
  | .reject source => [.reject source]
  | .find name => [.find name]
  | .enter depth => [.enter depth]
  | .readArguments name => [.readArguments name]
  | .call name => [.call name]
  | .print => [.print]
termination_by structural step => step

def stepsLeaves : List Step → List Step
  | [] => []
  | step :: rest => step.leaves ++ stepsLeaves rest
termination_by structural steps => steps

end

/-- The names that steps call, in order. -/
def stepsCallees (steps : List Step) : List Text := (stepsLeaves steps).filterMap Step.callee?

/-! ## What the steps call -/

theorem stepsLeaves_append (front back : List Step) :
    stepsLeaves (front ++ back) = stepsLeaves front ++ stepsLeaves back := by
  induction front with
  | nil => rfl
  | cons step rest ih => rw [List.cons_append, stepsLeaves, stepsLeaves, ih, List.append_assoc]

theorem stepsCallees_append (front back : List Step) :
    stepsCallees (front ++ back) = stepsCallees front ++ stepsCallees back := by
  unfold stepsCallees
  rw [stepsLeaves_append, List.filterMap_append]

theorem stepsCallees_leaf {step : Step} (h : step.leaves = [step]) (rest : List Step) :
    stepsCallees (step :: rest) = step.callee?.toList ++ stepsCallees rest := by
  unfold stepsCallees
  rw [stepsLeaves, h, List.singleton_append, List.filterMap_cons]
  cases step.callee? <;> rfl

theorem stepsCallees_tag (steps rest : List Step) :
    stepsCallees (.tag steps :: rest) = stepsCallees steps ++ stepsCallees rest :=
  List.filterMap_append

mutual

theorem Piece.callees_steps (depth : Nat) :
    ∀ p : Piece, stepsCallees (p.steps depth) = p.callees
  | .plain _ => rfl
  | .escaped _ => rfl
  | .tag _ chain => by
    rw [Piece.steps, stepsCallees_tag, stepsCallees_append, Chain.callees_steps depth chain]
    exact (List.append_nil _).trans (List.append_nil _)
termination_by structural p => p

theorem piecesCallees_steps (depth : Nat) :
    ∀ ps : List Piece, stepsCallees (piecesSteps depth ps) = piecesCallees ps
  | [] => rfl
  | p :: rest => by
    rw [piecesSteps, stepsCallees_append, Piece.callees_steps depth p,
      piecesCallees_steps depth rest, piecesCallees]
termination_by structural ps => ps

theorem Chain.callees_steps (depth : Nat) :
    ∀ c : Chain, stepsCallees (c.steps depth) = c.callees
  | .empty => rfl
  | .from head calls => by
    rw [Chain.steps, stepsCallees_append, Head.callees_steps depth head,
      callsCallees_steps depth calls, Chain.callees]
termination_by structural c => c

theorem Head.callees_steps (depth : Nat) :
    ∀ h : Head, stepsCallees (h.steps depth) = h.callees
  | .variable _ => rfl
  | .direct call => Call.callees_steps depth call
termination_by structural h => h

theorem callsCallees_steps (depth : Nat) :
    ∀ cs : List Call, stepsCallees (callsSteps depth cs) = callsCallees cs
  | [] => rfl
  | call :: rest => by
    rw [callsSteps, stepsCallees_append, Call.callees_steps depth call,
      callsCallees_steps depth rest, callsCallees]
termination_by structural cs => cs

theorem Call.callees_steps (depth : Nat) :
    ∀ c : Call, stepsCallees (c.steps depth) = c.callees
  | .malformed _ => rfl
  | .bare _ => rfl
  | .applied name args => by
    rw [Call.steps, stepsCallees_append, stepsCallees_append,
      piecesCallees_steps (depth + 1) args]
    rfl
termination_by structural c => c

end

/-- The steps of a render call what the text calls. -/
theorem Template.callees_steps (t : Text) : stepsCallees (Template.steps t) = Template.callees t :=
  piecesCallees_steps 0 (Template.ofText t)

end Stencil
