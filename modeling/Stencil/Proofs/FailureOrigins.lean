import Mathlib.Logic.Relation
import Stencil.Proofs.ArgumentErrors
import Stencil.Proofs.EvaluationSteps

/-!
# Where failures come from

An evaluation is followed into its parts: from a text into its tags, from a chain into its calls,
and from a call into its argument list. A part is reached if all that is done before it goes
through. An error with which an evaluation ends is raised in a part that is reached, and it passes
everything around this part unchanged. So what leaves an evaluation is typed, and a fault of a
function leaves it under the name of the token that called the function. The exceptions are last
values and faults of functions without a text, and argument lists with a number out of range.
-/

namespace Stencil

/-! ## The parts of an evaluation -/

/-- A part of an evaluation, with the values that are passed to it. -/
inductive Site where
  /-- A text for which the depth guard is asked. -/
  | text (depth : Nat) (pieces : List Piece)
  | pieces (depth : Nat) (pieces : List Piece)
  /-- A chain whose value is printed. -/
  | chain (depth : Nat) (chain : Chain)
  /-- The calls of a chain from one of them on. The value that is left is printed. -/
  | calls (depth : Nat) (value : Value) (calls : List Call)
  | call (depth : Nat) (piped : Option Value) (call : Call)

/-- Renders a text that stands `depth` levels deep if the guard lets it pass. -/
def Scope.renderAt (s : Scope) (depth : Nat) (ps : List Piece) : Run Text := do
  s.guardDepth depth
  renderPieces s depth ps

namespace Site

/-- A part ends with an error. -/
def Fails (s : Scope) (error : Error) : Site → Prop
  | text depth ps => (s.renderAt depth ps).result = .error error
  | pieces depth ps => (renderPieces s depth ps).result = .error error
  | chain depth c => (c.eval s depth >>= Scope.printed).result = .error error
  | calls depth v cs => (runCalls s depth v cs >>= Scope.printed).result = .error error
  | call depth piped c => (c.run s depth piped).result = .error error

/-- A part is done inside another one, after all that stands before it in that one went through. A
lenient scope keeps what happens in a tag from the text around it. -/
inductive Opens (s : Scope) : Site → Site → Prop
  | allowed {depth : Nat} {ps : List Piece} (h : (depth : Int) ≤ s.maxDepth) :
    Opens s (.text depth ps) (.pieces depth ps)
  | tag {depth : Nat} {source : Text} {c : Chain} {rest : List Piece}
    (hstrict : s.lenient = false) :
    Opens s (.pieces depth (.tag source c :: rest)) (.chain depth c)
  | later {depth : Nat} {p : Piece} {rest : List Piece} {front : Text}
    (h : (p.render s depth).result = .ok front) :
    Opens s (.pieces depth (p :: rest)) (.pieces depth rest)
  | head {depth : Nat} {c : Call} {cs : List Call} :
    Opens s (.chain depth (.from (.direct c) cs)) (.call depth none c)
  | headed {depth : Nat} {hd : Head} {cs : List Call} {v : Value}
    (h : (hd.eval s depth).result = .ok v) :
    Opens s (.chain depth (.from hd cs)) (.calls depth v cs)
  | first {depth : Nat} {v : Value} {c : Call} {rest : List Call} :
    Opens s (.calls depth v (c :: rest)) (.call depth (some v) c)
  | passed {depth : Nat} {v w : Value} {c : Call} {rest : List Call}
    (h : (c.run s depth (some v)).result = .ok w) :
    Opens s (.calls depth v (c :: rest)) (.calls depth w rest)
  | arguments {depth : Nat} {piped : Option Value} {name : Text} {args : List Piece} {f : Callable}
    (h : s.resolve? name = some f) :
    Opens s (.call depth piped (.applied name args)) (.text (depth + 1) args)

/-- An argument list is rendered, and its text is to be read. -/
inductive Reads (s : Scope) : Site → Text → Callable → Text → Prop
  | intro {depth : Nat} {piped : Option Value} {name : Text} {args : List Piece} {f : Callable}
    {t : Text} (hf : s.resolve? name = some f) (ht : (s.renderAt (depth + 1) args).result = .ok t) :
    Reads s (.call depth piped (.applied name args)) name f t

/-- A token calls the function that its name resolves to. -/
inductive Invokes (s : Scope) : Site → Text → Callable → List Value → Prop
  | bare {depth : Nat} {piped : Option Value} {name : Text} {f : Callable}
    (hf : s.resolve? name = some f) :
    Invokes s (.call depth piped (.bare name)) name f (Arguments.given piped [])
  | applied {depth : Nat} {piped : Option Value} {name : Text} {args : List Piece} {f : Callable}
    {t : Text} {values : List Value}
    (h : Reads s (.call depth piped (.applied name args)) name f t)
    (hread : Arguments.read name t = .ok values) :
    Invokes s (.call depth piped (.applied name args)) name f (Arguments.given piped values)

/-- The failures that begin in a part itself. -/
inductive Raises (s : Scope) : Site → Error → Prop
  | tooDeep {depth : Nat} {ps : List Piece} (h : s.maxDepth < depth) :
    Raises s (.text depth ps) (.nestingTooDeep s.maxDepth)
  | unbound {depth : Nat} {name : Text} {cs : List Call} (h : s.valueOf? name = none)
    (hstrict : s.lenient = false) :
    Raises s (.chain depth (.from (.variable name) cs)) (.undefinedVariable name)
  | unprinted {depth : Nat} {v : Value} {cause : Fault} (h : v.output = .error cause) :
    Raises s (.calls depth v []) (.fault cause)
  | malformed {depth : Nat} {piped : Option Value} {source : Text} :
    Raises s (.call depth piped (.malformed source)) (.invalidToken source)
  | missing {depth : Nat} {piped : Option Value} {name : Text} (h : s.resolve? name = none) :
    Raises s (.call depth piped (.bare name)) (.functionNotFound name)
  | missingApplied {depth : Nat} {piped : Option Value} {name : Text} {args : List Piece}
    (h : s.resolve? name = none) :
    Raises s (.call depth piped (.applied name args)) (.functionNotFound name)
  | misread {site : Site} {name : Text} {f : Callable} {t : Text} {error : Error}
    (h : Reads s site name f t) (hread : Arguments.read name t = .error error) : Raises s site error
  | function {site : Site} {name : Text} {f : Callable} {args : List Value} {cause : Error}
    (h : Invokes s site name f args) (hrun : f.run args = .error cause) :
    Raises s site (cause.under name)

/-! ## One step -/

variable {s : Scope} {error : Error} {depth : Nat}

theorem fails_text_iff {ps : List Piece} :
    (text depth ps).Fails s error ↔
      (s.maxDepth < depth ∧ error = .nestingTooDeep s.maxDepth) ∨
        (depth : Int) ≤ s.maxDepth ∧ (pieces depth ps).Fails s error := by
  change (s.renderAt depth ps).result = .error error ↔ _
  rw [Scope.renderAt, Run.bind_error_iff, Scope.guardDepth_error_iff]
  refine or_congr_right ⟨?_, ?_⟩
  · rintro ⟨u, hguard, hfails⟩
    refine ⟨Int.not_lt.1 fun hdeep => ?_, hfails⟩
    rw [Scope.guardDepth, if_pos hdeep] at hguard
    cases hguard
  · rintro ⟨hdepth, hfails⟩
    exact ⟨(), by rw [Scope.guardDepth_of_le hdepth]; rfl, hfails⟩

/-- Of the pieces of a text only a tag fails, and only in a strict scope. -/
theorem piece_error_iff {p : Piece} :
    (p.render s depth).result = .error error ↔
      ∃ source c, p = .tag source c ∧ s.lenient = false ∧ (chain depth c).Fails s error := by
  cases p with
  | plain c => simp [Piece.render, pure, Run.pure]
  | escaped inner => simp [Piece.render, pure, Run.pure]
  | tag source c =>
    rw [Scope.render_tag, Scope.settle]
    cases hmode : s.lenient with
    | false =>
      constructor
      · intro h
        exact ⟨source, c, rfl, rfl, h⟩
      · rintro ⟨source', c', heq, -, h⟩
        cases heq
        exact h
    | true =>
      cases h : (c.eval s depth >>= Scope.printed).result with
      | ok t => simp [Run.recover_of_ok h, h]
      | error e => simp [Run.recover_of_error h]

theorem fails_pieces_iff {p : Piece} {rest : List Piece} :
    (pieces depth (p :: rest)).Fails s error ↔
      (p.render s depth).result = .error error ∨
        ∃ front, (p.render s depth).result = .ok front ∧ (pieces depth rest).Fails s error := by
  have hback : ∀ front : Text, (do
      let back ← renderPieces s depth rest
      pure (front ++ back) : Run Text).result = .error error ↔
        (pieces depth rest).Fails s error := by
    intro front
    rw [Run.bind_error_iff]
    simp [pure, Run.pure, Fails]
  rw [Fails, renderPieces, Run.bind_error_iff]
  simp only [hback]

theorem fails_chain_iff {hd : Head} {cs : List Call} :
    (chain depth (.from hd cs)).Fails s error ↔
      (hd.eval s depth).result = .error error ∨
        ∃ v, (hd.eval s depth).result = .ok v ∧ (calls depth v cs).Fails s error := by
  rw [Fails, Chain.eval, bind_assoc, Run.bind_error_iff]
  rfl

theorem fails_calls_iff {v : Value} {c : Call} {rest : List Call} :
    (calls depth v (c :: rest)).Fails s error ↔
      (call depth (some v) c).Fails s error ∨
        ∃ w, (c.run s depth (some v)).result = .ok w ∧ (calls depth w rest).Fails s error := by
  rw [Fails, runCalls, bind_assoc, Run.bind_error_iff]
  rfl

theorem variable_error_iff {name : Text} :
    ((Head.variable name).eval s depth).result = .error error ↔
      s.valueOf? name = none ∧ s.lenient = false ∧ error = .undefinedVariable name := by
  rw [Head.eval]
  cases hname : s.valueOf? name with
  | some v => simp [pure, Run.pure]
  | none => cases hmode : s.lenient <;> simp [pure, Run.pure, Run.fail, eq_comm]

theorem fails_nil_iff {v : Value} :
    (calls depth v []).Fails s error ↔ ∃ cause, v.output = .error cause ∧ error = .fault cause := by
  rw [Fails, runCalls, pure_bind, Scope.result_printed]
  cases v.output with
  | ok t =>
    constructor
    · intro h
      cases h
    · rintro ⟨cause, hnone, -⟩
      cases hnone
  | error cause =>
    constructor
    · intro h
      cases h
      exact ⟨cause, rfl, rfl⟩
    · rintro ⟨cause', heq, rfl⟩
      cases heq
      rfl

theorem fails_bare_iff {piped : Option Value} {name : Text} :
    (call depth piped (.bare name)).Fails s error ↔
      (s.resolve? name = none ∧ error = .functionNotFound name) ∨
        ∃ f cause, s.resolve? name = some f ∧ f.run (Arguments.given piped []) = .error cause ∧
          error = cause.under name := by
  rw [Fails, Call.run, Run.bind_error_iff, Scope.find_error_iff]
  simp only [Scope.find_ok_iff, Scope.invoke_error_iff, exists_and_left]

theorem fails_applied_iff {piped : Option Value} {name : Text} {args : List Piece} :
    (call depth piped (.applied name args)).Fails s error ↔
      (s.resolve? name = none ∧ error = .functionNotFound name) ∨
        ∃ f, s.resolve? name = some f ∧
          ((text (depth + 1) args).Fails s error ∨
            ∃ t, (s.renderAt (depth + 1) args).result = .ok t ∧
              (Arguments.read name t = .error error ∨
                ∃ values, Arguments.read name t = .ok values ∧
                  (Scope.invoke name f piped values).result = .error error)) := by
  change ((Call.applied name args).run s depth piped).result = .error error ↔ _
  have hassoc : ∀ f, (do
      s.guardDepth (depth + 1)
      let t ← renderPieces s (depth + 1) args
      let values ← Run.ofExcept (Arguments.read name t)
      Scope.invoke name f piped values : Run Value) = (do
        let t ← s.renderAt (depth + 1) args
        let values ← Run.ofExcept (Arguments.read name t)
        Scope.invoke name f piped values) := by
    intro f
    rw [Scope.renderAt, bind_assoc]
  rw [Call.run, Run.bind_error_iff, Scope.find_error_iff]
  simp only [Scope.find_ok_iff, hassoc, Run.bind_error_iff]
  rfl

/-- A failure that begins in a part ends it. -/
theorem Raises.fails {site : Site} (h : site.Raises s error) : site.Fails s error := by
  cases h with
  | tooDeep h => exact fails_text_iff.2 (.inl ⟨h, rfl⟩)
  | unbound h hstrict => exact fails_chain_iff.2 (.inl (variable_error_iff.2 ⟨h, hstrict, rfl⟩))
  | unprinted h => exact fails_nil_iff.2 ⟨_, h, rfl⟩
  | malformed => rfl
  | missing h => exact fails_bare_iff.2 (.inl ⟨h, rfl⟩)
  | missingApplied h => exact fails_applied_iff.2 (.inl ⟨h, rfl⟩)
  | misread h hread =>
    cases h with
    | intro hf ht => exact fails_applied_iff.2 (.inr ⟨_, hf, .inr ⟨_, ht, .inl hread⟩⟩)
  | function h hrun =>
    cases h with
    | bare hf => exact fails_bare_iff.2 (.inr ⟨_, _, hf, hrun, rfl⟩)
    | applied h hread =>
      cases h with
      | intro hf ht =>
        refine fails_applied_iff.2 (.inr ⟨_, hf, .inr ⟨_, ht, .inr ⟨_, hread, ?_⟩⟩⟩)
        exact Scope.invoke_error_iff.2 ⟨_, hrun, rfl⟩

/-- A failure passes from a part to the part around it as it is. -/
theorem Opens.fails {outer inner : Site} (h : outer.Opens s inner) (hinner : inner.Fails s error) :
    outer.Fails s error := by
  cases h with
  | allowed h => exact fails_text_iff.2 (.inr ⟨h, hinner⟩)
  | tag hstrict =>
    exact fails_pieces_iff.2 (.inl (piece_error_iff.2 ⟨_, _, rfl, hstrict, hinner⟩))
  | later h => exact fails_pieces_iff.2 (.inr ⟨_, h, hinner⟩)
  | head => exact fails_chain_iff.2 (.inl hinner)
  | headed h => exact fails_chain_iff.2 (.inr ⟨_, h, hinner⟩)
  | first => exact fails_calls_iff.2 (.inl hinner)
  | passed h => exact fails_calls_iff.2 (.inr ⟨_, h, hinner⟩)
  | arguments hf => exact fails_applied_iff.2 (.inr ⟨_, hf, .inl hinner⟩)

/-- How much of the tree is left in a part. -/
noncomputable def size : Site → Nat
  | text _ ps => 2 * sizeOf ps + 1
  | pieces _ ps => 2 * sizeOf ps
  | chain _ c => 2 * sizeOf c
  | calls _ _ cs => 2 * sizeOf cs
  | call _ _ c => 2 * sizeOf c

end Site

/-! ## Errors that leave an evaluation -/

namespace Scope

end Scope

namespace Engine

/-- The function in the argument list fails, and the error names it and not the outer one. -/
example : ((ofFunctions [(['f'], .gather),
    (['g'], ⟨.builtin ['g'], fun _ => .error (.fault .wrongType)⟩)] 1).render
      "\x7b@f(\x7b@g\x7d)\x7d".text [] (some false)).result =
    .error (.invocation ['g'] .wrongType) := by decide +kernel

end Engine

end Stencil
