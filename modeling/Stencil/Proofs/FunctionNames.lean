import Stencil.Proofs.FunctionTables
import Stencil.Proofs.JoinedChains

/-!
# Names of functions

A table takes a function under the names that are tokens by themselves, and no others. Such a
name calls its function where it stands with the mark of a direct call in front, or behind a dot:
the cuts of the chain, the reading of the token and the order of the tiers let it through.
-/

namespace Stencil

open FunctionTable (isName isName_iff)

namespace Token

/-- A token by itself, without a mark or arguments, is its name and nothing around it: no line
feed, and no character beyond the letters, digits and underscores. -/
theorem read?_eq_bare_iff {name : Text} :
    read? name = some ⟨name, none, false⟩ ↔ isName name = true := by
  constructor
  · exact isName_of_read?
  · intro hname
    have hread : read? (⟨name, none, false⟩ : Token).source = some ⟨name, none, false⟩ :=
      read?_source hname
    rwa [source_bare] at hread

end Token

namespace Chain

variable {name : Text}

theorem ofText_direct_name (h : isName name = true) (nested : Text → Template) :
    ofText nested (Token.directMark :: name) = .from (.direct (.bare name)) [] := by
  have hsource : (⟨name, none, true⟩ : Token).source = Token.directMark :: name := by
    simp [Token.source]
  have hclosed : Closed (⟨name, none, true⟩ : Token).source := Token.closed_source h (by simp)
  have hcall : Call.ofSource nested true (⟨name, none, true⟩ : Token).source = .bare name := by
    rw [Call.ofSource_source h fun _ => rfl]
  unfold ofText
  rw [← hsource, hclosed.split_eq]
  change Chain.from (Head.ofSource nested (⟨name, none, true⟩ : Token).source) [] = _
  rw [Head.ofSource_direct rfl, hcall]

theorem ofText_piped_name (h : isName name = true) {v : Text} (hclosed : Closed v)
    (hmark : v.head? ≠ some Token.directMark) :
    ofText Template.ofText (v ++ .char '.' :: name) = .from (.variable v) [.bare name] := by
  have hsplit : split (v ++ .char '.' :: name) = [v, name] := by
    rw [(hclosed.whole.finished hclosed.nonempty).split_append_dot, hclosed.split_eq,
      (isPiece_of_isName h).closed.split_eq, List.singleton_append]
  unfold ofText
  rw [hsplit]
  simp [Head.ofSource, if_neg hmark, Call.ofSource_name h]

end Chain

namespace Scope

/-- Printing what a function gives calls nothing more, whether a value is piped into it or not. -/
theorem calls_invoke_bare (name : Text) (f : Callable) (piped : Option Value) :
    (do
      let r ← invoke name f piped []
      printed r : Run Text).calls = [(f.label, piped.toList)] := by
  cases piped with
  | none => exact calls_invoke_printed name f []
  | some value => exact calls_invoke_printed name f [value]

end Scope

namespace Engine

variable {e : Engine} {name : Text} {f : Callable}

/-- The table is the first tier: what it has under a name is what the name resolves to. -/
theorem resolve?_of_get? (h : e.table.get? name = some f) : e.resolve? name = some f := by
  simp [resolve?, resolveIn, tiers, h]

theorem resolve?_of_addFunction {e' : Engine} (h : e.addFunction (.text name) (some f) = .ok e') :
    isName name = true ∧ e'.resolve? name = some f := by
  obtain ⟨other, g, hv, hname, hg, rfl⟩ := addFunction_eq_ok_iff.1 h
  cases hv
  cases hg
  refine ⟨hname, resolve?_of_get? ?_⟩
  rw [FunctionTable.get?_insert, if_pos rfl]

/-- Tables and tokens agree on names. A function is taken under a text just if the text is a token
that is a name alone, and it is taken under the name of every token of any text. Whatever the
engine was before, the name then calls that function: with no arguments behind the mark of a direct
call, and with the value of a variable behind its dot; and it calls nothing else. -/
theorem addFunction_iff_token (e : Engine) (name : Text) (f : Callable) :
    ((∃ e', e.addFunction (.text name) (some f) = .ok e') ↔
      Token.read? name = some ⟨name, none, false⟩) ∧
    (∀ t token, Token.read? t = some token →
      ∃ e', e.addFunction (.text token.name) (some f) = .ok e') ∧
    (∀ e', e.addFunction (.text name) (some f) = .ok e' →
      ∀ (bindings : List (Text × Value)) (lenient : Option Bool),
        e'.evaluate (Token.directMark :: name) bindings lenient =
          (Scope.invoke name f none [] >>= Scope.printed) ∧
        (e'.evaluate (Token.directMark :: name) bindings lenient).calls = [(f.label, [])] ∧
        ∀ v value, Chain.Closed v → v.head? ≠ some Token.directMark →
          bindings.lookup v = some value →
          e'.evaluate (v ++ .char '.' :: name) bindings lenient =
            (Scope.invoke name f (some value) [] >>= Scope.printed) ∧
          (e'.evaluate (v ++ .char '.' :: name) bindings lenient).calls =
            [(f.label, [value])]) := by
  have htaken : ∀ other, isName other = true →
      ∃ e', e.addFunction (.text other) (some f) = .ok e' := by
    intro other hother
    exact ⟨_, addFunction_eq_ok_iff.2 ⟨other, f, rfl, hother, rfl, rfl⟩⟩
  refine ⟨?_, fun t token htoken => ?_, fun e' hadd bindings lenient => ?_⟩
  · rw [Token.read?_eq_bare_iff]
    constructor
    · rintro ⟨e', hadd⟩
      exact (resolve?_of_addFunction hadd).1
    · exact htaken name
  · exact htaken token.name (Token.isName_of_read? htoken)
  · obtain ⟨hname, hresolve⟩ := resolve?_of_addFunction hadd
    have hrun : ∀ piped, (Call.bare name).run (e'.scope bindings lenient) 0 piped =
        Scope.invoke name f piped [] := fun piped => Scope.run_bare hresolve 0 piped
    have hdirect : e'.evaluate (Token.directMark :: name) bindings lenient =
        (Scope.invoke name f none [] >>= Scope.printed) := by
      rw [evaluate_eq_value, value, Chain.ofText_direct_name hname, Chain.eval, Head.eval, hrun]
      simp [runCalls]
    refine ⟨hdirect, ?_, fun v value hclosed hmark hv => ?_⟩
    · rw [hdirect]
      exact Scope.calls_invoke_bare name f none
    · have hhead : (Head.variable v).eval (e'.scope bindings lenient) 0 = pure value := by
        simp [Head.eval, scope, hv]
      have hpiped : e'.evaluate (v ++ .char '.' :: name) bindings lenient =
          (Scope.invoke name f (some value) [] >>= Scope.printed) := by
        rw [evaluate_eq_value, Engine.value, Chain.ofText_piped_name hname hclosed hmark,
          Chain.eval, hhead, pure_bind, runCalls, hrun]
        simp [runCalls]
      refine ⟨hpiped, ?_⟩
      rw [hpiped]
      exact Scope.calls_invoke_bare name f (some value)

/-- The number of the arguments. -/
def argumentCount : Callable := ⟨.host ['n'], fun args => .ok (.int args.length)⟩

/-- A name that had a function before calls the new one. -/
theorem addFunction_replaced :
    Token.read? ['f'] = some ⟨['f'], none, false⟩ ∧ Chain.Closed ['v'] ∧
    ∃ e', gathering.addFunction (.text ['f']) (some argumentCount) = .ok e' ∧
      (e'.evaluate ['@', 'f'] [(['v'], .null)] none).result = .ok ['0'] ∧
      (e'.evaluate ['@', 'f'] [(['v'], .null)] none).calls = [(.host ['n'], [])] ∧
      (e'.evaluate ['v', '.', 'f'] [(['v'], .null)] none).result = .ok ['1'] ∧
      (e'.evaluate ['v', '.', 'f'] [(['v'], .null)] none).calls = [(.host ['n'], [.null])] := by
  have hread : Token.read? ['f'] = some ⟨['f'], none, false⟩ := by decide
  have hclosed : Chain.Closed ['v'] := by decide +kernel
  obtain ⟨htaken, -, hcalls⟩ := addFunction_iff_token gathering ['f'] argumentCount
  obtain ⟨e', hadd⟩ := htaken.2 hread
  obtain ⟨hdirect, hdirectCalls, hpiped⟩ := hcalls e' hadd [(['v'], .null)] none
  obtain ⟨hvalue, hvalueCalls⟩ := hpiped ['v'] .null hclosed (by decide) rfl
  refine ⟨hread, hclosed, e', hadd, ?_, hdirectCalls, ?_, hvalueCalls⟩
  · exact (congrArg Run.result hdirect).trans (by decide +kernel)
  · exact (congrArg Run.result hvalue).trans (by decide +kernel)

end Engine

end Stencil
