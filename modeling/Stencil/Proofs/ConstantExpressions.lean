import Stencil.Literal.Reading

/-!
# Constants as they are written

The values that arguments may have are those of constants, perhaps with a sign. The grammar
reads such an expression only from a constant between brackets and after signs, or from
adjacent quotations; every other rule makes something else of what it reads.
-/

namespace Stencil.Literal

/-- A constant, or a constant after signs. -/
def Expression.isPlain : Expression → Bool
  | constant _ => true
  | signed _ operand => operand.isPlain
  | _ => false

/-- Lexemes that a plain expression is written in. -/
inductive Written : List Lexeme → Prop where
  | number (n : Numeral) : Written [.number n]
  | word (t : Text) : Written [.word t]
  | ellipsis : Written [Grammar.mark "..."]
  | quotations (q : Quotation) (more : List Quotation) : Written ((q :: more).map .quotation)
  | signed {sign : Lexeme} {ls : List Lexeme} :
      sign = Grammar.mark "-" ∨ sign = Grammar.mark "+" → Written ls → Written (sign :: ls)
  | grouped {ls : List Lexeme} : Written ls → Written (Grammar.mark "(" :: (ls ++ [Grammar.mark ")"]))

/-- The parser reads plain expressions from lexemes that they are written in, and no others. -/
def Plainly (p : Parser Expression) : Prop :=
  ∀ ls e rest, p ls = some (e, rest) → e.isPlain = true → ∃ w, Written w ∧ ls = w ++ rest

namespace Grammar

theorem eq_cons_of_starts {l : Lexeme} {ls : List Lexeme} (h : starts l ls = true) :
    ls = l :: ls.drop 1 := by
  cases ls with
  | nil => cases h
  | cons first rest =>
    have hfirst : first = l := by simpa [starts] using h
    rw [hfirst]
    rfl

theorem eq_cons_of_expect {l : Lexeme} {ls rest : List Lexeme} (h : expect? l ls = some rest) :
    ls = l :: rest := by
  unfold expect? at h
  split at h
  · next hstarts =>
    cases h
    exact eq_cons_of_starts hstarts
  · cases h

variable {g : Recursion} {e : Expression} {ls rest : List Lexeme}

/-! ## Collections, clauses and calls -/

theorem operation_of_clausesUntil {close : Lexeme} (h : clausesUntil g close ls = some (e, rest)) :
    e = .operation := by
  obtain ⟨later, -, h⟩ := Option.bind_eq_some_iff.1 h
  obtain ⟨last, -, h⟩ := Option.bind_eq_some_iff.1 h
  cases h
  rfl

theorem operation_of_yielded (h : yielded g ls = some (e, rest)) : e = .operation := by
  unfold yielded at h
  split at h
  · obtain ⟨⟨_, later⟩, -, h⟩ := Option.bind_eq_some_iff.1 h
    obtain ⟨last, -, h⟩ := Option.bind_eq_some_iff.1 h
    cases h
    rfl
  · obtain ⟨⟨_, later⟩, -, h⟩ := Option.bind_eq_some_iff.1 h
    cases h
    rfl

/-- What stands in brackets alone is what its item makes of it. -/
theorem alone_of_bracketedTail {close : Lexeme} {alone : Expression → Option Expression}
    {together : List Expression → Expression} {first : Expression}
    (htogether : ∀ es, (together es).isPlain = false)
    (h : bracketedTail g close alone together first ls = some (e, rest)) (he : e.isPlain = true) :
    alone first = some e ∧ ls = close :: rest := by
  unfold bracketedTail at h
  split at h
  · obtain ⟨⟨es, later⟩, -, h⟩ := Option.bind_eq_some_iff.1 h
    cases h
    rw [htogether] at he
    cases he
  · split at h
    · split at h
      · cases h
      · rw [operation_of_clausesUntil h] at he
        cases he
    · obtain ⟨single, hsingle, h⟩ := Option.bind_eq_some_iff.1 h
      obtain ⟨later, hlater, h⟩ := Option.bind_eq_some_iff.1 h
      cases h
      exact ⟨hsingle, eq_cons_of_expect hlater⟩

/-- An item that is a plain expression is neither unpacked nor named. -/
theorem expression_of_element (h : element g ls = some (e, rest)) (he : e.isPlain = true) :
    g.rule .expression ls = some (e, rest) := by
  unfold element at h
  split at h
  · obtain ⟨⟨operand, later⟩, -, h⟩ := Option.bind_eq_some_iff.1 h
    cases h
    cases he
  · unfold named at h
    split at h
    · split at h
      · obtain ⟨⟨value, later⟩, -, h⟩ := Option.bind_eq_some_iff.1 h
        cases h
        cases he
      · exact h
    · exact h

theorem round_plain (hg : Plainly (g.rule .expression)) (h : round g ls = some (e, rest))
    (he : e.isPlain = true) : ∃ w, Written w ∧ ls = w ++ mark ")" :: rest := by
  unfold round at h
  split at h
  · cases h
    cases he
  · split at h
    · rw [operation_of_yielded h] at he
      cases he
    · obtain ⟨⟨first, later⟩, hfirst, h⟩ := Option.bind_eq_some_iff.1 h
      obtain ⟨halone, rfl⟩ := alone_of_bracketedTail (fun _ => rfl) h he
      unfold grouped at halone
      split at halone
      · cases halone
      · cases halone
        exact hg _ _ _ (expression_of_element hfirst he) he

theorem square_not_plain (h : square g ls = some (e, rest)) : e.isPlain = false := by
  unfold square at h
  split at h
  · cases h
    rfl
  · obtain ⟨⟨first, later⟩, -, h⟩ := Option.bind_eq_some_iff.1 h
    cases he : e.isPlain with
    | false => rfl
    | true =>
      obtain ⟨halone, -⟩ := alone_of_bracketedTail (fun _ => rfl) h he
      cases halone
      cases he

theorem entriesTail_not_plain {unpacked : Bool} {first : Expression × Expression}
    (h : entriesTail g unpacked first ls = some (e, rest)) : e.isPlain = false := by
  unfold entriesTail at h
  split at h
  · obtain ⟨⟨es, later⟩, -, h⟩ := Option.bind_eq_some_iff.1 h
    cases h
    rfl
  · split at h
    · split at h
      · cases h
      · rw [operation_of_clausesUntil h]
        rfl
    · obtain ⟨later, -, h⟩ := Option.bind_eq_some_iff.1 h
      cases h
      rfl

theorem memberTail_not_plain {first : Expression}
    (h : memberTail g first ls = some (e, rest)) : e.isPlain = false := by
  cases he : e.isPlain with
  | false => rfl
  | true =>
    obtain ⟨halone, -⟩ := alone_of_bracketedTail (fun _ => rfl) h he
    cases halone
    cases he

theorem curly_not_plain (h : curly g ls = some (e, rest)) : e.isPlain = false := by
  unfold curly at h
  split at h
  · cases h
    rfl
  · split at h
    · obtain ⟨⟨first, later⟩, -, h⟩ := Option.bind_eq_some_iff.1 h
      exact entriesTail_not_plain h
    · split at h
      · obtain ⟨⟨first, later⟩, -, h⟩ := Option.bind_eq_some_iff.1 h
        exact memberTail_not_plain h
      · obtain ⟨⟨key, later⟩, -, h⟩ := Option.bind_eq_some_iff.1 h
        dsimp only at h
        split at h
        · obtain ⟨⟨value, last⟩, -, h⟩ := Option.bind_eq_some_iff.1 h
          exact entriesTail_not_plain h
        · exact memberTail_not_plain h

theorem callTail_not_plain {callee : Expression}
    (h : callTail g callee ls = some (e, rest)) : e.isPlain = false := by
  unfold callTail at h
  split at h
  · cases h
    rfl
  · obtain ⟨⟨phase, later⟩, -, h⟩ := Option.bind_eq_some_iff.1 h
    dsimp only at h
    split at h
    · rw [operation_of_clausesUntil h]
      rfl
    · split at h
      · obtain ⟨last, -, h⟩ := Option.bind_eq_some_iff.1 h
        cases h
        rfl
      · obtain ⟨last, -, h⟩ := Option.bind_eq_some_iff.1 h
        cases h
        rfl

theorem indexTail_not_plain (h : indexTail g ls = some (e, rest)) : e.isPlain = false := by
  unfold indexTail at h
  split at h
  · cases h
  · obtain ⟨⟨_, later⟩, -, h⟩ := Option.bind_eq_some_iff.1 h
    cases h
    rfl

/-! ## Atoms and what follows them -/

theorem eq_append_of_quotations {joined : Expression}
    (h : quotations g joined ls = some (e, rest)) :
    ∃ qs : List Quotation, ls = qs.map .quotation ++ rest := by
  induction ls generalizing joined with
  | nil =>
    cases h
    exact ⟨[], rfl⟩
  | cons l later ih =>
    unfold quotations at h
    split at h
    · next q more heq =>
      cases heq
      obtain ⟨next, -, h⟩ := Option.bind_eq_some_iff.1 h
      obtain ⟨qs, hqs⟩ := ih h
      exact ⟨q :: qs, by rw [hqs]; rfl⟩
    · cases h
      exact ⟨[], rfl⟩

theorem atom_plain (hg : Plainly (g.rule .expression)) : Plainly (atom g) := by
  intro ls e rest h he
  unfold atom at h
  split at h
  · next q later =>
    obtain ⟨first, -, h⟩ := Option.bind_eq_some_iff.1 h
    obtain ⟨qs, rfl⟩ := eq_append_of_quotations h
    exact ⟨_, .quotations q qs, rfl⟩
  · next n later =>
    cases h
    exact ⟨_, .number n, rfl⟩
  · cases h
    cases he
  · next t later =>
    obtain ⟨constant, -, h⟩ := Option.map_eq_some_iff.1 h
    cases h
    exact ⟨_, .word t, rfl⟩
  · next m later =>
    split at h
    · next hm =>
      obtain ⟨w, hw, rfl⟩ := round_plain hg h he
      refine ⟨_, .grouped hw, ?_⟩
      rw [hm, List.cons_append, List.append_assoc]
      rfl
    · split at h
      · rw [square_not_plain h] at he
        cases he
      · split at h
        · rw [curly_not_plain h] at he
          cases he
        · split at h
          · next hm =>
            cases h
            exact ⟨_, .ellipsis, by rw [hm]; rfl⟩
          · cases h
  · cases h

/-- A plain expression has nothing after it. -/
theorem eq_of_trailers {fuel : Nat} {first : Expression}
    (h : trailers g fuel first ls = some (e, rest)) (he : e.isPlain = true) :
    e = first ∧ rest = ls := by
  induction fuel generalizing first ls with
  | zero => cases h
  | succ fuel ih =>
    have hnot : ∀ {other : Expression} {later : List Lexeme}, other.isPlain = false →
        trailers g fuel other later = some (e, rest) → e = first ∧ rest = ls := by
      intro other later hother hlater
      rw [(ih hlater).1, hother] at he
      cases he
    unfold trailers at h
    split at h
    · split at h
      · split at h
        · exact hnot rfl h
        · cases h
      · split at h
        · obtain ⟨⟨other, later⟩, hcall, h⟩ := Option.bind_eq_some_iff.1 h
          exact hnot (callTail_not_plain hcall) h
        · split at h
          · obtain ⟨⟨other, later⟩, hindex, h⟩ := Option.bind_eq_some_iff.1 h
            exact hnot (indexTail_not_plain hindex) h
          · cases h
            exact ⟨rfl, rfl⟩
    · cases h
      exact ⟨rfl, rfl⟩

theorem primary_plain (hg : Plainly (g.rule .expression)) : Plainly (primary g) := by
  intro ls e rest h he
  obtain ⟨⟨first, later⟩, hfirst, h⟩ := Option.bind_eq_some_iff.1 h
  obtain ⟨rfl, rfl⟩ := eq_of_trailers h he
  exact atom_plain hg _ _ _ hfirst he

/-! ## Operators -/

theorem power_plain (hg : Plainly (g.rule .expression)) : Plainly (power g) := by
  intro ls e rest h he
  unfold power at h
  dsimp only at h
  split at h
  · -- What is awaited is an operation, with an exponent and without.
    obtain ⟨⟨_, later⟩, -, h⟩ := Option.bind_eq_some_iff.1 h
    obtain ⟨⟨_, _⟩, hawaited, h⟩ := Option.bind_eq_some_iff.1 h
    cases hawaited
    split at h
    · obtain ⟨⟨_, last⟩, -, h⟩ := Option.bind_eq_some_iff.1 h
      cases h
      cases he
    · cases h
      cases he
  · obtain ⟨⟨base, later⟩, hprimary, h⟩ := Option.bind_eq_some_iff.1 h
    split at h
    · obtain ⟨⟨_, last⟩, -, h⟩ := Option.bind_eq_some_iff.1 h
      cases h
      cases he
    · cases h
      exact primary_plain hg _ _ _ hprimary he

theorem factor_plain (hg : ∀ r, Plainly (g.rule r)) : Plainly (factor g) := by
  intro ls e rest h he
  -- A sign stands before what the rule reads after it.
  have hsigned : ∀ {sign : Lexeme} {operand : Expression} {later : List Lexeme},
      sign = mark "-" ∨ sign = mark "+" → starts sign ls = true →
      g.rule .factor (ls.drop 1) = some (operand, later) → operand.isPlain = true →
      ∃ w, Written w ∧ ls = w ++ later := by
    intro sign operand later hsign hstarts hoperand hplain
    obtain ⟨w, hw, hlater⟩ := hg .factor _ _ _ hoperand hplain
    exact ⟨_, .signed hsign hw, by rw [List.cons_append, ← hlater]; exact eq_cons_of_starts hstarts⟩
  unfold factor at h
  split at h
  · next hstarts =>
    obtain ⟨⟨operand, later⟩, hoperand, h⟩ := Option.bind_eq_some_iff.1 h
    cases h
    exact hsigned (.inl rfl) hstarts hoperand he
  · split at h
    · next hstarts =>
      obtain ⟨⟨operand, later⟩, hoperand, h⟩ := Option.bind_eq_some_iff.1 h
      cases h
      exact hsigned (.inr rfl) hstarts hoperand he
    · split at h
      · obtain ⟨⟨_, later⟩, -, h⟩ := Option.bind_eq_some_iff.1 h
        cases h
        cases he
      · exact power_plain (hg .expression) _ _ _ h he

section

variable {operators : List Lexeme} {combine : Expression → Expression → Expression}
  {operand : Parser Expression}

theorem eq_of_chainTail {fuel : Nat} {left : Expression}
    (hcombine : ∀ left right, (combine left right).isPlain = false)
    (h : chainTail operators combine operand fuel left ls = some (e, rest)) (he : e.isPlain = true) :
    e = left ∧ rest = ls := by
  induction fuel generalizing left ls with
  | zero => cases h
  | succ fuel ih =>
    unfold chainTail at h
    split at h
    · obtain ⟨⟨right, later⟩, -, h⟩ := Option.bind_eq_some_iff.1 h
      rw [(ih h).1, hcombine] at he
      cases he
    · cases h
      exact ⟨rfl, rfl⟩

theorem chain_plain (hcombine : ∀ left right, (combine left right).isPlain = false)
    (hoperand : Plainly operand) : Plainly (chain operators combine operand) := by
  intro ls e rest h he
  obtain ⟨⟨left, later⟩, hleft, h⟩ := Option.bind_eq_some_iff.1 h
  obtain ⟨rfl, rfl⟩ := eq_of_chainTail hcombine h he
  exact hoperand _ _ _ hleft he

theorem operations_plain (hoperand : Plainly operand) : Plainly (operations operators operand) :=
  chain_plain (fun _ _ => rfl) hoperand

end

theorem bitwise_plain (hg : ∀ r, Plainly (g.rule r)) : Plainly (bitwise g) := by
  have hproduct : Plainly (product g) := operations_plain (factor_plain hg)
  have hsum : Plainly (sum g) := chain_plain (fun _ _ => rfl) hproduct
  exact operations_plain (operations_plain (operations_plain (operations_plain hsum)))

theorem eq_of_comparisons {fuel : Nat} {left : Expression}
    (h : comparisons g fuel left ls = some (e, rest)) (he : e.isPlain = true) :
    e = left ∧ rest = ls := by
  induction fuel generalizing left ls with
  | zero => cases h
  | succ fuel ih =>
    unfold comparisons at h
    split at h
    · obtain ⟨⟨right, later⟩, -, h⟩ := Option.bind_eq_some_iff.1 h
      rw [(ih h).1] at he
      cases he
    · cases h
      exact ⟨rfl, rfl⟩

theorem inversion_plain (hg : ∀ r, Plainly (g.rule r)) : Plainly (inversion g) := by
  intro ls e rest h he
  unfold inversion at h
  split at h
  · obtain ⟨⟨_, later⟩, -, h⟩ := Option.bind_eq_some_iff.1 h
    cases h
    cases he
  · obtain ⟨⟨left, later⟩, hleft, h⟩ := Option.bind_eq_some_iff.1 h
    obtain ⟨rfl, rfl⟩ := eq_of_comparisons h he
    exact bitwise_plain hg _ _ _ hleft he

theorem disjunction_plain (hg : ∀ r, Plainly (g.rule r)) : Plainly (disjunction g) :=
  operations_plain (operations_plain (inversion_plain hg))

theorem expression_plain (hg : ∀ r, Plainly (g.rule r)) : Plainly (expression g) := by
  intro ls e rest h he
  unfold expression at h
  split at h
  · obtain ⟨later, -, h⟩ := Option.bind_eq_some_iff.1 h
    obtain ⟨⟨_, last⟩, -, h⟩ := Option.bind_eq_some_iff.1 h
    cases h
    cases he
  · obtain ⟨⟨first, later⟩, hfirst, h⟩ := Option.bind_eq_some_iff.1 h
    dsimp only at h
    split at h
    · obtain ⟨⟨_, a⟩, -, h⟩ := Option.bind_eq_some_iff.1 h
      obtain ⟨b, -, h⟩ := Option.bind_eq_some_iff.1 h
      obtain ⟨⟨_, c⟩, -, h⟩ := Option.bind_eq_some_iff.1 h
      cases h
      cases he
    · cases h
      exact disjunction_plain hg _ _ _ hfirst he

theorem ofRule_plain (hg : ∀ r, Plainly (g.rule r)) : ∀ r, Plainly (ofRule g r)
  | .expression => expression_plain hg
  | .disjunction => disjunction_plain hg
  | .inversion => inversion_plain hg
  | .bitwise => bitwise_plain hg
  | .factor => factor_plain hg
  | .primary => primary_plain (hg .expression)

/-- Every rule of the grammar reads plain expressions as they are written. -/
theorem apply_plain (formatted : Bool → Text → Bool) (fuel : Nat) (r : Rule) :
    Plainly (apply formatted fuel r) := by
  induction fuel generalizing r with
  | zero =>
    intro ls e rest h
    cases h
  | succ fuel ih => exact ofRule_plain ih r

end Grammar

/-! ## Literals -/

/-- Collections have no value, whether their parts are refused or not. -/
theorem collection_ne_value {β : Type} (parts : Except Refusal β) (hashable : β → Bool) (v : Value) :
    (parts >>= fun b => pure (Datum.collection (hashable b))).bind valueOf ≠ .ok v := by
  intro h
  cases parts with
  | error r => cases h
  | ok b => cases h

/-- Only plain expressions have the value of an argument. -/
theorem isPlain_of_value {e : Expression} {v : Value} (h : e.denote.bind valueOf = .ok v) :
    e.isPlain = true := by
  cases e with
  | constant d => rfl
  | signed minus operand =>
    cases operand with
    | constant d => rfl
    | _ => cases h
  | sum left right =>
    unfold Expression.denote Expression.addImaginary at h
    split at h
    · split at h
      · cases h
      · cases h
    · cases h
    · cases h
  | tuple items => exact absurd h (collection_ne_value (Expression.denoteItems items) id v)
  | list items =>
    exact absurd h (collection_ne_value (Expression.denoteItems items) (fun _ => false) v)
  | set items =>
    exact absurd h (collection_ne_value (Expression.denoteMembers items) (fun _ => false) v)
  | dict entries =>
    exact absurd h (collection_ne_value (Expression.denoteEntries entries) (fun _ => false) v)
  | call callee =>
    unfold Expression.denote at h
    split at h
    · cases h
    · cases h
  | _ => cases h

/-- The lexemes of a literal with a value are those that a plain expression is written in,
between ends of lines. -/
theorem written_of_read {t : Text} {v : Value} (h : read t = .ok v) :
    ∃ ls w rest, Lexeme.ofText? t = some ls ∧ Written w ∧
      ls.dropWhile (· == .lineEnd) ++ [.lineEnd] = w ++ rest ∧ ∀ l ∈ rest, l = .lineEnd := by
  unfold read at h
  split at h
  · cases h
  · next e he =>
    have hplain := isPlain_of_value h
    obtain ⟨ls, hls, he⟩ := Option.bind_eq_some_iff.1 he
    obtain ⟨⟨first, later⟩, hline, he⟩ := Option.bind_eq_some_iff.1 he
    dsimp only at he
    split at he
    · next hends =>
      cases he
      have hends : ∀ l ∈ later, l = .lineEnd := by simpa using hends
      obtain ⟨⟨single, last⟩, hsingle, hline⟩ := Option.bind_eq_some_iff.1 hline
      dsimp only at hline
      split at hline
      · obtain ⟨⟨es, behind⟩, -, hline⟩ := Option.bind_eq_some_iff.1 hline
        cases hline
        cases hplain
      · obtain ⟨behind, hbehind, hline⟩ := Option.bind_eq_some_iff.1 hline
        cases hline
        obtain ⟨w, hw, hsplit⟩ := Grammar.apply_plain _ _ _ _ _ _ hsingle hplain
        refine ⟨ls, w, last, hls, hw, hsplit, ?_⟩
        rw [Grammar.eq_cons_of_expect hbehind]
        exact List.forall_mem_cons.2 ⟨rfl, hends⟩
    · cases he

end Stencil.Literal
