import Stencil.Arguments

/-!
# Errors of argument lists

An argument list that cannot be read is refused under the name of the function it belongs to, with
one exception: a number in it that is too large for an imaginary sum ends the reading with a fault.
-/

namespace Stencil.Arguments

/-- Among the items of a list is a literal that denotes a number out of range. -/
def Overflows (text : Text) : Prop :=
  ∃ items, itemsFrom none false [] text = some items ∧
    ∃ item ∈ dropTrailing (items.map Text.trim), Literal.read item = .error .overflow

theorem readItem_error {function item : Text} {error : Error}
    (h : readItem function item = .error error) :
    (∃ flaw, error = .badArguments function (some flaw)) ∨
      Literal.read item = .error .overflow ∧ error = .fault .outOfRange := by
  unfold readItem at h
  split at h
  · cases h
    exact .inl ⟨.empty, rfl⟩
  · split at h
    · cases h
    · split at h
      · cases h
      · split at h
        · cases h
        · cases h
          exact .inl ⟨.notLiteral item, rfl⟩
        · cases h
          exact .inl ⟨.unsupported item, rfl⟩
        · next hoverflow =>
          cases h
          exact .inr ⟨hoverflow, rfl⟩

/-- A list is refused for one of its items. -/
theorem exists_of_mapM_error {f : Text → Except Error Value} {items : List Text} {error : Error}
    (h : items.mapM f = .error error) : ∃ item ∈ items, f item = .error error := by
  induction items with
  | nil => cases h
  | cons item rest ih =>
    rw [List.mapM_cons] at h
    cases hitem : f item with
    | error first =>
      rw [hitem] at h
      cases h
      exact ⟨item, List.mem_cons_self, hitem⟩
    | ok v =>
      rw [hitem] at h
      cases hrest : rest.mapM f with
      | error later =>
        rw [hrest] at h
        cases h
        obtain ⟨other, hmem, hother⟩ := ih hrest
        exact ⟨other, List.mem_cons_of_mem item hmem, hother⟩
      | ok vs =>
        rw [hrest] at h
        cases h

theorem read_error {function text : Text} {error : Error} (h : read function text = .error error) :
    (∃ flaw, error = .badArguments function (some flaw)) ∨
      Overflows text ∧ error = .fault .outOfRange := by
  unfold read at h
  split at h
  · cases h
  · split at h
    · cases h
      exact .inl ⟨.unterminated, rfl⟩
    · next items hitems =>
      obtain ⟨item, hmem, hitem⟩ := exists_of_mapM_error h
      rcases readItem_error hitem with hflaw | ⟨hoverflow, hfault⟩
      · exact .inl hflaw
      · exact .inr ⟨⟨items, hitems, item, hmem, hoverflow⟩, hfault⟩

end Stencil.Arguments
