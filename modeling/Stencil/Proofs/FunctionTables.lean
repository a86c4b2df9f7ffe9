import Stencil.Proofs.Outcomes
import Stencil.Registration

/-!
# Function tables

What a table has under a name after it was changed under another or the same, and the order in
which it keeps its names. What adding does with a name decides before the function is looked at.
-/

namespace Stencil

/-! ## Values without a text -/

namespace Value

theorem fault_of_intText {n : Int} {fault : Fault} (h : intText n = .error fault) :
    fault = .badValue := by
  unfold intText at h
  split at h
  · cases h
  · cases h
    rfl

mutual

/-- A value has no text only for a whole number in it that has none. -/
theorem fault_of_quoted {fault : Fault} : ∀ v : Value, v.quoted = .error fault → fault = .badValue
  | .null, h => by cases h
  | .bool _, h => by cases h
  | .int n, h => fault_of_intText (n := n) h
  | .float _, h => by cases h
  | .text _, h => by cases h
  | .list items, h => by
    rcases Fault.error_of_bind h with hitems | ⟨texts, hrest⟩
    · exact fault_of_quotedItems items hitems
    · cases hrest
  | .tuple items, h => by
    rcases Fault.error_of_bind h with hitems | ⟨texts, hrest⟩
    · exact fault_of_quotedItems items hitems
    · split at hrest <;> cases hrest
  | .dict entries, h => by
    rcases Fault.error_of_bind h with hentries | ⟨texts, hrest⟩
    · exact fault_of_quotedEntries entries hentries
    · cases hrest
  | .bytes _, h => by cases h
  | .decimal _, h => by cases h
  | .date _, h => by cases h
  | .iterable .., h => by cases h
termination_by structural v => v

theorem fault_of_quotedItems {fault : Fault} :
    ∀ items : List Value, quotedItems items = .error fault → fault = .badValue
  | [], h => by cases h
  | v :: rest, h => by
    rcases Fault.error_of_bind h with hfirst | ⟨text, h⟩
    · exact fault_of_quoted v hfirst
    · rcases Fault.error_of_bind h with hrest | ⟨texts, hdone⟩
      · exact fault_of_quotedItems rest hrest
      · cases hdone
termination_by structural items => items

theorem fault_of_quotedEntries {fault : Fault} :
    ∀ entries : List (Value × Value), quotedEntries entries = .error fault → fault = .badValue
  | [], h => by cases h
  | entry :: rest, h => by
    rcases Fault.error_of_bind h with hfirst | ⟨text, h⟩
    · exact fault_of_quotedEntry entry hfirst
    · rcases Fault.error_of_bind h with hrest | ⟨texts, hdone⟩
      · exact fault_of_quotedEntries rest hrest
      · cases hdone
termination_by structural entries => entries

theorem fault_of_quotedEntry {fault : Fault} :
    ∀ entry : Value × Value, quotedEntry entry = .error fault → fault = .badValue
  | (key, value), h => by
    rcases Fault.error_of_bind h with hkey | ⟨text, h⟩
    · exact fault_of_quoted key hkey
    · rcases Fault.error_of_bind h with hvalue | ⟨text, hdone⟩
      · exact fault_of_quoted value hvalue
      · cases hdone
termination_by structural entry => entry

end

end Value

namespace FunctionTable

/-- The names of a table are in the order of their code points, each once. -/
def Ordered (t : FunctionTable) : Prop := t.names.Pairwise (· < ·)

/-! ## Entries -/

theorem lookup_cons_ite {α : Type} (first other : Text) (a : α) (rest : List (Text × α)) :
    ((first, a) :: rest).lookup other = if other = first then some a else rest.lookup other := by
  rw [List.lookup_cons]
  by_cases h : other = first
  · simp [h]
  · have hne : (other == first) = false := by simpa using h
    simp only [hne, h, if_false]

theorem lookup_insertEntry (name other : Text) (f : Callable) (entries : List (Text × Callable)) :
    (insertEntry name f entries).lookup other =
      if other = name then some f else entries.lookup other := by
  induction entries with
  | nil => rw [insertEntry, lookup_cons_ite]
  | cons entry rest ih =>
    obtain ⟨first, g⟩ := entry
    rw [insertEntry, lookup_cons_ite first]
    split
    · next hfirst =>
      have hsame : first = name := hfirst.symm
      rw [lookup_cons_ite, hsame]
      split <;> rfl
    · next hfirst =>
      have hne : ¬ name = first := hfirst
      split
      · rw [lookup_cons_ite, lookup_cons_ite]
      · rw [lookup_cons_ite, ih]
        by_cases h : other = name
        · simp only [h, if_true, if_neg hne]
        · simp only [h, if_false]

theorem names_insertEntry {name : Text} {f : Callable} {entries : List (Text × Callable)}
    {other : Text} (h : other ∈ (insertEntry name f entries).map (·.1)) :
    other = name ∨ other ∈ entries.map (·.1) := by
  induction entries with
  | nil => simpa [insertEntry] using h
  | cons entry rest ih =>
    rw [insertEntry] at h
    split at h
    · next hfirst => simpa [hfirst] using h
    · split at h
      · simpa using h
      · rw [List.map_cons, List.mem_cons] at h ⊢
        rcases h with hfirst | hlater
        · exact .inr (.inl hfirst)
        · rcases ih hlater with hname | hrest
          · exact .inl hname
          · exact .inr (.inr hrest)

theorem ordered_insertEntry {entries : List (Text × Callable)}
    (h : (entries.map (·.1)).Pairwise (· < ·)) (name : Text) (f : Callable) :
    ((insertEntry name f entries).map (·.1)).Pairwise (· < ·) := by
  induction entries with
  | nil => simp [insertEntry]
  | cons entry rest ih =>
    obtain ⟨hfirst, hrest⟩ := List.pairwise_cons.1 h
    rw [insertEntry]
    split
    · next hname =>
      rw [List.map_cons, hname]
      exact List.pairwise_cons.2 ⟨hfirst, hrest⟩
    · next hname =>
      split
      · next hlt =>
        refine List.pairwise_cons.2 ⟨fun other hother => ?_, h⟩
        rcases List.mem_cons.1 hother with rfl | hlater
        · exact hlt
        · exact List.lt_trans hlt (hfirst other hlater)
      · next hge =>
        -- The name goes on down the entries only past those that come before it.
        have hgt : entry.1 < name := by
          refine Decidable.byContradiction fun hle => hname ?_
          exact Std.Trichotomous.trichotomous (r := (· < ·)) name entry.1 hge hle
        refine List.pairwise_cons.2 ⟨fun other hother => ?_, ih hrest⟩
        rcases names_insertEntry hother with rfl | hlater
        · exact hgt
        · exact hfirst other hlater

/-! ## Tables -/

variable {t : FunctionTable}

theorem get?_insert (t : FunctionTable) (name other : Text) (f : Callable) :
    (t.insert name f).get? other = if other = name then some f else t.get? other :=
  lookup_insertEntry name other f t.entries

theorem Ordered.insert (h : t.Ordered) (name : Text) (f : Callable) : (t.insert name f).Ordered :=
  ordered_insertEntry h name f

theorem Ordered.remove (h : t.Ordered) (name : Text) : (t.remove name).Ordered := by
  have hkept : (t.remove name).names.Sublist t.names := List.filter_sublist.map _
  exact List.Pairwise.sublist hkept h

theorem checkedName_eq_ok_iff {v : Value} {name : Text} :
    checkedName v = .ok name ↔ v = .text name ∧ isName name = true := by
  constructor
  · intro h
    unfold checkedName at h
    split at h
    · split at h
      · next hname =>
        cases h
        exact ⟨rfl, hname⟩
      · cases h
    · obtain ⟨shown, -, herror⟩ := Fault.ok_of_bind h
      cases herror
  · rintro ⟨rfl, hname⟩
    rw [checkedName, if_pos hname]

/-- Only a callable is added, and only under a name. -/
theorem add_eq_ok_iff {t' : FunctionTable} {v : Value} {f : Option Callable} :
    t.add v f = .ok t' ↔
      ∃ name g, v = .text name ∧ isName name = true ∧ f = some g ∧ t' = t.insert name g := by
  unfold add
  constructor
  · intro h
    obtain ⟨name, hname, hdone⟩ := Fault.ok_of_bind h
    obtain ⟨rfl, hisName⟩ := checkedName_eq_ok_iff.1 hname
    cases f with
    | none => cases hdone
    | some g =>
      cases hdone
      exact ⟨name, g, rfl, hisName, rfl, rfl⟩
  · rintro ⟨name, g, rfl, hname, rfl, rfl⟩
    rw [checkedName_eq_ok_iff.2 ⟨rfl, hname⟩]
    rfl

end FunctionTable

theorem Engine.addFunction_eq_ok_iff {e e' : Engine} {v : Value} {f : Option Callable} :
    e.addFunction v f = .ok e' ↔
      ∃ name g, v = .text name ∧ FunctionTable.isName name = true ∧ f = some g ∧
        e' = { e with table := e.table.insert name g } := by
  unfold addFunction
  constructor
  · intro h
    obtain ⟨t, hadd, hdone⟩ := Fault.ok_of_bind h
    obtain ⟨name, g, hv, hname, hf, rfl⟩ := FunctionTable.add_eq_ok_iff.1 hadd
    cases hdone
    exact ⟨name, g, hv, hname, hf, rfl⟩
  · rintro ⟨name, g, hv, hname, hf, rfl⟩
    rw [FunctionTable.add_eq_ok_iff.2 ⟨name, g, hv, hname, hf, rfl⟩]
    rfl

end Stencil
