import Stencil.Library.Markup
import Stencil.Proofs.SplitTexts

/-!
# Escaped markup

Of an escaped text the characters that mean something in markup are gone, each ampersand begins
an entity, and the entities read from left to right are the text again, also where the text had
entities or parts of them in it. The same comes out when the characters are replaced one after
the other in the whole text, as long as the ampersand is the first of them.
-/

namespace Stencil

/-- Replacing a single character replaces it wherever it stands. -/
theorem Text.replace_char (old : CodePoint) (new t : Text) :
    replace [old] new t = t.flatMap fun c => if c = old then new else [c] := by
  have hne : ([old] : Text) ≠ [] := List.cons_ne_nil old []
  have hreplace : ∀ u, replaceFrom [old] new 0 u =
      u.flatMap fun c => if c = old then new else [c] := by
    intro u
    induction u with
    | nil => rfl
    | cons c u ih =>
      by_cases hc : c = old
      · rw [hc, List.flatMap_cons, if_pos rfl, ← ih]
        exact replaceFrom_found hne new u
      · have hother : ¬ [old] <+: c :: u := by simpa using Ne.symm hc
        rw [replaceFrom_other hother, List.flatMap_cons, if_neg hc, ih, List.singleton_append]
  exact hreplace t

namespace Library

/-- The entities, each with the character that it stands for. -/
def entities : List (Text × CodePoint) :=
  [("&amp;".text, '&'), ("&lt;".text, '<'), ("&gt;".text, '>'), ("&quot;".text, '"'),
    ("&#x27;".text, '\'')]

/-- Reads a text from left to right, an entity as its character, with `skip` characters left of
the entity read last. -/
def readEntities (skip : Nat) : Text → Text
  | [] => []
  | c :: rest =>
    match skip with
    | n + 1 => readEntities n rest
    | 0 =>
      match entities.find? fun e => Text.startsWith e.1 (c :: rest) with
      | some e => e.2 :: readEntities (e.1.length - 1) rest
      | none => c :: readEntities 0 rest

def unescapeMarkup (t : Text) : Text := readEntities 0 t

/-! ## Entities -/

variable {e : Text × CodePoint} {c : CodePoint}

/-- An entity is an ampersand and a name, in which nothing has to be escaped. -/
theorem exists_name (h : e ∈ entities) :
    ∃ name, e.1 = .char '&' :: name ∧ ∀ d ∈ name, d ∉ entities.map (·.2) := by
  refine ⟨e.1.tail, ?_⟩
  simp only [entities, List.mem_cons, List.not_mem_nil, or_false] at h
  rcases h with rfl | rfl | rfl | rfl | rfl <;> simp [entities]

/-- No entity is the beginning of another. -/
theorem find?_entity (h : e ∈ entities) (rest : Text) :
    (entities.find? fun d => Text.startsWith d.1 (e.1 ++ rest)) = some e := by
  simp only [entities, List.mem_cons, List.not_mem_nil, or_false] at h
  rcases h with rfl | rfl | rfl | rfl | rfl <;> rfl

theorem find?_other (h : c ≠ '&') (rest : Text) :
    (entities.find? fun d => Text.startsWith d.1 (c :: rest)) = none := by
  refine List.find?_eq_none.2 fun e he hstarts => h ?_
  obtain ⟨name, hname, -⟩ := exists_name he
  rw [Text.startsWith_iff, hname, List.cons_prefix_cons] at hstarts
  exact hstarts.1.symm

/-- A character is written as its entity if it has one, otherwise as itself. -/
theorem escapeMarkupChar_cases (c : CodePoint) :
    (escapeMarkupChar c, c) ∈ entities ∨ c ∉ entities.map (·.2) ∧ escapeMarkupChar c = [c] := by
  by_cases hc : c ∈ entities.map (·.2)
  · refine .inl ?_
    simp only [entities, List.map_cons, List.map_nil, List.mem_cons, List.not_mem_nil,
      or_false] at hc
    rcases hc with rfl | rfl | rfl | rfl | rfl <;> decide
  · refine .inr ⟨hc, ?_⟩
    simp only [entities, List.map_cons, List.map_nil, List.mem_cons, List.not_mem_nil, or_false,
      not_or] at hc
    obtain ⟨hamp, hless, hgreater, hquote, hapostrophe⟩ := hc
    rw [escapeMarkupChar, if_neg hamp, if_neg hless, if_neg hgreater, if_neg hquote,
      if_neg hapostrophe]

/-! ## Reading back -/

theorem readEntities_skip (skipped rest : Text) :
    readEntities skipped.length (skipped ++ rest) = readEntities 0 rest := by
  induction skipped with
  | nil => rfl
  | cons c skipped ih => exact ih

theorem unescapeMarkup_entity (h : e ∈ entities) (rest : Text) :
    unescapeMarkup (e.1 ++ rest) = e.2 :: unescapeMarkup rest := by
  have hfound := find?_entity h rest
  obtain ⟨name, hname, -⟩ := exists_name h
  rw [hname, List.cons_append] at hfound ⊢
  rw [unescapeMarkup, readEntities, hfound]
  simp only [hname, List.length_cons, Nat.add_sub_cancel]
  rw [readEntities_skip, unescapeMarkup]

theorem unescapeMarkup_other (h : c ≠ '&') (rest : Text) :
    unescapeMarkup (c :: rest) = c :: unescapeMarkup rest := by
  rw [unescapeMarkup, readEntities, find?_other h rest, unescapeMarkup]

theorem ne_ampersand (h : c ∉ entities.map (·.2)) : c ≠ '&' :=
  fun hc => h (hc ▸ by decide)

theorem unescapeMarkup_escapeMarkup (t : Text) : unescapeMarkup (escapeMarkup t) = t := by
  induction t with
  | nil => rfl
  | cons c t ih =>
    rw [escapeMarkup] at ih ⊢
    rw [List.flatMap_cons]
    rcases escapeMarkupChar_cases c with hentity | ⟨hother, hself⟩
    · rw [unescapeMarkup_entity hentity, ih]
    · rw [hself, List.singleton_append, unescapeMarkup_other (ne_ampersand hother), ih]

/-! ## What an escaped text has in it -/

/-- Only the ampersand is left of the characters that entities stand for. -/
theorem eq_ampersand_of_mem_escapeMarkup {t : Text} (h : c ∈ escapeMarkup t)
    (hc : c ∈ entities.map (·.2)) : c = '&' := by
  obtain ⟨d, -, hd⟩ := List.mem_flatMap.1 h
  rcases escapeMarkupChar_cases d with hentity | ⟨hother, hself⟩
  · obtain ⟨name, hname, hplain⟩ := exists_name hentity
    dsimp only at hname
    rw [hname] at hd
    exact (List.mem_cons.1 hd).resolve_right fun hmem => hplain c hmem hc
  · rw [hself, List.mem_singleton] at hd
    exact absurd (hd ▸ hc) hother

theorem suffix_of_not_mem {u rest after : Text} (hu : c ∉ u) (h : c :: after <:+ u ++ rest) :
    c :: after <:+ rest := by
  induction u with
  | nil => exact h
  | cons d u ih =>
    obtain ⟨hd, hu⟩ := not_or.1 (mt List.mem_cons.2 hu)
    rcases List.suffix_cons_iff.1 h with heq | hlater
    · exact absurd (List.cons.inj heq).1 hd
    · exact ih hu hlater

/-- Each ampersand is the first character of an entity. -/
theorem exists_entity_of_ampersand {t after : Text} (h : .char '&' :: after <:+ escapeMarkup t) :
    ∃ e ∈ entities, e.1 <+: .char '&' :: after := by
  induction t with
  | nil => exact absurd (List.suffix_nil.1 h) (List.cons_ne_nil _ _)
  | cons c t ih =>
    rw [escapeMarkup] at ih h
    rw [List.flatMap_cons] at h
    rcases escapeMarkupChar_cases c with hentity | ⟨hother, hself⟩
    · obtain ⟨name, hname, hplain⟩ := exists_name hentity
      dsimp only at hname
      rw [hname, List.cons_append] at h
      rcases List.suffix_cons_iff.1 h with heq | hlater
      · refine ⟨_, hentity, ?_⟩
        dsimp only
        rw [heq, hname, ← List.cons_append]
        exact List.prefix_append _ _
      · have hamp : .char '&' ∉ name := fun hmem => hplain '&' hmem (by decide)
        exact ih (suffix_of_not_mem hamp hlater)
    · have hamp : .char '&' ∉ escapeMarkupChar c := by
        rw [hself, List.mem_singleton]
        exact (ne_ampersand hother).symm
      exact ih (suffix_of_not_mem hamp h)

/-! ## One character after the other -/

/-- The characters replaced by their entities in the whole text, one after the other. -/
def replaceInTurn (table : List (Text × CodePoint)) (t : Text) : Text :=
  table.foldl (fun u e => Text.replace [e.2] e.1 u) t

theorem replaceInTurn_cons (e : Text × CodePoint) (table : List (Text × CodePoint)) (t : Text) :
    replaceInTurn (e :: table) t = replaceInTurn table (Text.replace [e.2] e.1 t) := rfl

theorem replaceInTurn_append (table : List (Text × CodePoint)) (t u : Text) :
    replaceInTurn table (t ++ u) = replaceInTurn table t ++ replaceInTurn table u := by
  induction table generalizing t u with
  | nil => rfl
  | cons e table ih =>
    simp only [replaceInTurn_cons, Text.replace_char, List.flatMap_append, ih]

theorem replaceInTurn_other {table : List (Text × CodePoint)} (h : c ∉ table.map (·.2)) :
    replaceInTurn table [c] = [c] := by
  induction table with
  | nil => rfl
  | cons e table ih =>
    rw [List.map_cons, List.mem_cons, not_or] at h
    rw [replaceInTurn_cons, Text.replace_char, List.flatMap_singleton, if_neg h.1, ih h.2]

theorem replaceInTurn_nil (table : List (Text × CodePoint)) : replaceInTurn table [] = [] := by
  induction table with
  | nil => rfl
  | cons e table ih => rw [replaceInTurn_cons, Text.replace_char, List.flatMap_nil, ih]

/-- The ampersand is the first to be replaced, so the ampersands of the entities written later
stay. -/
theorem replaceInTurn_entity (h : e ∈ entities) : replaceInTurn entities [e.2] = e.1 := by
  simp only [entities, List.mem_cons, List.not_mem_nil, or_false] at h
  rcases h with rfl | rfl | rfl | rfl | rfl <;> rfl

theorem escapeMarkup_eq_replaceInTurn (t : Text) :
    escapeMarkup t = replaceInTurn entities t := by
  induction t with
  | nil => rw [replaceInTurn_nil, escapeMarkup, List.flatMap_nil]
  | cons c t ih =>
    rw [escapeMarkup] at ih ⊢
    rw [List.flatMap_cons, ih, ← List.singleton_append, replaceInTurn_append]
    congr 1
    rcases escapeMarkupChar_cases c with hentity | ⟨hother, hself⟩
    · exact (replaceInTurn_entity hentity).symm
    · rw [hself, replaceInTurn_other hother]

/-- The escaped text of a value has none of the characters of markup but ampersands, each of which
begins an entity, and reading the entities gives the text back, so that no other text is escaped
to it. -/
theorem markup_escaped_safely {v : Value} {t : Text} (hv : v.output = .ok t) :
    ∃ r, markupEscaped [v] = .ok (.text r) ∧
      r = replaceInTurn entities t ∧
      (∀ c ∈ r, c ≠ '<' ∧ c ≠ '>' ∧ c ≠ '"' ∧ c ≠ '\'') ∧
      (∀ after, .char '&' :: after <:+ r → ∃ e ∈ entities, e.1 <+: .char '&' :: after) ∧
      unescapeMarkup r = t ∧
      ∀ w u, w.output = .ok u → markupEscaped [w] = .ok (.text r) → u = t := by
  have hescaped : ∀ {w : Value} {u}, w.output = .ok u →
      markupEscaped [w] = .ok (.text (escapeMarkup u)) := by
    intro w u hw
    rw [markupEscaped, onText, hw]
    rfl
  refine ⟨escapeMarkup t, hescaped hv, escapeMarkup_eq_replaceInTurn t, fun c hc => ?_,
    fun after => exists_entity_of_ampersand, unescapeMarkup_escapeMarkup t, fun w u hw hsame => ?_⟩
  · have hgone : ∀ d ∈ entities.map (·.2), d ≠ .char '&' → c ≠ d := by
      rintro d hd hne rfl
      exact hne (eq_ampersand_of_mem_escapeMarkup hc hd)
    exact ⟨hgone _ (by decide) (by decide), hgone _ (by decide) (by decide),
      hgone _ (by decide) (by decide), hgone _ (by decide) (by decide)⟩
  · rw [hescaped hw] at hsame
    have heq : escapeMarkup u = escapeMarkup t := by simpa using hsame
    rw [← unescapeMarkup_escapeMarkup u, heq, unescapeMarkup_escapeMarkup]

/-- A text with an entity in it, and one with the beginning of an entity before a character that
has one. -/
theorem entity_escaped_safely :
    (Value.text "&lt;&<'".text).output = .ok "&lt;&<'".text ∧
      ∃ r, markupEscaped [.text "&lt;&<'".text] = .ok (.text r) ∧
        r = replaceInTurn entities "&lt;&<'".text ∧
        (∀ c ∈ r, c ≠ '<' ∧ c ≠ '>' ∧ c ≠ '"' ∧ c ≠ '\'') ∧
        (∀ after, .char '&' :: after <:+ r → ∃ e ∈ entities, e.1 <+: .char '&' :: after) ∧
        unescapeMarkup r = "&lt;&<'".text ∧
        ∀ w u, w.output = .ok u → markupEscaped [w] = .ok (.text r) → u = "&lt;&<'".text :=
  ⟨rfl, markup_escaped_safely rfl⟩

end Library

end Stencil
