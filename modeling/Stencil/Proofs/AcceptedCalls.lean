import Stencil.Proofs.ArgumentLists
import Stencil.Proofs.ChainTags
import Stencil.Proofs.LexemeSpans
import Stencil.Proofs.PaddedChains

/-!
# Accepted calls

A chain of calls is split into its calls when each argument list can be read and both
splitters take the same characters for its quote marks. A literal that ends in a backslash
ends sooner for the splitter of arguments than for that of chains, which looks back by one
character only; then they disagree.
-/

namespace Stencil

open Chain (Contained)
open FunctionTable (isName)

namespace Arguments

/-- Both splitters take the same characters of an argument list for quote marks. -/
def Legible (t : Text) : Prop := Place.outside.Legible none t

instance (t : Text) : Decidable (Legible t) := inferInstanceAs (Decidable (Place.Legible _ _ _))

/-! ## Items of a legible list -/

/-- What follows a text that ends no item is legible from the place behind it. -/
theorem Place.Legible.run {p q : Place} {previous : Option CodePoint} {front rest : Text}
    (h : p.Legible previous (front ++ rest)) (hrun : p.run? front = some q) :
    ∃ last, q.Legible last rest := by
  induction front generalizing p previous with
  | nil =>
    cases hrun
    exact ⟨previous, h⟩
  | cons c front ih =>
    rw [Place.run?] at hrun
    split at hrun
    · cases hrun
    · exact ih h.2.2 hrun

/-- A legible list is passed over by the splitter of chains if its items are. -/
theorem contained_of_items {items : List Text} {t : Text}
    (hitems : itemsFrom none false [] t = some items) (hlegible : Legible t)
    (h : ∀ item ∈ items, Legible item → Contained 1 item) : Contained 1 t := by
  induction items generalizing t with
  | nil => exact absurd hitems (itemsFrom_ne_nil .outside [] t)
  | cons first rest ih =>
    obtain ⟨front, q, hfront, hrun, hquote, hsplit⟩ := itemsFrom_first (p := .outside) hitems
    obtain rfl : first = front := hfront
    rw [List.forall_mem_cons] at h
    rcases hsplit with ⟨rfl, -⟩ | ⟨later, rfl, hlater⟩
    · exact h.1 hlegible
    · have hfirst : Contained 1 first := h.1 (Place.Legible.of_append hlegible)
      have hcomma : Contained 1 [','] :=
        .of_neutral (List.forall_mem_singleton.2 (by decide)) (by decide) (by decide)
      obtain ⟨last, -, -, hrest⟩ := Place.Legible.run hlegible hrun
      have hcut : q.cuts ',' = true := by
        rw [Place.cuts, hquote]
        rfl
      rw [Place.after_of_cuts hcut] at hrest
      have hlegible : Legible later := hrest.of_previous (by simp)
      exact hfirst.append (hcomma.append (ih hlater hlegible h.2))

theorem contained_of_blanks {t : Text} (h : Text.Blanks t) (depth : Int) : Contained depth t := by
  refine .of_neutral (fun c hc => Chain.isNeutral_of_isBlank (h c hc)) ?_ ?_
  · exact fun hdot => absurd (h '.' hdot) (by decide)
  · exact fun hslash => absurd (h '\\' hslash) (by decide)

theorem run?_blanks {t : Text} (h : Text.Blanks t) : Place.outside.run? t = some .outside := by
  induction t with
  | nil => rfl
  | cons c t ih =>
    have hne : ∀ d, Text.isBlank d = false → c ≠ d := fun d => Text.ne_of_test (h c List.mem_cons_self)
    have hmark : isMark c = false := by simp [isMark, hne '"' rfl, hne '\'' rfl]
    have hcut : Place.outside.cuts c = false := by simp [Place.cuts, hne ',' rfl]
    have hafter : Place.outside.after c = .outside := by simp [Place.after, Place.outside, hmark]
    rw [Place.run?, hcut, if_neg (by decide), hafter]
    exact ih fun d hd => h d (List.mem_cons_of_mem c hd)

/-- Blanks around an item change nothing. -/
theorem contained_of_trim {t : Text} (hlegible : Legible t)
    (h : Legible (Text.trim t) → Contained 1 (Text.trim t)) : Contained 1 t := by
  obtain ⟨before, after, hbefore, hafter, heq⟩ := Text.exists_trim t
  rw [Legible, heq] at hlegible
  obtain ⟨last, hrest⟩ := hlegible.run (run?_blanks hbefore)
  have hcore : Legible (Text.trim t) := hrest.of_append.of_previous nofun
  rw [heq]
  exact (contained_of_blanks hbefore 1).append ((h hcore).append (contained_of_blanks hafter 1))

/-! ## Items that are read -/

/-- Characters without a lower case of their own stay. -/
theorem mem_lower {c : CodePoint} (hlower : Text.lowerChar c = [c]) (hsigma : c ≠ 'Σ') {t : Text}
    (h : c ∈ t) : c ∈ Text.lower t := by
  have hafter : ∀ before, c ∈ Text.lowerAfter before t := by
    induction t with
    | nil => cases h
    | cons d rest ih =>
      intro before
      rw [Text.lowerAfter, List.mem_append]
      rcases List.mem_cons.1 h with rfl | hrest
      · left
        rw [Text.lowerCharWithin, if_neg hsigma, hlower]
        exact List.mem_singleton.2 rfl
      · exact .inr (ih hrest (d :: before))
  exact hafter []

def keywords : List Text := ["true", "false", "null", "none"].map String.text

theorem lower_mem_keywords {item : Text} {v : Value} (h : keyword? item = some v) :
    Text.lower item ∈ keywords := by
  unfold keyword? at h
  dsimp only at h
  simp only [keywords, List.map_cons, List.map_nil, List.mem_cons]
  split at h
  · next htrue => exact .inl htrue
  · split at h
    · next hfalse => exact .inr (.inl hfalse)
    · split at h
      · next hnull => exact .inr (.inr (hnull.imp_right .inl))
      · cases h

/-- A keyword has letters only. -/
theorem contained_of_keyword {item : Text} {v : Value} (h : keyword? item = some v) (depth : Int) :
    Contained depth item := by
  have hlower := lower_mem_keywords h
  have hspecial : ∀ c ∈ .char '.' :: Chain.special, c ∉ item := by
    intro c hc hmem
    have hkept : (.char '.' :: Chain.special).all (fun c => Text.lowerChar c == [c] && c != 'Σ' &&
        keywords.all (!·.contains c)) = true := by decide +kernel
    have hc := List.all_eq_true.1 hkept c hc
    simp only [Bool.and_eq_true, beq_iff_eq, bne_iff_ne, List.all_eq_true, Bool.not_eq_true',
      List.contains_eq_mem, decide_eq_false_iff_not] at hc
    exact hc.2 _ hlower (mem_lower hc.1.1 hc.1.2 hmem)
  refine .of_neutral (fun c hc => ?_) (hspecial '.' (by decide)) (hspecial '\\' (by decide))
  have hne : ∀ d ∈ .char '.' :: Chain.special, c ≠ d := by
    rintro d hd rfl
    exact hspecial c hd hc
  simp only [Chain.special, List.forall_mem_cons] at hne
  simp [Chain.Position.isNeutral, Chain.Position.isMark, hne]

/-- An item with a value is passed over. -/
theorem contained_of_readItem {function item : Text} {v : Value}
    (h : readItem function item = .ok v) (hlegible : Legible item) : Contained 1 item := by
  unfold readItem at h
  split at h
  · cases h
  · split at h
    · next hplaceholder =>
      rw [hplaceholder]
      exact .of_neutral (List.forall_mem_singleton.2 (by decide)) (by decide) (by decide)
    · split at h
      · next hkeyword => exact contained_of_keyword hkeyword 1
      · split at h
        · next hread => exact Chain.contained_of_read hread hlegible
        · cases h
        · cases h
        · cases h

theorem mem_dropTrailing {items : List Text} {item : Text} (h : item ∈ items) :
    item ∈ dropTrailing items ∨ item = [] := by
  unfold dropTrailing
  split
  · next hlast =>
    rw [← List.dropLast_append_getLast? _ hlast.2] at h
    rcases List.mem_append.1 h with hkept | hempty
    · exact .inl hkept
    · exact .inr (List.mem_singleton.1 hempty)
  · exact .inl h

/-- An argument list that is read is passed over. -/
theorem contained_of_read {function t : Text} {values : List Value}
    (h : read function t = .ok values) (hlegible : Legible t) : Contained 1 t := by
  obtain ⟨hblanks, -⟩ | ⟨items, hitems, hvalues⟩ := read_cases h
  · exact contained_of_blanks hblanks 1
  · refine contained_of_items hitems hlegible fun item hitem hlegible => ?_
    refine contained_of_trim hlegible fun hcore => ?_
    have hmem : Text.trim item ∈ items.map Text.trim := List.mem_map_of_mem hitem
    rcases mem_dropTrailing hmem with hkept | hempty
    · obtain ⟨v, hv⟩ := exists_of_forall₂ (forall₂_of_mapM hvalues) hkept
      exact contained_of_readItem hv hcore
    · rw [hempty]
      exact .nil

end Arguments

/-! ## Chains of calls -/

/-- The text of a call. -/
def callText (call : Text × Text) : Text := Token.source ⟨call.1, some call.2, false⟩

/-- A chain of calls with argument lists that are read is split into its calls, where both
splitters take the same characters for quote marks. -/
theorem Chain.split_accepted {v : Text} {calls : List (Text × Text)} (hv : isName v = true)
    (hnames : ∀ call ∈ calls, isName call.1 = true)
    (haccepted : ∀ call ∈ calls, ∃ function values, Arguments.read function call.2 = .ok values)
    (hlegible : ∀ call ∈ calls, Arguments.Legible call.2) :
    split (Text.join ['.'] (v :: calls.map callText)) = v :: calls.map callText := by
  have hclosed : ∀ t ∈ v :: calls.map callText, Closed t := by
    rw [List.forall_mem_cons]
    refine ⟨(isPiece_of_isName hv).closed, fun t ht => ?_⟩
    obtain ⟨call, hcall, rfl⟩ := List.mem_map.1 ht
    refine Token.closed_source (hnames call hcall) fun args hargs => ?_
    cases hargs
    obtain ⟨function, values, hread⟩ := haccepted call hcall
    exact Arguments.contained_of_read hread (hlegible call hcall)
  rw [split_join fun t ht => ⟨(hclosed t ht).whole, (hclosed t ht).nonempty⟩,
    List.map_congr_left fun t ht => (hclosed t ht).trimmed.trim_eq, List.map_id']

theorem Arguments.exists_of_toBool {result : Except Error (List Value)}
    (h : result.toBool = true) : ∃ values, result = .ok values := by
  cases result with
  | error e => cases h
  | ok values => exact ⟨values, rfl⟩

/-- Quoted dots, parentheses and marks, escaped ones among them, and signs in brackets. -/
def quotedCalls : List (Text × Text) :=
  [(['f'], "'a\\'.b', \"(\", (-1.5)".text), (['g'], []), (['h'], "$, \")\" '.'".text)]

theorem Chain.split_quotedCalls :
    (isName ['v'] = true ∧ (∀ call ∈ quotedCalls, isName call.1 = true) ∧
      (∀ call ∈ quotedCalls, ∃ function values,
        Arguments.read function call.2 = .ok values) ∧
      ∀ call ∈ quotedCalls, Arguments.Legible call.2) ∧
    split "v.f('a\\'.b', \"(\", (-1.5)).g().h($, \")\" '.')".text =
      [[.char 'v'], "f('a\\'.b', \"(\", (-1.5))".text, "g()".text, "h($, \")\" '.')".text] := by
  have hv : isName ['v'] = true := by decide +kernel
  have hnames : ∀ call ∈ quotedCalls, isName call.1 = true := by decide +kernel
  have hread : ∀ call ∈ quotedCalls, (Arguments.read [] call.2).toBool = true := by decide +kernel
  have haccepted : ∀ call ∈ quotedCalls, ∃ function values,
      Arguments.read function call.2 = .ok values := fun call hcall =>
    ⟨[], Arguments.exists_of_toBool (hread call hcall)⟩
  have hlegible : ∀ call ∈ quotedCalls, Arguments.Legible call.2 := by decide +kernel
  exact ⟨⟨hv, hnames, haccepted, hlegible⟩, split_accepted hv hnames haccepted hlegible⟩

/-- Two literals, of which the first is a backslash. -/
def backslashArguments : Text := "\"\\\\\", \").a\"".text

/-- The argument list is read, but the splitter of chains takes the mark behind the two
backslashes for an escaped one and cuts the second literal at its dot. -/
theorem Chain.split_backslash :
    isName ['v'] = true ∧ isName ['f'] = true ∧
    (∃ values, Arguments.read ['f'] backslashArguments = .ok values) ∧
    split (Text.join ['.'] ("v".text :: [("f".text, backslashArguments)].map callText)) =
      ["v".text, "f(\"\\\\\", \")".text, "a\")".text] ∧
    split (Text.join ['.'] ("v".text :: [("f".text, backslashArguments)].map callText)) ≠
      "v".text :: [("f".text, backslashArguments)].map callText := by
  have hread : (Arguments.read ['f'] backslashArguments).toBool = true := by decide +kernel
  exact ⟨by decide +kernel, by decide +kernel, Arguments.exists_of_toBool hread,
    by decide +kernel, by decide +kernel⟩

end Stencil
