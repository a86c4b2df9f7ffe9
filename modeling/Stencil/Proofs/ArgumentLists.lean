import Mathlib.Data.List.Forall2
import Stencil.Proofs.ArgumentScan
import Stencil.Proofs.ReadLiterals

/-!
# Argument lists read back

A list of items, with commas between them, is read as the values of the items: the commas
in quotes separate nothing. So a printed list of arguments is read as the list.
-/

namespace Stencil.Arguments

variable {p : Printer}

/-! ## Items -/

/-- The splitter takes the text into the current item, with the open quote mark as before. -/
def Passed (quote : Option CodePoint) (t : Text) : Prop :=
  ∀ item rest,
    itemsFrom quote false item (t ++ rest) = itemsFrom quote false (t.reverse ++ item) rest

namespace Passed

variable {quote : Option CodePoint} {front t : Text}

theorem nil : Passed quote [] := fun _ _ => rfl

theorem append (h : Passed quote front) (h' : Passed quote t) : Passed quote (front ++ t) := by
  intro item rest
  rw [List.append_assoc, h, h', List.reverse_append, List.append_assoc]

theorem of_chars (h : ∀ c ∈ t, Passed quote [c]) : Passed quote t := by
  induction t with
  | nil => exact nil
  | cons c t ih =>
    have hfirst : Passed quote [c] := h c (by simp)
    exact hfirst.append (ih fun d hd => h d (by simp [hd]))

theorem flatMap {f : CodePoint → Text} (h : ∀ c, Passed quote (f c)) (s : Text) :
    Passed quote (s.flatMap f) := by
  induction s with
  | nil => exact nil
  | cons c s ih => exact (h c).append ih

theorem outside {c : CodePoint} (hmark : isMark c = false) (hcomma : c ≠ ',') :
    Passed none [c] := by
  intro item rest
  rw [List.singleton_append, itemsFrom]
  simp [hmark, hcomma]

theorem inside {mark c : CodePoint} (hslash : c ≠ '\\') (hmark : c ≠ mark) :
    Passed (some mark) [c] := by
  intro item rest
  rw [List.singleton_append, itemsFrom]
  simp [hslash, hmark]

/-- In quotes a backslash takes the character after it along, whatever that is. -/
theorem escape (mark c : CodePoint) : Passed (some mark) ['\\', c] := fun _ _ => rfl

/-- The digits of an escape belong to no mark and no other escape. -/
theorem form {mark : CodePoint} (hmark : Text.isNameChar mark = false) (form : EscapeForm)
    (c : CodePoint) :
    Passed (some mark) (form.text c) := by
  have hdigits : Passed (some mark) (Text.hexText form.width c.toNat) := by
    refine .of_chars fun d hd => ?_
    have hname := Text.isNameChar_of_mem_hexText hd
    exact .inside (Text.ne_of_test hname rfl) (Text.ne_of_test hname hmark)
  exact (escape mark form.letter).append hdigits

end Passed

theorem passed_char (c : CodePoint) : Passed (some '"') (p.char c) := by
  cases hescaped : Printer.isEscaped c with
  | false =>
    rw [Printer.char_of_not_isEscaped hescaped]
    exact .inside (Printer.ne_of_not_isEscaped hescaped rfl)
      (Printer.ne_of_not_isEscaped hescaped rfl)
  | true =>
    rw [Printer.char_of_isEscaped hescaped]
    exact .form rfl (p.form c) c

theorem Passed.between {mark : CodePoint} (hmark : isMark mark = true) {t : Text}
    (h : Passed (some mark) t) : Passed none (Text.between mark t) := by
  intro item rest
  have hslash : mark ≠ '\\' := Text.ne_of_test hmark rfl
  have hopening : itemsFrom none false item (mark :: (t ++ (mark :: rest))) =
      itemsFrom (some mark) false (mark :: item) (t ++ (mark :: rest)) := by
    rw [itemsFrom, if_pos hmark]
  have hclosing : ∀ item, itemsFrom (some mark) false item (mark :: rest) =
      itemsFrom none false (mark :: item) rest := by
    intro item
    simp [itemsFrom, hslash]
  rw [Text.between, List.cons_append, List.append_assoc, List.singleton_append, hopening,
    h, hclosing]
  simp

theorem passed_body (s : Text) : Passed (some '"') (p.body s) := .flatMap passed_char s

theorem passed_verbatim {t : Text} (h : Text.Verbatim t) : Passed (some '"') t := by
  refine .of_chars fun c hc => .inside ?_ ?_
  · rintro rfl
    exact h.slash hc
  · rintro rfl
    exact h.mark hc

theorem passed_argument (a : Argument) : Passed none (p.argument a) := by
  rcases Printer.mem_argument (p := p) a with ⟨s, rfl⟩ | hword
  · exact (passed_body s).between rfl
  · refine .of_chars fun c hc => ?_
    rcases hword c hc with rfl | hname
    · exact .outside rfl (by decide)
    · have hne : ∀ d, Text.isNameChar d = false → c ≠ d := fun d => Text.ne_of_test hname
      exact .outside (by simp [isMark, hne '"' rfl, hne '\'' rfl]) (hne ',' rfl)

theorem passed_blanks {gap : Text} (h : Text.Blanks gap) : Passed none gap := by
  refine .of_chars fun c hc => ?_
  have hne : ∀ d, Text.isBlank d = false → c ≠ d := fun d => Text.ne_of_test (h c hc)
  exact .outside (by simp [isMark, hne '"' rfl, hne '\'' rfl]) (hne ',' rfl)

/-- The commas between the items cut the list, and no others. -/
theorem itemsFrom_join {gap : Text} (hgap : Text.Blanks gap) {first : Text} {rest : List Text}
    (h : ∀ t ∈ first :: rest, Passed none t) (item : Text) :
    itemsFrom none false item (Text.join (',' :: gap) (first :: rest)) =
      some ((item.reverse ++ first) :: rest.map (gap ++ ·)) := by
  have hfirst : Passed none first := h first (by simp)
  induction rest generalizing first item with
  | nil =>
    have hend := hfirst item []
    rw [List.append_nil] at hend
    rw [Text.join, hend, itemsFrom, List.reverse_append, List.reverse_reverse]
    rfl
  | cons next rest ih =>
    have hcut : ∀ item later, itemsFrom none false item (',' :: later) =
        (itemsFrom none false [] later).map (item.reverse :: ·) := fun _ _ => rfl
    have hlater : ∀ t ∈ next :: rest, Passed none t := fun t ht =>
      h t (List.mem_cons_of_mem first ht)
    have hnext := ih hlater gap.reverse (h next (by simp))
    rw [Text.join, List.append_assoc, hfirst, List.cons_append, hcut, passed_blanks hgap,
      List.append_nil, hnext, List.reverse_append, List.reverse_reverse, List.reverse_reverse]
    · rfl
    · simp

theorem dropTrailing_of_ne_nil {items : List Text} (h : ∀ item ∈ items, item ≠ []) :
    dropTrailing items = items := by
  rw [dropTrailing, if_neg]
  rintro ⟨-, hlast⟩
  exact h [] (List.mem_of_getLast? hlast) rfl

theorem dropTrailing_concat {front : List Text} (h : front ≠ []) :
    dropTrailing (front ++ [[]]) = front := by
  have hlength : 1 < (front ++ [[]]).length := by
    have := List.length_pos_iff.2 h
    simp only [List.length_append, List.length_singleton]
    omega
  rw [dropTrailing, if_pos ⟨hlength, List.getLast?_concat⟩, List.dropLast_concat]

/-- Items in front of a list change nothing at its end, unless an empty item is all of it. -/
theorem dropTrailing_append (front : List Text) {later : List Text} (hne : later ≠ [])
    (hempty : later ≠ [[]]) : dropTrailing (front ++ later) = front ++ dropTrailing later := by
  by_cases hlast : later.getLast? = some []
  · obtain ⟨init, rfl⟩ : ∃ init, later = init ++ [[]] :=
      ⟨later.dropLast, (List.dropLast_append_getLast? [] hlast).symm⟩
    have hinit : init ≠ [] := by
      rintro rfl
      exact hempty rfl
    rw [← List.append_assoc, dropTrailing_concat (by simp [hinit]), dropTrailing_concat hinit]
  · rw [dropTrailing, dropTrailing, List.getLast?_append_of_ne_nil _ hne,
      if_neg fun h => hlast h.2, if_neg fun h => hlast h.2]

/-! ## Values -/

/-- An item whose first character has no lower case and starts no keyword is none. -/
theorem keyword?_eq_none {c : CodePoint} (hlower : Text.lowerChar c = [c]) (hsigma : c ≠ 'Σ')
    (hletter : c ∉ "tfn".text) (rest : Text) : keyword? (c :: rest) = none := by
  have hfirst : (Text.lower (c :: rest)).head? = some c := by
    rw [Text.lower, Text.lowerAfter, Text.lowerCharWithin, if_neg hsigma, hlower]
    rfl
  have hne : ∀ (d : CodePoint) (t : Text), d ∈ "tfn".text → Text.lower (c :: rest) ≠ d :: t := by
    intro d t hd heq
    rw [heq] at hfirst
    cases hfirst
    exact hletter hd
  simp [keyword?, hne]

theorem keyword?_digit {d : Nat} (h : d < 10) (rest : Text) :
    keyword? (d.digitChar :: rest) = none := by
  have hdigits : ∀ d < 10, Text.lowerChar (Nat.digitChar d) = [.char (Nat.digitChar d)] ∧
      .char (Nat.digitChar d) ≠ CodePoint.char 'Σ' ∧ .char (Nat.digitChar d) ∉ "tfn".text := by
    decide +kernel
  obtain ⟨hlower, hsigma, hletter⟩ := hdigits d h
  exact keyword?_eq_none hlower hsigma hletter rest

theorem readItem_literal {function item : Text} {v : Value} (hne : item ≠ [])
    (hplaceholder : item ≠ [.char '$']) (hword : keyword? item = none)
    (hread : Literal.read item = .ok v) : readItem function item = .ok v := by
  have hempty : item.isEmpty = false := by simpa using hne
  rw [readItem, hempty, if_neg (by decide), if_neg hplaceholder, hword, hread]

/-- A text that a list can have as an item, and the value it is read as there. -/
structure Item (t : Text) (v : Value) : Prop where
  passed : Passed none t
  trimmed : Text.Trimmed t
  nonempty : t ≠ []
  read : ∀ function, readItem function t = .ok v

theorem Item.between {mark : CodePoint} (hmark : isMark mark = true) {t : Text} {v : Value}
    (hpassed : Passed (some mark) t) (hread : Literal.read (Text.between mark t) = .ok v) :
    Item (Text.between mark t) v where
  passed := hpassed.between hmark
  trimmed := by
    have hblank : Text.isBlank mark = false := by
      rcases Literal.Quotation.isMark_iff.1 hmark with rfl | rfl <;> decide
    constructor
    · intro c hc
      cases hc
      exact hblank
    · intro c hc
      rw [Text.between, ← List.cons_append, List.getLast?_concat] at hc
      cases hc
      exact hblank
  nonempty := by simp [Text.between]
  read := fun function => by
    refine readItem_literal (by simp [Text.between]) (by simp [Text.between]) ?_ hread
    rcases Literal.Quotation.isMark_iff.1 hmark with rfl | rfl
    · exact keyword?_eq_none (by decide +kernel) (by decide) (by decide) _
    · exact keyword?_eq_none (by decide +kernel) (by decide) (by decide) _

/-- A verbatim text in quotes is read as that text, whatever stands in it. -/
theorem Item.verbatim {t : Text} (h : Text.Verbatim t) : Item (Text.inQuotes t) (.text t) :=
  .between rfl (passed_verbatim h) (Literal.read_verbatim h)

theorem mapM_readItem {items : List Text} {values : List Value}
    (h : List.Forall₂ Item items values) (function : Text) :
    items.mapM (readItem function) = .ok values := by
  induction h with
  | nil => rfl
  | cons hitem _ ih =>
    rw [List.mapM_cons, hitem.read, ih]
    rfl

/-- Items that are all read are read one by one. -/
theorem forall₂_of_mapM {f : Text → Except Error Value} {items : List Text} {values : List Value}
    (h : items.mapM f = .ok values) : List.Forall₂ (fun item v => f item = .ok v) items values := by
  induction items generalizing values with
  | nil =>
    cases h
    exact .nil
  | cons item rest ih =>
    rw [List.mapM_cons] at h
    cases hitem : f item with
    | error e =>
      rw [hitem] at h
      cases h
    | ok v =>
      rw [hitem] at h
      cases hrest : rest.mapM f with
      | error e =>
        rw [hrest] at h
        cases h
      | ok vs =>
        rw [hrest] at h
        cases h
        exact .cons hitem (ih hrest)

theorem exists_of_forall₂ {α β : Type} {R : α → β → Prop} {xs : List α} {ys : List β}
    (h : List.Forall₂ R xs ys) {x : α} (hx : x ∈ xs) : ∃ y, R x y := by
  induction h with
  | nil => cases hx
  | @cons _ y _ _ hxy _ ih =>
    rcases List.mem_cons.1 hx with rfl | hmem
    · exact ⟨y, hxy⟩
    · exact ih hmem

/-! ## Items and values of a text -/

/-- The text is split into the items, and none of them is blank. -/
structure HasItems (t : Text) (items : List Text) : Prop where
  split : itemsFrom none false [] t = some items
  nonempty : ∀ item ∈ items.map Text.trim, item ≠ []

/-- The splitter finds the items of a list, each with the blanks in front of it. -/
theorem exists_hasItems_join {gap : Text} (hgap : Text.Blanks gap) {items : List Text}
    {values : List Value} (hitems : List.Forall₂ Item items values) (hne : items ≠ []) :
    ∃ parts, HasItems (Text.join (',' :: gap) items) parts ∧ parts.map Text.trim = items := by
  have h : ∀ t ∈ items, ∃ v, Item t v :=
    ((List.forall₂_and_left _ _).1 (hitems.imp fun _ v hitem => ⟨⟨v, hitem⟩, hitem⟩)).1
  obtain ⟨first, rest, rfl⟩ := List.exists_cons_of_ne_nil hne
  have hparts : itemsFrom none false [] (Text.join (',' :: gap) (first :: rest)) =
      some (first :: rest.map (gap ++ ·)) := by
    refine itemsFrom_join hgap (fun t ht => ?_) []
    obtain ⟨w, hitem⟩ := h t ht
    exact hitem.passed
  have hrest : ∀ t ∈ rest, Text.trim (gap ++ t) = t := by
    intro t ht
    obtain ⟨w, hitem⟩ := h t (List.mem_cons_of_mem first ht)
    rw [Text.trim_blanks_append hgap, hitem.trimmed.trim_eq]
  have htrim : (first :: rest.map (gap ++ ·)).map Text.trim = first :: rest := by
    obtain ⟨v, hfirst⟩ := h first (by simp)
    rw [List.map_cons, List.map_map, hfirst.trimmed.trim_eq]
    congr 1
    exact (List.map_congr_left hrest).trans (List.map_id' rest)
  refine ⟨first :: rest.map (gap ++ ·), ⟨hparts, fun t ht => ?_⟩, htrim⟩
  obtain ⟨v, hitem⟩ := h t (htrim ▸ ht)
  exact hitem.nonempty

theorem itemsFrom_blanks {t : Text} (h : Text.Blanks t) : itemsFrom none false [] t = some [t] := by
  have hend := passed_blanks h [] []
  rw [List.append_nil, List.append_nil] at hend
  rw [hend, itemsFrom, List.reverse_reverse]
  rfl

theorem map_trim_ne_nil {t : Text} {items : List Text}
    (h : itemsFrom none false [] t = some items) : items.map Text.trim ≠ [] := by
  intro hnil
  rw [List.map_eq_nil_iff.1 hnil] at h
  exact itemsFrom_ne_nil .outside [] t h

theorem blanks_of_map_trim {t : Text} {items : List Text}
    (hitems : itemsFrom none false [] t = some items) (h : items.map Text.trim = [[]]) :
    Text.Blanks t := by
  rcases itemsFrom_last hitems with rfl | ⟨front, init, last, rfl, hinit, rfl⟩
  · exact Text.blanks_of_trim (List.singleton_inj.1 h)
  · have hlength := congrArg List.length h
    have := List.length_pos_iff.2 hinit
    simp only [List.length_map, List.length_append, List.length_singleton] at hlength
    omega

theorem read_blanks {t : Text} (h : Text.Blanks t) (function : Text) : read function t = .ok [] :=
  if_pos (List.all_eq_true.2 h)

theorem read_of_not_blanks {t : Text} (h : ¬ Text.Blanks t) (function : Text) :
    read function t =
      match itemsFrom none false [] t with
      | none => .error (.badArguments function (some .unterminated))
      | some items => (dropTrailing (items.map Text.trim)).mapM (readItem function) :=
  if_neg fun hall => h (List.all_eq_true.1 hall)

/-- A text that is read is blank, or its items are read one by one. -/
theorem read_cases {function t : Text} {values : List Value} (h : read function t = .ok values) :
    Text.Blanks t ∧ values = [] ∨
      ∃ items, itemsFrom none false [] t = some items ∧
        (dropTrailing (items.map Text.trim)).mapM (readItem function) = .ok values := by
  by_cases hblanks : Text.Blanks t
  · rw [read_blanks hblanks] at h
    cases h
    exact .inl ⟨hblanks, rfl⟩
  · rw [read_of_not_blanks hblanks] at h
    split at h
    · cases h
    · next items hitems => exact .inr ⟨items, hitems, h⟩

namespace HasItems

variable {function t : Text} {items : List Text} {values : List Value}

theorem not_blanks (h : HasItems t items) : ¬ Text.Blanks t := by
  obtain ⟨hsplit, hne⟩ := h
  intro hblanks
  rw [itemsFrom_blanks hblanks, Option.some.injEq] at hsplit
  subst hsplit
  exact hne [] (by simp [Text.trim_blanks hblanks]) rfl

/-- A list is read item by item when none of its items is blank. -/
theorem read_eq (h : HasItems t items) (function : Text) :
    read function t = (items.map Text.trim).mapM (readItem function) := by
  rw [read_of_not_blanks h.not_blanks, h.split]
  simp only [dropTrailing_of_ne_nil h.nonempty]

/-- Behind such a list and a comma, reading starts anew. -/
theorem read_append_comma (h : HasItems t items) (hread : read function t = .ok values)
    (rest : Text) :
    read function (t ++ .char ',' :: rest) = (read function rest).map (values ++ ·) := by
  have hjoined : itemsFrom none false [] (t ++ .char ',' :: rest) =
      (itemsFrom none false [] rest).map (items ++ ·) :=
    itemsFrom_append_comma (p := .outside) h.split rest
  have hcomma : ¬ Text.Blanks (t ++ .char ',' :: rest) := fun hblanks =>
    absurd (hblanks ',' (by simp)) (by decide)
  rw [h.read_eq] at hread
  rw [read_of_not_blanks hcomma, hjoined]
  by_cases hrest : Text.Blanks rest
  · rw [itemsFrom_blanks hrest, read_blanks hrest]
    simp only [Option.map_some, List.map_append, List.map_singleton, Text.trim_blanks hrest,
      dropTrailing_concat (map_trim_ne_nil h.split), hread]
    exact congrArg Except.ok (List.append_nil values).symm
  · rw [read_of_not_blanks hrest]
    cases hlater : itemsFrom none false [] rest with
    | none => rfl
    | some later =>
      have hdrop : dropTrailing (items.map Text.trim ++ later.map Text.trim) =
          items.map Text.trim ++ dropTrailing (later.map Text.trim) :=
        dropTrailing_append _ (map_trim_ne_nil hlater) (mt (blanks_of_map_trim hlater) hrest)
      simp only [Option.map_some, List.map_append, hdrop, List.mapM_append, hread]
      cases (dropTrailing (later.map Text.trim)).mapM (readItem function) <;> rfl

/-- One comma may end such a list. -/
theorem read_final_comma (h : HasItems t items) (hread : read function t = .ok values) :
    read function (t ++ [.char ',']) = .ok values := by
  rw [h.read_append_comma hread, read_blanks .nil]
  exact congrArg Except.ok (List.append_nil values)

end HasItems

/-- A list of items is read as the values of the items. -/
theorem read_join {gap : Text} (hgap : Text.Blanks gap) {items : List Text} {values : List Value}
    (h : List.Forall₂ Item items values) (function : Text) :
    read function (Text.join (',' :: gap) items) = .ok values := by
  by_cases hnil : items = []
  · subst hnil
    cases h
    rfl
  · obtain ⟨parts, hparts, htrim⟩ := exists_hasItems_join hgap h hnil
    rw [hparts.read_eq, htrim]
    exact mapM_readItem h function

/-- One comma may end a list of items. -/
theorem read_join_comma {gap : Text} (hgap : Text.Blanks gap) {items : List Text}
    {values : List Value} (h : List.Forall₂ Item items values) (hnil : items ≠ [])
    (function : Text) :
    read function (Text.join (.char ',' :: gap) items ++ [.char ',']) = .ok values := by
  obtain ⟨parts, hparts, -⟩ := exists_hasItems_join hgap h hnil
  exact hparts.read_final_comma (read_join hgap h function)

/-! ## Printed lists -/

theorem readItem_argument_literal {function : Text} {a : Argument}
    (hword : keyword? (p.argument a) = none) (hread : Literal.read (p.argument a) = .ok a.value) :
    readItem function (p.argument a) = .ok a.value := by
  refine readItem_literal (Printer.argument_ne_nil a) ?_ hword hread
  intro heq
  rcases Printer.mem_argument (p := p) a with ⟨s, rfl⟩ | hname
  · cases heq
  · exact absurd (hname '$' (by simp [heq])) (by decide)

/-- Each argument is read from its own text. -/
theorem readItem_argument (function : Text) (a : Argument) :
    readItem function (p.argument a) = .ok a.value := by
  cases a with
  | null => rfl
  | bool b => cases b <;> rfl
  | int n short =>
    obtain ⟨d, hd, rest, htext⟩ := Text.exists_first_digit n.natAbs
    by_cases hn : n < 0
    · have hargument : p.argument (.int n short) = .char '-' :: Text.decimalText n.natAbs :=
        if_pos hn
      refine readItem_argument_literal ?_ ?_
      · rw [hargument]
        exact keyword?_eq_none (by decide +kernel) (by decide) (by decide) _
      · rw [hargument, Literal.read_negative short, Argument.value]
        congr 2
        omega
    · have hargument : p.argument (.int n short) = Text.decimalText n.natAbs := if_neg hn
      refine readItem_argument_literal ?_ ?_
      · rw [hargument, htext]
        exact keyword?_digit hd rest
      · rw [hargument, Literal.read_whole short, Argument.value]
        congr 2
        omega
  | text s => exact (Item.between rfl (passed_body s) (Literal.read_text s)).read function

theorem item_argument (a : Argument) : Item (p.argument a) a.value where
  passed := passed_argument a
  trimmed := Printer.trimmed_argument a
  nonempty := Printer.argument_ne_nil a
  read := fun function => readItem_argument function a

/-- A printed list is read as the list. -/
theorem read_arguments (function : Text) (args : List Argument) :
    read function (p.arguments args) = .ok (args.map Argument.value) := by
  have hgap : Text.Blanks (List.replicate p.gap (.char ' ')) := by
    intro c hc
    rw [List.eq_of_mem_replicate hc]
    decide
  have hitems : List.Forall₂ Item (args.map p.argument) (args.map Argument.value) := by
    rw [List.forall₂_map_left_iff, List.forall₂_map_right_iff]
    exact List.forall₂_same.2 fun a _ => item_argument a
  rw [Printer.arguments_eq_join]
  exact read_join hgap hitems function

end Stencil.Arguments
