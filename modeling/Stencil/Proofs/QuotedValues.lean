import Stencil.Proofs.ArgumentLists
import Stencil.Value.Text

/-!
# Quoted values read back

Nothing, booleans, whole numbers and texts are written in a list the way that argument lists are
read: `quoted` chooses the quotes and the escapes, and the reader of arguments gives the values
again. Each character of a text stands for itself, behind a backslash, or as an escape with digits;
the scanners of commas, of quotations and of escapes pass over each of these forms.
-/

namespace Stencil

open Text (quoteFor escapeChar isPrintable)

attribute [local instance (high)] instPowNat

/-! ## Characters of a quotation -/

/-- A form of a character between quote marks that stands for the character. -/
inductive Text.Written (mark c : CodePoint) : Text → Prop
  | plain (hmark : c ≠ mark) (hslash : c ≠ '\\') (hshown : isPrintable c = true) :
    Written mark c [c]
  | letter {l : CodePoint} (hshown : isPrintable l = true)
    (hescape : ∀ rest, Literal.Quotation.escape? (l :: rest) = some ([c], 1)) :
    Written mark c ['\\', l]
  | code (form : EscapeForm) (hfits : c.toNat < 16 ^ form.width) : Written mark c (form.text c)

namespace Text

theorem codeEscape_eq (c : CodePoint) : codeEscape c = (Printer.shortest.form c).text c := by
  have hform : Printer.shortest.form c =
      if c.toNat < 0x100 then .short else if c.toNat < 0x10000 then .medium else .long := rfl
  rw [codeEscape, hform]
  by_cases hshort : c.toNat < 0x100
  · rw [if_pos hshort, if_pos hshort]
    rfl
  · by_cases hmedium : c.toNat < 0x10000
    · rw [if_neg hshort, if_neg hshort, if_pos hmedium, if_pos hmedium]
      rfl
    · rw [if_neg hshort, if_neg hshort, if_neg hmedium, if_neg hmedium]
      rfl

theorem isMark_quoteFor (t : Text) : Arguments.isMark (quoteFor t) = true := by
  unfold quoteFor
  split <;> rfl

theorem written_escapeChar {mark : CodePoint} (hmark : Arguments.isMark mark = true)
    (c : CodePoint) :
    Written mark c (escapeChar isPrintable mark c) := by
  unfold escapeChar
  split
  · next hquoted =>
    have hplain : c = '\\' ∨ c = '"' ∨ c = '\'' := by
      rcases hquoted with rfl | rfl
      · exact .inr (Literal.Quotation.isMark_iff.1 hmark)
      · exact .inl rfl
    rcases hplain with rfl | rfl | rfl <;> exact .letter (by decide +kernel) fun _ => rfl
  · next hquoted =>
    obtain ⟨hquote, hslash⟩ := not_or.1 hquoted
    split
    · next htab =>
      subst htab
      exact .letter (by decide +kernel) fun _ => rfl
    · split
      · next hline =>
        subst hline
        exact .letter (by decide +kernel) fun _ => rfl
      · split
        · next hreturn =>
          subst hreturn
          exact .letter (by decide +kernel) fun _ => rfl
        · split
          · next hshown => exact .plain hquote hslash hshown
          · rw [codeEscape_eq]
            exact .code _ (Printer.shortest.fits c)

namespace Written

variable {mark c : CodePoint} {t : Text}

/-- No form of a character has a control in it. -/
theorem ne_of_mem (h : Written mark c t) {d e : CodePoint} (hd : d ∈ t)
    (hshown : isPrintable e = false) (hname : isNameChar e = false) : d ≠ e := by
  have hslash : '\\' ≠ e := ne_of_test (by decide +kernel) hshown
  cases h with
  | plain _ _ hc =>
    rw [List.mem_singleton.1 hd]
    exact ne_of_test hc hshown
  | letter hl _ =>
    rcases List.mem_cons.1 hd with rfl | hd
    · exact hslash
    · rw [List.mem_singleton.1 hd]
      exact ne_of_test hl hshown
  | code form _ =>
    rcases List.mem_cons.1 hd with rfl | hd
    · exact hslash
    · rcases List.mem_cons.1 hd with rfl | hd
      · refine ne_of_test ?_ hname
        cases form <;> rfl
      · exact ne_of_test (isNameChar_of_mem_hexText hd) hname

theorem head?_ne (hmark : Arguments.isMark mark = true) (h : Written mark c t) (rest : Text) :
    (t ++ rest).head? ≠ some mark := by
  have hslash : '\\' ≠ mark := (ne_of_test hmark rfl).symm
  cases h with
  | plain hc _ _ => simpa using hc
  | letter _ _ => simpa using hslash
  | code form _ => simpa [EscapeForm.text] using hslash

theorem passed (hmark : Arguments.isMark mark = true) (h : Written mark c t) :
    Arguments.Passed (some mark) t := by
  have hname : isNameChar mark = false := by
    rcases Literal.Quotation.isMark_iff.1 hmark with rfl | rfl <;> rfl
  cases h with
  | plain hc hslash _ => exact .inside hslash hc
  | letter _ _ => exact .escape mark _
  | code form _ => exact .form hname form c

/-- A written character is part of the body of the quotation. -/
theorem body? (hmark : Arguments.isMark mark = true) (h : Written mark c t) (rest : Text) :
    Literal.Quotation.body? [mark] (t ++ rest) =
      (Literal.Quotation.body? [mark] rest).map fun (s, after) => (t ++ s, after) := by
  have hname : isNameChar mark = false := by
    rcases Literal.Quotation.isMark_iff.1 hmark with rfl | rfl <;> rfl
  cases h with
  | plain hc hslash hshown =>
    refine Literal.Quotation.body?_plain (fun d hd => ?_) rest
    rw [List.mem_singleton.1 hd]
    exact ⟨hslash, hc, ne_of_test hshown (by decide +kernel)⟩
  | letter _ _ => exact Literal.Quotation.body?_escape mark _ rest
  | code form _ => exact Literal.Quotation.body?_form hname form c rest

/-- A written character stands for the character. -/
theorem unescapeFrom (h : Written mark c t) (rest : Text) :
    Literal.Quotation.unescapeFrom 0 (t ++ rest) =
      (Literal.Quotation.unescapeFrom 0 rest).map (c :: ·) := by
  cases h with
  | plain _ hslash _ => simp [Literal.Quotation.unescapeFrom, hslash]
  | letter _ hescape =>
    rw [List.cons_append, List.cons_append, List.nil_append, Literal.Quotation.unescapeFrom,
      if_pos rfl, hescape]
    simp only [Option.bind_eq_bind, Option.bind_some, Literal.Quotation.unescapeFrom]
    cases Literal.Quotation.unescapeFrom 0 rest <;> rfl
  | code form hfits => exact Literal.Quotation.unescapeFrom_form form hfits rest

end Written

/-! ## Quoted texts -/

/-- What stands between the quotes of a quoted text. -/
def quotedBody (mark : CodePoint) (t : Text) : Text := t.flatMap (escapeChar isPrintable mark)

section

variable {mark : CodePoint} (hmark : Arguments.isMark mark = true) (t : Text)

include hmark

theorem passed_quotedBody : Arguments.Passed (some mark) (quotedBody mark t) :=
  .flatMap (fun c => (written_escapeChar hmark c).passed hmark) t

/-- The body of a quoted text ends at the mark after it. -/
theorem body?_quotedBody (after : Text) :
    Literal.Quotation.body? [mark] (quotedBody mark t ++ mark :: after) =
      some (quotedBody mark t, after) := by
  induction t with
  | nil => rcases Literal.Quotation.isMark_iff.1 hmark with rfl | rfl <;> rfl
  | cons c t ih =>
    rw [quotedBody] at ih ⊢
    rw [List.flatMap_cons, List.append_assoc, (written_escapeChar hmark c).body? hmark, ih]
    rfl

theorem unescape?_quotedBody : Literal.Quotation.unescape? (quotedBody mark t) = some t := by
  rw [Literal.Quotation.unescape?]
  induction t with
  | nil => rfl
  | cons c t ih =>
    rw [quotedBody] at ih ⊢
    rw [List.flatMap_cons, (written_escapeChar hmark c).unescapeFrom, ih]
    rfl

theorem head?_quotedBody : (quotedBody mark t).head? ≠ some mark := by
  cases t with
  | nil => simp [quotedBody]
  | cons c t => exact (written_escapeChar hmark c).head?_ne hmark _

theorem ne_of_mem_quotedBody {d e : CodePoint} (h : d ∈ quotedBody mark t)
    (hshown : isPrintable e = false) (hname : isNameChar e = false) : d ≠ e := by
  obtain ⟨c, -, hd⟩ := List.mem_flatMap.1 h
  exact (written_escapeChar hmark c).ne_of_mem hd hshown hname

end

end Text

theorem Text.inRanges_surrogate {ranges : List (Nat × Nat)}
    (h : ∀ r ∈ ranges, r.2 < 0xD800 ∨ 0xDFFF < r.1) (n : Fin 0x800) :
    inRanges ranges (.surrogate n) = false := by
  rw [inRanges, List.any_eq_false]
  intro r hr
  have hrange := h r hr
  have hcode := CodePoint.toNat_surrogate n
  simp only [Bool.and_eq_true, decide_eq_true_eq]
  omega

/-- What no literal may hold is neither shown as it is nor part of a name. -/
theorem Literal.Lexeme.hidden_of_isBarred {c : CodePoint} (h : isBarred c = true) :
    isPrintable c = false ∧ Text.isNameChar c = false := by
  cases c with
  | char c =>
    obtain rfl : c = '\x00' := by simpa [isBarred, CodePoint.isSurrogate] using h
    decide +kernel
  | surrogate n =>
    refine ⟨Text.inRanges_surrogate (by decide +kernel) n, ?_⟩
    simp [Text.isNameChar, Text.isLetter, Text.isDigit, Text.digitValue?, CodePoint.le_def]
    omega

/-- A quoted text is read as the text. -/
theorem Literal.read_quoted (t : Text) : read (Text.quoted t) = .ok (.text t) := by
  have hmark := Text.isMark_quoteFor t
  have hread : Quotation.read? [] (Text.quoted t) = some (.text t, []) :=
    Quotation.read?_between (Text.head?_quotedBody hmark t) (Text.body?_quotedBody hmark t [])
      (Text.unescape?_quotedBody hmark t)
  refine read_between hmark hread (fun c hc => ?_) (fun hreturn => ?_)
  · refine Bool.eq_false_iff.2 fun hbarred => ?_
    obtain ⟨hshown, hname⟩ := Lexeme.hidden_of_isBarred hbarred
    exact Text.ne_of_mem_quotedBody hmark t hc hshown hname rfl
  · exact Text.ne_of_mem_quotedBody hmark t hreturn (by decide +kernel) rfl rfl

/-! ## Lists of quoted values -/

namespace Argument

/-- The text of an argument inside a list. -/
def quoted : Argument → Text
  | .text s => Text.quoted s
  | a => Printer.shortest.argument a

theorem quoted_value (a : Argument) : Value.quoted a.value = .ok a.quoted := by
  cases a with
  | null => rfl
  | bool b => cases b <;> rfl
  | int n short =>
    have htext : Number.intText? n = some (quoted (.int n short)) := by
      rw [Number.intText?, if_neg (Nat.not_lt.2 short)]
      rfl
    rw [value, Value.quoted, Value.intText, htext]
  | text s => rfl

theorem quotedItems_values (args : List Argument) :
    Value.quotedItems (args.map value) = .ok (args.map quoted) := by
  induction args with
  | nil => rfl
  | cons a rest ih =>
    rw [List.map_cons, Value.quotedItems, quoted_value, ih]
    rfl

theorem item_quoted (a : Argument) : Arguments.Item a.quoted a.value := by
  cases a with
  | text s =>
    have hmark := Text.isMark_quoteFor s
    exact .between hmark (Text.passed_quotedBody hmark s) (Literal.read_quoted s)
  | null => exact Arguments.item_argument (p := Printer.shortest) .null
  | bool b => exact Arguments.item_argument (p := Printer.shortest) (.bool b)
  | int n short => exact Arguments.item_argument (p := Printer.shortest) (.int n short)

end Argument

/-- The list of the texts of values is read as the list of the values, and a comma behind the last
of them changes nothing. -/
theorem Arguments.read_quoted_values (function : Text) (args : List Argument) :
    ∃ texts, Value.quotedItems (args.map Argument.value) = .ok texts ∧
      read function (Value.commaList texts) = .ok (args.map Argument.value) ∧
      (args ≠ [] →
        read function (Value.commaList texts ++ [.char ',']) = .ok (args.map Argument.value)) := by
  have hgap : Text.Blanks [' '] := by
    intro c hc
    rw [List.mem_singleton.1 hc]
    rfl
  have hitems : List.Forall₂ Item (args.map Argument.quoted) (args.map Argument.value) := by
    rw [List.forall₂_map_left_iff, List.forall₂_map_right_iff]
    exact List.forall₂_same.2 fun a _ => a.item_quoted
  refine ⟨args.map Argument.quoted, Argument.quotedItems_values args, ?_, fun hne => ?_⟩
  · exact read_join hgap hitems function
  · exact read_join_comma hgap hitems (by simpa using hne) function

/-- Both marks, a comma and a backslash at the end, a line feed, a control and a letter beyond
ASCII, in texts with either mark around them. -/
def quotedDelimiters : List Argument :=
  [.text "a\",'\\".text, .text "it's,\n".text, .text "\x00é$".text, .null,
    .int (-5) (Nat.le_of_ble_eq_true rfl)]

theorem Arguments.read_quoted_delimiters :
    quotedDelimiters ≠ [] ∧
    Value.commaList (quotedDelimiters.map Argument.quoted) =
      "'a\",\\'\\\\', \"it's,\\n\", '\\x00é$', None, -5".text ∧
    read [.char 'f'] (Value.commaList (quotedDelimiters.map Argument.quoted) ++ [.char ',']) =
      .ok (quotedDelimiters.map Argument.value) := by
  have hne : quotedDelimiters ≠ [] := by simp [quotedDelimiters]
  obtain ⟨texts, htexts, -, hcomma⟩ := read_quoted_values ['f'] quotedDelimiters
  rw [Argument.quotedItems_values] at htexts
  cases htexts
  exact ⟨hne, by decide +kernel, hcomma hne⟩

end Stencil
