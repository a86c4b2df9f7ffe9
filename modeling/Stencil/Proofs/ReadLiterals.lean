import Mathlib.Data.List.TakeWhile
import Stencil.Literal.Reading
import Stencil.Proofs.PrintedArguments

/-!
# Printed literals read back

A printed text and a printed number are read as the literals they were printed from: the
quotation ends at its last mark, its escapes stand for their characters, and the digits
denote the number. A text that needs no escapes is read as it stands between its marks.
-/

namespace Stencil

attribute [local instance (high)] instPowNat

/-- A text between two marks. -/
def Text.between (mark : CodePoint) (t : Text) : Text := mark :: (t ++ [mark])

/-- A text between double quotes. -/
def Text.inQuotes (t : Text) : Text := .char '"' :: (t ++ [.char '"'])

/-- A text that stands for itself between double quotes. -/
structure Text.Verbatim (t : Text) : Prop where
  mark : .char '"' ∉ t
  slash : .char '\\' ∉ t
  lineFeed : .char '\n' ∉ t
  carriageReturn : .char '\r' ∉ t
  nul : .char '\x00' ∉ t
  noSurrogates : ∀ c ∈ t, c.isSurrogate = false

theorem Text.verbatim_iff {t : Text} :
    Verbatim t ↔ .char '"' ∉ t ∧ .char '\\' ∉ t ∧ .char '\n' ∉ t ∧ .char '\r' ∉ t ∧
      .char '\x00' ∉ t ∧ ∀ c ∈ t, c.isSurrogate = false := by
  constructor
  · intro h
    exact ⟨h.mark, h.slash, h.lineFeed, h.carriageReturn, h.nul, h.noSurrogates⟩
  · rintro ⟨mark, slash, lineFeed, carriageReturn, nul, noSurrogates⟩
    exact ⟨mark, slash, lineFeed, carriageReturn, nul, noSurrogates⟩

instance (t : Text) : Decidable (Text.Verbatim t) := decidable_of_iff _ Text.verbatim_iff.symm

namespace Literal

open Stencil.Text (decimalText hexText isDigit natOfDigits?)

/-! ## Quotations -/

namespace Quotation

variable {p : Printer}

theorem isMark_iff {mark : CodePoint} : isMark mark = true ↔ mark = '"' ∨ mark = '\'' := by
  rw [isMark, Bool.or_eq_true, beq_iff_eq, beq_iff_eq]

/-- Characters that neither end a quotation nor escape another are passed over. -/
theorem body?_plain {mark : CodePoint} {t : Text} (h : ∀ c ∈ t, c ≠ '\\' ∧ c ≠ mark ∧ c ≠ '\n')
    (rest : Text) :
    body? [mark] (t ++ rest) = (body? [mark] rest).map fun (s, after) => (t ++ s, after) := by
  induction t with
  | nil =>
    rw [List.nil_append]
    cases body? [mark] rest <;> rfl
  | cons c t ih =>
    obtain ⟨hslash, hmark, hline⟩ := h c (by simp)
    have hopen : Text.startsWith [mark] (c :: (t ++ rest)) = false := by
      simp [Text.startsWith, List.isPrefixOf, hmark.symm]
    have hread : body? [mark] (c :: (t ++ rest)) =
        (body? [mark] (t ++ rest)).map fun (s, after) => (c :: s, after) := by
      rw [body?]
      · simp [hopen, hline]
      · simp [hslash]
      · simp [hslash]
    rw [List.cons_append, hread, ih fun d hd => h d (by simp [hd])]
    cases body? [mark] rest <;> rfl

/-- A backslash takes the character after it along, whatever that is. -/
theorem body?_escape (mark c : CodePoint) (rest : Text) :
    body? [mark] ('\\' :: c :: rest) =
      (body? [mark] rest).map fun (s, after) => ('\\' :: c :: s, after) := by
  rw [body?]

/-- An escape with hexadecimal digits is passed over. -/
theorem body?_form {mark : CodePoint} (hmark : Text.isNameChar mark = false) (form : EscapeForm)
    (c : CodePoint) (rest : Text) :
    body? [mark] (form.text c ++ rest) =
      (body? [mark] rest).map fun (s, after) => (form.text c ++ s, after) := by
  have hdigits : ∀ d ∈ hexText form.width c.toNat, d ≠ '\\' ∧ d ≠ mark ∧ d ≠ '\n' := by
    intro d hd
    have hname := Text.isNameChar_of_mem_hexText hd
    exact ⟨Text.ne_of_test hname rfl, Text.ne_of_test hname hmark, Text.ne_of_test hname rfl⟩
  rw [EscapeForm.text, List.cons_append, List.cons_append, body?_escape, body?_plain hdigits]
  cases body? [mark] rest <;> rfl

theorem body?_char (c : CodePoint) (rest : Text) :
    body? ['"'] (p.char c ++ rest) =
      (body? ['"'] rest).map fun (s, after) => (p.char c ++ s, after) := by
  cases hescaped : Printer.isEscaped c with
  | false =>
    rw [Printer.char_of_not_isEscaped hescaped]
    refine body?_plain (fun d hd => ?_) rest
    rw [List.mem_singleton.1 hd]
    exact ⟨Printer.ne_of_not_isEscaped hescaped rfl, Printer.ne_of_not_isEscaped hescaped rfl,
      Printer.ne_of_not_isEscaped hescaped rfl⟩
  | true =>
    rw [Printer.char_of_isEscaped hescaped]
    exact body?_form rfl (p.form c) c rest

/-- A printed body ends at the mark after it. -/
theorem body?_body (s after : Text) :
    body? [.char '"'] (p.body s ++ .char '"' :: after) = some (p.body s, after) := by
  induction s with
  | nil => rfl
  | cons c s ih =>
    rw [Printer.body] at ih ⊢
    rw [List.flatMap_cons, List.append_assoc, body?_char, ih]
    rfl

theorem unescapeFrom_skip (skip : Nat) (t : Text) :
    unescapeFrom skip t = unescapeFrom 0 (t.drop skip) := by
  induction t generalizing skip with
  | nil => simp [unescapeFrom]
  | cons c rest ih =>
    cases skip with
    | zero => rfl
    | succ skip => exact ih skip

theorem codePoint?_toNat (c : CodePoint) : codePoint? c.toNat = some c := by
  rw [codePoint?, if_pos c.toNat_lt, CodePoint.ofNat_toNat]

theorem hexCode?_hexText (width : Nat) {c : CodePoint} (hwidth : 0 < width)
    (h : c.toNat < 16 ^ width) (rest : Text) :
    hexCode? width (hexText width c.toNat ++ rest) = some c := by
  have hlength := Text.length_hexText hwidth h
  have htake : (hexText width c.toNat ++ rest).take width = hexText width c.toNat := by
    rw [List.take_append_of_le_length (by omega), List.take_of_length_le (by omega)]
  simp [hexCode?, htake, hlength, Text.natOfDigits?_hexText, codePoint?_toNat]

theorem escape?_hexText (form : EscapeForm) {c : CodePoint} (h : c.toNat < 16 ^ form.width)
    (rest : Text) :
    escape? (form.letter :: (hexText form.width c.toNat ++ rest)) = some ([c], form.width + 1) := by
  cases form with
  | short =>
    have hcode := hexCode?_hexText 2 (by omega) h rest
    simp [EscapeForm.letter, EscapeForm.width, escape?, hcode]
  | medium =>
    have hcode := hexCode?_hexText 4 (by omega) h rest
    simp [EscapeForm.letter, EscapeForm.width, escape?, hcode]
  | long =>
    have hcode := hexCode?_hexText 8 (by omega) h rest
    simp [EscapeForm.letter, EscapeForm.width, escape?, hcode]

/-- An escape with digits enough stands for its character. -/
theorem unescapeFrom_form (form : EscapeForm) {c : CodePoint} (h : c.toNat < 16 ^ form.width)
    (rest : Text) :
    unescapeFrom 0 (form.text c ++ rest) = (unescapeFrom 0 rest).map (c :: ·) := by
  have hwidth : 0 < form.width := by cases form <;> decide
  have hlength := Text.length_hexText hwidth h
  have hskip : unescapeFrom (form.width + 1)
      (form.letter :: (hexText form.width c.toNat ++ rest)) = unescapeFrom 0 rest := by
    rw [unescapeFrom_skip, List.drop_succ_cons, List.drop_left' hlength]
  rw [EscapeForm.text, List.cons_append, List.cons_append, unescapeFrom, if_pos rfl,
    escape?_hexText form h]
  simp only [Option.bind_eq_bind, Option.bind_some, hskip]
  cases unescapeFrom 0 rest <;> rfl

theorem unescapeFrom_char (c : CodePoint) (rest : Text) :
    unescapeFrom 0 (p.char c ++ rest) = (unescapeFrom 0 rest).map (c :: ·) := by
  cases hescaped : Printer.isEscaped c with
  | false =>
    have hslash : c ≠ '\\' := Printer.ne_of_not_isEscaped hescaped rfl
    simp [Printer.char_of_not_isEscaped hescaped, unescapeFrom, hslash]
  | true =>
    rw [Printer.char_of_isEscaped hescaped]
    exact unescapeFrom_form (p.form c) (p.fits c) rest

/-- The escapes of a printed body stand for what was printed. -/
theorem unescape?_body (s : Text) : unescape? (p.body s) = some s := by
  rw [unescape?]
  induction s with
  | nil => rfl
  | cons c s ih =>
    rw [Printer.body] at ih ⊢
    rw [List.flatMap_cons, unescapeFrom_char, ih]
    rfl

/-- Text without a backslash has no escape. -/
theorem unescape?_of_not_mem {t : Text} (h : .char '\\' ∉ t) : unescape? t = some t := by
  rw [unescape?]
  induction t with
  | nil => rfl
  | cons c rest ih =>
    obtain ⟨hc, hrest⟩ := not_or.1 (mt List.mem_cons.2 h)
    rw [unescapeFrom, if_neg (Ne.symm hc), ih hrest, Option.map_some]

theorem read?_between {mark : CodePoint} {t s : Text} (hfirst : t.head? ≠ some mark)
    (hbody : body? [mark] (t ++ [mark]) = some (t, [])) (hunescape : unescape? t = some s) :
    read? [] (Text.between mark t) = some (.text s, []) := by
  have hsingle : Text.startsWith [mark, mark] (t ++ [mark]) = false := by
    cases t with
    | nil => simp [Text.startsWith, List.isPrefixOf]
    | cons c rest =>
      have hmark : mark ≠ c := by
        rintro rfl
        exact hfirst rfl
      simp [Text.startsWith, List.isPrefixOf, hmark]
  simp [Text.between, read?, mode?, hsingle, hbody, hunescape]

theorem read?_body (s : Text) : read? [] (Text.inQuotes (p.body s)) = some (.text s, []) := by
  refine read?_between ?_ (body?_body s []) (unescape?_body s)
  intro hfirst
  exact (Printer.isPlain_of_mem_body (List.mem_of_head? hfirst)).2 rfl

/-- A verbatim text in quotes denotes itself. -/
theorem read?_verbatim {t : Text} (h : Text.Verbatim t) :
    read? [] (Text.inQuotes t) = some (.text t, []) := by
  refine read?_between ?_ ?_ (unescape?_of_not_mem h.slash)
  · intro hfirst
    exact h.mark (List.mem_of_head? hfirst)
  · rw [body?_plain]
    · simp [body?, Text.startsWith]
    · intro c hc
      refine ⟨?_, ?_, ?_⟩
      · rintro rfl
        exact h.slash hc
      · rintro rfl
        exact h.mark hc
      · rintro rfl
        exact h.lineFeed hc

end Quotation

/-! ## Numerals -/

namespace Numeral

theorem dropSeparators?_digits {t : Text} (h : ∀ c ∈ t, isDigit c = true) {previous : CodePoint}
    (hprevious : previous ≠ '_') : Number.dropSeparators? isDigit previous t = some t := by
  induction t generalizing previous with
  | nil => simp [Number.dropSeparators?, hprevious]
  | cons c t ih =>
    have hdigit : isDigit c = true := h c (by simp)
    have hc : c ≠ '_' := Text.ne_of_test hdigit rfl
    rw [Number.dropSeparators?]
    · simp [hprevious, ih (fun d hd => h d (by simp [hd])) hc]
    · exact hc

theorem digitRun?_digits {t : Text} (h : ∀ c ∈ t, isDigit c = true) :
    digitRun? t = some (t, []) := by
  have hrun : ∀ c ∈ t, (isDigit c || c == '_') = true := fun c hc => by simp [h c hc]
  have htake : t.takeWhile (fun c => isDigit c || c == '_') = t :=
    List.takeWhile_eq_self_iff.2 hrun
  have hdrop : t.dropWhile (fun c => isDigit c || c == '_') = [] :=
    List.dropWhile_eq_nil_iff.2 hrun
  simp [digitRun?, htake, hdrop, dropSeparators?_digits h]

theorem readDecimal?_decimalText {n : Nat}
    (short : (decimalText n).length ≤ Number.digitLimit) :
    readDecimal? (decimalText n) = some (.whole n, []) := by
  have hrun := digitRun?_digits (t := decimalText n) fun c => Text.isDigit_of_mem_decimalText
  have hkept : ¬ (n ≠ 0 ∧ ((decimalText n).head? = some (.char '0') ∨
      Number.digitLimit < (decimalText n).length)) := by
    rintro ⟨hzero, hhead | hlong⟩
    · exact hzero (Text.head?_decimalText hhead)
    · omega
  simp [readDecimal?, hrun, fraction?, power?, Text.decimalText_ne_nil,
    Text.natOfDigits?_decimalText, ends, hkept]

/-- No number has the letter of a base after a zero in front. -/
theorem read?_decimalText {n : Nat} (short : (decimalText n).length ≤ Number.digitLimit) :
    read? (decimalText n) = some (.whole n, []) := by
  rw [← readDecimal?_decimalText short]
  unfold read?
  split
  · next c rest htext =>
    have hzero : n = 0 := Text.head?_decimalText (by rw [htext]; rfl)
    subst hzero
    cases htext
  · rfl

end Numeral

/-! ## Lexemes -/

namespace Lexeme

/-- Characters that a text may start with and have no lexeme of their own before them. -/
def isFirst (c : CodePoint) : Bool := !isSpace c && c != '\\' && c != '\n' && c != '#'

theorem skipSpace_first {c : CodePoint} (h : isFirst c = true) (rest : Text) :
    skipSpace (c :: rest) = c :: rest := by
  simp only [isFirst, Bool.and_eq_true, Bool.not_eq_true', bne_iff_ne] at h
  rw [skipSpace]
  · simp [h.1.1.1]
  · rintro d t rfl
    exact absurd rfl h.1.1.2

theorem skipComment_first {c : CodePoint} (h : isFirst c = true) (rest : Text) :
    skipComment (c :: rest) = c :: rest := by
  simp only [isFirst, Bool.and_eq_true, bne_iff_ne] at h
  unfold skipComment
  split
  · next heq =>
    cases heq
    exact absurd rfl h.2
  · rfl

theorem readAll?_cons {c : CodePoint} {rest after : Text} {l : Lexeme} {ls : List Lexeme}
    {fuel : Nat} (hfirst : isFirst c = true) (hread : read? (c :: rest) = some (l, after))
    (hlater : readAll? fuel after = some ls) :
    readAll? (fuel + 1) (c :: rest) = some (l :: ls) := by
  rw [readAll?, skipSpace_first hfirst, skipComment_first hfirst]
  split
  · next heq => cases heq
  · next heq =>
    cases heq
    cases hfirst
  · simp [hread, hlater]

theorem readAll?_nil (fuel : Nat) : readAll? (fuel + 1) [] = some [] := rfl

theorem lineStart_first {c : CodePoint} (hfirst : isFirst c = true) (rest : Text) :
    lineStart (c :: rest) = [] := by
  have hmargin : offMargin false false (c :: rest) = false := by
    simp only [isFirst, isSpace, Bool.and_eq_true, Bool.not_eq_true', Bool.or_eq_false_iff,
      beq_eq_false_iff_ne, bne_iff_ne] at hfirst
    rw [offMargin]
    · simp [hfirst]
    · rintro t rfl
      exact absurd rfl hfirst.1.1.2
    · rintro rfl
      exact absurd rfl hfirst.1.1.1.2
  rw [lineStart, skipSpace_first hfirst]
  simp [hmargin]

theorem unifyLines_of_not_mem {t : Text} (h : .char '\r' ∉ t) : unifyLines t = t := by
  induction t with
  | nil => rfl
  | cons c rest ih =>
    obtain ⟨hc, hrest⟩ := not_or.1 (mt List.mem_cons.2 h)
    rw [unifyLines, ih hrest]
    · rintro t rfl
      exact absurd rfl hc
    · rintro rfl
      exact absurd rfl hc

theorem isBarred_of_isPlain {c : CodePoint} (h : Printer.isPlain c = true) :
    isBarred c = false := by
  cases c with
  | char c =>
    have hnul : CodePoint.char c ≠ '\x00' := Text.ne_of_test h rfl
    simpa [isBarred, CodePoint.isSurrogate] using hnul
  | surrogate n =>
    have hcode := CodePoint.toNat_surrogate n
    simp only [Printer.isPlain, Bool.and_eq_true, decide_eq_true_eq] at h
    omega

/-- The lexemes of a text, none of which is a bracket or ends a line. -/
theorem ofText?_line {c : CodePoint} {rest : Text} {ls : List Lexeme} (hfirst : isFirst c = true)
    (hlegal : ∀ d ∈ c :: rest, isBarred d = false) (hreturn : .char '\r' ∉ c :: rest)
    (hread : readAll? ((c :: rest).length + 1) (c :: rest) = some ls)
    (hjoin : joinLines? 0 ls = some ls) : ofText? (c :: rest) = some ls := by
  have hclean : ¬ (c :: rest).any isBarred = true := by simpa using hlegal
  rw [ofText?, if_neg hclean, unifyLines_of_not_mem hreturn]
  simp only [hread, lineStart_first hfirst, Option.bind_some, List.nil_append, hjoin]

/-- Printed text has one line, without what literals refuse. -/
theorem ofText?_plain {c : CodePoint} {rest : Text} {ls : List Lexeme} (hfirst : isFirst c = true)
    (hplain : ∀ d ∈ c :: rest, Printer.isPlain d = true)
    (hread : readAll? ((c :: rest).length + 1) (c :: rest) = some ls)
    (hjoin : joinLines? 0 ls = some ls) : ofText? (c :: rest) = some ls := by
  refine ofText?_line hfirst (fun d hd => isBarred_of_isPlain (hplain d hd)) ?_ hread hjoin
  exact fun h => absurd (hplain _ h) (by decide)

theorem read?_quotation {mark : CodePoint} (hmark : Quotation.isMark mark = true)
    {rest after : Text} {q : Quotation} (h : Quotation.read? [] (mark :: rest) = some (q, after)) :
    read? (mark :: rest) = some (.quotation q, after) := by
  have hletters : Numeral.continuesName mark = false := by
    rcases Quotation.isMark_iff.1 hmark with rfl | rfl <;> decide
  have hmode : (Quotation.mode? []).isSome = true := rfl
  rcases Quotation.isMark_iff.1 hmark with rfl | rfl
  · simp [read?, hletters, hmode, h, isDigit, Text.digitValue?, Quotation.isMark]
  · simp [read?, hletters, hmode, h, isDigit, Text.digitValue?, Quotation.isMark]

theorem read?_number {c : CodePoint} {rest after : Text} {n : Numeral} (hdigit : isDigit c = true)
    (h : Numeral.read? (c :: rest) = some (n, after)) :
    read? (c :: rest) = some (.number n, after) := by
  have hpoint : c ≠ '.' := Text.ne_of_test hdigit rfl
  unfold read?
  split
  · next heq =>
    cases heq
    exact absurd rfl hpoint
  · next heq =>
    cases heq
    simp [hdigit, h]
  · next heq => cases heq

theorem read?_minus (rest : Text) : read? ('-' :: rest) = some (.mark ['-'], rest) := by
  have hletters : Numeral.continuesName '-' = false := by decide
  have hmark : readMark? ('-' :: rest) = some (.mark ['-'], rest) := rfl
  simp [read?, hletters, hmark, isDigit, Text.digitValue?, Quotation.isMark]

end Lexeme

/-! ## Literals -/

/-- A text whose lexemes make one expression denotes what the expression denotes. -/
theorem read_of_lexemes {t : Text} {l : Lexeme} {ls : List Lexeme} {e : Expression}
    (hlexemes : Lexeme.ofText? t = some (l :: ls)) (hline : l ≠ .lineEnd)
    (hparse : ∀ accepts, Grammar.apply accepts ((l :: ls).length + 1) .expression
      (l :: ls ++ [.lineEnd]) = some (e, [.lineEnd])) :
    read t = e.denote.bind valueOf := by
  have hdrop : (l :: ls).dropWhile (· == .lineEnd) = l :: ls := by
    rw [List.dropWhile_cons_of_neg (by simpa using hline)]
  have hexpression : expression? t = some e := by
    simp only [expression?, hlexemes, Option.bind_eq_bind, Option.bind_some, hdrop, readLine?,
      hparse]
    rfl
  rw [read, hexpression]

variable {p : Printer}

/-- A quotation denotes its text. -/
theorem read_between {mark : CodePoint} (hmark : Quotation.isMark mark = true) {t s : Text}
    (h : Quotation.read? [] (Text.between mark t) = some (.text s, []))
    (hlegal : ∀ c ∈ t, Lexeme.isBarred c = false) (hreturn : .char '\r' ∉ t) :
    read (Text.between mark t) = .ok (.text s) := by
  have hread : Lexeme.read? (Text.between mark t) = some (.quotation (.text s), []) :=
    Lexeme.read?_quotation hmark h
  have hfirst : Lexeme.isFirst mark = true := by
    rcases Quotation.isMark_iff.1 hmark with rfl | rfl <;> decide
  have hmarkLegal : Lexeme.isBarred mark = false := by
    rcases Quotation.isMark_iff.1 hmark with rfl | rfl <;> rfl
  have hmarkReturn : .char '\r' ≠ mark := (Text.ne_of_test hmark rfl).symm
  have hlexemes : Lexeme.ofText? (Text.between mark t) = some [.quotation (.text s)] := by
    refine Lexeme.ofText?_line hfirst ?_ ?_ ?_ rfl
    · exact List.forall_mem_cons.2 ⟨hmarkLegal,
        List.forall_mem_append.2 ⟨hlegal, List.forall_mem_singleton.2 hmarkLegal⟩⟩
    · simpa [hmarkReturn] using hreturn
    · exact Lexeme.readAll?_cons hfirst hread (Lexeme.readAll?_nil _)
  -- One or two lexemes: the grammar is short enough to be evaluated on them.
  exact read_of_lexemes hlexemes (by simp) fun _ => rfl

theorem read_text (s : Text) : read (p.argument (.text s)) = .ok (.text s) := by
  refine read_between rfl (Quotation.read?_body s) (fun c hc => ?_) fun h => ?_
  · exact Lexeme.isBarred_of_isPlain (Printer.isPlain_of_mem_body hc).1
  · exact absurd (Printer.isPlain_of_mem_body h).1 (by decide)

theorem read_verbatim {t : Text} (h : Text.Verbatim t) :
    read (Text.inQuotes t) = .ok (.text t) := by
  refine read_between rfl (Quotation.read?_verbatim h) (fun c hc => ?_) h.carriageReturn
  have hnul : c ≠ '\x00' := fun heq => h.nul (heq ▸ hc)
  simpa [Lexeme.isBarred, hnul] using h.noSurrogates c hc

theorem isFirst_of_isDigit {c : CodePoint} (h : isDigit c = true) : Lexeme.isFirst c = true := by
  have hne : ∀ d, isDigit d = false → c ≠ d := fun d => Text.ne_of_test h
  simp [Lexeme.isFirst, Lexeme.isSpace, hne ' ' rfl, hne '\t' rfl, hne '\x0C' rfl,
    hne '\\' rfl, hne '\n' rfl, hne '#' rfl]

theorem isPlain_of_mem_decimalText {n : Nat} {c : CodePoint} (h : c ∈ decimalText n) :
    Printer.isPlain c = true :=
  Printer.isPlain_of_isNameChar (Printer.isNameChar_of_mem_decimalText h)

theorem readAll?_decimalText {n fuel : Nat}
    (short : (decimalText n).length ≤ Number.digitLimit) (hfuel : 2 ≤ fuel) :
    Lexeme.readAll? fuel (decimalText n) = some [.number (.whole n)] := by
  obtain ⟨d, hd, rest, htext⟩ := Text.exists_first_digit n
  obtain ⟨k, rfl⟩ := Nat.exists_eq_add_of_le' hfuel
  have hdigit := Text.isDigit_digitChar hd
  have hnumeral := Numeral.read?_decimalText short
  rw [htext] at hnumeral ⊢
  exact Lexeme.readAll?_cons (isFirst_of_isDigit hdigit) (Lexeme.read?_number hdigit hnumeral)
    (Lexeme.readAll?_nil k)

theorem read_whole {n : Nat} (short : (decimalText n).length ≤ Number.digitLimit) :
    read (decimalText n) = .ok (.int n) := by
  have hlexemes : Lexeme.ofText? (decimalText n) = some [.number (.whole n)] := by
    have hplain : ∀ c ∈ decimalText n, Printer.isPlain c = true := fun c =>
      isPlain_of_mem_decimalText
    obtain ⟨d, hd, rest, htext⟩ := Text.exists_first_digit n
    have hread : Lexeme.readAll? ((decimalText n).length + 1) (decimalText n) = _ :=
      readAll?_decimalText short (by simp [htext])
    rw [htext] at hplain hread ⊢
    exact Lexeme.ofText?_plain (isFirst_of_isDigit (Text.isDigit_digitChar hd)) hplain hread rfl
  exact read_of_lexemes hlexemes (by simp) fun _ => rfl

theorem read_negative {n : Nat} (short : (decimalText n).length ≤ Number.digitLimit) :
    read ('-' :: decimalText n) = .ok (.int (-n)) := by
  have hplain : ∀ c ∈ .char '-' :: decimalText n, Printer.isPlain c = true := by
    intro c hc
    rcases List.mem_cons.1 hc with rfl | hc
    · decide
    · exact isPlain_of_mem_decimalText hc
  have hfuel : 2 ≤ (.char '-' :: decimalText n).length := by
    have hlength := List.length_pos_iff.2 (Text.decimalText_ne_nil n)
    rw [List.length_cons]
    omega
  have hlexemes : Lexeme.ofText? ('-' :: decimalText n) =
      some [.mark ['-'], .number (.whole n)] := by
    refine Lexeme.ofText?_plain (by decide) hplain ?_ rfl
    exact Lexeme.readAll?_cons (by decide) (Lexeme.read?_minus _)
      (readAll?_decimalText short hfuel)
  exact read_of_lexemes hlexemes (by simp) fun _ => rfl

end Literal

end Stencil
