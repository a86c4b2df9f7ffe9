import Stencil.Arguments
import Stencil.Proofs.Digits
import Stencil.Proofs.TokenTexts

/-!
# Printed arguments

Lists of literal arguments and their texts in a tag. A text stands in double quotes, with
escapes for the characters that a tag or a quotation would mind. How long an escape is and
how many spaces follow a comma is free.
-/

namespace Stencil

attribute [local instance (high)] instPowNat

/-- Nothing, a boolean, a whole number within the digit limit, or a text. -/
inductive Argument where
  | null
  | bool (b : Bool)
  | int (n : Int) (short : (Text.decimalText n.natAbs).length ≤ Number.digitLimit)
  | text (s : Text)
  deriving DecidableEq

def Argument.value : Argument → Value
  | null => .null
  | bool b => .bool b
  | int n _ => .int n
  | text s => .text s

/-- Escapes of two, four and eight hexadecimal digits. -/
inductive EscapeForm where
  | short
  | medium
  | long
  deriving DecidableEq, Repr

namespace EscapeForm

def letter : EscapeForm → CodePoint
  | short => 'x'
  | medium => 'u'
  | long => 'U'

def width : EscapeForm → Nat
  | short => 2
  | medium => 4
  | long => 8

def text (form : EscapeForm) (c : CodePoint) : Text :=
  '\\' :: form.letter :: Text.hexText form.width c.toNat

end EscapeForm

/-- The choices in printing: the form of each escape, which has digits enough for the
character, and the number of spaces after a comma. -/
structure Printer where
  form : CodePoint → EscapeForm
  fits : ∀ c, c.toNat < 16 ^ (form c).width
  gap : Nat

namespace Printer

/-- Escapes of the least length, and one space after a comma. -/
def shortest : Printer where
  form := fun c => if c.toNat < 0x100 then .short else if c.toNat < 0x10000 then .medium else .long
  fits := fun c => by
    split
    · assumption
    · split
      · assumption
      · exact Nat.lt_trans c.toNat_lt (by decide)
  gap := 1

/-- Double quotes, backslashes, braces, controls, and what is not ASCII. -/
def isEscaped (c : CodePoint) : Bool :=
  c == '"' || c == '\\' || c == '{' || c == '}' || c.toNat < 32 || 127 ≤ c.toNat

def char (p : Printer) (c : CodePoint) : Text := if isEscaped c then (p.form c).text c else [c]

def body (p : Printer) (s : Text) : Text := s.flatMap p.char

def argument (p : Printer) : Argument → Text
  | .null => "None".text
  | .bool true => "True".text
  | .bool false => "False".text
  | .int n _ => if n < 0 then '-' :: Text.decimalText n.natAbs else Text.decimalText n.natAbs
  | .text s => .char '"' :: (p.body s ++ [.char '"'])

def separator (p : Printer) : Text := ',' :: List.replicate p.gap (.char ' ')

def arguments (p : Printer) : List Argument → Text
  | [] => []
  | a :: rest => p.argument a ++ rest.flatMap fun b => p.separator ++ p.argument b

example :
    shortest.arguments [.text "a.\",('\x7b".text, .text ['$'], .int (-5) (by decide), .null] =
      "\"a.\\x22,('\\x7b\", \"$\", -5, None".text := by decide +kernel

/-! ## Characters of printed text -/

/-- Visible ASCII characters and the space, but no braces. -/
def isPlain (c : CodePoint) : Bool := 32 ≤ c.toNat && c.toNat < 127 && c != '{' && c != '}'

theorem isPlain_of_not_isEscaped {c : CodePoint} (h : isEscaped c = false) : isPlain c = true := by
  simp only [isEscaped, Bool.or_eq_false_iff, beq_eq_false_iff_ne, decide_eq_false_iff_not] at h
  simp [isPlain, h]
  omega

theorem ne_of_not_isEscaped {c d : CodePoint} (h : isEscaped c = false) (hd : isEscaped d = true) :
    c ≠ d :=
  (Text.ne_of_test hd h).symm

/-- The digits of an escape are plain, and neither end a quotation nor escape another character. -/
theorem plain_of_mem_hexText {width n : Nat} {c : CodePoint} (h : c ∈ Text.hexText width n) :
    isPlain c = true ∧ c ≠ '"' ∧ c ≠ '\\' := by
  have hdigits : ∀ d < 16, isPlain (Nat.digitChar d) = true ∧
      (Nat.digitChar d : CodePoint) ≠ '"' ∧ (Nat.digitChar d : CodePoint) ≠ '\\' := by decide
  obtain ⟨d, hd, rfl⟩ := Text.exists_digit_of_mem_hexText h
  exact hdigits d hd

variable {p : Printer}

theorem char_of_not_isEscaped {c : CodePoint} (h : isEscaped c = false) : p.char c = [c] := by
  rw [char, h, if_neg (by decide)]

theorem char_of_isEscaped {c : CodePoint} (h : isEscaped c = true) :
    p.char c = .char '\\' :: (p.form c).letter :: Text.hexText (p.form c).width c.toNat := by
  rw [char, h, if_pos rfl, EscapeForm.text]

theorem isPlain_of_mem_char {c d : CodePoint} (h : d ∈ p.char c) : isPlain d = true ∧ d ≠ '"' := by
  cases hescaped : isEscaped c with
  | false =>
    rw [char_of_not_isEscaped hescaped, List.mem_singleton] at h
    subst h
    exact ⟨isPlain_of_not_isEscaped hescaped, ne_of_not_isEscaped hescaped rfl⟩
  | true =>
    rw [char_of_isEscaped hescaped] at h
    rcases List.mem_cons.1 h with rfl | h
    · decide
    · rcases List.mem_cons.1 h with rfl | h
      · cases p.form c <;> decide
      · obtain ⟨hplain, hmark, -⟩ := plain_of_mem_hexText h
        exact ⟨hplain, hmark⟩

/-- A printed character ends in no backslash: an escape ends in a digit. -/
theorem getLast?_char (c : CodePoint) : (p.char c).getLast? ≠ some (.char '\\') := by
  cases hescaped : isEscaped c with
  | false =>
    rw [char_of_not_isEscaped hescaped]
    intro h
    exact ne_of_not_isEscaped hescaped rfl (Option.some.inj h)
  | true =>
    have hlength : (Text.hexText (p.form c).width c.toNat).length = (p.form c).width :=
      Text.length_hexText (by cases p.form c <;> decide) (p.fits c)
    have hne : Text.hexText (p.form c).width c.toNat ≠ [] := by
      intro hnil
      rw [hnil] at hlength
      cases hform : p.form c <;> rw [hform] at hlength <;> cases hlength
    rw [char_of_isEscaped hescaped, List.getLast?_cons_cons, List.getLast?_cons_of_ne_nil hne]
    intro h
    exact (plain_of_mem_hexText (List.mem_of_getLast? h)).2.2 rfl

theorem isPlain_of_mem_body {s : Text} {d : CodePoint} (h : d ∈ p.body s) :
    isPlain d = true ∧ d ≠ '"' := by
  obtain ⟨c, -, hd⟩ := List.mem_flatMap.1 h
  exact isPlain_of_mem_char hd

theorem getLast?_body (s : Text) : (p.body s).getLast? ≠ some (.char '\\') := by
  induction s with
  | nil => simp [body]
  | cons c s ih =>
    rw [body, List.flatMap_cons, List.getLast?_append]
    cases hrest : (s.flatMap p.char).getLast? with
    | none => exact getLast?_char c
    | some d => simpa [body, hrest] using ih

/-! ## Texts of arguments -/

theorem isNameChar_of_mem_decimalText {n : Nat} {c : CodePoint} (h : c ∈ Text.decimalText n) :
    Text.isNameChar c = true := by
  simp [Text.isNameChar, Text.isDigit_of_mem_decimalText h]

theorem isPlain_of_isNameChar {c : CodePoint} (h : Text.isNameChar c = true) :
    isPlain c = true := by
  have hcode := Text.code_of_isNameChar h
  have hbraces : c ≠ '{' ∧ c ≠ '}' := ⟨Text.ne_of_test h rfl, Text.ne_of_test h rfl⟩
  simp [isPlain, hbraces]
  omega

/-- The words and numbers among arguments have no character but name characters and a sign. -/
theorem mem_argument (a : Argument) :
    (∃ s, a = .text s) ∨ ∀ c ∈ p.argument a, c = '-' ∨ Text.isNameChar c = true := by
  have hword : ∀ w : Text, w.all Text.isNameChar = true →
      ∀ c ∈ w, c = '-' ∨ Text.isNameChar c = true :=
    fun w hw c hc => .inr (List.all_eq_true.1 hw c hc)
  cases a with
  | null => exact .inr (hword _ rfl)
  | bool b => cases b <;> exact .inr (hword _ rfl)
  | int n short =>
    refine .inr fun c hc => ?_
    rw [argument] at hc
    split at hc
    · rcases List.mem_cons.1 hc with rfl | hc
      · exact .inl rfl
      · exact .inr (isNameChar_of_mem_decimalText hc)
    · exact .inr (isNameChar_of_mem_decimalText hc)
  | text s => exact .inl ⟨s, rfl⟩

theorem argument_ne_nil (a : Argument) : p.argument a ≠ [] := by
  cases a with
  | null => simp [argument]
  | bool b => cases b <;> simp [argument]
  | int n short =>
    rw [argument]
    split
    · simp
    · exact Text.decimalText_ne_nil _
  | text s => simp [argument]

theorem isPlain_of_mem_argument {a : Argument} {c : CodePoint} (h : c ∈ p.argument a) :
    isPlain c = true := by
  rcases mem_argument (p := p) a with ⟨s, rfl⟩ | hword
  · rcases List.mem_cons.1 h with rfl | h
    · decide
    · rcases List.mem_append.1 h with hbody | hmark
      · exact (isPlain_of_mem_body hbody).1
      · rw [List.mem_singleton.1 hmark]
        decide
  · rcases hword c h with rfl | hname
    · decide
    · exact isPlain_of_isNameChar hname

theorem trimmed_argument (a : Argument) : Text.Trimmed (p.argument a) := by
  rcases mem_argument (p := p) a with ⟨s, rfl⟩ | hword
  · constructor
    · intro c hc
      cases hc
      decide
    · intro c hc
      rw [argument, ← List.cons_append, List.getLast?_concat] at hc
      cases hc
      decide
  · have hblank : ∀ c ∈ p.argument a, Text.isBlank c = false := by
      intro c hc
      rcases hword c hc with rfl | hname
      · decide
      · exact Text.isBlank_of_isNameChar hname
    exact ⟨fun c hc => hblank c (List.mem_of_head? hc),
      fun c hc => hblank c (List.mem_of_getLast? hc)⟩

theorem contained_argument (depth : Int) (a : Argument) :
    Chain.Contained depth (p.argument a) := by
  rcases mem_argument (p := p) a with ⟨s, rfl⟩ | hword
  · exact .quoted (by decide) (fun h => (isPlain_of_mem_body h).2 rfl) (getLast?_body s)
  · refine .of_neutral ?_ (fun hdot => ?_) (fun hslash => ?_)
    · intro c hc
      rcases hword c hc with rfl | hname
      · decide
      · exact Chain.isNeutral_of_isNameChar hname
    · exact absurd (hword '.' hdot) (by decide)
    · exact absurd (hword '\\' hslash) (by decide)

theorem separator_chars {c : CodePoint} (h : c ∈ p.separator) : c = ',' ∨ c = ' ' := by
  rcases List.mem_cons.1 h with rfl | hspace
  · exact .inl rfl
  · exact .inr (List.eq_of_mem_replicate hspace)

theorem arguments_eq_join (args : List Argument) :
    p.arguments args = Text.join p.separator (args.map p.argument) := by
  cases args with
  | nil => rfl
  | cons a args =>
    induction args generalizing a with
    | nil => simp [arguments, Text.join]
    | cons b args ih =>
      rw [List.map_cons, List.map_cons, Text.join, ← List.map_cons, ← ih b]
      · simp [arguments]
      · simp

theorem isPlain_of_mem_arguments {args : List Argument} {c : CodePoint} (h : c ∈ p.arguments args) :
    isPlain c = true := by
  rw [arguments_eq_join] at h
  rcases Text.mem_join h with hseparator | ⟨t, ht, hc⟩
  · rcases separator_chars hseparator with rfl | rfl <;> decide
  · obtain ⟨a, -, rfl⟩ := List.mem_map.1 ht
    exact isPlain_of_mem_argument hc

theorem contained_separator (depth : Int) : Chain.Contained depth p.separator := by
  refine .of_neutral (fun c hc => ?_) (fun hdot => ?_) (fun hslash => ?_)
  · rcases separator_chars hc with rfl | rfl <;> decide
  · exact absurd (separator_chars hdot) (by decide)
  · exact absurd (separator_chars hslash) (by decide)

theorem contained_arguments (depth : Int) (args : List Argument) :
    Chain.Contained depth (p.arguments args) := by
  rw [arguments_eq_join]
  refine .join (contained_separator depth) fun t ht => ?_
  obtain ⟨a, -, rfl⟩ := List.mem_map.1 ht
  exact contained_argument depth a

end Printer

end Stencil
