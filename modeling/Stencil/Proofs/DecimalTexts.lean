import Stencil.Number.Decimal
import Stencil.Proofs.Digits
import Stencil.Proofs.TokenTexts

/-!
# Decimal texts read back

The text of a finite decimal is read as that decimal, sign, digits and exponent alike. The
text has three parts after its sign: whole digits, a fraction where some digits stand after
the point, and a power of ten where the notation is not positional.
-/

namespace Stencil.Number.Decimal

open Stencil.Text (isDigit decimalText natOfDigits?)

/-- The parts of an unsigned decimal in text. -/
structure Parts where
  whole : Text
  fraction : Text
  power : Option Int

def fractionText (fraction : Text) : Text := if fraction = [] then [] else '.' :: fraction

def powerText : Option Int → Text
  | none => []
  | some n => 'E' :: (if n < 0 then '-' else '+') :: decimalText n.natAbs

namespace Parts

def text (p : Parts) : Text := p.whole ++ (fractionText p.fraction ++ powerText p.power)

/-- The digits denote the coefficient, and the places after the point are taken off the
power. -/
structure Denotes (p : Parts) (coefficient : Nat) (exponent : Int) : Prop where
  whole_ne_nil : p.whole ≠ []
  whole_digits : ∀ x ∈ p.whole, isDigit x = true
  fraction_digits : ∀ x ∈ p.fraction, isDigit x = true
  coefficient : natOfDigits? 10 (p.whole ++ p.fraction) = some coefficient
  exponent : p.power.getD 0 - p.fraction.length = exponent

end Parts

/-! ## Reading the parts -/

theorem head?_powerText (power : Option Int) {x : CodePoint}
    (h : (powerText power).head? = some x) :
    isDigit x = false := by
  cases power with
  | none => cases h
  | some n =>
    obtain rfl : 'E' = x := by simpa [powerText] using h
    decide

theorem head?_fractionText_append (fraction : Text) (power : Option Int) {x : CodePoint}
    (h : (fractionText fraction ++ powerText power).head? = some x) : isDigit x = false := by
  cases fraction with
  | nil => exact head?_powerText power h
  | cons d fraction =>
    obtain rfl : '.' = x := by simpa [fractionText] using h
    decide

/-- Digits end where a text starts that has no digit in front. -/
theorem span_digits {digits rest : Text} (hdigits : ∀ x ∈ digits, isDigit x = true)
    (hrest : ∀ x, rest.head? = some x → isDigit x = false) :
    (digits ++ rest).takeWhile isDigit = digits ∧ (digits ++ rest).dropWhile isDigit = rest := by
  have hdrop : (digits ++ rest).dropWhile isDigit = rest := by
    rw [List.dropWhile_append_of_pos hdigits, Text.dropWhile_of_head hrest]
  refine ⟨?_, hdrop⟩
  have hsplit := List.takeWhile_append_dropWhile (p := isDigit) (l := digits ++ rest)
  rw [hdrop] at hsplit
  exact List.append_cancel_right hsplit

theorem digitsValue?_of_ne_nil {t : Text} (h : t ≠ []) : digitsValue? t = natOfDigits? 10 t := by
  rw [digitsValue?, List.isEmpty_eq_false_iff.2 h, if_neg Bool.false_ne_true]

theorem splitSign_power (n : Int) (digits : Text) :
    splitSign ((if n < 0 then '-' else '+') :: digits) = (decide (n < 0), digits) := by
  by_cases hn : n < 0 <;> simp [hn, splitSign]

theorem digitsValue?_decimalText (n : Nat) : digitsValue? (decimalText n) = some n := by
  rw [digitsValue?_of_ne_nil (Text.decimalText_ne_nil n), Text.natOfDigits?_decimalText]

theorem signed_natAbs (n : Int) : (if n < 0 then -(n.natAbs : Int) else n.natAbs) = n := by
  split <;> omega

theorem readScientific?_text {p : Parts} {coefficient : Nat} {exponent : Int}
    (h : p.Denotes coefficient exponent) :
    readScientific? p.text = some (coefficient, exponent) := by
  obtain ⟨whole, fraction, power⟩ := p
  have hwhole := span_digits h.whole_digits fun _ => head?_fractionText_append fraction power
  have hplaces := span_digits h.fraction_digits fun _ => head?_powerText power
  have hvalue : digitsValue? (whole ++ fraction) = some coefficient := by
    rw [digitsValue?_of_ne_nil (by simp [h.whole_ne_nil]), h.coefficient]
  rw [← h.exponent]
  simp only [readScientific?, Parts.text, hwhole]
  cases fraction with
  | nil =>
    rw [List.append_nil] at hvalue
    cases power with
    | none => simp [fractionText, powerText, hvalue]
    | some n =>
      have hsigned := signed_natAbs n
      rw [powerText]
      generalize n.natAbs = magnitude at hsigned ⊢
      simp [fractionText, hvalue, splitSign_power, digitsValue?_decimalText, hsigned]
  | cons d fraction =>
    have hpoint : fractionText (d :: fraction) ++ powerText power =
        .char '.' :: ((d :: fraction) ++ powerText power) := rfl
    simp only [hpoint, hplaces, hvalue]
    cases power with
    | none => simp [powerText]
    | some n =>
      have hsigned := signed_natAbs n
      rw [powerText]
      generalize n.natAbs = magnitude at hsigned ⊢
      simp [splitSign_power, digitsValue?_decimalText, hsigned]

/-! ## The text of a decimal -/

theorem isDigit_zero : isDigit '0' = true := by decide

/-- A point inside or before the digits moves none of them. -/
theorem denotes_pointAt {digits : Text} (point : Int) {coefficient : Nat} (hne : digits ≠ [])
    (hdigits : ∀ x ∈ digits, isDigit x = true) (hpoint : point ≤ digits.length)
    (hvalue : natOfDigits? 10 digits = some coefficient) :
    Parts.Denotes ⟨(Double.pointAt digits point).1, (Double.pointAt digits point).2, none⟩
      coefficient (point - digits.length) := by
  by_cases hfront : point ≤ 0
  · have hsplit : Double.pointAt digits point =
        ([.char '0'], List.replicate (-point).toNat (.char '0') ++ digits) := if_pos hfront
    rw [hsplit]
    refine ⟨List.cons_ne_nil _ _, by simp [isDigit_zero], fun x hx => ?_, ?_, ?_⟩
    · rcases List.mem_append.1 hx with hzero | hdigit
      · rw [List.eq_of_mem_replicate hzero, isDigit_zero]
      · exact hdigits x hdigit
    · rw [List.singleton_append, ← List.cons_append, ← List.replicate_succ,
        Text.natOfDigits?_zeros (by omega), hvalue]
    · simp only [Option.getD_none, List.length_append, List.length_replicate]
      omega
  · have hsplit : Double.pointAt digits point =
        (digits.take point.toNat, digits.drop point.toNat) := by
      have hnone : point.toNat - digits.length = 0 := by omega
      simp [Double.pointAt, hfront, hnone]
    rw [hsplit]
    refine ⟨?_, fun x hx => hdigits x (List.mem_of_mem_take hx),
      fun x hx => hdigits x (List.mem_of_mem_drop hx), ?_, ?_⟩
    · simp only [ne_eq, List.take_eq_nil_iff, hne, or_false]
      omega
    · rw [List.take_append_drop, hvalue]
    · simp only [Option.getD_none, List.length_drop]
      omega

theorem exists_parts (s : Bool) (c : Nat) (e : Int) :
    ∃ p : Parts, text (.finite s c e) = Double.signText s ++ p.text ∧ p.Denotes c e := by
  have hne := Text.decimalText_ne_nil c
  have hdigits : ∀ x ∈ decimalText c, isDigit x = true := fun x => Text.isDigit_of_mem_decimalText
  by_cases hplain : e ≤ 0 ∧ -6 ≤ leadingPower c e
  · have hparts := denotes_pointAt ((decimalText c).length + e) hne hdigits (by omega)
      (Text.natOfDigits?_decimalText c)
    rw [show ((decimalText c).length : Int) + e - (decimalText c).length = e by omega] at hparts
    refine ⟨_, ?_, hparts⟩
    have hempty : (Double.pointAt (decimalText c) ((decimalText c).length + e)).2 = [] ↔ e = 0 := by
      have hlength := hparts.exponent
      rw [← List.length_eq_zero_iff]
      simp only [Option.getD_none] at hlength
      omega
    simp [text, hplain, Parts.text, fractionText, powerText, hempty]
    split <;> simp
  · refine ⟨⟨(decimalText c).take 1, (decimalText c).drop 1, some (leadingPower c e)⟩, ?_, ?_⟩
    · simp [text, hplain, Parts.text, fractionText, powerText]
    · refine ⟨by simp [hne], fun x hx => hdigits x (List.mem_of_mem_take hx),
        fun x hx => hdigits x (List.mem_of_mem_drop hx), ?_, ?_⟩
      · rw [List.take_append_drop, Text.natOfDigits?_decimalText]
      · have hlength : decimalLength c = (decimalText c).length := rfl
        have hpos := List.length_pos_iff.2 hne
        simp only [Option.getD_some, List.length_drop, leadingPower]
        omega

theorem code_of_isDigit {x : CodePoint} (h : isDigit x = true) : 48 ≤ x.toNat ∧ x.toNat ≤ 57 := by
  rw [isDigit, Text.digitValue?] at h
  split at h
  · next hrange => exact hrange
  · cases h

/-- The characters of a decimal in text: none is skipped or replaced by the reading. -/
def IsWritten (x : CodePoint) : Prop :=
  isDigit x = true ∨ x ∈ [.char '.', .char 'E', .char '+', .char '-']

theorem IsWritten.spec {x : CodePoint} (h : IsWritten x) :
    Text.isBlank x = false ∧ Text.plainNumeral x = x ∧ (x != '_') = true := by
  rcases h with hdigit | hmark
  · have hname : Text.isNameChar x = true := by simp [Text.isNameChar, hdigit]
    have hcode := code_of_isDigit hdigit
    have hplain : Text.plainNumeral x = x := if_pos (by omega)
    exact ⟨Text.isBlank_of_isNameChar hname, hplain,
      bne_iff_ne.2 fun heq => by rw [heq] at hdigit; revert hdigit; decide⟩
  · simp only [List.mem_cons, List.not_mem_nil, or_false] at hmark
    rcases hmark with rfl | rfl | rfl | rfl <;> decide

theorem isWritten_of_mem {p : Parts} {c : Nat} {e : Int} (h : p.Denotes c e) {x : CodePoint}
    (hx : x ∈ p.text) : IsWritten x := by
  have hfraction : x ∈ fractionText p.fraction → IsWritten x := fun hx => by
    rw [fractionText] at hx
    split at hx
    · cases hx
    · rcases List.mem_cons.1 hx with rfl | hx
      · exact .inr (by decide)
      · exact .inl (h.fraction_digits x hx)
  have hpower : x ∈ powerText p.power → IsWritten x := fun hx => by
    cases hp : p.power with
    | none => simp [hp, powerText] at hx
    | some n =>
      rw [hp, powerText] at hx
      rcases List.mem_cons.1 hx with rfl | hx
      · exact .inr (by decide)
      · rcases List.mem_cons.1 hx with rfl | hx
        · exact .inr (by split <;> decide)
        · exact .inl (Text.isDigit_of_mem_decimalText hx)
  rcases List.mem_append.1 hx with hwhole | hx
  · exact .inl (h.whole_digits x hwhole)
  · exact (List.mem_append.1 hx).elim hfraction hpower

theorem isWritten_of_mem_signText {s : Bool} {x : CodePoint} (h : x ∈ Double.signText s) :
    IsWritten x := by
  cases s
  · cases h
  · obtain rfl : x = '-' := by simpa [Double.signText] using h
    exact .inr (by decide)

/-- Written characters are read as they stand. -/
theorem written_body {t : Text} (h : ∀ x ∈ t, IsWritten x) :
    ((Text.trim t).map Text.plainNumeral).filter (· != .char '_') = t := by
  have htrim : Text.trim t = t := Text.Trimmed.trim_eq {
    first := fun x hx => (h x (List.mem_of_head? hx)).spec.1
    last := fun x hx => (h x (List.mem_of_getLast? hx)).spec.1 }
  have hplain : t.map Text.plainNumeral = t := by
    rw [List.map_congr_left fun x hx => (h x hx).spec.2.1, List.map_id']
  rw [htrim, hplain]
  exact List.filter_eq_self.2 fun x hx => (h x hx).spec.2.2

theorem ne_of_isDigit {x y : CodePoint} (h : isDigit x = true) (hy : isDigit y = false) : x ≠ y :=
  fun heq => by rw [heq, hy] at h; cases h

theorem toLower_of_isDigit {x : CodePoint} (h : isDigit x = true) : x.toLower = x := by
  have hle : x.toNat ≤ 57 := (code_of_isDigit h).2
  cases x with
  | surrogate n => rfl
  | char x =>
    refine congrArg CodePoint.char (dif_neg fun hcapital => ?_)
    have hge : 65 ≤ x.toNat := UInt32.le_iff_toNat_le.1 hcapital.1
    rw [CodePoint.toNat_char] at hle
    omega

theorem splitSign_signText {s : Bool} {x : CodePoint} {rest : Text} (h : isDigit x = true) :
    splitSign (Double.signText s ++ x :: rest) = (s, x :: rest) := by
  cases s with
  | true => rfl
  | false =>
    have hminus : x ≠ '-' := ne_of_isDigit h (by decide)
    have hplus : x ≠ '+' := ne_of_isDigit h (by decide)
    simp [Double.signText, splitSign, hminus, hplus]

theorem read?_text {s : Bool} {c : Nat} {e : Int} (hleast : storedLeastExponent ≤ e)
    (hgreatest : leadingPower c e ≤ storedPowerLimit) :
    read? (text (.finite s c e)) = some (.finite s c e) := by
  obtain ⟨p, htext, hparts⟩ := exists_parts s c e
  have hread := readScientific?_text hparts
  have hbody : ((Text.trim (text (.finite s c e))).map Text.plainNumeral).filter (· != .char '_') =
      Double.signText s ++ p.text := by
    rw [htext]
    refine written_body fun x hx => ?_
    exact (List.mem_append.1 hx).elim isWritten_of_mem_signText (isWritten_of_mem hparts)
  obtain ⟨first, rest, hfirst, hdigit⟩ :
      ∃ first rest, p.text = first :: rest ∧ isDigit first = true := by
    obtain ⟨first, rest, hwhole⟩ := List.exists_cons_of_ne_nil hparts.whole_ne_nil
    exact ⟨first, _, by rw [Parts.text, hwhole, List.cons_append],
      hparts.whole_digits first (by rw [hwhole]; exact List.mem_cons_self)⟩
  have hne : ∀ y, isDigit y = false → first.toLower ≠ y := fun y hy => by
    rw [toLower_of_isDigit hdigit]
    exact ne_of_isDigit hdigit hy
  have hi := hne 'i' (by decide)
  have hn := hne 'n' (by decide)
  have hs := hne 's' (by decide)
  rw [hfirst] at hbody hread
  rw [read?, hbody, splitSign_signText hdigit]
  have hother : ∀ c (name : Text), first.toLower ≠ c →
      (c :: name).isPrefixOf? (first.toLower :: rest.map CodePoint.toLower) = none :=
    fun c name hc => if_neg (by simpa using hc.symm)
  have hstored : ¬(e < storedLeastExponent ∨ storedPowerLimit < leadingPower c e) := by omega
  simp [hread, hi, hother _ _ hs, hother _ _ hn, hstored]

end Stencil.Number.Decimal
