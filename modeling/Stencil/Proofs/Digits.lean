import Stencil.Text.Digit

/-!
# Digits read back

The digits that a number is written with, in base ten or padded in base sixteen, denote
the number again. Each of them is the digit of a number below the base.
-/

namespace Stencil.Text

attribute [local instance (high)] instPowNat

theorem hexValue?_digitChar {d : Nat} (h : d < 16) : hexValue? d.digitChar = some d :=
  (by decide : ∀ d < 16, hexValue? (Nat.digitChar d) = some d) d h

theorem digitValue?_digitChar {d : Nat} (h : d < 10) : digitValue? d.digitChar = some d :=
  (by decide : ∀ d < 10, digitValue? (Nat.digitChar d) = some d) d h

theorem natOfDigits?_append_singleton {base : Nat} (t : Text) (c : CodePoint) :
    natOfDigits? base (t ++ [c]) = (natOfDigits? base t).bind fun n =>
      (hexValue? c).bind fun d => if d < base then some (n * base + d) else none := by
  rw [natOfDigits?, List.foldl_append]
  rfl

theorem natOfDigits?_concat {base d n : Nat} {t : Text} (hbase : base ≤ 16) (hd : d < base)
    (h : natOfDigits? base t = some n) :
    natOfDigits? base (t ++ [.char d.digitChar]) = some (n * base + d) := by
  rw [natOfDigits?_append_singleton, h]
  simp [hexValue?_digitChar (Nat.lt_of_lt_of_le hd hbase), hd]

theorem digitsOf_of_lt {base n : Nat} (h : n < base) : digitsOf base n = [.char n.digitChar] := by
  rw [digitsOf, Nat.toDigits_of_lt_base h]
  rfl

theorem digitsOf_of_le {base n : Nat} (hone : 1 < base) (h : base ≤ n) :
    digitsOf base n = digitsOf base (n / base) ++ [.char (n % base).digitChar] := by
  rw [digitsOf, Nat.toDigits_of_base_le hone h, List.map_append]
  rfl

theorem digitsOf_ne_nil (base n : Nat) : digitsOf base n ≠ [] :=
  mt List.map_eq_nil_iff.1 Nat.toDigits_ne_nil

theorem length_digitsOf (base n : Nat) : (digitsOf base n).length = (Nat.toDigits base n).length :=
  List.length_map _

theorem natOfDigits?_digitsOf {base : Nat} (hone : 1 < base) (hbase : base ≤ 16) (n : Nat) :
    natOfDigits? base (digitsOf base n) = some n := by
  induction n using Nat.strongRecOn with
  | ind n ih =>
    by_cases hn : n < base
    · rw [digitsOf_of_lt hn]
      simpa using natOfDigits?_concat (t := []) hbase hn rfl
    · have hle : base ≤ n := Nat.not_lt.1 hn
      have hless : n / base < n := Nat.div_lt_self (by omega) hone
      rw [digitsOf_of_le hone hle,
        natOfDigits?_concat hbase (Nat.mod_lt n (by omega)) (ih (n / base) hless),
        Nat.div_add_mod']

/-- Digits in front count in the power of the base that the later ones leave free. -/
theorem natOfDigits?_append {base n m : Nat} {s t : Text} (hs : natOfDigits? base s = some n)
    (ht : natOfDigits? base t = some m) :
    natOfDigits? base (s ++ t) = some (n * base ^ t.length + m) := by
  obtain ⟨u, rfl⟩ : ∃ u : Text, t = u.reverse := ⟨t.reverse, t.reverse_reverse.symm⟩
  induction u generalizing m with
  | nil =>
    obtain rfl : 0 = m := Option.some.inj ht
    simpa using hs
  | cons c u ih =>
    rw [List.reverse_cons, natOfDigits?_append_singleton] at ht
    obtain ⟨k, hk, hlast⟩ := Option.bind_eq_some_iff.1 ht
    rw [List.reverse_cons, ← List.append_assoc, natOfDigits?_append_singleton, ih hk]
    obtain ⟨d, hd, hm⟩ := Option.bind_eq_some_iff.1 hlast
    split at hm
    · next hless =>
      obtain rfl := Option.some.inj hm
      simp [hd, hless, Nat.pow_succ, Nat.add_mul, Nat.mul_assoc, Nat.add_assoc]
    · cases hm

theorem exists_digit_of_mem_digitsOf {base : Nat} (hone : 1 < base) {n : Nat} {c : CodePoint}
    (h : c ∈ digitsOf base n) : ∃ d < base, c = d.digitChar := by
  induction n using Nat.strongRecOn with
  | ind n ih =>
    by_cases hn : n < base
    · rw [digitsOf_of_lt hn] at h
      exact ⟨n, hn, List.mem_singleton.1 h⟩
    · have hle : base ≤ n := Nat.not_lt.1 hn
      rw [digitsOf_of_le hone hle] at h
      rcases List.mem_append.1 h with hfront | hlast
      · exact ih _ (Nat.div_lt_self (by omega) hone) hfront
      · exact ⟨n % base, Nat.mod_lt n (by omega), List.mem_singleton.1 hlast⟩

/-! ## Base ten -/

theorem natOfDigits?_decimalText (n : Nat) : natOfDigits? 10 (decimalText n) = some n :=
  natOfDigits?_digitsOf (by omega) (by omega) n

theorem decimalText_ne_nil (n : Nat) : decimalText n ≠ [] := digitsOf_ne_nil 10 n

theorem length_decimalText_le_iff {n k : Nat} (hk : 0 < k) :
    (decimalText n).length ≤ k ↔ n < 10 ^ k := by
  rw [decimalText, length_digitsOf, Nat.length_toDigits_le_iff (by omega) hk]

theorem isDigit_digitChar {d : Nat} (h : d < 10) : isDigit d.digitChar = true := by
  rw [isDigit, digitValue?_digitChar h]
  rfl

theorem isDigit_of_mem_decimalText {n : Nat} {c : CodePoint} (h : c ∈ decimalText n) :
    isDigit c = true := by
  obtain ⟨d, hd, rfl⟩ := exists_digit_of_mem_digitsOf (by omega) h
  exact isDigit_digitChar hd

theorem exists_first_digit (n : Nat) : ∃ d < 10, ∃ rest, decimalText n = d.digitChar :: rest := by
  obtain ⟨c, rest, htext⟩ := List.exists_cons_of_ne_nil (decimalText_ne_nil n)
  have hfirst : c ∈ digitsOf 10 n := by rw [← decimalText, htext]; exact List.mem_cons_self
  obtain ⟨d, hd, rfl⟩ := exists_digit_of_mem_digitsOf (by omega) hfirst
  exact ⟨d, hd, rest, htext⟩

/-- Only the number zero is written with a zero in front. -/
theorem head?_decimalText {n : Nat} (h : (decimalText n).head? = some (.char '0')) : n = 0 := by
  induction n using Nat.strongRecOn with
  | ind n ih =>
    by_cases hn : n < 10
    · rw [decimalText, digitsOf_of_lt hn] at h
      simpa using h
    · have hle : 10 ≤ n := Nat.not_lt.1 hn
      obtain ⟨c, rest, hfront⟩ := List.exists_cons_of_ne_nil (decimalText_ne_nil (n / 10))
      rw [decimalText, digitsOf_of_le (by omega) hle, ← decimalText, hfront] at h
      have hzero := ih (n / 10) (by omega) (by rw [hfront]; exact h)
      omega

/-! ## Base sixteen, padded -/

theorem natOfDigits?_zeros {base : Nat} (hbase : 0 < base) (count : Nat) (t : Text) :
    natOfDigits? base (List.replicate count (.char '0') ++ t) = natOfDigits? base t := by
  induction count with
  | zero => rfl
  | succ count ih =>
    rw [← ih, List.replicate_succ, List.cons_append]
    simp [natOfDigits?, hexValue?, hbase]

theorem natOfDigits?_hexText (width n : Nat) : natOfDigits? 16 (hexText width n) = some n := by
  rw [hexText, natOfDigits?_zeros (by omega), natOfDigits?_digitsOf (by omega) (by omega)]

theorem length_hexText {width n : Nat} (hwidth : 0 < width) (h : n < 16 ^ width) :
    (hexText width n).length = width := by
  have hle := (Nat.length_toDigits_le_iff (by omega) hwidth).2 h
  simp only [hexText, List.length_append, List.length_replicate, length_digitsOf]
  omega

theorem exists_digit_of_mem_hexText {width n : Nat} {c : CodePoint} (h : c ∈ hexText width n) :
    ∃ d < 16, c = d.digitChar := by
  rcases List.mem_append.1 h with hpad | hdigits
  · exact ⟨0, by omega, List.eq_of_mem_replicate hpad⟩
  · exact exists_digit_of_mem_digitsOf (by omega) hdigits

theorem isNameChar_of_mem_hexText {width n : Nat} {c : CodePoint} (h : c ∈ hexText width n) :
    isNameChar c = true := by
  obtain ⟨d, hd, rfl⟩ := exists_digit_of_mem_hexText h
  exact (by decide : ∀ d < 16, isNameChar (Nat.digitChar d) = true) d hd

end Stencil.Text
