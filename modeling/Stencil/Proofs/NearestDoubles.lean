import Mathlib.Algebra.Order.Field.Basic
import Mathlib.Data.Rat.Cast.Order
import Mathlib.Tactic.FieldSimp
import Mathlib.Tactic.Linarith
import Mathlib.Tactic.NormNum
import Mathlib.Tactic.Ring
import Stencil.Proofs.WholeDoubles

/-!
# Nearest doubles

The double nearest to a ratio has a mantissa of at most 53 bits. Below `2 ^ 53` it is a whole
number of binary parts, the one nearest to the ratio, and the parts are so small that the ratio
is at least `2 ^ 52` of them. Whole numbers are among these parts, so rounding never passes
one; it reaches the next one only if the ratio is less than half a part below.
-/

namespace Stencil.Number

variable {num den k : Nat}

theorem divHalfEven_le (hden : 0 < den) (h : 2 * num < (2 * k + 1) * den) :
    divHalfEven num den ≤ k := by
  have hrest := Nat.mod_lt num hden
  have hsplit := Nat.div_add_mod num den
  have hquotient : num / den ≤ k := by
    refine Nat.lt_succ_iff.1 ((Nat.div_lt_iff_lt_mul hden).2 ?_)
    rw [Nat.succ_mul]
    rw [Nat.add_mul, Nat.mul_assoc] at h
    omega
  rw [divHalfEven]
  split
  · next hup =>
    have hless : num / den ≠ k := by
      intro hk
      rw [hk, Nat.mul_comm den k] at hsplit
      rw [Nat.add_mul, Nat.mul_assoc] at h
      omega
    omega
  · exact hquotient

theorem divHalfEven_le_of_le (hden : 0 < den) (h : num ≤ k * den) : divHalfEven num den ≤ k := by
  refine divHalfEven_le hden ?_
  rw [Nat.add_mul, Nat.mul_assoc]
  omega

theorem le_divHalfEven_of_le (hden : 0 < den) (h : k * den ≤ num) : k ≤ divHalfEven num den :=
  Nat.le_trans ((Nat.le_div_iff_mul_le hden).2 h) (Double.le_divHalfEven _ _)

/-- Rounded to parts of one, a ratio stays on its side of a whole number. -/
theorem divHalfEven_parts_le (hden : 0 < den) (h : num ≤ k * den) (parts : Nat) :
    divHalfEven (num * parts) den ≤ k * parts := by
  refine divHalfEven_le_of_le hden ?_
  rw [Nat.mul_right_comm]
  exact Nat.mul_le_mul_right _ h

theorem le_divHalfEven_parts (hden : 0 < den) (h : k * den ≤ num) (parts : Nat) :
    k * parts ≤ divHalfEven (num * parts) den := by
  refine le_divHalfEven_of_le hden ?_
  rw [Nat.mul_right_comm]
  exact Nat.mul_le_mul_right _ h

theorem scaled_eq (power : Int) (num den : Nat) :
    ((scaled 2 power num den).1 : ℚ) / (scaled 2 power num den).2 =
      (num : ℚ) / den * 2 ^ power := by
  cases power with
  | ofNat p =>
    rw [scaled, Int.ofNat_eq_natCast, zpow_natCast, div_mul_eq_mul_div]
    push_cast
    rfl
  | negSucc p =>
    rw [scaled, zpow_negSucc]
    push_cast
    field_simp

/-! ## The leading bit of a ratio -/

theorem zpow_le_natCast (hnum : 0 < num) : (2 : ℚ) ^ (num.log2 : Int) ≤ num := by
  rw [zpow_natCast]
  exact_mod_cast Nat.log2_self_le hnum.ne'

theorem natCast_lt_zpow (num : Nat) : (num : ℚ) < 2 ^ (num.log2 + 1 : Int) := by
  have hlt : num < 2 ^ (num.log2 + 1) := Nat.lt_log2_self
  exact_mod_cast hlt

theorem zpow_lt_ratio (hnum : 0 < num) (hden : 0 < den) :
    (2 : ℚ) ^ ((num.log2 : Int) - den.log2 - 1) < (num : ℚ) / den := by
  rw [lt_div_iff₀ (by exact_mod_cast hden)]
  calc (2 : ℚ) ^ ((num.log2 : Int) - den.log2 - 1) * den
      < 2 ^ ((num.log2 : Int) - den.log2 - 1) * 2 ^ (den.log2 + 1 : Int) :=
        mul_lt_mul_of_pos_left (natCast_lt_zpow den) (zpow_pos (by norm_num) _)
    _ = 2 ^ (num.log2 : Int) := by
        rw [← zpow_add₀ (by norm_num)]
        congr 1
        omega
    _ ≤ num := zpow_le_natCast hnum

theorem ratio_lt_zpow (num : Nat) (hden : 0 < den) :
    (num : ℚ) / den < 2 ^ ((num.log2 : Int) - den.log2 + 1) := by
  rw [div_lt_iff₀ (by exact_mod_cast hden)]
  calc (num : ℚ) < 2 ^ (num.log2 + 1 : Int) := natCast_lt_zpow num
    _ = 2 ^ ((num.log2 : Int) - den.log2 + 1) * 2 ^ (den.log2 : Int) := by
        rw [← zpow_add₀ (by norm_num)]
        congr 1
        omega
    _ ≤ 2 ^ ((num.log2 : Int) - den.log2 + 1) * den :=
        mul_le_mul_of_nonneg_left (zpow_le_natCast hden) (zpow_pos (by norm_num) _).le

namespace Double

/-- The exponent of the units that a ratio has `2 ^ 52` to `2 ^ 53` of. -/
def unitExponent (num den : Nat) : Int :=
  let guess := (num.log2 : Int) - den.log2 - 52
  if 2 ^ 52 * (scaled 2 (-guess) num den).2 ≤ (scaled 2 (-guess) num den).1 then guess
  else guess - 1

theorem unitExponent_spec (hnum : 0 < num) (hden : 0 < den) :
    (2 : ℚ) ^ 52 ≤ num / den * 2 ^ (-unitExponent num den) ∧
      (num : ℚ) / den * 2 ^ (-unitExponent num den) < 2 ^ 53 := by
  generalize hguess : (num.log2 : Int) - den.log2 - 52 = guess
  have hpos : (0 : ℚ) < 2 ^ (-guess) := zpow_pos (by norm_num) _
  have hbelow : (2 : ℚ) ^ 51 < num / den * 2 ^ (-guess) := calc
    (2 : ℚ) ^ 51 = 2 ^ ((num.log2 : Int) - den.log2 - 1) * 2 ^ (-guess) := by
      rw [← zpow_add₀ (by norm_num), ← hguess, ← zpow_natCast]
      congr 1
      omega
    _ < num / den * 2 ^ (-guess) := mul_lt_mul_of_pos_right (zpow_lt_ratio hnum hden) hpos
  have habove : (num : ℚ) / den * 2 ^ (-guess) < 2 ^ 53 := calc
    (num : ℚ) / den * 2 ^ (-guess) < 2 ^ ((num.log2 : Int) - den.log2 + 1) * 2 ^ (-guess) :=
      mul_lt_mul_of_pos_right (ratio_lt_zpow num hden) hpos
    _ = 2 ^ 53 := by
      rw [← zpow_add₀ (by norm_num), ← hguess, ← zpow_natCast]
      congr 1
      omega
  have htest : 2 ^ 52 * (scaled 2 (-guess) num den).2 ≤ (scaled 2 (-guess) num den).1 ↔
      (2 : ℚ) ^ 52 ≤ num / den * 2 ^ (-guess) := by
    rw [← scaled_eq, le_div_iff₀ (by exact_mod_cast scaled_pos (by decide) _ num hden)]
    exact_mod_cast Iff.rfl
  simp only [unitExponent, hguess]
  split
  · next hfull => exact ⟨htest.1 hfull, habove⟩
  · next hhalf =>
    -- half as great a unit has twice as many of them
    have hhalf : (num : ℚ) / den * 2 ^ (-guess) < 2 ^ 52 := not_le.1 (mt htest.2 hhalf)
    have hdouble : (num : ℚ) / den * 2 ^ (-(guess - 1)) = num / den * 2 ^ (-guess) * 2 := by
      rw [neg_sub, sub_eq_add_neg, add_comm, zpow_add₀ (by norm_num), zpow_one, mul_assoc]
    rw [hdouble]
    constructor <;> linarith

/-- A rounded mantissa with its exponent; `2 ^ 53` is written as `2 ^ 52` of the next unit. -/
def ofMantissa (s : Bool) (mantissa : Nat) (exponent : Int) : Double :=
  let (mantissa, exponent) :=
    if mantissa = 2 ^ 53 then (2 ^ 52, exponent + 1) else (mantissa, exponent)
  if greatestExponent < exponent then .infinite s else .finite s mantissa exponent

theorem ofRatio_eq (s : Bool) (hnum : 0 < num) (den : Nat) :
    ofRatio s num den =
      let exponent := max (unitExponent num den) leastExponent
      let (n, d) := scaled 2 (-exponent) num den
      ofMantissa s (divHalfEven n d) exponent := by
  rw [ofRatio, if_neg hnum.ne']
  rfl

/-! ## Mantissas of 53 bits -/

/-- The mantissa has at most 53 bits, as it has in the normal form. -/
def HasPrecision (x : Double) : Prop := ∀ s m e, x = .finite s m e → m < 2 ^ 53

theorem hasPrecision_zero (s : Bool) : (zero s).HasPrecision := by
  rintro _ _ _ ⟨⟩
  decide

theorem hasPrecision_ofMantissa (s : Bool) {mantissa : Nat} (h : mantissa ≤ 2 ^ 53)
    (exponent : Int) : (ofMantissa s mantissa exponent).HasPrecision := by
  rw [ofMantissa]
  split
  next m e hcarry =>
  have hm : m < 2 ^ 53 := by
    split at hcarry
    · cases hcarry
      decide
    · cases hcarry
      omega
  split
  · exact nofun
  · rintro _ _ _ ⟨⟩
    exact hm

theorem hasPrecision_ofRatio (s : Bool) (num : Nat) (hden : 0 < den) :
    (ofRatio s num den).HasPrecision := by
  rcases Nat.eq_zero_or_pos num with rfl | hnum
  · exact hasPrecision_zero s
  rw [ofRatio_eq s hnum]
  generalize hexponent : max (unitExponent num den) leastExponent = exponent
  refine hasPrecision_ofMantissa s (divHalfEven_le_of_le (scaled_pos (by decide) _ _ hden) ?_) exponent
  have hunit : (2 : ℚ) ^ (-exponent) ≤ 2 ^ (-unitExponent num den) :=
    zpow_le_zpow_right₀ (by norm_num) (by omega)
  have hratio : (0 : ℚ) ≤ num / den := by positivity
  have hlt : ((scaled 2 (-exponent) num den).1 : ℚ) / (scaled 2 (-exponent) num den).2 < 2 ^ 53 :=
    calc ((scaled 2 (-exponent) num den).1 : ℚ) / (scaled 2 (-exponent) num den).2
        = num / den * 2 ^ (-exponent) := scaled_eq _ num den
      _ ≤ num / den * 2 ^ (-unitExponent num den) := mul_le_mul_of_nonneg_left hunit hratio
      _ < 2 ^ 53 := (unitExponent_spec hnum hden).2
  rw [div_lt_iff₀ (by exact_mod_cast scaled_pos (by decide) _ num hden)] at hlt
  exact le_of_lt (by exact_mod_cast hlt)

/-! ## Doubles as ratios -/

/-- A double of the sign and with the ratio as its absolute value. -/
def IsRatio (x : Double) (s : Bool) (num den : Nat) : Prop :=
  ∃ m e, x = .finite s m e ∧ (magnitude m e).1 * den = num * (magnitude m e).2

theorem magnitude_neg (m p : Nat) :
    (magnitude m (-(p : Int))).1 * 2 ^ p = m * (magnitude m (-(p : Int))).2 := by
  rcases Nat.eq_zero_or_pos p with rfl | hp
  · simp [magnitude, scaled]
  · rw [magnitude, scaled_neg hp, Nat.one_mul]

theorem isRatio_ofMantissa (s : Bool) (mantissa p : Nat) :
    (ofMantissa s mantissa (-(p : Int))).IsRatio s mantissa (2 ^ p) := by
  have hfinite : ¬ greatestExponent < -(p : Int) := by simp only [greatestExponent]; omega
  have hnext : ¬ greatestExponent < -(p : Int) + 1 := by simp only [greatestExponent]; omega
  rw [ofMantissa]
  by_cases hcarry : mantissa = 2 ^ 53
  · rw [if_pos hcarry, hcarry]
    refine ⟨2 ^ 52, -(p : Int) + 1, if_neg hnext, ?_⟩
    cases p with
    | zero => rfl
    | succ p =>
      have hunit : -((p + 1 : Nat) : Int) + 1 = -(p : Int) := by omega
      have hparts : 2 ^ (p + 1) = 2 ^ p * 2 := Nat.pow_succ 2 p
      rw [hunit, hparts, ← Nat.mul_assoc, magnitude_neg]
      omega
  · rw [if_neg hcarry]
    exact ⟨mantissa, -(p : Int), if_neg hfinite, magnitude_neg mantissa p⟩

theorem isRatio_ofRatio_zero (hden : 0 < den) (s : Bool) (p : Nat) :
    (ofRatio s 0 den).IsRatio s (divHalfEven (0 * 2 ^ p) den) (2 ^ p) := by
  have hround : divHalfEven 0 den = 0 := Nat.le_zero.1 (divHalfEven_le_of_le hden (by omega))
  refine ⟨0, leastExponent, rfl, ?_⟩
  rw [magnitude_zero, Nat.zero_mul, hround, Nat.zero_mul]

/-- Below `2 ^ 53` the nearest double is a whole number of parts of one, either so small that the
ratio is at least `2 ^ 52` of them or the smallest of all. -/
theorem exists_parts (hden : 0 < den) (hsmall : num < 2 ^ 53 * den) (s : Bool) :
    ∃ p, (2 ^ 52 * den ≤ num * 2 ^ p ∨ p = 1074) ∧
      (ofRatio s num den).IsRatio s (divHalfEven (num * 2 ^ p) den) (2 ^ p) := by
  rcases Nat.eq_zero_or_pos num with rfl | hnum
  · exact ⟨1074, .inr rfl, isRatio_ofRatio_zero hden s 1074⟩
  obtain ⟨hfull, -⟩ := unitExponent_spec hnum hden
  obtain ⟨q, hq⟩ : ∃ q : Nat, unitExponent num den = -(q : Int) := by
    have hden' : (0 : ℚ) < den := by exact_mod_cast hden
    have hratio : (num : ℚ) / den < 2 ^ 53 := by
      rw [div_lt_iff₀ hden']
      exact_mod_cast hsmall
    have hless : (2 : ℚ) ^ (52 : Int) < 2 ^ (53 + -unitExponent num den) := calc
      (2 : ℚ) ^ (52 : Int) ≤ num / den * 2 ^ (-unitExponent num den) := hfull
      _ < 2 ^ 53 * 2 ^ (-unitExponent num den) :=
        mul_lt_mul_of_pos_right hratio (zpow_pos (by norm_num) _)
      _ = 2 ^ (53 + -unitExponent num den) := by rw [zpow_add₀ (by norm_num)]; rfl
    have hexponents := (zpow_lt_zpow_iff_right₀ (by norm_num)).1 hless
    exact ⟨(-unitExponent num den).toNat, by omega⟩
  rw [hq, neg_neg, zpow_natCast, div_mul_eq_mul_div, le_div_iff₀ (by exact_mod_cast hden)] at hfull
  have hfull' : 2 ^ 52 * den ≤ num * 2 ^ q := by exact_mod_cast hfull
  have hexponent : max (unitExponent num den) leastExponent = -((min q 1074 : Nat) : Int) := by
    rw [hq, leastExponent]
    omega
  refine ⟨min q 1074, ?_, ?_⟩
  · rcases Nat.le_total q 1074 with hle | hle
    · rw [Nat.min_eq_left hle]
      exact .inl hfull'
    · exact .inr (Nat.min_eq_right hle)
  · rw [ofRatio_eq s hnum]
    simp only [hexponent, Int.neg_neg, scaled_natCast]
    exact isRatio_ofMantissa s _ _

namespace IsRatio

variable {x : Double} {s : Bool}

theorem truncate?_eq (h : x.IsRatio s num den) (hden : 0 < den) :
    x.truncate? = some (if s then -((num / den : Nat) : Int) else (num / den : Nat)) := by
  obtain ⟨m, e, rfl, hratio⟩ := h
  have hpos := magnitude_pos m e
  have hwhole : (magnitude m e).1 / (magnitude m e).2 = num / den := calc
    (magnitude m e).1 / (magnitude m e).2
      = (magnitude m e).1 * den / ((magnitude m e).2 * den) := (Nat.mul_div_mul_right _ _ hden).symm
    _ = num * (magnitude m e).2 / (den * (magnitude m e).2) := by
      rw [hratio, Nat.mul_comm den]
    _ = num / den := Nat.mul_div_mul_right _ _ hpos
  rw [truncate?, ← hwhole]

end IsRatio

/-- A ratio that is more than half a part below the next whole number. -/
theorem lt_half_part_below (hden : 0 < den) {parts : Nat} (hparts : 0 < parts)
    (hgap : den < 2 * parts * (den - num % den)) :
    2 * (num * parts) < (2 * ((num / den + 1) * parts - 1) + 1) * den := by
  have hrest := Nat.mod_lt num hden
  have hnum : num * parts = num / den * parts * den + parts * (num % den) := by
    conv_lhs => rw [← Nat.div_add_mod num den]
    ring
  have hless : den + 2 * (parts * (num % den)) < 2 * (parts * den) := by
    rw [Nat.mul_sub, Nat.mul_assoc, Nat.mul_assoc] at hgap
    omega
  have hbound : (2 * ((num / den + 1) * parts - 1) + 1) * den + den =
      2 * (num / den * parts * den) + 2 * (parts * den) := by
    have hodd : 2 * ((num / den + 1) * parts - 1) + 1 + 1 = 2 * (num / den * parts + parts) := by
      rw [Nat.succ_mul (num / den)]
      omega
    rw [← Nat.succ_mul, Nat.succ_eq_add_one, hodd]
    ring
  omega

/-- The nearest double has the whole part of a ratio, unless the ratio is so near to the next
whole number that half a part takes it there. -/
theorem truncate?_ofRatio (hden : 0 < den) (hsmall : num < 2 ^ 53 * den)
    (hgap : ∀ p, 2 ^ 52 * den ≤ num * 2 ^ p ∨ p = 1074 → den < 2 * 2 ^ p * (den - num % den))
    (s : Bool) :
    (ofRatio s num den).truncate? =
      some (if s then -((num / den : Nat) : Int) else (num / den : Nat)) := by
  obtain ⟨p, hp, hratio⟩ := exists_parts hden hsmall s
  have hparts : 0 < 2 ^ p := Nat.pow_pos (by decide)
  have hwhole : divHalfEven (num * 2 ^ p) den / 2 ^ p = num / den := by
    refine Nat.div_eq_of_lt_le ?_ ?_
    · exact le_divHalfEven_parts hden (Nat.div_mul_le_self num den) _
    · have hbelow : divHalfEven (num * 2 ^ p) den ≤ (num / den + 1) * 2 ^ p - 1 :=
        divHalfEven_le hden (lt_half_part_below hden hparts (hgap p hp))
      have hpos : 0 < (num / den + 1) * 2 ^ p := Nat.mul_pos (Nat.succ_pos _) hparts
      omega
  rw [hratio.truncate?_eq hparts, hwhole]

end Double

end Stencil.Number
