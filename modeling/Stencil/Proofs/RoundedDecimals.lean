import Mathlib.Algebra.Order.Round
import Mathlib.Data.Rat.Floor
import Mathlib.Tactic.FieldSimp
import Mathlib.Tactic.Linarith
import Mathlib.Tactic.Ring
import Stencil.Library.Grouped
import Stencil.Proofs.Digits

/-!
# Rounding to places

The units that a decimal is rounded to are the whole number nearest to it in units of the
last place, a half away from zero. Up to 27 digits there always are such units.
-/

namespace Stencil.Number

theorem divHalfUp_eq_div (num : Nat) {den : Nat} (hden : 0 < den) :
    divHalfUp num den = (2 * num + den) / (2 * den) := by
  have hrest := Nat.mod_lt num hden
  have hsplit : 2 * num + den = 2 * (num % den) + den + 2 * den * (num / den) := by
    have hdiv := Nat.mod_add_div num den
    have hassoc : 2 * den * (num / den) = 2 * (den * (num / den)) := Nat.mul_assoc 2 _ _
    omega
  rw [hsplit, Nat.add_mul_div_left _ _ (by omega), divHalfUp]
  split
  · have hup : (2 * (num % den) + den) / (2 * den) = 1 :=
      Nat.div_eq_of_lt_le (by omega) (by omega)
    omega
  · have hdown : (2 * (num % den) + den) / (2 * den) = 0 := Nat.div_eq_of_lt (by omega)
    omega

theorem divHalfUp_eq_round (num : Nat) {den : Nat} (hden : 0 < den) :
    (divHalfUp num den : Int) = round ((num : ℚ) / den) := by
  have hne : (den : ℚ) ≠ 0 := by exact_mod_cast hden.ne'
  have hhalf : (num : ℚ) / den + 1 / 2 = ((2 * num + den : Nat) : ℚ) / ((2 * den : Nat) : ℚ) := by
    push_cast
    field_simp
  rw [round_eq, hhalf, Rat.floor_natCast_div_natCast, divHalfUp_eq_div num hden,
    Int.natCast_ediv]

/-! ## The leading digit -/

theorem decimalLength_pos (n : Nat) : 0 < decimalLength n :=
  List.length_pos_iff.2 (Text.decimalText_ne_nil n)

theorem decimalLength_le_iff {n k : Nat} (hk : 0 < k) : decimalLength n ≤ k ↔ n < 10 ^ k :=
  Text.length_decimalText_le_iff hk

theorem lt_pow_decimalLength (n : Nat) : n < 10 ^ decimalLength n :=
  (decimalLength_le_iff (decimalLength_pos n)).1 (Nat.le_refl _)

theorem pow_le_of_pos {n : Nat} (hn : 0 < n) : 10 ^ (decimalLength n - 1) ≤ n := by
  by_cases hone : decimalLength n - 1 = 0
  · rw [hone]
    exact hn
  · refine Nat.not_lt.1 fun hless => ?_
    have hle := (decimalLength_le_iff (by omega)).2 hless
    omega

/-! ## Rounding -/

variable {coefficient places units : Nat} {exponent : Int}

/-- A coefficient at a power of ten stands below the power after its leading digit. -/
theorem mul_zpow_lt (shift : Int) :
    (coefficient : ℚ) * 10 ^ shift < 10 ^ (decimalLength coefficient + shift) := by
  have hlt : (coefficient : ℚ) < 10 ^ (decimalLength coefficient : Int) := by
    rw [zpow_natCast]
    exact_mod_cast lt_pow_decimalLength coefficient
  rw [zpow_add₀ (by norm_num)]
  exact mul_lt_mul_of_pos_right hlt (zpow_pos (by norm_num) shift)

theorem mul_zpow_nonneg (coefficient : Nat) (shift : Int) : 0 ≤ (coefficient : ℚ) * 10 ^ shift :=
  mul_nonneg (Nat.cast_nonneg _) (zpow_pos (by norm_num) shift).le

theorem zpow_le_mul (shift : Int) (hpos : 0 < coefficient) :
    (10 : ℚ) ^ (decimalLength coefficient - 1 + shift) ≤ coefficient * 10 ^ shift := by
  have hle : (10 : ℚ) ^ ((decimalLength coefficient : Int) - 1) ≤ coefficient := by
    have hlength := decimalLength_pos coefficient
    have hcast : (decimalLength coefficient : Int) - 1 =
        ((decimalLength coefficient - 1 : Nat) : Int) := by omega
    rw [hcast, zpow_natCast]
    exact_mod_cast pow_le_of_pos hpos
  rw [zpow_add₀ (by norm_num)]
  exact mul_le_mul_of_nonneg_right hle (zpow_pos (by norm_num) shift).le

end Stencil.Number

namespace Stencil.Library

open Stencil.Number

variable {coefficient places units : Nat} {exponent : Int}

/-- The units of a coefficient at a power of ten, whatever their length. -/
def nearestUnits (coefficient : Nat) : Int → Nat
  | .ofNat n => coefficient * 10 ^ n
  | .negSucc n => divHalfUp coefficient (10 ^ (n + 1))

theorem nearestUnits_eq (coefficient : Nat) (shift : Int) :
    (nearestUnits coefficient shift : Int) = round ((coefficient : ℚ) * 10 ^ shift) := by
  cases shift with
  | ofNat n =>
    rw [nearestUnits, Int.ofNat_eq_natCast, zpow_natCast]
    exact_mod_cast (round_natCast (α := ℚ) (coefficient * 10 ^ n)).symm
  | negSucc n =>
    rw [nearestUnits, divHalfUp_eq_round coefficient (Nat.pow_pos (by omega)), zpow_negSucc,
      ← div_eq_mul_inv]
    push_cast
    rfl

theorem roundToPlaces?_def (places coefficient : Nat) (exponent : Int) :
    roundToPlaces? places coefficient exponent =
      if coefficient = 0 ∨ decimalLength coefficient + (exponent + places) < 0 then some 0
      else if (Decimal.precision : Int) < decimalLength coefficient + (exponent + places) then none
      else if Decimal.precision < decimalLength (nearestUnits coefficient (exponent + places))
        then none
      else some (nearestUnits coefficient (exponent + places)) := rfl

theorem round_small {shift : Int}
    (h : coefficient = 0 ∨ decimalLength coefficient + shift < 0) :
    round ((coefficient : ℚ) * 10 ^ shift) = 0 := by
  rcases h with rfl | hsmall
  · simp
  · have hlt : (coefficient : ℚ) * 10 ^ shift < 1 / 2 := calc
      (coefficient : ℚ) * 10 ^ shift < 10 ^ (decimalLength coefficient + shift) := mul_zpow_lt shift
      _ ≤ 10 ^ (-1 : Int) := zpow_le_zpow_right₀ (by norm_num) (by omega)
      _ < 1 / 2 := by norm_num
    have hnonneg := mul_zpow_nonneg coefficient shift
    rw [round_eq_zero_iff]
    exact ⟨by linarith, hlt⟩

theorem roundToPlaces?_eq (h : roundToPlaces? places coefficient exponent = some units) :
    (units : Int) = round ((coefficient : ℚ) * 10 ^ (exponent + places)) := by
  rw [roundToPlaces?_def] at h
  split at h
  · next hsmall =>
    rw [round_small hsmall, ← Option.some.inj h]
    rfl
  · split at h
    · cases h
    · split at h
      · cases h
      · rw [← Option.some.inj h, nearestUnits_eq]

theorem exists_roundToPlaces?
    (h : (coefficient : ℚ) * 10 ^ (exponent + places) < 10 ^ 27) :
    ∃ units, roundToPlaces? places coefficient exponent = some units := by
  rw [roundToPlaces?_def]
  by_cases hsmall : coefficient = 0 ∨ decimalLength coefficient + (exponent + places) < 0
  · exact ⟨0, if_pos hsmall⟩
  · have hpos : 0 < coefficient := by omega
    have hlength : (decimalLength coefficient : Int) - 1 + (exponent + places) < 27 := by
      refine (zpow_lt_zpow_iff_right₀ (a := (10 : ℚ)) (by norm_num)).1 ?_
      exact lt_of_le_of_lt (zpow_le_mul _ hpos) (by exact_mod_cast h)
    have hunits : nearestUnits coefficient (exponent + places) ≤ 10 ^ 27 := by
      have hnear := round_le_add_half ((coefficient : ℚ) * 10 ^ (exponent + places))
      rw [← nearestUnits_eq, Int.cast_natCast] at hnear
      have hlt : ((nearestUnits coefficient (exponent + places) : Nat) : ℚ) < 10 ^ 27 + 1 := by
        linarith
      exact Nat.lt_succ_iff.1 (by exact_mod_cast hlt)
    have hdigits : decimalLength (nearestUnits coefficient (exponent + places)) ≤
        Decimal.precision := (decimalLength_le_iff (by decide)).2
          (Nat.lt_of_le_of_lt hunits (by decide))
    rw [if_neg hsmall, if_neg (by simp only [Decimal.precision]; omega), if_neg (by omega)]
    exact ⟨_, rfl⟩

/-! ## Rounding half away from zero -/

/-- The whole number nearest to `q`; of two that are equally near, the one farther from zero. -/
structure RoundsAway (q : ℚ) (k : Int) : Prop where
  nearest : ∀ j : Int, |q - k| ≤ |q - j|
  away : ∀ j : Int, |q - j| = |q - k| → |j| ≤ |k|

/-- `round` takes a half up; below zero the number is rounded without its sign. -/
def roundAway (q : ℚ) : Int := if q < 0 then -round (-q) else round q

theorem RoundsAway.neg {q : ℚ} {k : Int} (h : RoundsAway q k) : RoundsAway (-q) (-k) := by
  have hflip : ∀ j : Int, |-q - j| = |q - (-j : Int)| := fun j => by
    rw [← abs_neg]
    push_cast
    congr 1
    ring
  refine ⟨fun j => ?_, fun j hj => ?_⟩
  · rw [hflip, hflip, neg_neg]
    exact h.nearest _
  · rw [hflip, hflip, neg_neg] at hj
    rw [← abs_neg, abs_neg k]
    exact h.away _ hj

/-- At and above zero a half is rounded up. -/
theorem roundsAway_round {q : ℚ} (hq : 0 ≤ q) : RoundsAway q (round q) := by
  refine ⟨fun j => round_le q j, fun j hj => ?_⟩
  have hnonneg : 0 ≤ round q := by
    rw [round_eq]
    exact Int.floor_nonneg.2 (by linarith)
  have hnear := abs_sub_round q
  rw [← hj, abs_le] at hnear
  rw [abs_of_nonneg hnonneg, abs_le]
  constructor
  · have hlow : (-1 : ℚ) < j := by linarith
    have hlow' : (-1 : Int) < j := by exact_mod_cast hlow
    omega
  · refine Int.not_lt.1 fun hless => ?_
    have hnext : ((round q : Int) : ℚ) + 1 ≤ j := by exact_mod_cast hless
    have hhigh := sub_half_lt_round q
    linarith

theorem roundsAway_roundAway (q : ℚ) : RoundsAway q (roundAway q) := by
  by_cases hneg : q < 0
  · rw [roundAway, if_pos hneg]
    have hround := (roundsAway_round (neg_nonneg.2 hneg.le)).neg
    rwa [neg_neg] at hround
  · rw [roundAway, if_neg hneg]
    exact roundsAway_round (not_lt.1 hneg)

theorem roundAway_neg (q : ℚ) : roundAway (-q) = -roundAway q := by
  rcases lt_trichotomy q 0 with hneg | rfl | hpos
  · rw [roundAway, if_neg (by linarith), roundAway, if_pos hneg, neg_neg]
  · simp [roundAway]
  · rw [roundAway, if_pos (by linarith), roundAway, if_neg (by linarith), neg_neg]

theorem roundAway_of_nonneg {q : ℚ} (h : 0 ≤ q) : roundAway q = round q := if_neg (not_lt.2 h)

theorem RoundsAway.eq_intCast {n k : Int} (h : RoundsAway n k) : k = n := by
  have hnear := h.nearest n
  rw [sub_self, abs_zero, abs_nonpos_iff, sub_eq_zero] at hnear
  exact_mod_cast hnear.symm

end Stencil.Library
