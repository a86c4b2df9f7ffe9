import Mathlib.Algebra.Group.Nat.Defs
import Stencil.Number.Double

/-!
# Whole numbers as doubles

The doubles of whole numbers below `2 ^ 53` are these numbers, and those of greater numbers are
infinite or whole numbers from `2 ^ 53` on.
-/

namespace Stencil.Number

theorem divHalfEven_mul {k den : Nat} (hden : 0 < den) : divHalfEven (den * k) den = k := by
  rw [divHalfEven, Nat.mul_mod_right, Nat.mul_div_cancel_left k hden]
  exact if_neg (by omega)

namespace Double

/-- A double that is a whole number. -/
def IsWhole (x : Double) (n : Int) : Prop :=
  ∃ s m e k, x = .finite s m e ∧ (magnitude m e).1 = (magnitude m e).2 * k ∧
    n = if s then -(k : Int) else k

theorem scaled_natCast (base p num den : Nat) :
    scaled base (p : Int) num den = (num * base ^ p, den) := rfl

theorem scaled_neg {p : Nat} (hp : 0 < p) (base num den : Nat) :
    scaled base (-(p : Int)) num den = (num, den * base ^ p) := by
  obtain ⟨q, rfl⟩ : ∃ q, p = q + 1 := ⟨p - 1, by omega⟩
  rfl

theorem scaled_pos {base den : Nat} (hbase : 0 < base) (power : Int) (num : Nat) (hden : 0 < den) :
    0 < (scaled base power num den).2 := by
  cases power with
  | ofNat p => exact hden
  | negSucc p => exact Nat.mul_pos hden (Nat.pow_pos hbase)

theorem magnitude_pos (m : Nat) (e : Int) : 0 < (magnitude m e).2 :=
  scaled_pos (by decide) e m Nat.one_pos

theorem magnitude_zero (e : Int) : (magnitude 0 e).1 = 0 := by
  cases e with
  | ofNat p => exact Nat.zero_mul _
  | negSucc p => rfl

/-- A number whose leading bit stands at place 52 of its units needs no other unit. -/
theorem ofRatio_of_normal (s : Bool) {n : Nat} (unit : Int) (hpos : 0 < n)
    (hunit : unit = (n.log2 : Int) - 52)
    (hnormal : 2 ^ 52 * (scaled 2 (-unit) n 1).2 ≤ (scaled 2 (-unit) n 1).1) :
    ofRatio s n 1 =
      let mantissa := divHalfEven (scaled 2 (-unit) n 1).1 (scaled 2 (-unit) n 1).2
      if mantissa = 2 ^ 53 then
        if greatestExponent < unit + 1 then .infinite s else .finite s (2 ^ 52) (unit + 1)
      else if greatestExponent < unit then .infinite s else .finite s mantissa unit := by
  have hlog : (n.log2 : Int) - (Nat.log2 1 : Nat) - 52 = unit := by
    rw [show Nat.log2 1 = 0 by decide, hunit]
    omega
  have hleast : max unit leastExponent = unit := by
    simp only [leastExponent]
    omega
  simp only [ofRatio, hlog, if_neg (Nat.pos_iff_ne_zero.1 hpos), if_pos hnormal, hleast]
  split <;> rfl

theorem isWhole_natCast (s : Bool) (m p : Nat) :
    IsWhole (.finite s m (p : Int)) (if s then -((m * 2 ^ p : Nat) : Int) else (m * 2 ^ p : Nat)) :=
  ⟨s, m, p, m * 2 ^ p, rfl, (Nat.one_mul _).symm, rfl⟩

theorem isWhole_ofRatio {n : Nat} (h : n < 2 ^ 53) (s : Bool) :
    IsWhole (ofRatio s n 1) (if s then -(n : Int) else n) := by
  by_cases hzero : n = 0
  · subst hzero
    have hround : ofRatio s 0 1 = .finite s 0 leastExponent := if_pos rfl
    exact ⟨s, 0, leastExponent, 0, hround, by rw [magnitude_zero, Nat.mul_zero], rfl⟩
  have hlog : n.log2 ≤ 52 := Nat.lt_succ_iff.1 ((Nat.log2_lt hzero).2 h)
  obtain ⟨p, hp⟩ : ∃ p, n.log2 + p = 52 := ⟨52 - n.log2, by omega⟩
  have hscaled : scaled 2 (- -(p : Int)) n 1 = (n * 2 ^ p, 1) := by rw [Int.neg_neg, scaled_natCast]
  have hle : 2 ^ 52 ≤ n * 2 ^ p := calc
    2 ^ 52 = 2 ^ n.log2 * 2 ^ p := by rw [← Nat.pow_add, hp]
    _ ≤ n * 2 ^ p := Nat.mul_le_mul_right _ (Nat.log2_self_le hzero)
  have hlt : n * 2 ^ p < 2 ^ 53 := calc
    n * 2 ^ p < 2 ^ (n.log2 + 1) * 2 ^ p :=
      Nat.mul_lt_mul_of_pos_right Nat.lt_log2_self (Nat.pow_pos (by omega))
    _ = 2 ^ 53 := by rw [← Nat.pow_add, Nat.add_right_comm, hp]
  have hmantissa : divHalfEven (n * 2 ^ p) 1 = n * 2 ^ p := by
    have hwhole := divHalfEven_mul (k := n * 2 ^ p) Nat.one_pos
    rwa [Nat.one_mul] at hwhole
  have hround := ofRatio_of_normal s (n := n) (-(p : Int)) (by omega) (by omega)
    (by rw [hscaled]; exact hle)
  simp only [hscaled, hmantissa, if_neg (Nat.ne_of_lt hlt), greatestExponent] at hround
  rw [if_neg (by omega)] at hround
  refine ⟨s, n * 2 ^ p, -(p : Int), n, hround, ?_, rfl⟩
  by_cases hunit : p = 0
  · subst hunit
    change n * 2 ^ 0 * 2 ^ 0 = 1 * n
    omega
  · rw [magnitude, scaled_neg (by omega), Nat.one_mul, Nat.mul_comm]

theorem le_divHalfEven (num den : Nat) : num / den ≤ divHalfEven num den := by
  rw [divHalfEven]
  split <;> omega

/-- Beyond 53 bits a double is infinite or a whole number beyond 53 bits. -/
theorem ofRatio_great {n : Nat} (h : 2 ^ 53 ≤ n) (s : Bool) :
    ofRatio s n 1 = .infinite s ∨ ∃ k : Nat, 2 ^ 53 ≤ k ∧
      IsWhole (ofRatio s n 1) (if s then -(k : Int) else k) := by
  have hzero : n ≠ 0 := by omega
  have hlog : 53 ≤ n.log2 := (Nat.le_log2 hzero).2 h
  obtain ⟨p, hp⟩ : ∃ p, n.log2 = 52 + p := ⟨n.log2 - 52, by omega⟩
  have hscaled : scaled 2 (-(p : Int)) n 1 = (n, 2 ^ p) := by
    rw [scaled_neg (by omega), Nat.one_mul]
  have hnormal : 2 ^ 52 * 2 ^ p ≤ n := by
    rw [← Nat.pow_add, ← hp]
    exact Nat.log2_self_le hzero
  have hmantissa : 2 ^ 52 ≤ divHalfEven n (2 ^ p) :=
    Nat.le_trans ((Nat.le_div_iff_mul_le (Nat.pow_pos (by omega))).2 hnormal) (le_divHalfEven _ _)
  have hgreat : ∀ m q, 2 ^ 52 ≤ m → 1 ≤ q → 2 ^ 53 ≤ m * 2 ^ q := fun m q hm hq => calc
    2 ^ 53 = 2 ^ 52 * 2 ^ 1 := by decide
    _ ≤ m * 2 ^ q := Nat.mul_le_mul hm (Nat.pow_le_pow_right (by omega) hq)
  rw [ofRatio_of_normal s (p : Int) (by omega) (by omega) (by rw [hscaled]; exact hnormal)]
  simp only [hscaled]
  split
  · split
    · exact .inl rfl
    · exact .inr ⟨_, hgreat _ (p + 1) (Nat.le_refl _) (by omega),
        isWhole_natCast s (2 ^ 52) (p + 1)⟩
  · split
    · exact .inl rfl
    · exact .inr ⟨_, hgreat _ p hmantissa (by omega), isWhole_natCast s _ p⟩

end Double

end Stencil.Number
