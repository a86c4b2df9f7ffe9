import Stencil.Library.Dates
import Stencil.Proofs.WholeDoubles

/-!
# Whole seconds

A timestamp of whole seconds is the moment of just these seconds, unless it is out of range:
the doubles of whole numbers below `2 ^ 53` are exact, and greater ones are no dates.
-/

namespace Stencil.Calendar.Moment

open Stencil.Number (Double divHalfEven)

/-- A moment of whole seconds has no microseconds. -/
theorem ofDouble_of_isWhole {x : Double} {n : Int} (h : x.IsWhole n) :
    ofDouble x =
      if n < -Number.wordBound ∨ Number.wordBound ≤ n then .error .outOfRange
      else if n < leastClockSecond ∨ greatestClockSecond < n then .error .clockRange
      else if n < leastSecond ∨ greatestSecond < n then .error .badValue
      else .ok ⟨n, 0⟩ := by
  obtain ⟨s, m, e, k, rfl, hk, hn⟩ := h
  have hden := Double.magnitude_pos m e
  rcases hmagnitude : Double.magnitude m e with ⟨num, den⟩
  rw [hmagnitude] at hk hden
  dsimp only at hk hden
  have hwhole : num / den = k := by rw [hk, Nat.mul_div_cancel_left k hden]
  have hrest : num % den = 0 := by rw [hk, Nat.mul_mod_right]
  have hzero : Double.ofRatio false 0 den = .finite false 0 Double.leastExponent := if_pos rfl
  have hfraction : divHalfEven (Double.magnitude 0 Double.leastExponent).1
      (Double.magnitude 0 Double.leastExponent).2 = 0 := by
    have hnothing := Number.divHalfEven_mul (k := 0) (Double.magnitude_pos 0 Double.leastExponent)
    rw [Double.magnitude_zero]
    rwa [Nat.mul_zero] at hnothing
  have hsecond : (if s then -((k * 1000000 + 0 : Nat) : Int) else (k * 1000000 + 0 : Nat)) =
      n * 1000000 := by
    rw [hn]
    split <;> omega
  have hdiv : (n * 1000000).fdiv 1000000 = n := Int.mul_fdiv_cancel n (by decide)
  have hmod : (n * 1000000).fmod 1000000 = 0 := Int.mul_fmod_left n 1000000
  rw [ofDouble, hmagnitude]
  simp only [hwhole, hrest, Nat.zero_mul, hzero, hfraction, hsecond, hdiv, hmod]
  rfl

/-- The moments that can be printed. -/
def InRange (n : Int) : Prop := leastSecond ≤ n ∧ n ≤ greatestSecond

theorem ofDouble_eq_ok_iff {x : Double} {n : Int} (h : x.IsWhole n) {m : Moment} :
    ofDouble x = .ok m ↔ m = ⟨n, 0⟩ ∧ InRange n := by
  rw [ofDouble_of_isWhole h]
  by_cases hrange : InRange n
  · have hword : ¬(n < -Number.wordBound ∨ Number.wordBound ≤ n) := by
      simp only [InRange, leastSecond, greatestSecond] at hrange
      simp only [Number.wordBound]
      omega
    have hclock : ¬(n < leastClockSecond ∨ greatestClockSecond < n) := by
      simp only [InRange, leastSecond, greatestSecond] at hrange
      simp only [leastClockSecond, greatestClockSecond]
      omega
    have hprinted : ¬(n < leastSecond ∨ greatestSecond < n) := by
      simp only [InRange] at hrange
      omega
    rw [if_neg hword, if_neg hclock, if_neg hprinted, Except.ok.injEq]
    exact ⟨fun heq => ⟨heq.symm, hrange⟩, fun heq => heq.1.symm⟩
  · have hprinted : n < leastSecond ∨ greatestSecond < n := by
      simp only [InRange] at hrange
      omega
    rw [if_pos hprinted]
    refine ⟨fun hok => ?_, fun hok => absurd hok.2 hrange⟩
    split at hok
    · cases hok
    · split at hok <;> cases hok

end Stencil.Calendar.Moment

namespace Stencil.Library

open Stencil.Calendar (Moment)
open Stencil.Number (Double)

/-- A timestamp of whole seconds: a whole number, or a value that is one in double precision. -/
def IsWholeSeconds (v : Value) (n : Int) : Prop :=
  v = .int n ∨ ∃ x, v.toDouble = .ok x ∧ x.IsWhole n

theorem momentOf_of_toDouble {now : Moment} {v : Value} {x : Double} (h : v.toDouble = .ok x) :
    momentOf now v = Moment.ofDouble x := by
  have hbind : (do Moment.ofDouble (← v.toDouble)) = Moment.ofDouble x := by rw [h]; rfl
  cases v with
  | null => cases h
  | _ => exact hbind

theorem toDouble_int_of_isWhole {n k : Int}
    (h : (Double.ofRatio (decide (n < 0)) n.natAbs 1).IsWhole k) :
    (Value.int n).toDouble = .ok (Double.ofRatio (decide (n < 0)) n.natAbs 1) := by
  obtain ⟨s, m, e, j, hfinite, -⟩ := h
  rw [Value.toDouble, Double.ofInt?, hfinite]
  rfl

theorem momentOf_int_iff {now m : Moment} {n : Int} :
    momentOf now (.int n) = .ok m ↔ m = ⟨n, 0⟩ ∧ Moment.InRange n := by
  have hsign : n = if decide (n < 0) then -(n.natAbs : Int) else n.natAbs := by
    simp only [decide_eq_true_eq]
    split <;> omega
  by_cases hsmall : n.natAbs < 2 ^ 53
  · have hwhole := Double.isWhole_ofRatio hsmall (decide (n < 0))
    rw [← hsign] at hwhole
    rw [momentOf_of_toDouble (toDouble_int_of_isWhole hwhole)]
    exact Moment.ofDouble_eq_ok_iff hwhole
  · have hout : ∀ k : Int, 2 ^ 53 ≤ k.natAbs → ¬Moment.InRange k := fun k hk => by
      simp only [Moment.InRange, Calendar.leastSecond, Calendar.greatestSecond]
      omega
    refine ⟨fun hok => ?_, fun hok => absurd hok.2 (hout n (by omega))⟩
    rcases Double.ofRatio_great (Nat.not_lt.1 hsmall) (decide (n < 0)) with
      hinfinite | ⟨k, hk, hwhole⟩
    · have hfail : momentOf now (.int n) = .error .outOfRange := by
        change (do Moment.ofDouble (← (Value.int n).toDouble)) = _
        rw [Value.toDouble, Double.ofInt?, hinfinite]
        rfl
      rw [hfail] at hok
      cases hok
    · rw [momentOf_of_toDouble (toDouble_int_of_isWhole hwhole)] at hok
      have hrange := ((Moment.ofDouble_eq_ok_iff hwhole).1 hok).2
      exact absurd hrange (hout _ (by split <;> omega))

theorem momentOf_eq_ok_iff {now m : Moment} {v : Value} {n : Int} (hv : IsWholeSeconds v n) :
    momentOf now v = .ok m ↔ m = ⟨n, 0⟩ ∧ Moment.InRange n := by
  rcases hv with rfl | ⟨x, hdouble, hwhole⟩
  · exact momentOf_int_iff
  · rw [momentOf_of_toDouble hdouble]
    exact Moment.ofDouble_eq_ok_iff hwhole

end Stencil.Library
