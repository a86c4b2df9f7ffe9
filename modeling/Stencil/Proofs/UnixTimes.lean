import Stencil.Proofs.DateFields
import Stencil.Proofs.DateFormats
import Stencil.Proofs.NearestDoubles

/-!
# Unix times

The Unix time of a moment is the double nearest to its seconds, cut to its whole part. Whatever
timestamp the moment is of, the double has the whole part of the seconds, so the Unix time is the
printed second from 1970 on. Before 1970 the printed second is the one before a fraction, and the
whole part the one after it.
-/

namespace Stencil.Number.Double

variable {num den : Nat}

/-- The whole number nearest to the absolute value of a finite double. -/
def nearestWhole : Double → Nat
  | .finite _ m e => divHalfEven (magnitude m e).1 (magnitude m e).2
  | _ => 0

namespace IsRatio

variable {x : Double} {s : Bool} {bound : Nat}

theorem nearestWhole_le (h : x.IsRatio s num den) (hden : 0 < den) (hle : num ≤ bound * den) :
    x.nearestWhole ≤ bound := by
  obtain ⟨m, e, rfl, hratio⟩ := h
  refine divHalfEven_le_of_le (magnitude_pos m e) (Nat.le_of_mul_le_mul_right ?_ hden)
  rw [hratio, Nat.mul_right_comm]
  exact Nat.mul_le_mul_right _ hle

theorem le_nearestWhole (h : x.IsRatio s num den) (hden : 0 < den) (hle : bound * den ≤ num) :
    bound ≤ x.nearestWhole := by
  obtain ⟨m, e, rfl, hratio⟩ := h
  refine le_divHalfEven_of_le (magnitude_pos m e) (Nat.le_of_mul_le_mul_right ?_ hden)
  rw [hratio, Nat.mul_right_comm]
  exact Nat.mul_le_mul_right _ hle

end IsRatio

/-- Rounding a ratio twice does not pass a whole number either. -/
theorem nearestWhole_ofRatio_le {bound : Nat} (hden : 0 < den) (hbound : bound < 2 ^ 53)
    (h : num ≤ bound * den) (s : Bool) : (ofRatio s num den).nearestWhole ≤ bound := by
  have hsmall : num < 2 ^ 53 * den := Nat.lt_of_le_of_lt h (Nat.mul_lt_mul_of_pos_right hbound hden)
  obtain ⟨p, -, hratio⟩ := exists_parts hden hsmall s
  exact hratio.nearestWhole_le (Nat.pow_pos (by decide)) (divHalfEven_parts_le hden h _)

theorem le_nearestWhole_ofRatio {bound : Nat} (hden : 0 < den) (hsmall : num < 2 ^ 53 * den)
    (h : bound * den ≤ num) (s : Bool) : bound ≤ (ofRatio s num den).nearestWhole := by
  obtain ⟨p, -, hratio⟩ := exists_parts hden hsmall s
  exact hratio.le_nearestWhole (Nat.pow_pos (by decide)) (le_divHalfEven_parts hden h _)

end Stencil.Number.Double

namespace Stencil.Calendar.Moment

open Stencil.Number (Double divHalfEven)

/-- The microseconds of a finite double, without its sign. -/
def microsecondsOf (m : Nat) (e : Int) : Nat :=
  let (num, den) := Double.magnitude m e
  num / den * 1000000 + (Double.ofRatio false (num % den * 1000000) den).nearestWhole

/-- The moment of a number of microseconds, if it is one that can be printed. -/
def ofMicroseconds (total : Int) : Except Fault Moment :=
  let second := total.fdiv 1000000
  if second < -Number.wordBound ∨ Number.wordBound ≤ second then .error .outOfRange
  else if second < leastClockSecond ∨ greatestClockSecond < second then .error .clockRange
  else if second < leastSecond ∨ greatestSecond < second then .error .badValue
  else .ok ⟨second, (total.fmod 1000000).toNat⟩

theorem ofDouble_finite (s : Bool) (m : Nat) (e : Int) :
    ofDouble (.finite s m e) =
      ofMicroseconds (if s then -(microsecondsOf m e : Int) else microsecondsOf m e) := by
  rw [ofDouble, microsecondsOf]
  cases Double.magnitude m e with
  | mk num den =>
    dsimp only
    rw [ofMicroseconds]
    cases Double.ofRatio false (num % den * 1000000) den <;> rfl

theorem microseconds_of_ratio {num den k : Nat} (hden : 0 < den) (h : num * 1000000 = k * den) :
    num / den * 1000000 + (Double.ofRatio false (num % den * 1000000) den).nearestWhole = k := by
  have hrest := Nat.mod_lt num hden
  have hsplit : num / den * 1000000 * den + num % den * 1000000 = k * den := by
    rw [← h, Nat.mul_right_comm, ← Nat.add_mul, Nat.div_add_mod']
  have hle : num / den * 1000000 ≤ k :=
    Nat.le_of_mul_le_mul_right (Nat.le.intro hsplit) hden
  have hfraction : num % den * 1000000 = (k - num / den * 1000000) * den := by
    rw [Nat.sub_mul, ← hsplit, Nat.add_sub_cancel_left]
  have hsmall : num % den * 1000000 < 2 ^ 53 * den := by omega
  have hbound : k - num / den * 1000000 < 2 ^ 53 := by
    rw [hfraction] at hsmall
    exact Nat.lt_of_mul_lt_mul_right hsmall
  have hupper := Double.nearestWhole_ofRatio_le hden hbound (Nat.le_of_eq hfraction) false
  have hlower := Double.le_nearestWhole_ofRatio hden hsmall (Nat.le_of_eq hfraction.symm) false
  rw [Nat.le_antisymm hupper hlower, Nat.add_sub_cancel' hle]

/-- A double of whole microseconds has just these. -/
theorem microsecondsOf_eq {m k : Nat} {e : Int}
    (h : (Double.magnitude m e).1 * 1000000 = k * (Double.magnitude m e).2) :
    microsecondsOf m e = k :=
  microseconds_of_ratio (Double.magnitude_pos m e) h

theorem total_of_ofMicroseconds {total : Int} {m : Moment} (h : ofMicroseconds total = .ok m) :
    m.second * 1000000 + m.microsecond = total ∧ m.microsecond < 1000000 ∧ InRange m.second := by
  have hdiv : total.fdiv 1000000 = total / 1000000 := Int.fdiv_eq_ediv_of_nonneg _ (by decide)
  have hmod : total.fmod 1000000 = total % 1000000 := Int.fmod_eq_emod_of_nonneg _ (by decide)
  rw [ofMicroseconds, hdiv, hmod] at h
  split at h
  · cases h
  split at h
  · cases h
  split at h
  · cases h
  next hprinted =>
  cases h
  simp only [InRange]
  omega

/-! ## The gap below the next second -/

section

variable {m : Nat} {e : Int}

/-- With parts as small as a microsecond they are finer than it. -/
theorem million_lt_of_le {p gap : Nat} (hp : 19 ≤ p) (hgap : 0 < gap) :
    1000000 < 2 * 2 ^ p * gap := by
  have hparts : 2 ^ 19 ≤ 2 ^ p := Nat.pow_le_pow_right (by decide) hp
  calc 1000000 < 2 * 2 ^ 19 := by decide
    _ ≤ 2 * 2 ^ p := Nat.mul_le_mul_left 2 hparts
    _ ≤ 2 * 2 ^ p * gap := Nat.le_mul_of_pos_right _ hgap

/-- Of greater parts, the microseconds in one are more than a half of it. -/
theorem million_lt_of_lt {p gap : Nat} (hp : p < 19) (hgap : 1000000 / 2 ^ p ≤ gap) :
    1000000 < 2 * 2 ^ p * gap := by
  have hpart : ∀ p < 19, 1000000 < 2 * 2 ^ p * (1000000 / 2 ^ p) := by decide
  exact Nat.lt_of_lt_of_le (hpart p hp) (Nat.mul_le_mul_left _ hgap)

/-- A fraction of `parts` parts ends a whole part before the next second. -/
theorem nearestWhole_fraction_le (num : Nat) {parts : Nat} (hparts : 0 < parts) :
    (Double.ofRatio false (num % parts * 1000000) parts).nearestWhole ≤
      1000000 - 1000000 / parts := by
  have hrest := Nat.mod_lt num hparts
  have hpart : 1000000 / parts * parts ≤ 1000000 := Nat.div_mul_le_self 1000000 parts
  have hsmall : 1000000 - 1000000 / parts < 2 ^ 53 :=
    Nat.lt_of_le_of_lt (Nat.sub_le _ _) (by decide)
  refine Double.nearestWhole_ofRatio_le hparts hsmall ?_ false
  have hfraction : num % parts * 1000000 ≤ (parts - 1) * 1000000 :=
    Nat.mul_le_mul_right _ (by omega)
  rw [Nat.sub_mul] at hfraction ⊢
  omega

/-- A ratio of a mantissa that has `2 ^ 52` parts before the next second is itself written in
these parts or greater ones. -/
theorem parts_le_of_full {g p : Nat} (hm : m < 2 ^ 53) (hp : p < 19)
    (hfull : 2 ^ 52 < (m / 2 ^ g + 1) * 2 ^ p) : g ≤ p := by
  refine Nat.not_lt.1 fun hless => ?_
  have hsplit : 2 ^ 52 = 2 ^ (52 - p) * 2 ^ p := by
    rw [← Nat.pow_add]
    congr 1
    omega
  rw [hsplit] at hfull
  have hwhole : 2 ^ (52 - p) ≤ m / 2 ^ g := Nat.lt_succ_iff.1 (Nat.lt_of_mul_lt_mul_right hfull)
  have hgreat : 2 ^ 53 ≤ m := calc
    2 ^ 53 = 2 ^ (52 - p) * 2 ^ (p + 1) := by
      rw [← Nat.pow_add]
      congr 1
      omega
    _ ≤ m / 2 ^ g * 2 ^ g := Nat.mul_le_mul hwhole (Nat.pow_le_pow_right (by decide) hless)
    _ ≤ m := Nat.div_mul_le_self m (2 ^ g)
  omega

/-- A double is a whole number, or a ratio of its mantissa. -/
theorem exists_magnitude (m : Nat) (e : Int) :
    ∃ num g, Double.magnitude m e = (num, 2 ^ g) ∧ (g = 0 ∨ num = m) := by
  cases e with
  | ofNat p => exact ⟨m * 2 ^ p, 0, rfl, .inl rfl⟩
  | negSucc p => exact ⟨m, p + 1, congrArg (m, ·) (Nat.one_mul _), .inr rfl⟩

/-- The fraction of a second ends a whole part before the next second. -/
theorem exists_fraction (m : Nat) (e : Int) :
    ∃ num g fraction, (g = 0 ∨ num = m) ∧
      microsecondsOf m e = num / 2 ^ g * 1000000 + fraction ∧
      fraction + 1000000 / 2 ^ g ≤ 1000000 := by
  obtain ⟨num, g, hmagnitude, hnum⟩ := exists_magnitude m e
  have hparts : 0 < 2 ^ g := Nat.pow_pos (by decide)
  refine ⟨num, g, _, hnum, by rw [microsecondsOf, hmagnitude], ?_⟩
  exact (Nat.le_sub_iff_add_le (Nat.div_le_self _ _)).1 (nearestWhole_fraction_le num hparts)

/-- With parts greater than microseconds, microseconds that have `2 ^ 52` of them are themselves
in such parts, so that the next second is one of these away. -/
theorem part_le_gap (hm : m < 2 ^ 53) {p : Nat} (hp : p < 19)
    (hfull : 2 ^ 52 * 1000000 ≤ microsecondsOf m e * 2 ^ p) :
    1000000 / 2 ^ p ≤ 1000000 - microsecondsOf m e % 1000000 := by
  obtain ⟨num, g, fraction, hnum, htotal, hfraction⟩ := exists_fraction m e
  have hle : fraction ≤ 1000000 := Nat.le_trans (Nat.le_add_right _ _) hfraction
  by_cases hcarry : fraction = 1000000
  · have hwhole : microsecondsOf m e % 1000000 = 0 := by omega
    rw [hwhole]
    exact Nat.div_le_self 1000000 (2 ^ p)
  have hbelow : fraction < 1000000 := Nat.lt_of_le_of_ne hle hcarry
  have hrest : microsecondsOf m e % 1000000 = fraction := by omega
  have hg : g ≤ p := by
    rcases hnum with rfl | rfl
    · exact Nat.zero_le p
    · refine parts_le_of_full hm hp ?_
      have hnext : microsecondsOf num e < (num / 2 ^ g + 1) * 1000000 := by omega
      have hless : 2 ^ 52 * 1000000 < (num / 2 ^ g + 1) * 2 ^ p * 1000000 := calc
        2 ^ 52 * 1000000 ≤ microsecondsOf num e * 2 ^ p := hfull
        _ < (num / 2 ^ g + 1) * 1000000 * 2 ^ p :=
          Nat.mul_lt_mul_of_pos_right hnext (Nat.pow_pos (by decide))
        _ = (num / 2 ^ g + 1) * 2 ^ p * 1000000 := Nat.mul_right_comm _ _ _
      exact Nat.lt_of_mul_lt_mul_right hless
  calc 1000000 / 2 ^ p ≤ 1000000 / 2 ^ g :=
        Nat.div_le_div_left (Nat.pow_le_pow_right (by decide) hg) (Nat.pow_pos (by decide))
    _ ≤ 1000000 - fraction := Nat.le_sub_of_add_le' hfraction
    _ = 1000000 - microsecondsOf m e % 1000000 := by rw [hrest]

/-- So near to the next second that half a part would reach it no double is rounded. -/
theorem million_lt_gap (hm : m < 2 ^ 53) {p : Nat}
    (hp : 2 ^ 52 * 1000000 ≤ microsecondsOf m e * 2 ^ p ∨ p = 1074) :
    1000000 < 2 * 2 ^ p * (1000000 - microsecondsOf m e % 1000000) := by
  by_cases hlarge : 19 ≤ p
  · exact million_lt_of_le hlarge (Nat.sub_pos_of_lt (Nat.mod_lt _ (by decide)))
  · have hsmall : p < 19 := Nat.not_le.1 hlarge
    have hfull := hp.resolve_right (by omega)
    exact million_lt_of_lt hsmall (part_le_gap hm hsmall hfull)

end

/-! ## The whole part of the seconds -/

/-- The Unix time is cut toward the start of 1970. -/
theorem unixTime_eq {x : Double} {m : Moment} (hx : x.HasPrecision) (h : ofDouble x = .ok m) :
    m.unixTime = (m.second * 1000000 + m.microsecond).tdiv 1000000 := by
  cases x with
  | infinite s => cases h
  | nan => cases h
  | finite s mantissa e =>
    obtain ⟨htotal, hmicrosecond, hrange⟩ :=
      total_of_ofMicroseconds (ofDouble_finite s mantissa e ▸ h)
    rw [unixTime, htotal]
    have habs : (if s then -(microsecondsOf mantissa e : Int)
        else microsecondsOf mantissa e).natAbs = microsecondsOf mantissa e := by
      split <;> omega
    generalize (if s then -(microsecondsOf mantissa e : Int)
      else microsecondsOf mantissa e) = total at *
    have hsmall : total.natAbs < 2 ^ 53 * 1000000 := by
      simp only [InRange, leastSecond, greatestSecond] at hrange
      omega
    have htruncated := Double.truncate?_ofRatio (by decide) hsmall
      (fun p hp => habs ▸ million_lt_gap (hx _ _ _ rfl) (habs ▸ hp)) (decide (total < 0))
    rw [htruncated, Option.getD_some]
    by_cases hnegative : total < 0
    · have hsign : total = -(total.natAbs : Int) := by omega
      rw [decide_eq_true hnegative, if_pos rfl, hsign, Int.neg_tdiv, Int.natAbs_neg,
        Int.natAbs_natCast, Int.ofNat_tdiv]
      rfl
    · have hsign : total = (total.natAbs : Int) := by omega
      rw [decide_eq_false hnegative, if_neg (by decide), hsign, Int.natAbs_natCast, Int.ofNat_tdiv]
      rfl

theorem bounds_of_ofDouble {x : Double} {m : Moment} (h : ofDouble x = .ok m) :
    m.microsecond < 1000000 ∧ InRange m.second := by
  cases x with
  | infinite s => cases h
  | nan => cases h
  | finite s mantissa e =>
    exact (total_of_ofMicroseconds (ofDouble_finite s mantissa e ▸ h)).2

/-- A timestamp of whole microseconds is the moment of just these. -/
theorem total_of_isRatio {x : Double} {m : Moment} {s : Bool} {k : Nat}
    (hx : x.IsRatio s k 1000000) (h : ofDouble x = .ok m) :
    m.second * 1000000 + m.microsecond = if s then -(k : Int) else k := by
  obtain ⟨mantissa, e, rfl, hratio⟩ := hx
  rw [ofDouble_finite, microsecondsOf_eq hratio] at h
  exact (total_of_ofMicroseconds h).1

/-- So it is the second that is printed, or before 1970 the one after a fraction. -/
theorem unixTime_eq_second {x : Double} {m : Moment} (hx : x.HasPrecision)
    (h : ofDouble x = .ok m) :
    m.unixTime = if m.second < 0 ∧ 0 < m.microsecond then m.second + 1 else m.second := by
  have hmicrosecond := (bounds_of_ofDouble h).1
  have hsecond : (m.second * 1000000 + m.microsecond) / 1000000 = m.second := by omega
  rw [unixTime_eq hx h, Int.tdiv_eq_ediv, hsecond]
  by_cases hnegative : m.second < 0 ∧ 0 < m.microsecond
  · have hnot : ¬ (0 ≤ m.second * 1000000 + m.microsecond ∨
        (1000000 : Int) ∣ m.second * 1000000 + m.microsecond) := by omega
    rw [if_neg hnot, if_pos hnegative]
    rfl
  · have hwhole : 0 ≤ m.second * 1000000 + m.microsecond ∨
        (1000000 : Int) ∣ m.second * 1000000 + m.microsecond := by omega
    rw [if_pos hwhole, if_neg hnegative, Int.add_zero]

end Stencil.Calendar.Moment

namespace Stencil

open Number (Double)

/-! ## Doubles of values -/

namespace Number

theorem hasPrecision_ofDecimal (s : Bool) (coefficient : Nat) (exponent : Int) :
    (Double.ofDecimal s coefficient exponent).HasPrecision := by
  rw [Double.ofDecimal]
  dsimp only
  split
  · exact Double.hasPrecision_zero s
  split
  · exact nofun
  · exact Double.hasPrecision_ofRatio s _ (Double.scaled_pos (by decide) _ _ Nat.one_pos)

theorem hasPrecision_of_readDouble? {t : Text} {x : Double} (h : readDouble? t = some x) :
    x.HasPrecision := by
  obtain ⟨body, -, h⟩ := Option.bind_eq_some_iff.1 h
  dsimp only at h
  split at h
  · cases h
    exact nofun
  split at h
  · cases h
    exact nofun
  obtain ⟨⟨coefficient, exponent⟩, -, h⟩ := Option.bind_eq_some_iff.1 h
  cases h
  exact hasPrecision_ofDecimal _ _ _

theorem hasPrecision_of_ofInt? {n : Int} {x : Double} (h : Double.ofInt? n = some x) :
    x.HasPrecision := by
  rw [Double.ofInt?] at h
  split at h
  · cases h
  · cases h
    exact Double.hasPrecision_ofRatio _ _ Nat.one_pos

theorem hasPrecision_of_decimal {d : Decimal} {x : Double} (h : d.toDouble = .ok x) :
    x.HasPrecision := by
  cases d with
  | finite s c e => exact Except.ok.inj h ▸ hasPrecision_ofDecimal s c e
  | infinite s =>
    cases h
    exact nofun
  | nan s signaling payload =>
    rw [Decimal.toDouble] at h
    split at h
    · cases h
    · cases h
      exact nofun

end Number

namespace Value

theorem eq_some_of_orFault {α : Type} {fault : Fault} {o : Option α} {a : α}
    (h : orFault fault o = .ok a) : o = some a := by
  cases o with
  | none => cases h
  | some b => exact congrArg some (Except.ok.inj h)

/-- The doubles that other values are brought to are in normal form, if doubles are. -/
theorem hasPrecision_of_toDouble {v : Value} {x : Double}
    (hfloat : ∀ y, v = .float y → y.HasPrecision) (h : v.toDouble = .ok x) : x.HasPrecision := by
  cases v with
  | bool b => exact Except.ok.inj h ▸ Double.hasPrecision_ofRatio _ _ Nat.one_pos
  | int n => exact Number.hasPrecision_of_ofInt? (eq_some_of_orFault h)
  | float y => exact Except.ok.inj h ▸ hfloat y rfl
  | decimal d => exact Number.hasPrecision_of_decimal h
  | text t => exact Number.hasPrecision_of_readDouble? (eq_some_of_orFault h)
  | bytes octets => exact Number.hasPrecision_of_readDouble? (eq_some_of_orFault h)
  | _ => cases h

end Value

namespace Library

open Calendar

/-- The date and the time of day as they are printed one behind the other. -/
def stampText (d : Date) (hour minute second : Nat) : Text :=
  Text.decimalText d.year ++ .char '-' :: twoDigits d.month ++ .char '-' :: twoDigits d.day ++
    .char ' ' :: twoDigits hour ++ .char ':' :: twoDigits minute ++ .char ':' :: twoDigits second

def wholeText (n : Int) : Text :=
  if n < 0 then '-' :: Text.decimalText n.natAbs else Text.decimalText n.natAbs

theorem exists_double_of_momentOf {now m : Moment} {v : Value} (hv : v ≠ .null)
    (h : momentOf now v = .ok m) : ∃ x, v.toDouble = .ok x ∧ Moment.ofDouble x = .ok m := by
  have hmoment : momentOf now v = (do Moment.ofDouble (← v.toDouble)) := by
    cases v with
    | null => exact absurd rfl hv
    | _ => rfl
  rw [hmoment] at h
  exact Fault.ok_of_bind h

theorem format_stamp {m : Moment} (hvalid : m.date.IsValid) :
    m.format "Y-m-d H:i:s".text = stampText m.date m.hour m.minute m.secondOfMinute := by
  have hdate := Moment.printsDate hvalid
  have hclock := Moment.printsClock m.hour_lt
  have hformat : m.format "Y-m-d H:i:s".text =
      m.printField 'Y' ++ .char '-' :: (m.printField 'm' ++ .char '-' :: (m.printField 'd' ++
        .char ' ' :: (m.printField 'H' ++ .char ':' :: (m.printField 'i' ++ .char ':' ::
          (m.printField 's' ++ []))))) := rfl
  rw [hformat, hdate.year, hdate.paddedMonth, hdate.paddedDay, hclock.paddedHours,
    hclock.minutes, hclock.seconds]
  simp [stampText]

theorem format_unixTime (m : Moment) : m.format ['U'] = wholeText m.unixTime :=
  List.append_nil _

/-- The Unix time of a timestamp is the second that is printed of it, unless it has a fraction of
a second before 1970: then it is the second after the printed one. What is printed of a timestamp
of whole microseconds is this timestamp, without its fraction. -/
theorem unix_time_of_printed {now : Moment} {v result : Value} (hv : v ≠ .null)
    (hfloat : ∀ x, v = .float x → x.HasPrecision) {format : Text}
    (h : date now [.text format, v] = .ok result) :
    ∃ (m : Moment) (d : Date) (hour minute second : Nat),
      momentOf now v = .ok m ∧
        (∀ x s k, v.toDouble = .ok x → x.IsRatio s k 1000000 →
          m.second * 1000000 + m.microsecond = if s then -(k : Int) else k) ∧
        d.IsValid ∧ hour < 24 ∧ minute < 60 ∧ second < 60 ∧
        date now [.text "Y-m-d H:i:s".text, v] =
          .ok (.text (stampText d hour minute second)) ∧
        daysSince1970 d * 86400 + hour * 3600 + minute * 60 + second = m.second ∧
        date now [.text ['U'], v] =
          .ok (.text (wholeText
            (if m.second < 0 ∧ 0 < m.microsecond then m.second + 1 else m.second))) := by
  obtain ⟨m, hm, -⟩ := Fault.ok_of_bind h
  obtain ⟨x, hdouble, hx⟩ := exists_double_of_momentOf hv hm
  have hprecision := Value.hasPrecision_of_toDouble hfloat hdouble
  obtain ⟨hvalid, htotal⟩ := Moment.total_eq (Moment.bounds_of_ofDouble hx).2
  have hclock := Moment.printsClock m.hour_lt
  refine ⟨m, m.date, m.hour, m.minute, m.secondOfMinute, hm, ?_, hvalid, hclock.hour_lt,
    hclock.minute_lt, hclock.second_lt, ?_, htotal, ?_⟩
  · intro y s k hy hratio
    rw [hdouble] at hy
    cases hy
    exact Moment.total_of_isRatio hratio hx
  · rw [date_text, hm, ← format_stamp hvalid]
    rfl
  · rw [date_text, hm, ← Moment.unixTime_eq_second hprecision hx, ← format_unixTime]
    rfl

/-- A quarter of a second after a second, as a decimal. -/
theorem unix_time_of_quarter :
    let v := Value.decimal (.finite false 170964762925 (-2))
    v ≠ .null ∧ (∀ x, v = .float x → x.HasPrecision) ∧
      date ⟨0, 0⟩ [.text ['U'], v] = .ok (.text "1709647629".text) ∧
      ∃ (m : Moment) (d : Date) (hour minute second : Nat),
        momentOf ⟨0, 0⟩ v = .ok m ∧
          (∀ x s k, v.toDouble = .ok x → x.IsRatio s k 1000000 →
            m.second * 1000000 + m.microsecond = if s then -(k : Int) else k) ∧
          d.IsValid ∧ hour < 24 ∧ minute < 60 ∧ second < 60 ∧
          date ⟨0, 0⟩ [.text "Y-m-d H:i:s".text, v] =
            .ok (.text (stampText d hour minute second)) ∧
          daysSince1970 d * 86400 + hour * 3600 + minute * 60 + second = m.second ∧
          date ⟨0, 0⟩ [.text ['U'], v] =
            .ok (.text (wholeText
              (if m.second < 0 ∧ 0 < m.microsecond then m.second + 1 else m.second))) := by
  intro v
  have hmoment : momentOf ⟨0, 0⟩ v = .ok ⟨1709647629, 250000⟩ := by decide +kernel
  have hunix : Moment.format ⟨1709647629, 250000⟩ ['U'] = "1709647629".text := by
    decide +kernel
  have hcall : date ⟨0, 0⟩ [.text ['U'], v] = .ok (.text "1709647629".text) := by
    rw [date_text, hmoment, ← hunix]
    rfl
  exact ⟨nofun, nofun, hcall, unix_time_of_printed nofun nofun hcall⟩

/-- Half a second before 1970 the second before it is printed, but the Unix time is its end. -/
theorem unix_time_before_1970 :
    let half := Value.float (.finite true (2 ^ 52) (-53))
    date ⟨0, 0⟩ [.text "Y-m-d H:i:s".text, half] =
        .ok (.text "1969-12-31 23:59:59".text) ∧
      daysSince1970 ⟨1969, 12, 31⟩ * 86400 + 23 * 3600 + 59 * 60 + 59 = -1 ∧
      date ⟨0, 0⟩ [.text ['U'], half] = .ok (.text ['0']) := by
  intro half
  have hmoment : momentOf ⟨0, 0⟩ half = .ok ⟨-1, 500000⟩ := by decide +kernel
  have hstamp : Moment.format ⟨-1, 500000⟩ "Y-m-d H:i:s".text = "1969-12-31 23:59:59".text := by
    decide +kernel
  have hunix : Moment.format ⟨-1, 500000⟩ ['U'] = [.char '0'] := by decide +kernel
  refine ⟨?_, by decide +kernel, ?_⟩
  · rw [date_text, hmoment, ← hstamp]
    rfl
  · rw [date_text, hmoment, ← hunix]
    rfl

end Library

end Stencil
