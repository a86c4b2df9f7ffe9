import Stencil.Calendar.Date

/-!
# Day numbers

The number of a day counts the days of the years and months before it, and every number of
the years 1 to 9999 is the number of one valid date, the one it is turned into.
-/

namespace Stencil.Calendar

-- The empty sum is the numeral zero, whatever algebra is imported.
attribute [local instance (high)] Zero.ofOfNat0

def yearLength (year : Nat) : Nat := if isLeap year then 366 else 365

theorem isLeap_iff {year : Nat} :
    isLeap year = true ↔ 4 ∣ year ∧ (100 ∣ year → 400 ∣ year) := by
  simp only [isLeap, Bool.and_eq_true, Bool.or_eq_true, beq_iff_eq, bne_iff_ne]
  omega

theorem sum_monthLengths (year : Nat) : (monthLengths year).sum = yearLength year := by
  cases h : isLeap year <;> simp [monthLengths, yearLength, h]

/-! ## Counting days -/

theorem daysBefore_succ {year : Nat} (hpos : 0 < year) :
    daysBefore (year + 1) = daysBefore year + yearLength year := by
  obtain ⟨before, rfl⟩ : ∃ before, year = before + 1 := ⟨year - 1, by omega⟩
  have hfour : (before + 1) / 4 = before / 4 + if 4 ∣ before + 1 then 1 else 0 := by
    split <;> omega
  have hcentury : (before + 1) / 100 = before / 100 + if 100 ∣ before + 1 then 1 else 0 := by
    split <;> omega
  have hcycle : (before + 1) / 400 = before / 400 + if 400 ∣ before + 1 then 1 else 0 := by
    split <;> omega
  have hle : before / 100 ≤ before / 4 := Nat.div_le_div_left (by omega) (by omega)
  have hfours : 100 ∣ before + 1 → 4 ∣ before + 1 := Nat.dvd_trans (by decide)
  have hcenturies : 400 ∣ before + 1 → 100 ∣ before + 1 := Nat.dvd_trans (by decide)
  simp only [yearLength, isLeap_iff, daysBefore, Nat.add_sub_cancel, hfour, hcentury, hcycle]
  -- The quotients are kept apart from the rule, which omega would search through with them.
  generalize before / 4 = fours at *
  generalize before / 100 = centuries at *
  generalize before / 400 = cycles at *
  by_cases h400 : 400 ∣ before + 1
  · simp only [h400, hcenturies h400, hfours (hcenturies h400), if_true, and_true, implies_true]
    omega
  by_cases h100 : 100 ∣ before + 1
  · simp only [h400, h100, hfours h100, if_true, if_false, true_implies, and_false]
    omega
  by_cases h4 : 4 ∣ before + 1
  · simp only [h400, h100, h4, if_true, if_false, and_true, false_implies]
    omega
  · simp only [h400, h100, h4, if_false, false_and]
    omega

theorem sum_map_range'_succ (f : Nat → Nat) (count : Nat) :
    ((List.range' 1 (count + 1)).map f).sum =
      ((List.range' 1 count).map f).sum + f (count + 1) := by
  rw [List.range'_concat, List.map_append, List.sum_append]
  simp [Nat.add_comm]

/-- The days from the start of the year 1 to the start of a year. -/
theorem sum_yearLengths (years : Nat) :
    ((List.range' 1 years).map yearLength).sum = daysBefore (years + 1) := by
  induction years with
  | zero => rfl
  | succ years ih =>
    rw [sum_map_range'_succ, ih, ← daysBefore_succ (Nat.succ_pos years)]

theorem sum_take (lengths : List Nat) {k : Nat} (hk : k ≤ lengths.length) :
    ((List.range' 1 k).map fun i => lengths.getD (i - 1) 0).sum = (lengths.take k).sum := by
  induction k with
  | zero => rfl
  | succ k ih =>
    rw [sum_map_range'_succ, ih (by omega), List.take_succ_eq_append_getElem (by omega),
      List.sum_append, Nat.add_sub_cancel, List.getD_eq_getElem?_getD,
      List.getElem?_eq_getElem (by omega)]
    simp

/-- The days from the first of January 1970 to a date, over the years and months between. -/
def daysSince1970 (d : Date) : Int :=
  ((((List.range' 1 (d.year - 1)).map yearLength).sum +
    ((List.range' 1 (d.month - 1)).map (monthLength d.year)).sum + (d.day - 1) : Nat) : Int) -
    ((List.range' 1 1969).map yearLength).sum

theorem length_monthLengths (year : Nat) : (monthLengths year).length = 12 := rfl

theorem daysSince1970_eq {d : Date} (h : d.IsValid) : daysSince1970 d = d.dayNumber - 719163 := by
  obtain ⟨hyear, -, -, hmonth, -⟩ := h
  have hyears : ((List.range' 1 (d.year - 1)).map yearLength).sum = daysBefore d.year := by
    rw [sum_yearLengths, Nat.sub_add_cancel hyear]
  have hmonths : ((List.range' 1 (d.month - 1)).map (monthLength d.year)).sum =
      ((monthLengths d.year).take (d.month - 1)).sum :=
    sum_take _ (by rw [length_monthLengths]; omega)
  have hepoch : ((List.range' 1 1969).map yearLength).sum = 719162 := by
    rw [sum_yearLengths]
    rfl
  rw [daysSince1970, hyears, hmonths, hepoch, Date.dayNumber, Date.dayOfYear]
  omega

/-! ## From a number to its date -/

namespace Date

/-- Counting on through the months stops in the month that the day lies in. -/
theorem exists_monthAndDay {lengths : List Nat} (month : Nat) {rest : Nat}
    (h : rest < lengths.sum) :
    ∃ k day, monthAndDay month rest lengths = (month + k, day + 1) ∧ k < lengths.length ∧
      day < lengths.getD k 0 ∧ (lengths.take k).sum + day = rest := by
  induction lengths generalizing month rest with
  | nil => cases h
  | cons length later ih =>
    by_cases hless : rest < length
    · refine ⟨0, rest, ?_, by simp, by simpa using hless, by simp⟩
      rw [monthAndDay, if_pos hless]
      rfl
    · rw [List.sum_cons] at h
      have hless' : rest - length < later.sum := by omega
      obtain ⟨k, day, hday, hk, hbound, hsum⟩ := ih (month + 1) hless'
      refine ⟨k + 1, day, ?_, by simpa using hk, by simpa using hbound, ?_⟩
      · rw [monthAndDay, if_neg hless, hday]
        simp [Nat.add_comm, Nat.add_left_comm]
      · rw [List.take_succ_cons, List.sum_cons]
        omega

/-- Cycles of 400, 100, 4 and 1 years have the days that are taken off for them. -/
theorem daysBefore_cycles {centuries leaps years : Nat} (cycles : Nat) (hcenturies : centuries ≤ 3)
    (hleaps : leaps ≤ 24) (hyears : years ≤ 3) :
    daysBefore (cycles * 400 + centuries * 100 + leaps * 4 + years + 1) =
      cycles * 146097 + centuries * 36524 + leaps * 1461 + years * 365 := by
  have hfour : (cycles * 400 + centuries * 100 + leaps * 4 + years) / 4 =
      cycles * 100 + centuries * 25 + leaps := by omega
  have hcentury : (cycles * 400 + centuries * 100 + leaps * 4 + years) / 100 =
      cycles * 4 + centuries := by omega
  have hcycle : (cycles * 400 + centuries * 100 + leaps * 4 + years) / 400 = cycles := by omega
  rw [daysBefore, Nat.add_sub_cancel, hfour, hcentury, hcycle]
  omega

theorem yearLength_ge (year : Nat) : 365 ≤ yearLength year := by
  rw [yearLength]
  split <;> omega

/-- What is left of the days stands in the year: only a leap year is given a day 366. -/
theorem rest_lt_yearLength {centuries leaps years rest : Nat} (cycles : Nat)
    (hleaps : leaps ≤ 24) (hrest : rest ≤ 365)
    (hlast : rest = 365 → years = 3 ∧ (leaps = 24 → centuries = 3)) :
    rest < yearLength (cycles * 400 + centuries * 100 + leaps * 4 + years + 1) := by
  by_cases hday : rest = 365
  · obtain ⟨rfl, hcentury⟩ := hlast hday
    have hleap : isLeap (cycles * 400 + centuries * 100 + leaps * 4 + 3 + 1) = true := by
      refine isLeap_iff.2 ⟨by omega, fun hhundred => ?_⟩
      have hthree := hcentury (by omega)
      omega
    rw [yearLength, if_pos hleap]
    omega
  · have hge := yearLength_ge (cycles * 400 + centuries * 100 + leaps * 4 + years + 1)
    omega

/-- The year of a day number, and the days of the year before it. -/
theorem exists_year (days : Nat) :
    ∃ year rest, ofDayNumber (days + 1) =
        ⟨year, (monthAndDay 1 rest (monthLengths year)).1,
          (monthAndDay 1 rest (monthLengths year)).2⟩ ∧
      0 < year ∧ rest < yearLength year ∧ daysBefore year + rest = days := by
  refine ⟨_, _, rfl, Nat.succ_pos _, rest_lt_yearLength _ ?_ ?_ ?_, ?_⟩
  · omega
  · omega
  · omega
  · rw [daysBefore_cycles _ (Nat.min_le_left _ _) (by omega) (Nat.min_le_left _ _)]
    omega

theorem year_le_of_daysBefore_lt {year : Nat} (h : daysBefore year < lastDayNumber) :
    year ≤ greatestYear := by
  simp only [lastDayNumber, daysBefore, greatestYear] at *
  omega

theorem ofDayNumber_spec {n : Nat} (hpos : 1 ≤ n) (hlast : n ≤ lastDayNumber) :
    (ofDayNumber n).IsValid ∧ (ofDayNumber n).dayNumber = n := by
  obtain ⟨days, rfl⟩ : ∃ days, n = days + 1 := ⟨n - 1, by omega⟩
  obtain ⟨year, rest, hdate, hyear, hrest, hdays⟩ := exists_year days
  rw [← sum_monthLengths] at hrest
  obtain ⟨k, day, hmonth, hk, hday, hsum⟩ := exists_monthAndDay 1 hrest
  rw [length_monthLengths] at hk
  rw [hmonth] at hdate
  have hbound : year ≤ greatestYear := year_le_of_daysBefore_lt (by omega)
  have hlength : monthLength year (1 + k) = (monthLengths year).getD k 0 := by
    rw [monthLength, Nat.add_sub_cancel_left]
  rw [hdate]
  constructor
  · simp only [IsValid, hlength]
    omega
  · simp only [dayNumber, dayOfYear, Nat.add_sub_cancel_left, Nat.add_sub_cancel, hsum]
    omega

end Date

end Stencil.Calendar
