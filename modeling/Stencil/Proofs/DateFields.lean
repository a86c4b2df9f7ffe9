import Stencil.Proofs.DayNumbers
import Stencil.Proofs.WholeSeconds

/-!
# Fields of a date

The fields that a format prints of a timestamp are those of the date and the time of day that
the timestamp stands for: days since 1970, hours, minutes and seconds make it up again, and
the weekday, the day of the year, the names and the notations agree with them.
-/

namespace Stencil.Calendar

open Stencil.Text (decimalText)

/-! ## What is printed -/

/-- A format with fields in place of its characters; a backslash makes the next one literal. -/
def expand (field : CodePoint → Text) : Text → Text
  | '\\' :: c :: rest => c :: expand field rest
  | c :: rest => field c ++ expand field rest
  | [] => []

def twoDigits (n : Nat) : Text := [Nat.digitChar (n / 10), Nat.digitChar (n % 10)]

def weekdayNames : List String :=
  ["Sunday", "Monday", "Tuesday", "Wednesday", "Thursday", "Friday", "Saturday"]

/-- The fields of a date in the year. -/
structure PrintsDate (field : CodePoint → Text) (d : Date) : Prop where
  valid : d.IsValid
  year : field 'Y' = decimalText d.year
  shortYear : field 'y' = twoDigits (d.year % 100)
  leap : field 'L' = if 4 ∣ d.year ∧ (100 ∣ d.year → 400 ∣ d.year) then [.char '1'] else [.char '0']
  month : field 'n' = decimalText d.month
  paddedMonth : field 'm' = twoDigits d.month
  monthName : field 'F' = (Moment.monthNames.getD (d.month - 1) "").text
  shortMonthName : field 'M' = ((Moment.monthNames.getD (d.month - 1) "").text).take 3
  monthLength : field 't' = decimalText (monthLength d.year d.month)
  day : field 'j' = decimalText d.day
  paddedDay : field 'd' = twoDigits d.day
  dayOfYear : ∃ days : Nat, field 'z' = decimalText days ∧
    (days : Int) = daysSince1970 d - daysSince1970 ⟨d.year, 1, 1⟩

/-- The fields of a day of the week, counted from Sunday. -/
structure PrintsWeekday (field : CodePoint → Text) (weekday : Nat) : Prop where
  fromSunday : field 'w' = decimalText weekday
  fromMonday : field 'N' = decimalText (if weekday = 0 then 7 else weekday)
  name : field 'l' = (weekdayNames.getD weekday "").text
  shortName : field 'D' = ((weekdayNames.getD weekday "").text).take 3

/-- The fields of a time of day. The dial has twelve hours, the first of them marked 12. -/
structure PrintsClock (field : CodePoint → Text) (hour minute second dial : Nat)
    (afternoon : Bool) : Prop where
  hour_lt : hour < 24
  minute_lt : minute < 60
  second_lt : second < 60
  hours : field 'G' = decimalText hour
  paddedHours : field 'H' = twoDigits hour
  minutes : field 'i' = twoDigits minute
  seconds : field 's' = twoDigits second
  dial_pos : 1 ≤ dial
  dial_le : dial ≤ 12
  dialHours : field 'g' = decimalText dial
  paddedDialHours : field 'h' = twoDigits dial
  half : field 'a' = if afternoon then "pm".text else "am".text
  capitalHalf : field 'A' = if afternoon then "PM".text else "AM".text
  hour_eq : hour = dial % 12 + if afternoon then 12 else 0

/-! ## The fields of a moment -/

theorem padded_eq_twoDigits {n : Nat} (h : n < 100) : Date.padded 2 n = twoDigits n :=
  (by decide : ∀ n < 100, Date.padded 2 n = twoDigits n) n h

theorem monthLength_le (year month : Nat) : monthLength year month ≤ 31 := by
  have hle : ∀ length ∈ monthLengths year, length ≤ 31 := by
    cases h : isLeap year <;> simp [monthLengths, h]
  rw [monthLength, List.getD_eq_getElem?_getD]
  cases hlength : (monthLengths year)[month - 1]? with
  | none => exact Nat.zero_le 31
  | some length => exact hle length (List.mem_of_getElem? hlength)

theorem isValid_firstOfYear {d : Date} (h : d.IsValid) : (⟨d.year, 1, 1⟩ : Date).IsValid := by
  obtain ⟨hyear, hgreatest, -⟩ := h
  simp [Date.IsValid, hyear, hgreatest, monthLength, monthLengths]

/-- The name of a day after Monday is the name of the day after Sunday. -/
theorem dayNames_eq {days : Nat} (h : days < 7) :
    Moment.dayNames.getD days "" = weekdayNames.getD ((days + 1) % 7) "" :=
  (by decide : ∀ days < 7,
    Moment.dayNames.getD days "" = weekdayNames.getD ((days + 1) % 7) "") days h

namespace Moment

variable {m : Moment}

theorem format_eq_expand (m : Moment) (t : Text) : m.format t = expand m.printField t := by
  fun_induction expand m.printField t with
  | case1 c rest ih => rw [format, ih]
  | case2 c rest hescaped ih =>
    rw [format, ih]
    exact hescaped
  | case3 => rfl

theorem printsDate (h : m.date.IsValid) : PrintsDate m.printField m.date := by
  obtain ⟨-, -, -, hmonth, -, hday⟩ := id h
  have hlength := monthLength_le m.date.year m.date.month
  have hleap : ([if isLeap m.date.year then '1' else '0'] : Text) =
      if 4 ∣ m.date.year ∧ (100 ∣ m.date.year → 400 ∣ m.date.year) then [.char '1']
      else [.char '0'] := by
    simp only [isLeap_iff]
    split <;> rfl
  have hyear : (m.date.dayOfYear : Int) =
      daysSince1970 m.date - daysSince1970 ⟨m.date.year, 1, 1⟩ := by
    have hfirst : (⟨m.date.year, 1, 1⟩ : Date).dayNumber = daysBefore m.date.year + 1 := rfl
    rw [daysSince1970_eq h, daysSince1970_eq (isValid_firstOfYear h), hfirst, Date.dayNumber]
    omega
  exact {
    valid := h
    year := rfl
    shortYear := padded_eq_twoDigits (by omega)
    leap := hleap
    month := rfl
    paddedMonth := padded_eq_twoDigits (by omega)
    monthName := rfl
    shortMonthName := rfl
    monthLength := rfl
    day := rfl
    paddedDay := padded_eq_twoDigits (by omega)
    dayOfYear := ⟨m.date.dayOfYear, rfl, hyear⟩ }

theorem printsWeekday : PrintsWeekday m.printField ((m.date.weekday + 1) % 7) := by
  have hweekday : m.date.weekday < 7 := Nat.mod_lt _ (by omega)
  have hname : m.dayName = (weekdayNames.getD ((m.date.weekday + 1) % 7) "").text := by
    rw [dayName, dayNames_eq hweekday]
  have hnumber : m.date.weekday + 1 =
      if (m.date.weekday + 1) % 7 = 0 then 7 else (m.date.weekday + 1) % 7 := by
    split <;> omega
  exact {
    fromSunday := rfl
    fromMonday := congrArg decimalText hnumber
    name := hname
    shortName := congrArg (List.take 3) hname }

theorem printsClock (h : m.hour < 24) :
    PrintsClock m.printField m.hour m.minute m.secondOfMinute m.dialHour
      (decide (12 ≤ m.hour)) := by
  have hminute : m.minute < 60 := Nat.mod_lt _ (by omega)
  have hsecond : m.secondOfMinute < 60 := Nat.mod_lt _ (by omega)
  obtain ⟨hpos, hle, hdial⟩ : 1 ≤ m.dialHour ∧ m.dialHour ≤ 12 ∧ m.dialHour % 12 = m.hour % 12 := by
    rw [dialHour]
    split <;> omega
  have hhalf : ∀ before after : Text, (if m.hour < 12 then before else after) =
      if decide (12 ≤ m.hour) then after else before := fun before after => by
    by_cases hmorning : m.hour < 12
    · simp [hmorning, Nat.not_le.2 hmorning]
    · simp [hmorning, Nat.not_lt.1 hmorning]
  exact {
    hour_lt := h
    minute_lt := hminute
    second_lt := hsecond
    hours := rfl
    paddedHours := padded_eq_twoDigits (by omega)
    minutes := padded_eq_twoDigits (by omega)
    seconds := padded_eq_twoDigits (by omega)
    dial_pos := hpos
    dial_le := hle
    dialHours := rfl
    paddedDialHours := padded_eq_twoDigits (by omega)
    half := hhalf _ _
    capitalHalf := hhalf _ _
    hour_eq := by
      rw [hdial]
      simp only [decide_eq_true_eq]
      split <;> omega }

/-! ## The moment of a number of seconds -/

theorem dayNumber_eq (h : InRange m.second) :
    (m.dayNumber : Int) = 719163 + m.second / 86400 ∧ 1 ≤ m.dayNumber ∧
      m.dayNumber ≤ lastDayNumber := by
  have hdays : m.dayNumber = (719163 + m.second / 86400).toNat := by
    rw [dayNumber, Int.fdiv_eq_ediv_of_nonneg _ (by decide)]
    rfl
  have hlast : lastDayNumber = 3652059 := by decide
  simp only [InRange, leastSecond, greatestSecond] at h
  omega

theorem clock_eq (m : Moment) : (m.clock : Int) = m.second % 86400 := by
  have hclock : m.clock = (m.second % 86400).toNat := by
    rw [clock, Int.fmod_eq_emod_of_nonneg _ (by decide)]
    rfl
  omega

theorem hour_lt (m : Moment) : m.hour < 24 := by
  have hclock := m.clock_eq
  rw [hour]
  omega

/-- The day and the time of day make up the seconds again. -/
theorem total_eq (h : InRange m.second) :
    m.date.IsValid ∧
      daysSince1970 m.date * 86400 + m.hour * 3600 + m.minute * 60 + m.secondOfMinute =
        m.second := by
  obtain ⟨hnumber, hfirst, hlast⟩ := dayNumber_eq h
  obtain ⟨hvalid, hdate⟩ := Date.ofDayNumber_spec hfirst hlast
  have hdays : daysSince1970 m.date = m.second / 86400 := by
    have hcount := daysSince1970_eq hvalid
    rw [hdate, hnumber] at hcount
    change daysSince1970 (Date.ofDayNumber m.dayNumber) = _
    omega
  have hclock := m.clock_eq
  refine ⟨hvalid, ?_⟩
  rw [hdays, hour, minute, secondOfMinute]
  omega

theorem weekday_eq (h : InRange m.second) :
    (((m.date.weekday + 1) % 7 : Nat) : Int) = (m.second / 86400 + 4) % 7 := by
  obtain ⟨hnumber, hfirst, hlast⟩ := dayNumber_eq h
  rw [date, Date.weekday, (Date.ofDayNumber_spec hfirst hlast).2]
  omega

end Moment

end Stencil.Calendar

namespace Stencil.Library

open Stencil.Calendar

/-- Whether a timestamp of whole seconds has a date depends on its range alone. -/
theorem date_eq_ok_iff {now : Moment} {v result : Value} {n : Int} (hv : IsWholeSeconds v n)
    {format : Text} :
    date now [.text format, v] = .ok result ↔
      result = .text ((⟨n, 0⟩ : Moment).format format) ∧ Moment.InRange n := by
  have hdate : date now [.text format, v] =
      (momentOf now v).bind fun m => formatMoment m (.text format) := rfl
  rw [hdate]
  constructor
  · intro h
    cases hmoment : momentOf now v with
    | error fault =>
      rw [hmoment] at h
      cases h
    | ok m =>
      obtain ⟨rfl, hrange⟩ := (momentOf_eq_ok_iff hv).1 hmoment
      rw [hmoment] at h
      exact ⟨(Except.ok.inj h).symm, hrange⟩
  · rintro ⟨rfl, hrange⟩
    rw [(momentOf_eq_ok_iff hv).2 ⟨rfl, hrange⟩]
    rfl

/-- A date denotes its timestamp: what is printed for each character of a format are the fields
of one date, one time of day and one day of the week, which make up the seconds. -/
theorem date_denotes {now : Moment} {v result : Value} {n : Int} (hv : IsWholeSeconds v n)
    {format : Text} (h : date now [.text format, v] = .ok result) :
    ∃ field, (∀ t, date now [.text t, v] = .ok (.text (expand field t))) ∧
      ∃ d hour minute second dial afternoon weekday,
        PrintsDate field d ∧ PrintsClock field hour minute second dial afternoon ∧
          PrintsWeekday field weekday ∧
          daysSince1970 d * 86400 + hour * 3600 + minute * 60 + second = n ∧
          (weekday : Int) = (n / 86400 + 4) % 7 := by
  have hrange := ((date_eq_ok_iff hv).1 h).2
  obtain ⟨hvalid, htotal⟩ := Moment.total_eq (m := ⟨n, 0⟩) hrange
  refine ⟨(⟨n, 0⟩ : Moment).printField, fun t => ?_, ?_⟩
  · exact (date_eq_ok_iff hv).2 ⟨by rw [Moment.format_eq_expand], hrange⟩
  · exact ⟨_, _, _, _, _, _, _, Moment.printsDate hvalid, Moment.printsClock (Moment.hour_lt _),
      Moment.printsWeekday, htotal, Moment.weekday_eq hrange⟩

/-- The year 1900 had no leap day; its first of March lies before 1970. -/
theorem date_of_march_1900 :
    date ⟨0, 0⟩ [.text "D, j M Y g:i A".text, .int (-2203891200)] =
        .ok (.text "Thu, 1 Mar 1900 12:00 AM".text) ∧
      ∃ field, (∀ t, date ⟨0, 0⟩ [.text t, .int (-2203891200)] = .ok (.text (expand field t))) ∧
        ∃ d hour minute second dial afternoon weekday,
          PrintsDate field d ∧ PrintsClock field hour minute second dial afternoon ∧
            PrintsWeekday field weekday ∧
            daysSince1970 d * 86400 + hour * 3600 + minute * 60 + second = -2203891200 ∧
            (weekday : Int) = (-2203891200 / 86400 + 4) % 7 := by
  have hcall : date ⟨0, 0⟩ [.text "D, j M Y g:i A".text, .int (-2203891200)] =
      .ok (.text "Thu, 1 Mar 1900 12:00 AM".text) :=
    (date_eq_ok_iff (.inl rfl)).2 ⟨by rfl, by decide, by decide⟩
  exact ⟨hcall, date_denotes (.inl rfl) hcall⟩

end Stencil.Library
