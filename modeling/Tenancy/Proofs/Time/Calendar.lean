import Mathlib.Tactic.IntervalCases
import Tenancy.Time.Calendar

/-!
# Days and dates

Each day has a date of the calendar, and the date determines the day. A cycle of 400 years is taken apart into centuries,
runs of four years, and days of such a run; only the last run of the last century has a leap day in a year that ends a
century.
-/

namespace Tenancy.Time.Date

/-! ## Years in a cycle -/

/-- The leap years are those of the Gregorian calendar. -/
theorem isLeap_iff {year : Int} :
    isLeap year = true ↔ year % 4 = 0 ∧ (year % 100 ≠ 0 ∨ year % 400 = 0) := by
  simp [isLeap]

/-- Leap years come again every 400 years. -/
theorem isLeap_add_cycles (cycle year : Int) : isLeap (cycle * 400 + year) = isLeap year := by
  rw [Bool.eq_iff_iff, isLeap_iff, isLeap_iff]
  omega

/-- A day of a cycle of 400 years as a day of a year of the cycle. -/
structure YearDay (dayOfCycle year dayOfYear : Int) : Prop where
  year_nonneg : 0 ≤ year
  year_lt : year < 400
  day_nonneg : 0 ≤ dayOfYear
  day_le : dayOfYear ≤ 365
  sum : dayOfCycle = 365 * year + year / 4 - year / 100 + dayOfYear
  leap : dayOfYear = 365 → isLeap (year + 1) = true

/-- A day of a cycle of 400 years as a century, a run of four years in it and a day of that run. -/
structure RunDay (century run day : Int) : Prop where
  century_nonneg : 0 ≤ century
  century_le : century ≤ 3
  run_nonneg : 0 ≤ run
  run_le : run ≤ 24
  day_nonneg : 0 ≤ day
  day_le : day ≤ 1460
  last : run = 24 → day = 1460 → century = 3

/-- Every day of a cycle lies in a century and in a run of four years. -/
theorem exists_runDay {dayOfCycle : Int} (h0 : 0 ≤ dayOfCycle) (h1 : dayOfCycle < 146097) :
    ∃ century run day : Int, RunDay century run day ∧ dayOfCycle = 36524 * century + 1461 * run + day := by
  by_cases last : dayOfCycle = 146096
  · exact ⟨3, 24, 1460, by constructor <;> omega, last⟩
  · exact ⟨dayOfCycle / 36524, dayOfCycle % 36524 / 1461, dayOfCycle % 36524 % 1461, by constructor <;> omega, by omega⟩

variable {century run day dayOfCycle year : Int}

/-- The division by days counts the centuries before a day, with the last day of a cycle among the others. -/
theorem RunDay.centuries (h : RunDay century run day) (hd : dayOfCycle = 36524 * century + 1461 * run + day) :
    dayOfCycle / 36524 - dayOfCycle / 146096 = century := by
  obtain ⟨hc, hc', hr, hr', h0, h1, hlast⟩ := h
  by_cases last : run = 24 ∧ day = 1460
  · obtain ⟨rfl, rfl⟩ := last
    rw [hd, hlast rfl rfl]
    decide
  · have within : 1461 * run + day < 36524 := by omega
    have whole : dayOfCycle / 36524 = century := by omega
    have early : dayOfCycle / 146096 = 0 := by omega
    omega

/-- The quotient that a year of the cycle is computed by: the last day of a run belongs to its fourth year. -/
theorem RunDay.yearOfCycle (h : RunDay century run day) (hd : dayOfCycle = 36524 * century + 1461 * run + day) :
    (dayOfCycle - dayOfCycle / 1460 + dayOfCycle / 36524 - dayOfCycle / 146096) / 365 =
      100 * century + 4 * run + if day = 1460 then 3 else day / 365 := by
  have centuries := h.centuries hd
  obtain ⟨hc, hc', hr, hr', h0, h1, -⟩ := h
  have runs : dayOfCycle / 1460 = 25 * century + run + if day + run + 24 * century < 1460 then 0 else 1 := by
    split <;> omega
  have numerator : dayOfCycle - dayOfCycle / 1460 + dayOfCycle / 36524 - dayOfCycle / 146096 =
      36500 * century + 1460 * run + day - if day + run + 24 * century < 1460 then 0 else 1 := by omega
  rw [numerator]
  clear hd centuries runs numerator
  split <;> split <;> omega

/-- The division by days finds the year of a day in its cycle. -/
theorem yearDay (h0 : 0 ≤ dayOfCycle) (h1 : dayOfCycle < 146097)
    (hy : year = (dayOfCycle - dayOfCycle / 1460 + dayOfCycle / 36524 - dayOfCycle / 146096) / 365) :
    YearDay dayOfCycle year (dayOfCycle - (365 * year + year / 4 - year / 100)) := by
  obtain ⟨century, run, day, h, hd⟩ := exists_runDay h0 h1
  rw [h.yearOfCycle hd] at hy
  obtain ⟨hc, hc', hr, hr', h0, h1, hlast⟩ := h
  have fours : year / 4 = 25 * century + run := by split at hy <;> omega
  have hundreds : year / 100 = century := by split at hy <;> omega
  rw [fours, hundreds]
  split at hy
  all_goals refine ⟨by omega, by omega, by omega, by omega, by omega, fun hl => isLeap_iff.mpr ?_⟩
  · omega
  · omega

/-! ## Months in a year -/

/-- The date of the `day`-th day of the `month`-th month, both counted from zero, of the year that begins in March of
`year`. -/
def ofMarch (year : Int) (month day : Nat) : Date :=
  ⟨if month < 10 then year else year + 1, if month < 10 then month + 3 else month - 9, day + 1⟩

/-- The number of days before a month in a year that begins in March. -/
def daysBefore (month : Nat) : Nat := (153 * month + 2) / 5

/-- The number of a date is counted in cycles, years and months that begin in March. -/
theorem toDays_ofMarch {cycle year : Int} (h0 : 0 ≤ year) (h1 : year < 400) {month : Nat} (hm : month ≤ 11) (day : Nat) :
    (ofMarch (cycle * 400 + year) month day).toDays =
      cycle * 146097 + (365 * year + year / 4 - year / 100 + (daysBefore month + day : Nat)) - 719468 := by
  obtain ⟨date, hdate⟩ : ∃ date, date = ofMarch (cycle * 400 + year) month day := ⟨_, rfl⟩
  have began : (if date.month ≤ 2 then date.year - 1 else date.year) = cycle * 400 + year := by
    rw [hdate]
    simp only [ofMarch]
    split <;> split at * <;> omega
  have place : (date.month + 9) % 12 = month := by
    rw [hdate]
    simp only [ofMarch]
    split <;> omega
  have cycles : (cycle * 400 + year) / 400 = cycle := by omega
  have rest : cycle * 400 + year - cycle * 400 = year := by omega
  rw [← hdate, toDays]
  simp only [began, place, cycles, rest]
  rw [hdate]
  simp only [ofMarch, daysBefore]
  push_cast
  omega

/-- A day of a month that begins in March is one of the calendar. -/
theorem isValid_ofMarch {year : Int} {month day : Nat} (hm : month ≤ 11)
    (hd : daysBefore month + day < daysBefore (month + 1)) (hle : daysBefore month + day ≤ 365)
    (leap : daysBefore month + day = 365 → isLeap (year + 1) = true) : (ofMarch year month day).isValid = true := by
  have short : day < monthLength (ofMarch year month day).year (ofMarch year month day).month := by
    simp only [daysBefore] at hd hle leap
    simp only [ofMarch, monthLength]
    interval_cases month
    case «11» =>
      -- February is the last month of such a year, and its last day the leap day.
      by_cases hl : isLeap (year + 1) = true
      · simp [hl]; omega
      · have : day ≠ 28 := fun h => hl (leap (by omega))
        simp [hl]; omega
    all_goals simp; omega
  have first : 1 ≤ (ofMarch year month day).month ∧ (ofMarch year month day).month ≤ 12 := by
    simp only [ofMarch]
    split <;> omega
  simp only [isValid, first, decide_true, Bool.true_and, Bool.and_eq_true, decide_eq_true_eq]
  exact ⟨by simp [ofMarch], short⟩

/-- No month is longer than 31 days. -/
theorem monthLength_le (year : Int) (month : Nat) : monthLength year month ≤ 31 := by
  unfold monthLength
  split
  · split <;> omega
  all_goals omega

/-- A date of the calendar has a month and a day in their bounds. -/
theorem bounds_of_isValid {date : Date} (h : date.isValid = true) :
    (1 ≤ date.month ∧ date.month ≤ 12) ∧ 1 ≤ date.day ∧ date.day ≤ 31 := by
  have := monthLength_le date.year date.month
  simp only [isValid, Bool.and_eq_true, decide_eq_true_eq] at h
  omega

/-! ## The date of a day -/

/-- The date of a day is a day of a month, in a year of a cycle. -/
theorem ofDays_eq (days : Int) : ∃ cycle year : Int, ∃ month day : Nat,
    ofDays days = ofMarch (cycle * 400 + year) month day ∧ month ≤ 11 ∧
      daysBefore month + day < daysBefore (month + 1) ∧
      YearDay (days + 719468 - cycle * 146097) year (daysBefore month + day : Nat) := by
  obtain ⟨cycle, hcycle⟩ : ∃ cycle, cycle = (days + 719468) / 146097 := ⟨_, rfl⟩
  obtain ⟨day, hday⟩ : ∃ day, day = days + 719468 - cycle * 146097 := ⟨_, rfl⟩
  obtain ⟨year, hyear⟩ : ∃ year, year = (day - day / 1460 + day / 36524 - day / 146096) / 365 := ⟨_, rfl⟩
  obtain ⟨dayOfYear, hdoy⟩ : ∃ d, d = day - (365 * year + year / 4 - year / 100) := ⟨_, rfl⟩
  have place : YearDay day year dayOfYear := hdoy ▸ yearDay (by omega) (by omega) hyear
  obtain ⟨d, rfl⟩ := Int.eq_ofNat_of_zero_le place.day_nonneg
  have hle := place.day_le
  obtain ⟨month, hmonth⟩ : ∃ month : Nat, month = (5 * d + 2) / 153 := ⟨_, rfl⟩
  have monthInt : (5 * (d : Int) + 2) / 153 = month := by omega
  have begun : daysBefore month ≤ d := by rw [daysBefore]; omega
  have beforeInt : (153 * (month : Int) + 2) / 5 = daysBefore month := by rw [daysBefore]; omega
  refine ⟨cycle, year, month, d - daysBefore month, ?_, by omega, ?_, ?_⟩
  · rw [ofDays, ofMarch]
    simp only [← hcycle, ← hday, ← hyear, ← hdoy, monthInt, beforeInt, Date.mk.injEq]
    clear hcycle hday hyear hdoy
    refine ⟨?_, ?_, ?_⟩
    · split <;> split <;> split at * <;> omega
    · split <;> split <;> omega
    · omega
  · rw [Nat.add_sub_cancel' begun, daysBefore]
    omega
  · rw [Nat.add_sub_cancel' begun, ← hday]
    exact place

/-- The date of a day gives back the day. -/
theorem toDays_ofDays (days : Int) : (ofDays days).toDays = days := by
  obtain ⟨cycle, year, month, day, hd, hm, -, place⟩ := ofDays_eq days
  rw [hd, toDays_ofMarch place.year_nonneg place.year_lt hm, ← place.sum]
  omega

/-- The date of a day is one that the calendar has. -/
theorem isValid_ofDays (days : Int) : (ofDays days).isValid = true := by
  obtain ⟨cycle, year, month, day, hd, hm, hday, place⟩ := ofDays_eq days
  have hle := place.day_le
  rw [hd]
  refine isValid_ofMarch hm hday (by omega) fun h => ?_
  rw [Int.add_assoc, isLeap_add_cycles]
  exact place.leap (by omega)

end Tenancy.Time.Date
