import CrashReporter.Time.Calendar
import Mathlib.Tactic.IntervalCases

-- Days and dates are the same thing: the date of a day is one that the calendar has, and its
-- day number is that day. A day that an instant can lie on lies in a year that can be written.

namespace CrashReporter.Time

/-! ## Years -/

/-- The days of an era before one of its years. -/
def daysBefore (year : Int) : Int := 365 * year + year / 4 - year / 100

/-- A year of the era is 365 days and a leap day every fourth year, but not every hundredth.
The last year of the era has its leap day again. -/
theorem yearOfEra_spec {day : Int} (hfirst : 0 ≤ day) (hlast : day < 146097) :
    let year := (day - day / 1460 + day / 36524 - day / 146096) / 365
    0 ≤ year ∧ year < 400 ∧ daysBefore year ≤ day ∧
      day < daysBefore (year + 1) + if year = 399 then 1 else 0 := by
  intro year
  have hyear : year = (day - day / 1460 + day / 36524 - day / 146096) / 365 := rfl
  clear_value year
  have hera : day / 146096 = 0 ∨ day / 146096 = 1 := by omega
  have hnonneg : 0 ≤ year := by omega
  have hlt : year < 400 := by omega
  unfold daysBefore
  refine ⟨hnonneg, hlt, ?_, ?_⟩
  · have hcentury : year / 100 = 0 ∨ year / 100 = 1 ∨ year / 100 = 2 ∨ year / 100 = 3 := by omega
    rcases hera with hera | hera <;> rcases hcentury with h | h | h | h <;> omega
  · have hcentury : (year + 1) / 100 = 0 ∨ (year + 1) / 100 = 1 ∨ (year + 1) / 100 = 2 ∨
        (year + 1) / 100 = 3 ∨ (year + 1) / 100 = 4 := by omega
    split <;> rcases hera with hera | hera <;> rcases hcentury with h | h | h | h | h <;> omega

/-- The year after one of the era has a leap day in February if there is room for one. -/
theorem isLeap_iff_room (era : Int) {year : Int} (hnonneg : 0 ≤ year) (hlt : year < 400) :
    isLeap (year + era * 400 + 1) = true ↔
      daysBefore (year + 1) + (if year = 399 then 1 else 0) = daysBefore year + 366 := by
  simp only [isLeap, Bool.and_eq_true, Bool.or_eq_true, decide_eq_true_eq, daysBefore]
  split <;> omega

/-! ## Months -/

/-- The months from March on have 31 and 30 days in turn, but for August and January. -/
theorem monthOfYear_spec {day : Int} (hfirst : 0 ≤ day) (hlast : day < 366) :
    let month := (5 * day + 2) / 153
    0 ≤ month ∧ month < 12 ∧ (153 * month + 2) / 5 ≤ day ∧ day < (153 * (month + 1) + 2) / 5 := by
  intro month
  have hmonth : month = (5 * day + 2) / 153 := rfl
  omega

/-! ## Dates -/

/-- A day lies in a year of an era, counted from March, in a month of that year, and on a day of
that month; and this is what its date says. -/
theorem dateOf_spec (number : Int) :
    ∃ era year month day : Int, 0 ≤ year ∧ year < 400 ∧ 0 ≤ month ∧ month < 12 ∧ 1 ≤ day ∧
      number + 719468 = era * 146097 + daysBefore year + (153 * month + 2) / 5 + (day - 1) ∧
      (153 * month + 2) / 5 + (day - 1) < (153 * (month + 1) + 2) / 5 ∧
      daysBefore year + (153 * month + 2) / 5 + (day - 1) <
        daysBefore (year + 1) + (if year = 399 then 1 else 0) ∧
      dateOf number =
        if month < 10 then ⟨year + era * 400, (month + 3).toNat, day.toNat⟩
        else ⟨year + era * 400 + 1, (month - 9).toNat, day.toNat⟩ := by
  obtain ⟨era, hera⟩ : ∃ era, (number + 719468) / 146097 = era := ⟨_, rfl⟩
  obtain ⟨dayOfEra, hdayOfEra⟩ : ∃ day, (number + 719468) % 146097 = day := ⟨_, rfl⟩
  have hfirst : 0 ≤ dayOfEra := by omega
  have hlast : dayOfEra < 146097 := by omega
  obtain ⟨hyear, hyear', hbefore, hafter⟩ := yearOfEra_spec hfirst hlast
  obtain ⟨year, hyearOfEra⟩ : ∃ year,
    (dayOfEra - dayOfEra / 1460 + dayOfEra / 36524 - dayOfEra / 146096) / 365 = year := ⟨_, rfl⟩
  simp only [hyearOfEra] at hyear hyear' hbefore hafter
  obtain ⟨dayOfYear, hdayOfYear⟩ : ∃ day, dayOfEra - daysBefore year = day := ⟨_, rfl⟩
  have hroom : dayOfYear < 366 := by
    unfold daysBefore at hafter hdayOfYear
    split at hafter <;> omega
  have hnonneg : 0 ≤ dayOfYear := by omega
  obtain ⟨hmonth, hmonth', hfirst, hlast⟩ := monthOfYear_spec hnonneg hroom
  refine ⟨era, year, (5 * dayOfYear + 2) / 153,
    dayOfYear - (153 * ((5 * dayOfYear + 2) / 153) + 2) / 5 + 1, hyear, hyear', hmonth, hmonth',
    by omega, by omega, by omega, by omega, ?_⟩
  have hday : dayOfEra - (365 * year + year / 4 - year / 100) = dayOfYear := hdayOfYear
  unfold dateOf
  simp only [hera, hdayOfEra, hyearOfEra, hday]
  by_cases hspring : (5 * dayOfYear + 2) / 153 < 10
  · have hlate : ¬((5 * dayOfYear + 2) / 153 + 3 ≤ 2) := by omega
    simp only [if_pos hspring, if_neg hlate, Int.add_zero]
  · have hearly : (5 * dayOfYear + 2) / 153 - 9 ≤ 2 := by omega
    simp only [if_neg hspring, if_pos hearly]

/-- The day number of the date of a day is that day. -/
theorem dayNumber_dateOf (number : Int) : dayNumber (dateOf number) = number := by
  obtain ⟨era, year, month, day, hyear, hyear', hmonth, hmonth', hday, hnumber, _, _, hdate⟩ :=
    dateOf_spec number
  unfold daysBefore at hnumber
  rw [hdate]
  unfold dayNumber
  split
  · have hlate : ¬(month + 3).toNat ≤ 2 := by omega
    have hfromMarch : (((month + 3).toNat : Int) + 9) % 12 = month := by omega
    simp only [if_neg hlate, hfromMarch]
    omega
  · have hearly : (month - 9).toNat ≤ 2 := by omega
    have hfromMarch : (((month - 9).toNat : Int) + 9) % 12 = month := by omega
    simp only [if_pos hearly, hfromMarch]
    omega

/-- The date of a day is one that the calendar has. -/
theorem dateOf_bounds (number : Int) :
    1 ≤ (dateOf number).month ∧ (dateOf number).month ≤ 12 ∧ 1 ≤ (dateOf number).day ∧
      (dateOf number).day ≤ daysInMonth (dateOf number).year (dateOf number).month := by
  obtain ⟨era, year, month, day, hyear, hyear', hmonth, hmonth', hday, _, hlast, hroom, hdate⟩ :=
    dateOf_spec number
  rw [hdate]
  by_cases hfebruary : month = 11
  · subst hfebruary
    have hleap := isLeap_iff_room era hyear hyear'
    refine ⟨show 1 ≤ 2 by decide, show 2 ≤ 12 by decide, show 1 ≤ day.toNat by omega, ?_⟩
    · show day.toNat ≤ if isLeap (year + era * 400 + 1) then 29 else 28
      unfold daysBefore at hroom hleap
      split
      · omega
      · next h =>
        rw [hleap] at h
        split at h <;> split at hroom <;> omega
  · have hday' : 1 ≤ day.toNat := by omega
    interval_cases month
    case neg.«11» => exact absurd rfl hfebruary
    all_goals
      simp only [daysInMonth, reduceIte, Int.reduceLT, Int.reduceAdd, Int.reduceSub,
        Int.reduceToNat]
      omega

/-! ## Years that can be written -/

theorem firstDay_eq : firstDay = -96465292 := by decide

theorem lastDay_eq : lastDay = 95026236 := by decide

/-- A day that an instant can lie on is in a year that an instant can lie in. -/
theorem dateOf_year {number : Int} (hfirst : firstDay ≤ number) (hlast : number ≤ lastDay) :
    firstYear ≤ (dateOf number).year ∧ (dateOf number).year ≤ lastYear := by
  obtain ⟨era, year, month, day, hyear, hyear', hmonth, hmonth', hday, hnumber, _, hroom, hdate⟩ :=
    dateOf_spec number
  rw [firstDay_eq] at hfirst
  rw [lastDay_eq] at hlast
  unfold daysBefore at hnumber hroom
  unfold firstYear lastYear
  rw [hdate]
  split
  · constructor
    · show -262143 ≤ year + era * 400
      by_contra hearly
      obtain rfl : era = -656 := by omega
      omega
    · show year + era * 400 ≤ 262142
      by_contra hlate
      obtain rfl : era = 655 := by omega
      omega
  · constructor
    · show -262143 ≤ year + era * 400 + 1
      by_contra hearly
      obtain rfl : era = -656 := by omega
      omega
    · show year + era * 400 + 1 ≤ 262142
      by_contra hlate
      obtain rfl : era = 655 := by omega
      omega

/-- The date of such a day is one that can be read. -/
theorem date?_dateOf {number : Int} (hfirst : firstDay ≤ number) (hlast : number ≤ lastDay) :
    date? (dateOf number).year (dateOf number).month (dateOf number).day =
      some (dateOf number) := by
  obtain ⟨hyear, hyear'⟩ := dateOf_year hfirst hlast
  unfold date?
  rw [if_pos ⟨hyear, hyear', dateOf_bounds number⟩]

end CrashReporter.Time
