import Mathlib.Tactic.IntervalCases
import ImageGate.Time.Date

/-!
# Days and dates

Every day has a date, and the date leads back to the day (`toDays_ofDays`).

Days are counted in eras of 400 years from March to February, and `IsYearOfEra` says what is found
out of a day of an era: the year in which it lies, and how many days of that year have passed. A year
has 366 days only if the February at its end belongs to a leap year.
-/

namespace ImageGate.Date

/-- Days of an era before one of its years. -/
def daysBefore (yearOfEra : Int) : Int :=
  yearOfEra * 365 + yearOfEra / 4 - yearOfEra / 100

/-- The day of an era lies in this year, and so many days of the year have passed. -/
structure IsYearOfEra (dayOfEra yearOfEra dayOfYear : Int) : Prop where
  nonneg : 0 ≤ yearOfEra
  le : yearOfEra ≤ 399
  eq : dayOfEra = daysBefore yearOfEra + dayOfYear
  day_nonneg : 0 ≤ dayOfYear
  day_le : dayOfYear ≤ 365
  /-- Years end with the leap day. -/
  leap : dayOfYear = 365 →
    (yearOfEra + 1) % 4 = 0 ∧ ((yearOfEra + 1) % 100 ≠ 0 ∨ (yearOfEra + 1) % 400 = 0)

/-- The quotient that gives the year of a day of an era. -/
theorem isYearOfEra {dayOfEra : Int} (h0 : 0 ≤ dayOfEra) (h1 : dayOfEra ≤ 146096) :
    let yearOfEra := (dayOfEra - dayOfEra / 1460 + dayOfEra / 36524 - dayOfEra / 146096) / 365
    IsYearOfEra dayOfEra yearOfEra
      (dayOfEra - (365 * yearOfEra + yearOfEra / 4 - yearOfEra / 100)) := by
  by_cases hlast : dayOfEra = 146096
  · subst hlast
    exact ⟨by decide, by decide, by decide, by decide, by decide, by decide⟩
  · intro yearOfEra
    -- The century, the days of it, and its years; its leap days are those counted in `leaps`.
    obtain ⟨century, hcentury⟩ : ∃ c, c = dayOfEra / 36524 := ⟨_, rfl⟩
    obtain ⟨day, hday⟩ : ∃ r, r = dayOfEra - 36524 * century := ⟨_, rfl⟩
    obtain ⟨leaps, hleaps⟩ : ∃ p, p = (24 * century + day) / 1460 := ⟨_, rfl⟩
    obtain ⟨year, hyear⟩ : ∃ y, y = (day - leaps) / 365 := ⟨_, rfl⟩
    have hbounds : 0 ≤ century ∧ century ≤ 3 ∧ 0 ≤ day ∧ day ≤ 36523 := by omega
    have hyears : 0 ≤ year ∧ year ≤ 99 ∧ 4 * leaps - 1 ≤ year ∧ year ≤ 4 * leaps + 3 := by omega
    have hquotient : dayOfEra / 1460 = 25 * century + leaps := by omega
    have heq : yearOfEra = 100 * century + year := by
      simp only [yearOfEra, hquotient, ← hcentury]
      omega
    have hfourth : yearOfEra / 4 = 25 * century + year / 4 := by omega
    have hhundredth : yearOfEra / 100 = century := by omega
    have hpassed : dayOfEra - (365 * yearOfEra + yearOfEra / 4 - yearOfEra / 100) =
        day - 365 * year - year / 4 := by omega
    have hleap : year / 4 = leaps ∨ (year / 4 = leaps - 1 ∧ year = 4 * leaps - 1) := by omega
    clear_value yearOfEra
    refine ⟨by omega, by omega, ?_, by omega, by omega, ?_⟩
    · unfold daysBefore
      omega
    · omega

/-- What the date of a day consists of. -/
theorem exists_ofDays (n : Int) : ∃ era yearOfEra dayOfYear : Int,
    IsYearOfEra (n + 719468 - era * 146097) yearOfEra dayOfYear ∧
      (ofDays n).month = (((5 * dayOfYear + 2) / 153 + 2) % 12 + 1).toNat ∧
      (ofDays n).day =
        (dayOfYear - (153 * ((5 * dayOfYear + 2) / 153) + 2) / 5 + 1).toNat ∧
      (ofDays n).year =
        if (ofDays n).month ≤ 2 then yearOfEra + era * 400 + 1 else yearOfEra + era * 400 := by
  have hday : n + 719468 - (n + 719468) / 146097 * 146097 = (n + 719468) % 146097 := by omega
  refine ⟨(n + 719468) / 146097, _, _, ?_, rfl, rfl, rfl⟩
  rw [hday]
  exact isYearOfEra (by omega) (by omega)

/-- Months counted from March on: which it is, and the days of the year that passed before it. -/
theorem monthFromMarch_cases {dayOfYear : Int} (h0 : 0 ≤ dayOfYear) (h1 : dayOfYear ≤ 365) :
    ∃ m : Nat, m < 12 ∧ (5 * dayOfYear + 2) / 153 = m ∧
      (153 * (m : Int) + 2) / 5 ≤ dayOfYear ∧ dayOfYear < (153 * (m : Int) + 155) / 5 := by
  obtain ⟨m, hm⟩ : ∃ m, m = (5 * dayOfYear + 2) / 153 := ⟨_, rfl⟩
  exact ⟨m.toNat, by omega, by omega, by omega, by omega⟩

theorem month_ofDays (n : Int) : 1 ≤ (ofDays n).month ∧ (ofDays n).month ≤ 12 := by
  obtain ⟨era, yearOfEra, dayOfYear, hyear, hmonth, -, -⟩ := exists_ofDays n
  omega

/-- **The date of a day leads back to the day.** -/
theorem toDays_ofDays (n : Int) : (ofDays n).toDays = n := by
  obtain ⟨era, yearOfEra, dayOfYear, ⟨h0, h399, heq, hd0, hd1, -⟩, hmonth, hday, hyear⟩ :=
    exists_ofDays n
  unfold daysBefore at heq
  -- Months are counted from March on, and so are the years.
  have hmarch : ((((ofDays n).month + 9) % 12 : Nat) : Int) = (5 * dayOfYear + 2) / 153 := by omega
  have hmarchYear : (if (ofDays n).month ≤ 2 then (ofDays n).year - 1 else (ofDays n).year) =
      yearOfEra + era * 400 := by
    rw [hyear]
    split <;> omega
  have hera : (yearOfEra + era * 400) / 400 = era := by omega
  have hyearOfEra : (yearOfEra + era * 400) % 400 = yearOfEra := by omega
  simp only [toDays, hmarch, hmarchYear, hera, hyearOfEra]
  omega

/-- The first of January of every 400th year is the first day with that year. -/
theorem le_year_ofDays_iff (k n : Int) :
    400 * k ≤ (ofDays n).year ↔ (Date.mk (400 * k) 1 1).toDays ≤ n := by
  obtain ⟨era, yearOfEra, dayOfYear, ⟨h0, h399, heq, hd0, hd1, -⟩, hmonth, hday, hyear⟩ :=
    exists_ofDays n
  unfold daysBefore at heq
  have hfirst : (Date.mk (400 * k) 1 1).toDays = 146097 * k - 719528 := by
    simp only [toDays]
    omega
  have hwinter : (ofDays n).month ≤ 2 ↔ 306 ≤ dayOfYear := by
    obtain ⟨m, hm, hquotient, hfrom, hto⟩ := monthFromMarch_cases hd0 hd1
    rw [hmonth, hquotient]
    interval_cases m <;> simp <;> omega
  clear hmonth
  rw [hfirst, hyear]
  have hera : k ≤ era ∨ k = era + 1 ∨ era + 2 ≤ k := by omega
  rcases hera with hk | rfl | hk <;> split <;> omega

theorem monthLength_le (year : Int) (month : Nat) : monthLength year month ≤ 31 := by
  unfold monthLength
  split
  · split <;> decide
  · decide
  · decide
  · decide
  · decide
  · decide

theorem day_ofDays (n : Int) :
    1 ≤ (ofDays n).day ∧ (ofDays n).day ≤ monthLength (ofDays n).year (ofDays n).month := by
  obtain ⟨era, yearOfEra, dayOfYear, ⟨h0, h399, -, hd0, hd1, hleap⟩, hmonth, hday, hyear⟩ :=
    exists_ofDays n
  obtain ⟨m, hm, hquotient, hfrom, hto⟩ := monthFromMarch_cases hd0 hd1
  rw [hquotient] at hmonth hday
  refine ⟨by omega, ?_⟩
  by_cases hfebruary : m = 11
  · -- The leap day, day 365 from March on, is there only if the year is a leap year.
    subst hfebruary
    have hmonth : (ofDays n).month = 2 := by rw [hmonth]; rfl
    rw [if_pos (by omega)] at hyear
    have hlength : monthLength (ofDays n).year (ofDays n).month =
        if isLeapYear (ofDays n).year then 29 else 28 := by rw [hmonth]; rfl
    rw [hlength]
    by_cases hlast : dayOfYear = 365
    · have hleap := hleap hlast
      have hyes : isLeapYear (ofDays n).year = true := by
        simp only [isLeapYear, Bool.and_eq_true, Bool.or_eq_true, beq_iff_eq, bne_iff_ne]
        omega
      rw [if_pos hyes]
      omega
    · split <;> omega
  · have hlength : (monthLength (ofDays n).year (ofDays n).month : Int) =
        (153 * (m : Int) + 155) / 5 - (153 * (m : Int) + 2) / 5 := by
      rw [hmonth]
      interval_cases m <;> first | rfl | exact absurd rfl hfebruary
    omega

theorem isValid_ofDays {n : Int} (h0 : yearMin ≤ (ofDays n).year) (h1 : (ofDays n).year ≤ yearMax) :
    (ofDays n).isValid = true := by
  simp [isValid, h0, h1, month_ofDays, day_ofDays]

end ImageGate.Date
