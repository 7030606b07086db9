import RecordSync.Calendar.Reading

/-! Dates and their names: each date has a real name, and the name leads back to
the date. Years are counted from March and in cycles of four hundred. -/

namespace RecordSync.Calendar

/-- A day of a cycle by its century, its four years, its year and its day. -/
structure CycleDay (day : Int) where
  century : Int
  fourYears : Int
  year : Int
  dayOfYear : Int
  century_bounds : 0 ≤ century ∧ century ≤ 3
  fourYears_bounds : 0 ≤ fourYears ∧ fourYears ≤ 24
  year_bounds : 0 ≤ year ∧ year ≤ 3
  dayOfYear_bounds : 0 ≤ dayOfYear ∧ dayOfYear ≤ 365
  day_eq : day = 36524 * century + 1461 * fourYears + 365 * year + dayOfYear
  leap : dayOfYear = 365 → year = 3 ∧ (fourYears = 24 → century = 3)

/-- Every day of a cycle is in one of its years. -/
theorem exists_cycleDay {day : Int} (low : 0 ≤ day) (high : day < 146097) :
    Nonempty (CycleDay day) := by
  obtain ⟨century, century_eq⟩ : ∃ century, century = min (day / 36524) 3 := ⟨_, rfl⟩
  obtain ⟨fourYears, fourYears_eq⟩ : ∃ fourYears, fourYears = (day - 36524 * century) / 1461 :=
    ⟨_, rfl⟩
  obtain ⟨year, year_eq⟩ : ∃ year,
    year = min ((day - 36524 * century - 1461 * fourYears) / 365) 3 := ⟨_, rfl⟩
  exact ⟨⟨century, fourYears, year, day - 36524 * century - 1461 * fourYears - 365 * year,
    by omega, by omega, by omega, by omega, by omega, by omega⟩⟩

/-- The year of a day of a cycle, as `Date.civil` finds it. -/
theorem CycleDay.yearOfCycle_eq {day : Int} (place : CycleDay day) :
    (day - day / 1460 + day / 36524 - day / 146096) / 365 =
      100 * place.century + 4 * place.fourYears + place.year := by
  obtain ⟨century, fourYears, year, dayOfYear, _, _, _, _, whole, leap⟩ := place
  simp only
  have passed : day / 36524 - day / 146096 = century := by
    by_cases last : dayOfYear = 365 ∧ fourYears = 24
    · omega
    · have inCentury : day / 36524 = century := by omega
      have notLast : day / 146096 = 0 := by omega
      omega
  by_cases early : 24 * century + fourYears + 365 * year + dayOfYear < 1460
  · have leaps : day / 1460 = 25 * century + fourYears := by omega
    omega
  · have leaps : day / 1460 = 25 * century + fourYears + 1 := by omega
    omega

theorem CycleDay.quotients {day : Int} (place : CycleDay day) :
    (100 * place.century + 4 * place.fourYears + place.year) / 4 =
        25 * place.century + place.fourYears ∧
      (100 * place.century + 4 * place.fourYears + place.year) / 100 = place.century := by
  have := place.fourYears_bounds
  have := place.year_bounds
  omega

theorem CycleDay.bounds {day : Int} (place : CycleDay day) :
    let yearOfCycle := 100 * place.century + 4 * place.fourYears + place.year
    (0 ≤ yearOfCycle ∧ yearOfCycle ≤ 399) ∧ (place.dayOfYear = 365 →
      yearOfCycle % 4 = 3 ∧ (yearOfCycle % 100 = 99 → yearOfCycle = 399)) := by
  obtain ⟨century, fourYears, year, dayOfYear, _, _, _, _, _, leap⟩ := place
  simp only
  omega

/-- Where a date lies: its cycle, the year of the cycle and the day of the year. -/
structure DatePlace (date : Date) where
  cycle : Int
  yearOfCycle : Int
  dayOfYear : Int
  yearOfCycle_bounds : 0 ≤ yearOfCycle ∧ yearOfCycle ≤ 399
  dayOfYear_bounds : 0 ≤ dayOfYear ∧ dayOfYear ≤ 365
  leap : dayOfYear = 365 → yearOfCycle % 4 = 3 ∧ (yearOfCycle % 100 = 99 → yearOfCycle = 399)
  day_eq : date.day + marchEpoch = cycle * 146097 +
    (yearOfCycle * 365 + yearOfCycle / 4 - yearOfCycle / 100 + dayOfYear)
  civil_eq : date.civil =
    let monthFromMarch := (5 * dayOfYear + 2) / 153
    let month := if monthFromMarch < 10 then monthFromMarch + 3 else monthFromMarch - 9
    ⟨yearOfCycle + cycle * 400 + (if month ≤ 2 then 1 else 0), month.toNat,
      (dayOfYear - (153 * monthFromMarch + 2) / 5 + 1).toNat⟩

theorem exists_datePlace (date : Date) : Nonempty (DatePlace date) := by
  obtain ⟨place⟩ := @exists_cycleDay ((date.day + marchEpoch) % 146097) (by omega) (by omega)
  have found := place.yearOfCycle_eq
  have bounds := place.bounds
  obtain ⟨fours, hundreds⟩ := place.quotients
  obtain ⟨century, fourYears, year, dayOfYear, centuryBounds, fourYearsBounds, yearBounds,
    dayOfYearBounds, whole, leap⟩ := place
  simp only at found bounds fours hundreds
  refine ⟨⟨(date.day + marchEpoch) / 146097, 100 * century + 4 * fourYears + year, dayOfYear,
    bounds.1, dayOfYearBounds, bounds.2, ?_, ?_⟩⟩
  · rw [fours, hundreds]
    clear found
    omega
  · have rest : (date.day + marchEpoch) % 146097 - (365 * (100 * century + 4 * fourYears + year) +
        (25 * century + fourYears) - century) = dayOfYear := by
      clear found
      omega
    simp only [Date.civil, found, fours, hundreds, rest]

/-- The month of a day of a year, counted from March, with the day of the month. -/
theorem DatePlace.month_bounds {date : Date} (place : DatePlace date) :
    let month := (5 * place.dayOfYear + 2) / 153
    0 ≤ month ∧ month ≤ 11 ∧ (153 * month + 2) / 5 ≤ place.dayOfYear ∧
      place.dayOfYear < (153 * (month + 1) + 2) / 5 := by
  have := place.dayOfYear_bounds
  simp only
  omega

/-- The name of a date leads back to it. -/
theorem Date.ofCivil_civil (date : Date) : Date.ofCivil date.civil = date := by
  obtain ⟨place⟩ := exists_datePlace date
  obtain ⟨monthLow, monthHigh, dayLow, _⟩ := place.month_bounds
  have yearBounds := place.yearOfCycle_bounds
  have whole := place.day_eq
  rw [place.civil_eq]
  generalize (5 * place.dayOfYear + 2) / 153 = month at *
  generalize first_eq : (153 * month + 2) / 5 = first at *
  obtain ⟨day⟩ := date
  simp only [Date.ofCivil, Date.mk.injEq] at whole ⊢
  by_cases early : month < 10
  · have late : ¬ (month + 3).toNat ≤ 2 := by omega
    have spring : ¬ month + 3 ≤ 2 := by omega
    have months : (((month + 3).toNat : Nat) : Int) - 3 = month := by omega
    simp only [early, ↓reduceIte, late, spring, months, first_eq]
    omega
  · have late : (month - 9).toNat ≤ 2 := by omega
    have spring : month - 9 ≤ 2 := by omega
    have months : (((month - 9).toNat : Nat) : Int) + 9 = month := by omega
    simp only [early, ↓reduceIte, late, spring, months, first_eq]
    omega

private theorem daysInMonth_march {year month day : Int} (low : 0 ≤ month) (high : month ≤ 11)
    (dayHigh : day < (153 * (month + 1) + 2) / 5) (inYear : day ≤ 365)
    (leap : day = 365 → year % 4 = 3 ∧ (year % 100 = 99 → year % 400 = 399)) :
    day - (153 * month + 2) / 5 + 1 ≤
      daysInMonth (if month < 10 then year else year + 1)
        (if month < 10 then month + 3 else month - 9).toNat := by
  by_cases february : month = 11
  · subst february
    simp only [daysInMonth, show ¬ (11 : Int) < 10 by omega, ↓reduceIte,
      show ((11 : Int) - 9).toNat = 2 from rfl]
    split
    · omega
    · rename_i common
      have short : day ≠ 365 := by
        intro last
        obtain ⟨four, hundred⟩ := leap last
        simp only [isLeapYear, Bool.and_eq_true, beq_iff_eq, Bool.or_eq_true, bne_iff_ne, ne_eq,
          not_and, not_or] at common
        omega
      omega
  · have whole : month = 0 ∨ month = 1 ∨ month = 2 ∨ month = 3 ∨ month = 4 ∨ month = 5 ∨
        month = 6 ∨ month = 7 ∨ month = 8 ∨ month = 9 ∨ month = 10 := by omega
    rcases whole with rfl | rfl | rfl | rfl | rfl | rfl | rfl | rfl | rfl | rfl | rfl <;>
    · simp [daysInMonth]
      omega

/-- The name of a date is real. -/
theorem Date.civil_isReal (date : Date) : date.civil.isReal = true := by
  obtain ⟨place⟩ := exists_datePlace date
  obtain ⟨monthLow, monthHigh, dayLow, dayHigh⟩ := place.month_bounds
  have leap : place.dayOfYear = 365 → (place.yearOfCycle + place.cycle * 400) % 4 = 3 ∧
      ((place.yearOfCycle + place.cycle * 400) % 100 = 99 →
        (place.yearOfCycle + place.cycle * 400) % 400 = 399) := by
    have := place.leap
    omega
  have length := daysInMonth_march monthLow monthHigh dayHigh place.dayOfYear_bounds.2 leap
  rw [place.civil_eq]
  generalize (5 * place.dayOfYear + 2) / 153 = month at *
  simp only [Civil.isReal, Bool.and_eq_true, decide_eq_true_eq]
  by_cases early : month < 10
  · have spring : ¬ month + 3 ≤ 2 := by omega
    simp only [early, spring, ↓reduceIte, Int.add_zero] at length ⊢
    omega
  · have winter : month - 9 ≤ 2 := by omega
    simp only [early, winter, ↓reduceIte] at length ⊢
    omega

def Date.Kept (date : Date) : Prop := Date.first ≤ date ∧ date ≤ Date.last

theorem Date.kept_iff {date : Date} :
    date.Kept ↔ -96465292 ≤ date.day ∧ date.day ≤ 95026236 := Iff.rfl

/-- A kept date has a name whose year is kept. -/
theorem Date.Kept.year_bounds {date : Date} (kept : date.Kept) :
    firstYear ≤ date.civil.year ∧ date.civil.year ≤ lastYear := by
  obtain ⟨low, high⟩ := kept_iff.mp kept
  obtain ⟨place⟩ := exists_datePlace date
  obtain ⟨monthLow, monthHigh, dayLow, dayHigh⟩ := place.month_bounds
  have yearBounds := place.yearOfCycle_bounds
  have dayBounds := place.dayOfYear_bounds
  have whole := place.day_eq
  rw [place.civil_eq]
  simp only [firstYear, lastYear, marchEpoch] at whole ⊢
  generalize (5 * place.dayOfYear + 2) / 153 = month at *
  by_cases early : month < 10
  · have spring : ¬ month + 3 ≤ 2 := by omega
    have ended : place.dayOfYear ≤ 305 := by omega
    simp only [early, spring, ↓reduceIte, Int.add_zero]
    clear monthLow monthHigh dayLow dayHigh
    omega
  · have winter : month - 9 ≤ 2 := by omega
    have begun : 306 ≤ place.dayOfYear := by omega
    simp only [early, winter, ↓reduceIte]
    clear monthLow monthHigh dayLow dayHigh
    -- The last year ends inside a year that is counted from March.
    by_cases last : place.yearOfCycle + place.cycle * 400 = 262142
    · have cycle : place.cycle = 655 := by omega
      have year : place.yearOfCycle = 142 := by omega
      rw [cycle, year] at whole
      omega
    · omega

theorem daysInMonth_le (year : Int) (month : Nat) : daysInMonth year month ≤ 31 := by
  unfold daysInMonth
  split
  · split <;> omega
  · split <;> omega

/-- A real name whose year is kept stands for a kept date. -/
theorem Civil.kept_of_isReal {civil : Civil} (real : civil.isReal = true)
    (low : firstYear ≤ civil.year) (high : civil.year ≤ lastYear) : (Date.ofCivil civil).Kept := by
  obtain ⟨year, month, day⟩ := civil
  have days := daysInMonth_le year month
  simp only [isReal, Bool.and_eq_true, decide_eq_true_eq] at real
  obtain ⟨⟨⟨monthLow, monthHigh⟩, dayLow⟩, dayHigh⟩ := real
  rw [Date.kept_iff]
  simp only [firstYear, lastYear, Date.ofCivil, marchEpoch] at low high ⊢
  split
  · have late : (153 * ((month : Int) + 9) + 2) / 5 ≤ 337 := by omega
    have soon : 306 ≤ (153 * ((month : Int) + 9) + 2) / 5 := by omega
    generalize (153 * ((month : Int) + 9) + 2) / 5 = before at *
    by_cases first : year = -262143
    · subst first
      omega
    · omega
  · have late : (153 * ((month : Int) - 3) + 2) / 5 ≤ 275 := by omega
    have soon : 0 ≤ (153 * ((month : Int) - 3) + 2) / 5 := by omega
    generalize (153 * ((month : Int) - 3) + 2) / 5 = before at *
    by_cases last : year = 262142
    · subst last
      omega
    · omega

/-- A real name with a year of four digits stands for a date well inside the calendar. -/
theorem Civil.day_bounds_of_isReal {civil : Civil} (real : civil.isReal = true)
    (low : 0 ≤ civil.year) (high : civil.year ≤ 9999) :
    -800000 ≤ (Date.ofCivil civil).day ∧ (Date.ofCivil civil).day ≤ 3000000 := by
  obtain ⟨year, month, day⟩ := civil
  have days := daysInMonth_le year month
  simp only [isReal, Bool.and_eq_true, decide_eq_true_eq] at real
  obtain ⟨⟨⟨monthLow, monthHigh⟩, dayLow⟩, dayHigh⟩ := real
  simp only [Date.ofCivil, marchEpoch] at low high ⊢
  split <;> omega

end RecordSync.Calendar
