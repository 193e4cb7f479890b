import ClusterLinks.Timestamp
import Mathlib.Order.Monotone.Basic

/-!
# Days and dates

Years are counted from March on and in eras of 400 years, which all have the same number of days.
Within an era the year of a day is found by a formula that is monotone, so it is right for all days
of a year if it is right for the first and the last one. It follows that every day has a date, and
that the date leads back to the day.
-/

namespace ClusterLinks.Timestamp

/-! ## Years of an era -/

/-- The days of an era before a day, without the leap days among them. -/
def commonDays (dayOfEra : Nat) : Nat :=
  dayOfEra - dayOfEra / 1460 + dayOfEra / 36524 - dayOfEra / 146096

/-- The year of an era that a day lies in. -/
def yearOfEra (dayOfEra : Nat) : Nat :=
  commonDays dayOfEra / 365

/-- The first day of a year of an era. -/
def startOfYear (year : Nat) : Nat :=
  365 * year + year / 4 - year / 100 + year / 400

theorem commonDays_monotone : Monotone commonDays := by
  apply monotone_nat_of_le_succ
  intro day
  unfold commonDays
  omega

theorem yearOfEra_monotone : Monotone yearOfEra :=
  fun _ _ earlier => Nat.div_le_div_right (commonDays_monotone earlier)

theorem yearOfEra_startOfYear : ∀ year < 400, yearOfEra (startOfYear year) = year := by
  decide +kernel

theorem yearOfEra_endOfYear : ∀ year < 400, yearOfEra (startOfYear (year + 1) - 1) = year := by
  decide +kernel

/-- The year of a day starts no later than on that day, and the next one starts later. -/
theorem yearOfEra_spec {dayOfEra : Nat} (inEra : dayOfEra < 146097) :
    yearOfEra dayOfEra < 400 ∧ startOfYear (yearOfEra dayOfEra) ≤ dayOfEra ∧
      dayOfEra < startOfYear (yearOfEra dayOfEra + 1) := by
  have lastYear : yearOfEra 146096 = 399 := yearOfEra_endOfYear 399 (by decide)
  have inRange : yearOfEra dayOfEra ≤ 399 :=
    lastYear ▸ yearOfEra_monotone (Nat.le_of_lt_succ inEra)
  refine ⟨Nat.lt_succ_of_le inRange, ?_, ?_⟩
  · by_contra tooLate
    cases year : yearOfEra dayOfEra with
    | zero => simp [year, startOfYear] at tooLate
    | succ before =>
        rw [year] at tooLate
        have lastBefore := yearOfEra_endOfYear before (by omega)
        have noLater : yearOfEra dayOfEra ≤ yearOfEra (startOfYear (before + 1) - 1) :=
          yearOfEra_monotone (by omega)
        omega
  · by_contra tooEarly
    have wholeEra : startOfYear (399 + 1) = 146097 := rfl
    by_cases last : yearOfEra dayOfEra = 399
    · rw [last] at tooEarly
      omega
    · have firstAfter := yearOfEra_startOfYear (yearOfEra dayOfEra + 1) (by omega)
      have noEarlier : yearOfEra (startOfYear (yearOfEra dayOfEra + 1)) ≤ yearOfEra dayOfEra :=
        yearOfEra_monotone (by omega)
      omega

/-- A year has 365 days, or 366 if it ends in the February of a leap year. -/
theorem startOfYear_succ : ∀ year < 400,
    startOfYear (year + 1) = startOfYear year + 365 ∨
      startOfYear (year + 1) = startOfYear year + 366 ∧ isLeapYear ((year : Int) + 1) = true := by
  decide +kernel

/-- Leap years are the same in all eras. -/
theorem isLeapYear_add (year era : Int) : isLeapYear (year + era * 400) = isLeapYear year := by
  have byFour : (year + era * 400) % 4 = year % 4 := by omega
  have byHundred : (year + era * 400) % 100 = year % 100 := by omega
  have byFourHundred : (year + era * 400) % 400 = year % 400 := by omega
  rw [isLeapYear, isLeapYear, byFour, byHundred, byFourHundred]

/-! ## Months of a year -/

/-- The month of a day, counted from March on. -/
def monthFromMarch (dayOfYear : Nat) : Nat :=
  (5 * dayOfYear + 2) / 153

/-- The month of the calendar. -/
def calendarMonth (dayOfYear : Nat) : Nat :=
  if monthFromMarch dayOfYear < 10 then monthFromMarch dayOfYear + 3
  else monthFromMarch dayOfYear - 9

/-- The day within its month. -/
def dayOfMonth (dayOfYear : Nat) : Nat :=
  dayOfYear - (153 * monthFromMarch dayOfYear + 2) / 5 + 1

theorem calendarMonth_spec : ∀ dayOfYear < 366,
    1 ≤ calendarMonth dayOfYear ∧ calendarMonth dayOfYear ≤ 12 ∧
      (calendarMonth dayOfYear + 9) % 12 = monthFromMarch dayOfYear := by
  decide +kernel

theorem dayOfMonth_spec : ∀ dayOfYear < 366,
    1 ≤ dayOfMonth dayOfYear ∧
      (153 * monthFromMarch dayOfYear + 2) / 5 + dayOfMonth dayOfYear = dayOfYear + 1 := by
  decide +kernel

/-- Only the last day of a year of 366 days needs a leap year. -/
theorem dayOfMonth_le : ∀ dayOfYear < 366,
    dayOfMonth dayOfYear ≤
      daysInMonth (if dayOfYear = 365 then 4 else 1) (calendarMonth dayOfYear) := by
  decide +kernel

theorem daysInMonth_congr {year year' : Int} (same : isLeapYear year = isLeapYear year')
    (month : Nat) : daysInMonth year month = daysInMonth year' month := by
  rw [daysInMonth, daysInMonth, same]

/-- No year is shorter than one that is no leap year. -/
theorem daysInMonth_le {year : Int} (common : isLeapYear year = false) (year' : Int)
    (month : Nat) : daysInMonth year month ≤ daysInMonth year' month := by
  unfold daysInMonth
  by_cases february : month = 2
  · rw [if_pos february, if_pos february, common]
    cases isLeapYear year' <;> decide
  · rw [if_neg february, if_neg february]

/-! ## Days of all eras -/

/-- The era of a day. -/
def eraOfDays (days : Int) : Int :=
  (days + 719468) / 146097

/-- The day within its era. -/
def dayOfEra (days : Int) : Nat :=
  ((days + 719468) % 146097).toNat

/-- The day within its year. -/
def dayOfYear (days : Int) : Nat :=
  dayOfEra days - startOfYear (yearOfEra (dayOfEra days))

/-- The year of a day, counted from March on. -/
def yearFromMarch (days : Int) : Int :=
  (yearOfEra (dayOfEra days) : Int) + eraOfDays days * 400

theorem dayOfEra_lt (days : Int) : dayOfEra days < 146097 := by
  unfold dayOfEra
  omega

/-- Every year has 366 days at most, and the last of them is in a leap year. -/
theorem dayOfYear_spec (days : Int) :
    dayOfYear days < 366 ∧ (dayOfYear days = 365 → isLeapYear (yearFromMarch days + 1) = true) := by
  obtain ⟨inEra, notBefore, notAfter⟩ := yearOfEra_spec (dayOfEra_lt days)
  have ends := startOfYear_succ _ inEra
  unfold dayOfYear
  constructor
  · omega
  · intro isLast
    have isLong : isLeapYear ((yearOfEra (dayOfEra days) : Int) + 1) = true := by
      rcases ends with short | ⟨-, leap⟩
      · omega
      · exact leap
    rw [yearFromMarch, Int.add_right_comm, isLeapYear_add, isLong]

/-- A day is counted from the start of its year. -/
theorem days_eq (days : Int) :
    days + 719468 =
      eraOfDays days * 146097 + startOfYear (yearOfEra (dayOfEra days)) + dayOfYear days := by
  obtain ⟨-, notBefore, -⟩ := yearOfEra_spec (dayOfEra_lt days)
  have split : (dayOfEra days : Int) = (days + 719468) % 146097 := by
    unfold dayOfEra
    omega
  unfold eraOfDays dayOfYear
  omega

/-- The date is read off the year and the day within it; January and February belong to the year
that began in the March before. -/
theorem dateOfDays_eq (days : Int) :
    dateOfDays days =
      (if calendarMonth (dayOfYear days) ≤ 2 then yearFromMarch days + 1 else yearFromMarch days,
        calendarMonth (dayOfYear days), dayOfMonth (dayOfYear days)) := by
  have sameEra : Int.fdiv (days + 719468) 146097 = eraOfDays days :=
    Int.fdiv_eq_ediv_of_nonneg _ (by decide)
  have sameDay : (days + 719468 - eraOfDays days * 146097).toNat = dayOfEra days := by
    unfold dayOfEra eraOfDays
    omega
  have sameYear : (dayOfEra days - dayOfEra days / 1460 + dayOfEra days / 36524 -
      dayOfEra days / 146096) / 365 = yearOfEra (dayOfEra days) := rfl
  have sameStart : 365 * yearOfEra (dayOfEra days) + yearOfEra (dayOfEra days) / 4 -
      yearOfEra (dayOfEra days) / 100 = startOfYear (yearOfEra (dayOfEra days)) := by
    have inEra := (yearOfEra_spec (dayOfEra_lt days)).1
    unfold startOfYear
    omega
  simp only [dateOfDays, sameEra, sameDay, sameYear, sameStart]
  rfl

/-- The date of a day is a date of the calendar. -/
theorem isDate_of_dateOfDays {days year : Int} {month day : Nat}
    (date : dateOfDays days = (year, month, day)) :
    1 ≤ month ∧ month ≤ 12 ∧ 1 ≤ day ∧ day ≤ daysInMonth year month := by
  obtain ⟨inYear, onlyLeap⟩ := dayOfYear_spec days
  obtain ⟨first, last, -⟩ := calendarMonth_spec _ inYear
  rw [dateOfDays_eq] at date
  cases date
  refine ⟨first, last, (dayOfMonth_spec _ inYear).1, (dayOfMonth_le _ inYear).trans ?_⟩
  by_cases isLast : dayOfYear days = 365
  · have february : calendarMonth 365 ≤ 2 := by decide
    rw [isLast, if_pos rfl, if_pos february]
    apply le_of_eq
    apply daysInMonth_congr
    rw [onlyLeap isLast]
    rfl
  · rw [if_neg isLast]
    exact daysInMonth_le (by decide) _ _

/-- The date of a day leads back to the day. -/
theorem daysFromDate_of_dateOfDays {days year : Int} {month day : Nat}
    (date : dateOfDays days = (year, month, day)) : daysFromDate year month day = days := by
  obtain ⟨inYear, -⟩ := dayOfYear_spec days
  obtain ⟨-, -, fromMarch⟩ := calendarMonth_spec _ inYear
  obtain ⟨firstDay, within⟩ := dayOfMonth_spec _ inYear
  have inEra := (yearOfEra_spec (dayOfEra_lt days)).1
  have whole := days_eq days
  have byFour : Int.fdiv (yearFromMarch days) 4 = yearFromMarch days / 4 :=
    Int.fdiv_eq_ediv_of_nonneg _ (by decide)
  have byHundred : Int.fdiv (yearFromMarch days) 100 = yearFromMarch days / 100 :=
    Int.fdiv_eq_ediv_of_nonneg _ (by decide)
  have byFourHundred : Int.fdiv (yearFromMarch days) 400 = yearFromMarch days / 400 :=
    Int.fdiv_eq_ediv_of_nonneg _ (by decide)
  have years : yearFromMarch days * 365 + yearFromMarch days / 4 - yearFromMarch days / 100 +
      yearFromMarch days / 400 =
        eraOfDays days * 146097 + startOfYear (yearOfEra (dayOfEra days)) := by
    unfold yearFromMarch startOfYear
    omega
  have sameYear : (if calendarMonth (dayOfYear days) ≤ 2 then
      (if calendarMonth (dayOfYear days) ≤ 2 then yearFromMarch days + 1
        else yearFromMarch days) - 1
      else if calendarMonth (dayOfYear days) ≤ 2 then yearFromMarch days + 1
        else yearFromMarch days) = yearFromMarch days := by
    split <;> omega
  rw [dateOfDays_eq] at date
  cases date
  simp only [daysFromDate, sameYear, fromMarch, byFour, byHundred, byFourHundred, years]
  omega

end ClusterLinks.Timestamp
