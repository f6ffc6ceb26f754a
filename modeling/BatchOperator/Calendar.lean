/-!
# The proleptic Gregorian calendar

Days are counted from 1970-01-01. A year is taken to start in March, so that the leap day is its
last day and the lengths of the months before it never change; a cycle of 400 years has 146097 days.
`dayNumber_date` says that the date of a day leads back to the day.
-/

set_option autoImplicit false

namespace BatchOperator

/-- A date: year, month from 1 to 12, day of the month from 1. -/
structure Date where
  year : Int
  month : Int
  day : Int
  deriving DecidableEq, Repr

namespace Date

/-- Whether a year has a leap day. -/
def isLeap (year : Int) : Bool :=
  year % 4 = 0 ∧ (year % 100 ≠ 0 ∨ year % 400 = 0)

/-- The number of days of a month. -/
def monthLength (year month : Int) : Int :=
  if month = 2 then (if isLeap year then 29 else 28)
  else if month = 4 ∨ month = 6 ∨ month = 9 ∨ month = 11 then 30
  else 31

/-- Whether the month and the day exist. -/
def isValid (d : Date) : Bool :=
  1 ≤ d.month ∧ d.month ≤ 12 ∧ 1 ≤ d.day ∧ d.day ≤ monthLength d.year d.month

/-- The days of a cycle before the year of the given number in it. -/
def yearStart (year : Int) : Int := 365 * year + year / 4 - year / 100

/-- The year of a cycle in which a day of the cycle lies. A cycle has four centuries, the last one
a day longer; a century has spans of four years, and a span has four years, the last one a day
longer. -/
def yearOf (dayOfCycle : Int) : Int :=
  let century := min (dayOfCycle / 36524) 3
  let dayOfCentury := dayOfCycle - century * 36524
  let span := dayOfCentury / 1461
  let year := min ((dayOfCentury - span * 1461) / 365) 3
  century * 100 + span * 4 + year

/-- The days of a year before the month of the given number in it, March being 0. -/
def monthStart (month : Int) : Int := (153 * month + 2) / 5

/-- The month, March being 0, in which a day of the year lies. -/
def monthOf (dayOfYear : Int) : Int := (5 * dayOfYear + 2) / 153

/-- The days between 1970-01-01 and a date. -/
def dayNumber (d : Date) : Int :=
  let year := if d.month ≤ 2 then d.year - 1 else d.year
  let month := if d.month ≤ 2 then d.month + 9 else d.month - 3
  (year / 400) * 146097 + yearStart (year % 400) + monthStart month + (d.day - 1) - 719468

/-- The date of a day of a 400-year cycle that starts with the March of year `start`. -/
def ofDayOfCycle (start dayOfCycle : Int) : Date :=
  let year := yearOf dayOfCycle
  let dayOfYear := dayOfCycle - yearStart year
  let month := monthOf dayOfYear
  if month < 10 then ⟨start + year, month + 3, dayOfYear - monthStart month + 1⟩
  else ⟨start + year + 1, month - 9, dayOfYear - monthStart month + 1⟩

/-- The date that lies a number of days after 1970-01-01. -/
def ofDayNumber (days : Int) : Date :=
  ofDayOfCycle (400 * ((days + 719468) / 146097)) ((days + 719468) % 146097)

/-- The year in which a day of a cycle lies starts at most 365 days before it. -/
theorem yearOf_bounds {day : Int} (h0 : 0 ≤ day) (h1 : day < 146097) :
    0 ≤ yearOf day ∧ yearOf day < 400 ∧ 0 ≤ day - yearStart (yearOf day) ∧
      day - yearStart (yearOf day) ≤ 365 := by
  simp only [yearOf, yearStart]
  -- Each division leaves a remainder that is bounded by the length of the unit, whose last copy
  -- may be a day longer.
  generalize hcentury : min (day / 36524) 3 = century
  have hc : 0 ≤ century ∧ century ≤ 3 ∧ century * 36524 ≤ day ∧ day ≤ century * 36524 + 36524 := by
    omega
  generalize hrest : day - century * 36524 = rest
  generalize hspan : rest / 1461 = span
  have hs : 0 ≤ span ∧ span ≤ 24 ∧ span * 1461 ≤ rest ∧ rest ≤ span * 1461 + 1460 := by omega
  generalize hleft : rest - span * 1461 = left
  generalize hyear : min (left / 365) 3 = year
  have hy : 0 ≤ year ∧ year ≤ 3 ∧ year * 365 ≤ left ∧ left ≤ year * 365 + 365 := by omega
  -- Leap days before the year: one per span, but none at the ends of centuries.
  have h4 : (century * 100 + span * 4 + year) / 4 = century * 25 + span := by omega
  have h100 : (century * 100 + span * 4 + year) / 100 = century := by omega
  rw [h4, h100]
  omega

/-- A day of the year lies in one of twelve months. -/
theorem monthOf_bounds {day : Int} (h0 : 0 ≤ day) (h1 : day ≤ 365) :
    0 ≤ monthOf day ∧ monthOf day ≤ 11 := by
  simp only [monthOf]
  omega

/-- The date of a day leads back to the day. -/
theorem dayNumber_ofDayNumber (days : Int) : (ofDayNumber days).dayNumber = days := by
  unfold ofDayNumber
  have hdays : days + 719468 = (days + 719468) / 146097 * 146097 + (days + 719468) % 146097 := by
    omega
  have h0 : 0 ≤ (days + 719468) % 146097 := by omega
  have h1 : (days + 719468) % 146097 < 146097 := by omega
  -- The cycle and the day of the cycle can be any from here on.
  generalize (days + 719468) / 146097 = cycle at *
  generalize (days + 719468) % 146097 = day at *
  obtain ⟨hy0, hy1, hd0, hd1⟩ := yearOf_bounds h0 h1
  obtain ⟨hm0, hm1⟩ := monthOf_bounds hd0 hd1
  simp only [ofDayOfCycle]
  generalize yearOf day = year at *
  generalize hstart : yearStart year = start at *
  generalize monthOf (day - start) = month at *
  have hcycle : (400 * cycle + year) / 400 = cycle := by omega
  have hyear : (400 * cycle + year) % 400 = year := by omega
  split
  · -- March to December, which lie in the year in which the cycle year starts.
    have h3 : ¬ month + 3 ≤ 2 := by omega
    have h4 : month + 3 - 3 = month := by omega
    simp only [dayNumber, h3, if_false, hcycle, hyear, h4, hstart]
    omega
  · -- January and February, which lie in the year after.
    have h3 : month - 9 ≤ 2 := by omega
    have h4 : month - 9 + 9 = month := by omega
    have h5 : 400 * cycle + year + 1 - 1 = 400 * cycle + year := by omega
    simp only [dayNumber, h3, if_true, hcycle, hyear, h4, h5, hstart]
    omega

end Date

end BatchOperator
