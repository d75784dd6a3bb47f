/-!
# The calendar

Days are counted from the first of January 1970 in the proleptic Gregorian
calendar.  A cycle of 400 years has 146097 days; a date is found by taking whole
cycles, centuries, groups of four years and years from a count of days.
-/

namespace Credential.Time

/-- A date of the calendar. -/
structure Date where
  year : Int
  /-- 1 to 12. -/
  month : Nat
  /-- 1 to the length of the month. -/
  day : Nat
  deriving Repr, DecidableEq

/-- Whether a year has 366 days. -/
def isLeapYear (year : Int) : Bool :=
  year % 4 = 0 && (year % 100 ≠ 0 || year % 400 = 0)

/-- The lengths of the months of a year. -/
def monthLengths (year : Int) : List Nat :=
  [31, if isLeapYear year then 29 else 28, 31, 30, 31, 30, 31, 31, 30, 31, 30, 31]

/-- The length of a month of a year, and zero if there is no such month. -/
def monthLength (year : Int) (month : Nat) : Nat :=
  if month = 0 then 0 else (monthLengths year).getD (month - 1) 0

/-- Number of days from the first of January of year 1 to that of another year. -/
def daysBeforeYear (year : Int) : Int :=
  let past := year - 1
  365 * past + past / 4 - past / 100 + past / 400

/-- Number of days from the first of January of year 1 to that of 1970. -/
def epochDays : Int := 719162

namespace Date

/-- Whether a date exists. -/
def Valid (date : Date) : Prop :=
  1 ≤ date.month ∧ date.month ≤ 12 ∧ 1 ≤ date.day ∧ date.day ≤ monthLength date.year date.month

instance (date : Date) : Decidable date.Valid :=
  inferInstanceAs (Decidable (_ ∧ _))

/-- The count of a date. -/
def toDays (date : Date) : Int :=
  let monthsBefore := (monthLengths date.year).take (date.month - 1)
  daysBeforeYear date.year + (monthsBefore.foldr (· + ·) 0 : Nat) + (date.day : Int) - 1 - epochDays

/-- The month and day of a day of the year, by the lengths of the months. -/
def ofYearDay : List Nat → Nat → Nat → Nat × Nat
  | [], month, day => (month, day + 1)
  | length :: lengths, month, day =>
      if day < length then (month, day + 1) else ofYearDay lengths (month + 1) (day - length)

/-- The date of a count. -/
def ofDays (days : Int) : Date :=
  let count := days + epochDays
  let cycle := count / 146097
  let inCycle := (count % 146097).toNat
  let century := min (inCycle / 36524) 3
  let inCentury := inCycle - 36524 * century
  let group := inCentury / 1461
  let inGroup := inCentury % 1461
  let single := min (inGroup / 365) 3
  let year : Int := 400 * cycle + 100 * century + 4 * group + single + 1
  let (month, day) := ofYearDay (monthLengths year) 1 (inGroup - 365 * single)
  ⟨year, month, day⟩

end Date

end Credential.Time
