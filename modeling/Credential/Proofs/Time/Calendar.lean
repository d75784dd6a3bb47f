import Credential.Time.Calendar
import Mathlib

/-!
# Days and dates

Every count of days has a date that exists, the count of that date is the count
again, and later counts have later dates.
-/

namespace Credential.Time

/-! ## Lengths of years -/

/-- Number of days of a year. -/
def yearLength (year : Int) : Nat :=
  if isLeapYear year then 366 else 365

/-- The months of a year make up its length. -/
theorem sum_monthLengths (year : Int) : (monthLengths year).sum = yearLength year := by
  unfold monthLengths yearLength
  split <;> rfl

/-- A year has twelve months. -/
@[simp] theorem length_monthLengths (year : Int) : (monthLengths year).length = 12 :=
  rfl

/-- No month has more than 31 days. -/
theorem monthLength_le (year : Int) (month : Nat) : monthLength year month ≤ 31 := by
  have bound : ∀ length ∈ monthLengths year, length ≤ 31 := by
    unfold monthLengths
    split <;> decide
  rw [monthLength]
  split
  case isTrue none => exact Nat.zero_le 31
  case isFalse some =>
    rw [List.getD_eq_getElem?_getD]
    cases found : (monthLengths year)[month - 1]? with
    | none => exact Nat.zero_le 31
    | some length => exact bound length (List.mem_of_getElem? found)

/-- A year is a leap year by its remainders. -/
theorem isLeapYear_iff (year : Int) :
    isLeapYear year = true ↔ year % 4 = 0 ∧ (year % 100 ≠ 0 ∨ year % 400 = 0) := by
  simp [isLeapYear]

/-- A year begins when the one before it has passed. -/
theorem daysBeforeYear_succ (year : Int) :
    daysBeforeYear (year + 1) = daysBeforeYear year + yearLength year := by
  unfold daysBeforeYear yearLength
  split
  case isTrue leap =>
    rw [isLeapYear_iff] at leap
    dsimp only
    omega
  case isFalse common =>
    rw [isLeapYear_iff] at common
    dsimp only
    omega

/-- Years begin in their order. -/
theorem daysBeforeYear_le_of_le
    {first second : Int}
    (ordered : first ≤ second) :
    daysBeforeYear first ≤ daysBeforeYear second := by
  unfold daysBeforeYear
  dsimp only
  omega

/-- The days before a year that lies in a cycle, a century of it and a group of that. -/
theorem daysBeforeYear_of_parts
    {cycle century group single : Int}
    (centuryBound : 0 ≤ century ∧ century ≤ 3)
    (groupBound : 0 ≤ group ∧ group ≤ 24)
    (singleBound : 0 ≤ single ∧ single ≤ 3) :
    daysBeforeYear (400 * cycle + 100 * century + 4 * group + single + 1) =
      146097 * cycle + 36524 * century + 1461 * group + 365 * single := by
  have past : 400 * cycle + 100 * century + 4 * group + single + 1 - 1 =
      400 * cycle + 100 * century + 4 * group + single := by omega
  have fourths : (400 * cycle + 100 * century + 4 * group + single) / 4 =
      100 * cycle + 25 * century + group := by omega
  have hundredths : (400 * cycle + 100 * century + 4 * group + single) / 100 =
      4 * cycle + century := by omega
  have cycles : (400 * cycle + 100 * century + 4 * group + single) / 400 = cycle := by omega
  rw [daysBeforeYear, past, fourths, hundredths, cycles]
  omega

namespace Date

/-! ## Days of a year -/

/--
The month and day of a day of the year.

The month is one of the list, the day is one of the month, and the months before
it and the days before it in its month make up the day of the year.
-/
theorem ofYearDay_spec
    {lengths : List Nat}
    (month : Nat)
    {day : Nat}
    (inside : day < lengths.sum) :
    ∃ place before,
      ofYearDay lengths month day = (month + place, before + 1) ∧
        place < lengths.length ∧
        before < lengths.getD place 0 ∧
        (lengths.take place).sum + before = day := by
  induction lengths generalizing month day with
  | nil => exact (Nat.not_lt_zero day inside).elim
  | cons length lengths inductionHypothesis =>
      by_cases here : day < length
      · exact ⟨0, day, by simp [ofYearDay, here], by simp, by simpa using here, by simp⟩
      · have later : day - length < lengths.sum := by
          rw [List.sum_cons] at inside
          omega
        obtain ⟨place, before, found, inList, inMonth, total⟩ :=
          inductionHypothesis (month + 1) later
        refine ⟨place + 1, before, ?_, by simpa using inList, by simpa using inMonth, ?_⟩
        · rw [ofYearDay, if_neg here, found]
          simp [Nat.add_comm, Nat.add_left_comm]
        · rw [List.take_succ_cons, List.sum_cons]
          omega

/-- The year and the day of the year of a count of days. -/
theorem exists_year_of_days (days : Int) :
    ∃ (year : Int) (yearDay : Nat),
      ofDays days =
          ⟨year, (ofYearDay (monthLengths year) 1 yearDay).1,
            (ofYearDay (monthLengths year) 1 yearDay).2⟩ ∧
        yearDay < yearLength year ∧
        daysBeforeYear year + yearDay - epochDays = days := by
  refine ⟨_, _, rfl, ?_, ?_⟩
  · unfold yearLength
    split
    case isTrue leap => omega
    case isFalse common =>
      -- A day 366 only comes last in a group of four, which ends with a leap year.
      rw [isLeapYear_iff] at common
      omega
  · rw [daysBeforeYear_of_parts (by omega) (by omega) (by omega)]
    omega

/-- The count of a date by the sum of the months before its own. -/
theorem toDays_eq (date : Date) :
    date.toDays =
      daysBeforeYear date.year + (((monthLengths date.year).take (date.month - 1)).sum : Nat) +
        (date.day : Int) - 1 - epochDays :=
  rfl

/-- The date of a count exists, and its count is that count. -/
theorem ofDays_spec (days : Int) : (ofDays days).Valid ∧ (ofDays days).toDays = days := by
  obtain ⟨year, yearDay, date, inYear, count⟩ := exists_year_of_days days
  obtain ⟨place, before, found, inList, inMonth, total⟩ :=
    ofYearDay_spec 1 (Nat.lt_of_lt_of_eq inYear (sum_monthLengths year).symm)
  rw [date, found]
  rw [length_monthLengths] at inList
  refine ⟨⟨?_, ?_, ?_, ?_⟩, ?_⟩
  · exact Nat.le_add_right 1 place
  · change 1 + place ≤ 12
    omega
  · exact Nat.le_add_left 1 before
  · have positive : ¬ 1 + place = 0 := by omega
    rw [monthLength, if_neg positive, Nat.add_sub_cancel_left]
    exact inMonth
  · rw [toDays_eq, Nat.add_sub_cancel_left]
    dsimp only
    omega

/-- The date of a count of days exists. -/
theorem valid_ofDays (days : Int) : (ofDays days).Valid :=
  (ofDays_spec days).1

/-- Counting the days of the date of a count gives the count. -/
@[simp] theorem toDays_ofDays (days : Int) : (ofDays days).toDays = days :=
  (ofDays_spec days).2

/-! ## Order -/

/-- Whether one date is before another: by the year, then the month, then the day. -/
def Before (first second : Date) : Prop :=
  first.year < second.year ∨
    first.year = second.year ∧
      (first.month < second.month ∨ first.month = second.month ∧ first.day < second.day)

/-- Taking one more length adds it to the sum. -/
theorem sum_take_succ
    {lengths : List Nat}
    {place : Nat}
    (inList : place < lengths.length) :
    (lengths.take (place + 1)).sum = (lengths.take place).sum + lengths.getD place 0 := by
  rw [List.take_add_one, List.sum_append, List.getD_eq_getElem?_getD,
    List.getElem?_eq_getElem inList]
  simp

/-- More lengths have a greater sum. -/
theorem sum_take_le_sum_take
    {first second : Nat}
    (ordered : first ≤ second)
    (lengths : List Nat) :
    (lengths.take first).sum ≤ (lengths.take second).sum := by
  have split : lengths.take second = lengths.take first ++ (lengths.take second).drop first := by
    conv => lhs; rw [← List.take_append_drop first (lengths.take second)]
    rw [List.take_take, Nat.min_eq_left ordered]
  rw [split, List.sum_append]
  exact Nat.le_add_right _ _

/-- A month ends before a later place of its year. -/
theorem sum_take_add_day_le
    {date : Date}
    {place : Nat}
    (valid : date.Valid)
    (later : date.month ≤ place) :
    ((monthLengths date.year).take (date.month - 1)).sum + date.day ≤
      ((monthLengths date.year).take place).sum := by
  obtain ⟨monthPositive, monthBound, dayPositive, dayBound⟩ := valid
  rw [monthLength, if_neg (by omega)] at dayBound
  have inList : date.month - 1 < (monthLengths date.year).length := by
    rw [length_monthLengths]
    omega
  have next : date.month - 1 + 1 ≤ place := by omega
  calc
    ((monthLengths date.year).take (date.month - 1)).sum + date.day
        ≤ ((monthLengths date.year).take (date.month - 1)).sum +
            (monthLengths date.year).getD (date.month - 1) 0 := Nat.add_le_add_left dayBound _
    _ = ((monthLengths date.year).take (date.month - 1 + 1)).sum := (sum_take_succ inList).symm
    _ ≤ ((monthLengths date.year).take place).sum := sum_take_le_sum_take next _

/-- A date that exists comes before the year after its own begins. -/
theorem toDays_lt_daysBeforeYear_succ
    {date : Date}
    (valid : date.Valid) :
    date.toDays < daysBeforeYear (date.year + 1) - epochDays := by
  have inYear := sum_take_add_day_le valid valid.2.1
  have whole : (monthLengths date.year).take 12 = monthLengths date.year := rfl
  rw [whole, sum_monthLengths] at inYear
  rw [toDays_eq, daysBeforeYear_succ]
  omega

/-- A date that exists does not come before its year begins. -/
theorem daysBeforeYear_le_toDays
    {date : Date}
    (valid : date.Valid) :
    daysBeforeYear date.year - epochDays ≤ date.toDays := by
  have dayPositive : 1 ≤ date.day := valid.2.2.1
  rw [toDays_eq]
  omega

/-- Of two dates that exist, the one with the smaller count is before the other. -/
theorem before_of_toDays_lt
    {first second : Date}
    (firstValid : first.Valid)
    (secondValid : second.Valid)
    (less : first.toDays < second.toDays) :
    first.Before second := by
  rcases Int.lt_trichotomy first.year second.year with earlier | sameYear | later
  · exact Or.inl earlier
  · refine Or.inr ⟨sameYear, ?_⟩
    rcases Nat.lt_trichotomy first.month second.month with earlier | sameMonth | later
    · exact Or.inl earlier
    · refine Or.inr ⟨sameMonth, ?_⟩
      rw [toDays_eq, toDays_eq, sameYear, sameMonth] at less
      omega
    · have earlierMonth : second.month ≤ first.month - 1 := by omega
      have passed := sum_take_add_day_le secondValid earlierMonth
      have dayPositive : 1 ≤ first.day := firstValid.2.2.1
      rw [toDays_eq, toDays_eq, sameYear] at less
      omega
  · have secondEnd := toDays_lt_daysBeforeYear_succ secondValid
    have firstBegin := daysBeforeYear_le_toDays firstValid
    have ordered : daysBeforeYear (second.year + 1) ≤ daysBeforeYear first.year :=
      daysBeforeYear_le_of_le later
    omega

/-- A later count of days has a later date. -/
theorem before_ofDays
    {first second : Int}
    (less : first < second) :
    (ofDays first).Before (ofDays second) := by
  apply before_of_toDays_lt (valid_ofDays first) (valid_ofDays second)
  rw [toDays_ofDays, toDays_ofDays]
  exact less

end Date

end Credential.Time
