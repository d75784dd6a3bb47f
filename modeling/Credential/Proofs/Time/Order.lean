import Credential.Proofs.Time.Timestamp
import Mathlib

/-!
# The order of written instants

Within the years that have four digits, instants that are written with an offset
stand in the order of the alphabet when they stand in the order of time.  Beyond
those years a sign comes first and the order of the alphabet is another one.
-/

namespace Credential.Time

open Credential.Text

namespace Instant

/-- Whether the year of an instant is written with four digits and no sign. -/
def FourDigitYear (instant : Instant) : Prop :=
  0 ≤ instant.date.year ∧ instant.date.year ≤ 9999

instance (instant : Instant) : Decidable instant.FourDigitYear :=
  inferInstanceAs (Decidable (_ ∧ _))

instance : LT Instant :=
  ⟨fun first second => ¬ second ≤ first⟩

/-- An instant is before another by its seconds, or within its second. -/
theorem lt_iff
    {first second : Instant} :
    first < second ↔
      first.seconds < second.seconds ∨
        first.seconds = second.seconds ∧ first.nanos < second.nanos := by
  change ¬ second.notAfter first = true ↔ _
  simp only [notAfter, Bool.or_eq_true, Bool.and_eq_true, decide_eq_true_eq]
  omega

/-- An instant is not after another if it is before it or the same. -/
theorem le_iff_lt_or_eq
    {first second : Instant} :
    first ≤ second ↔ first < second ∨ first = second := by
  have extensional :
      first = second ↔ first.seconds = second.seconds ∧ first.nanos = second.nanos := by
    cases first
    cases second
    simp
  rw [lt_iff, extensional]
  change first.notAfter second = true ↔ _
  simp only [notAfter, Bool.or_eq_true, Bool.and_eq_true, decide_eq_true_eq]
  omega

instance : Preorder Instant where
  le_refl instant := le_iff_lt_or_eq.mpr (.inr rfl)
  le_trans first second third := by
    simp only [le_iff_lt_or_eq, lt_iff]
    rintro (earlier | rfl) (later | rfl)
    · exact .inl (by omega)
    · exact .inl earlier
    · exact .inl later
    · exact .inr rfl
  lt_iff_le_not_ge first second :=
    ⟨fun before => ⟨le_iff_lt_or_eq.mpr (.inl before), before⟩, And.right⟩

/-! ## Fields of one width -/

/-- Of two texts of one length, the first one comes first whatever follows either. -/
theorem append_lt_append_of_length_eq
    {first second : List Char}
    (sameLength : first.length = second.length)
    (less : first < second)
    (firstRest secondRest : List Char) :
    first ++ firstRest < second ++ secondRest := by
  induction first generalizing second with
  | nil =>
      rw [List.length_eq_zero_iff.mp sameLength.symm] at less
      exact (List.not_lt_nil [] less).elim
  | cons head tail inductionHypothesis =>
      cases second with
      | nil => simp at sameLength
      | cons otherHead otherTail =>
          rw [List.cons_append, List.cons_append, List.cons_lt_cons_iff]
          rcases List.cons_lt_cons_iff.mp less with headLess | ⟨sameHead, tailLess⟩
          · exact Or.inl headLess
          · exact Or.inr ⟨sameHead, inductionHypothesis (by simpa using sameLength) tailLess⟩

/-- Two written fields of one width, and what follows, stand in the order of the numbers. -/
theorem padded_append_lt
    {width first second : Nat}
    {firstRest secondRest : List Char}
    (positive : 0 < width)
    (firstFits : first < 10 ^ width)
    (secondFits : second < 10 ^ width)
    (ordered : first < second ∨ first = second ∧ firstRest < secondRest) :
    Decimal.padded width first ++ firstRest < Decimal.padded width second ++ secondRest := by
  rcases ordered with less | ⟨rfl, restLess⟩
  · have sameLength :
        (Decimal.padded width first).length = (Decimal.padded width second).length := by
      rw [Decimal.length_padded positive firstFits, Decimal.length_padded positive secondFits]
    exact append_lt_append_of_length_eq sameLength
      (Decimal.padded_lt_padded positive secondFits less) firstRest secondRest
  · exact List.append_left_lt restLess

/-! ## Fractions -/

/-- Groups of three digits, up to the last one that is not zero. -/
def groupCharacters : List Nat → List Char
  | [] => []
  | group :: groups =>
      if ∀ value ∈ group :: groups, value = 0 then []
      else Decimal.padded 3 group ++ groupCharacters groups

/-- Groups that are all zero are not written. -/
theorem groupCharacters_of_all_zero
    {groups : List Nat}
    (zero : ∀ value ∈ groups, value = 0) :
    groupCharacters groups = [] := by
  cases groups with
  | nil => rfl
  | cons group groups => rw [groupCharacters, if_pos zero]

/-- The groups of a fraction of a second. -/
def fractionGroups (nanos : Nat) : List Nat :=
  [nanos / 1000000, nanos / 1000 % 1000, nanos % 1000]

/-- A fraction that is not zero is written as its groups. -/
theorem fractionCharacters_eq
    {nanos : Nat}
    (bound : nanos < 1000000000)
    (positive : nanos ≠ 0) :
    fractionCharacters nanos = '.' :: groupCharacters (fractionGroups nanos) := by
  have upper : nanos / 1000 / 1000 = nanos / 1000000 := by omega
  have lower : nanos % 1000000 / 1000 = nanos / 1000 % 1000 := by omega
  have last : nanos % 1000000 % 1000 = nanos % 1000 := by omega
  have six : ∀ value < 1000000,
      Decimal.padded 6 value = Decimal.padded 3 (value / 1000) ++ Decimal.padded 3 (value % 1000) :=
    fun value fits => Decimal.padded_add 3 3 (by decide) (by decide) fits
  have nine : Decimal.padded 9 nanos =
      Decimal.padded 3 (nanos / 1000000) ++ Decimal.padded 6 (nanos % 1000000) :=
    Decimal.padded_add 3 6 (by decide) (by decide) bound
  unfold fractionCharacters
  rw [if_neg positive]
  split
  case isTrue thousandths =>
    have first : ¬ nanos / 1000000 = 0 := by omega
    have second : nanos / 1000 % 1000 = 0 := by omega
    have third : nanos % 1000 = 0 := by omega
    simp [groupCharacters, fractionGroups, first, second, third]
  case isFalse notThousandths =>
    split
    case isTrue millionths =>
      have second : ¬ nanos / 1000 % 1000 = 0 := by omega
      rw [six _ (by omega), upper]
      simp [groupCharacters, fractionGroups, second, millionths]
    case isFalse notMillionths =>
      rw [nine, six _ (by omega), lower, last]
      simp [groupCharacters, fractionGroups, notMillionths]

/-- No groups are less than as many zeros. -/
theorem not_lt_of_all_zero
    {first second : List Nat}
    (sameLength : first.length = second.length)
    (zero : ∀ value ∈ second, value = 0) :
    ¬ first < second := by
  induction first generalizing second with
  | nil =>
      rw [List.length_eq_zero_iff.mp sameLength.symm]
      exact List.not_lt_nil []
  | cons group groups inductionHypothesis =>
      cases second with
      | nil => simp at sameLength
      | cons otherGroup otherGroups =>
          rw [List.cons_lt_cons_iff, zero otherGroup List.mem_cons_self]
          rintro (less | ⟨_, groupsLess⟩)
          · exact Nat.not_lt_zero group less
          · exact inductionHypothesis (by simpa using sameLength)
              (fun value member => zero value (List.mem_cons_of_mem otherGroup member)) groupsLess

/-- The sign of an offset is before every digit. -/
theorem plus_lt_of_isDigit
    {character : Char}
    (digit : Decimal.isDigit character = true) :
    '+' < character := by
  rw [Decimal.isDigit, Bool.and_eq_true, decide_eq_true_eq, decide_eq_true_eq] at digit
  rw [Char.lt_def, UInt32.lt_iff_toNat_lt]
  change 43 < character.toNat
  omega

/--
Written groups stand in the order of the groups.

Where one text has ended, the sign of the offset comes, and it is before every digit.
-/
theorem groupCharacters_lt
    {first second : List Nat}
    {rest : List Char}
    (firstFit : ∀ value ∈ first, value < 1000)
    (secondFit : ∀ value ∈ second, value < 1000)
    (sameLength : first.length = second.length)
    (less : first < second) :
    groupCharacters first ++ '+' :: rest < groupCharacters second ++ '+' :: rest := by
  induction first generalizing second with
  | nil =>
      rw [List.length_eq_zero_iff.mp sameLength.symm] at less
      exact (List.not_lt_nil [] less).elim
  | cons group groups inductionHypothesis =>
      cases second with
      | nil => simp at sameLength
      | cons otherGroup otherGroups =>
          have otherNonzero : ¬ ∀ value ∈ otherGroup :: otherGroups, value = 0 :=
            fun zero => not_lt_of_all_zero sameLength zero less
          rw [groupCharacters.eq_2 otherGroup, if_neg otherNonzero, List.append_assoc]
          by_cases zero : ∀ value ∈ group :: groups, value = 0
          · rw [groupCharacters_of_all_zero zero, List.nil_append]
            obtain ⟨digit, others, shape, isDigit⟩ :=
              Timestamp.exists_digit_cons_padded 3 otherGroup
                (groupCharacters otherGroups ++ '+' :: rest)
            rw [shape, List.cons_lt_cons_iff]
            exact Or.inl (plus_lt_of_isDigit isDigit)
          · rw [groupCharacters, if_neg zero, List.append_assoc]
            apply padded_append_lt (by decide) (firstFit group List.mem_cons_self)
              (secondFit otherGroup List.mem_cons_self)
            rcases List.cons_lt_cons_iff.mp less with groupLess | ⟨sameGroup, groupsLess⟩
            · exact Or.inl groupLess
            · refine Or.inr ⟨sameGroup, ?_⟩
              exact inductionHypothesis
                (fun value member => firstFit value (List.mem_cons_of_mem group member))
                (fun value member => secondFit value (List.mem_cons_of_mem otherGroup member))
                (by simpa using sameLength) groupsLess

/-- Fractions before an offset stand in the order of the nanoseconds. -/
theorem fractionCharacters_lt
    {first second : Nat}
    (bound : second < 1000000000)
    (less : first < second) :
    fractionCharacters first ++ Mark.offset.characters <
      fractionCharacters second ++ Mark.offset.characters := by
  have secondPositive : second ≠ 0 := by omega
  rw [fractionCharacters_eq bound secondPositive]
  by_cases zero : first = 0
  · rw [zero]
    change '+' :: _ < '.' :: _
    rw [List.cons_lt_cons_iff]
    exact Or.inl (by decide)
  · rw [fractionCharacters_eq (by omega) zero, List.cons_append, List.cons_append,
      List.cons_lt_cons_self]
    apply groupCharacters_lt
    · simp only [fractionGroups, List.mem_cons, List.not_mem_nil, or_false]
      rintro value (rfl | rfl | rfl) <;> omega
    · simp only [fractionGroups, List.mem_cons, List.not_mem_nil, or_false]
      rintro value (rfl | rfl | rfl) <;> omega
    · rfl
    · simp only [fractionGroups, List.cons_lt_cons_iff, List.not_lt_nil, and_false, or_false]
      omega

/-! ## Whole timestamps -/

/-- An earlier instant has an earlier date, or an earlier time on the same date. -/
theorem date_or_time_before
    {first second : Instant}
    (less : first < second) :
    first.date.Before second.date ∨
      first.date = second.date ∧
        (first.seconds % daySeconds < second.seconds % daySeconds ∨
          first.seconds % daySeconds = second.seconds % daySeconds ∧
            first.nanos < second.nanos) := by
  rw [lt_iff] at less
  by_cases sameDay : first.seconds / daySeconds = second.seconds / daySeconds
  · refine Or.inr ⟨?_, ?_⟩
    · rw [date, date, dateOf, dateOf, sameDay]
    · simp only [daySeconds] at *
      omega
  · refine Or.inl (Date.before_ofDays ?_)
    simp only [daySeconds] at *
    omega

/-- The characters of a time of day, a fraction and an offset. -/
def timeCharacters (time nanos : Nat) : List Char :=
  Decimal.padded 2 (time / 3600) ++
    ':' :: (Decimal.padded 2 (time / 60 % 60) ++
      ':' :: (Decimal.padded 2 (time % 60 + nanos / 1000000000) ++
        (fractionCharacters (nanos % 1000000000) ++ Mark.offset.characters)))

/-- Times of day stand in their order, leap seconds included. -/
theorem timeCharacters_lt
    {first second firstNanos secondNanos : Nat}
    (firstFits : first < 86400)
    (secondFits : second < 86400)
    (firstBounded : firstNanos < 1000000000 ∨ (firstNanos < 2000000000 ∧ first % 60 = 59))
    (secondBounded : secondNanos < 1000000000 ∨ (secondNanos < 2000000000 ∧ second % 60 = 59))
    (less : first < second ∨ first = second ∧ firstNanos < secondNanos) :
    timeCharacters first firstNanos < timeCharacters second secondNanos := by
  -- A leap second is the last one of its minute, so it is before every later minute.
  have fields :
      first / 3600 < second / 3600 ∨
        first / 3600 = second / 3600 ∧
          (first / 60 % 60 < second / 60 % 60 ∨
            first / 60 % 60 = second / 60 % 60 ∧
              (first % 60 + firstNanos / 1000000000 < second % 60 + secondNanos / 1000000000 ∨
                first % 60 + firstNanos / 1000000000 = second % 60 + secondNanos / 1000000000 ∧
                  firstNanos % 1000000000 < secondNanos % 1000000000)) := by
    omega
  apply padded_append_lt (by decide) (by omega) (by omega)
  rcases fields with hourLess | ⟨sameHour, fields⟩
  · exact Or.inl hourLess
  refine Or.inr ⟨sameHour, ?_⟩
  rw [List.cons_lt_cons_self]
  apply padded_append_lt (by decide) (by omega) (by omega)
  rcases fields with minuteLess | ⟨sameMinute, fields⟩
  · exact Or.inl minuteLess
  refine Or.inr ⟨sameMinute, ?_⟩
  rw [List.cons_lt_cons_self]
  apply padded_append_lt (by decide) (by omega) (by omega)
  rcases fields with secondLess | ⟨sameSecond, fractionLess⟩
  · exact Or.inl secondLess
  · exact Or.inr ⟨sameSecond, fractionCharacters_lt (Nat.mod_lt _ (by decide)) fractionLess⟩

/-- An instant of a year of four digits is written as its fields. -/
theorem characters_offset_eq
    {instant : Instant}
    (year : instant.FourDigitYear) :
    instant.characters .offset =
      Decimal.padded 4 instant.date.year.toNat ++
        '-' :: (Decimal.padded 2 instant.date.month ++
          '-' :: (Decimal.padded 2 instant.date.day ++
            'T' :: timeCharacters (instant.seconds % daySeconds).toNat instant.nanos)) := by
  have yearShape : yearCharacters instant.date.year = Decimal.padded 4 instant.date.year.toNat :=
    if_pos year
  simp only [characters, yearShape, List.append_assoc, List.cons_append, timeCharacters]

/-- The month of an instant has two digits. -/
theorem month_lt (instant : Instant) : instant.date.month < 10 ^ 2 := by
  have bound : instant.date.month ≤ 12 := (Date.valid_ofDays _).2.1
  omega

/-- The day of an instant has two digits. -/
theorem day_lt (instant : Instant) : instant.date.day < 10 ^ 2 := by
  have bound : instant.date.day ≤ monthLength instant.date.year instant.date.month :=
    (Date.valid_ofDays _).2.2.2
  have longest := monthLength_le instant.date.year instant.date.month
  omega

/-- In the years of four digits, earlier instants have earlier texts. -/
theorem render_offset_lt
    {first second : Instant}
    (firstYear : first.FourDigitYear)
    (secondYear : second.FourDigitYear)
    (less : first < second) :
    first.render .offset < second.render .offset := by
  rw [String.lt_iff, render, render, String.toList_ofList, String.toList_ofList,
    characters_offset_eq firstYear, characters_offset_eq secondYear]
  obtain ⟨firstYearLow, firstYearHigh⟩ := firstYear
  obtain ⟨secondYearLow, secondYearHigh⟩ := secondYear
  apply padded_append_lt (by decide) (by omega) (by omega)
  rcases date_or_time_before less with
    (yearLess | ⟨sameYear, monthLess | ⟨sameMonth, dayLess⟩⟩) | ⟨sameDate, timeLess⟩
  · exact Or.inl (by omega)
  · refine Or.inr ⟨congrArg Int.toNat sameYear, ?_⟩
    rw [List.cons_lt_cons_self]
    exact padded_append_lt (by decide) (month_lt first) (month_lt second) (Or.inl monthLess)
  · refine Or.inr ⟨congrArg Int.toNat sameYear, ?_⟩
    rw [List.cons_lt_cons_self, sameMonth]
    refine List.append_left_lt ?_
    rw [List.cons_lt_cons_self]
    exact padded_append_lt (by decide) (day_lt first) (day_lt second) (Or.inl dayLess)
  · rw [sameDate]
    refine Or.inr ⟨rfl, ?_⟩
    rw [List.cons_lt_cons_self]
    refine List.append_left_lt ?_
    rw [List.cons_lt_cons_self]
    refine List.append_left_lt ?_
    rw [List.cons_lt_cons_self]
    have firstBounded := first.bounded
    have secondBounded := second.bounded
    simp only [daySeconds] at *
    apply timeCharacters_lt <;> omega

/-- In the years of four digits, the order of texts is the order of time. -/
theorem render_offset_le_iff
    {first second : Instant}
    (firstYear : first.FourDigitYear)
    (secondYear : second.FourDigitYear) :
    first.render .offset ≤ second.render .offset ↔ first ≤ second := by
  constructor
  · intro ordered
    apply Decidable.byContradiction
    intro later
    exact ordered (render_offset_lt secondYear firstYear later)
  · intro ordered
    rcases le_iff_lt_or_eq.mp ordered with less | rfl
    · exact String.lt_asymm (render_offset_lt firstYear secondYear less)
    · exact String.le_refl _

/-- The first instant after the years of four digits is written with a sign, and comes earlier. -/
example :
    characters .offset ⟨253402300800, 0, Or.inl (by decide), by decide⟩ <
      characters .offset ⟨253402300799, 0, Or.inl (by decide), by decide⟩ := by
  decide

end Instant

end Credential.Time
