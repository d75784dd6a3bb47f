import Credential.Proofs.Text.Decimal
import Credential.Proofs.Time.Calendar
import Credential.Time.Timestamp
import Mathlib

/-!
# Written instants

An instant that is written is read back as it was, with either mark.
-/

namespace Credential.Time

open Credential.Text

namespace Timestamp

/-! ## Reading what has been written -/

/-- A digit is not blank. -/
theorem isBlank_eq_false_of_isDigit
    {character : Char}
    (digit : Decimal.isDigit character = true) :
    isBlank character = false := by
  rw [Decimal.isDigit, Bool.and_eq_true, decide_eq_true_eq, decide_eq_true_eq] at digit
  simp only [isBlank, Bool.or_eq_false_iff, Bool.and_eq_false_iff, decide_eq_false_iff_not,
    beq_eq_false_iff_ne]
  omega

/-- A run of digits is read up to the width, or up to what is no digit. -/
theorem readDigits?_append
    {most : Nat}
    {digits rest : List Char}
    (nonempty : digits ≠ [])
    (allDigits : ∀ character ∈ digits, Decimal.isDigit character = true)
    (fits : digits.length ≤ most)
    (ends : digits.length = most ∨ ∀ character ∈ rest.head?, Decimal.isDigit character = false) :
    readDigits? most (digits ++ rest) = some (Decimal.valueOf digits, rest) := by
  have taken : ((digits ++ rest).take most).takeWhile Decimal.isDigit = digits := by
    rw [List.take_append, List.take_of_length_le fits, List.takeWhile_append_of_pos allDigits]
    rcases ends with exactly | stops
    · rw [exactly, Nat.sub_self, List.take_zero, List.takeWhile_nil, List.append_nil]
    · cases rest with
      | nil => simp
      | cons first rest =>
          have stop : Decimal.isDigit first = false := stops first rfl
          cases most - digits.length with
          | zero => simp
          | succ count => simp [stop]
  rw [readDigits?, taken, if_neg nonempty, List.drop_left]

/-- A padded number begins with a digit, whatever follows it. -/
theorem exists_digit_cons_padded
    (width value : Nat)
    (rest : List Char) :
    ∃ first others,
      Decimal.padded width value ++ rest = first :: others ∧ Decimal.isDigit first = true := by
  cases shape : Decimal.padded width value with
  | nil => exact (Decimal.padded_ne_nil width value shape).elim
  | cons first others =>
      have member : first ∈ Decimal.padded width value := by
        rw [shape]
        exact List.mem_cons_self
      exact ⟨first, others ++ rest, rfl, Decimal.isDigit_of_mem_padded member⟩

/-- The front of a padded number is not blank. -/
theorem dropWhile_isBlank_padded
    (width value : Nat)
    (rest : List Char) :
    (Decimal.padded width value ++ rest).dropWhile isBlank =
      Decimal.padded width value ++ rest := by
  obtain ⟨first, others, shape, digit⟩ := exists_digit_cons_padded width value rest
  rw [shape, List.dropWhile_cons_of_neg]
  simpa using isBlank_eq_false_of_isDigit digit

/-- Two digits are read as the number that they were written for. -/
theorem readNumber?_padded
    {value : Nat}
    (fits : value < 100)
    (rest : List Char) :
    readNumber? (Decimal.padded 2 value ++ rest) = some (value, rest) := by
  have length : (Decimal.padded 2 value).length = 2 := Decimal.length_padded (by decide) fits
  rw [readNumber?, dropWhile_isBlank_padded,
    readDigits?_append (Decimal.padded_ne_nil 2 value) (fun _ => Decimal.isDigit_of_mem_padded)
      (Nat.le_of_eq length) (Or.inl length),
    Decimal.valueOf_padded]

/-- A character that is expected is passed. -/
theorem pass?_cons
    {expected : Char}
    (visible : isBlank expected = false)
    (rest : List Char) :
    pass? expected (expected :: rest) = some rest := by
  simp [pass?, visible]

/-! ## Years -/

/-- What begins with a digit is read as a year without a sign. -/
theorem readYear?_of_isDigit
    {first : Char}
    (digit : Decimal.isDigit first = true)
    (rest : List Char) :
    readYear? (first :: rest) =
      (readDigits? 4 (first :: rest)).map fun (value, rest) => ((value : Int), rest) := by
  have visible : ¬ isBlank first = true := by
    simpa using isBlank_eq_false_of_isDigit digit
  rw [readYear?, List.dropWhile_cons_of_neg visible]
  split
  case h_1 shape =>
    obtain ⟨rfl, rfl⟩ := shape
    exact absurd digit (by decide)
  case h_2 shape =>
    obtain ⟨rfl, rfl⟩ := shape
    exact absurd digit (by decide)
  case h_3 => rfl

/-- Digits before a hyphen are read to the last one, however many there are. -/
theorem readDigits?_padded_hyphen (value : Nat) (rest : List Char) :
    readDigits? (Decimal.padded 4 value ++ '-' :: rest).length
        (Decimal.padded 4 value ++ '-' :: rest) =
      some (value, '-' :: rest) := by
  have fits :
      (Decimal.padded 4 value).length ≤ (Decimal.padded 4 value ++ '-' :: rest).length := by
    rw [List.length_append]
    exact Nat.le_add_right _ _
  have stops : ∀ character ∈ ('-' :: rest).head?, Decimal.isDigit character = false := by
    intro character head
    rw [List.head?_cons, Option.mem_some_iff] at head
    rw [← head]
    decide
  rw [readDigits?_append (Decimal.padded_ne_nil 4 value) (fun _ => Decimal.isDigit_of_mem_padded)
      fits (Or.inr stops),
    Decimal.valueOf_padded]

/-- A year of four digits is read as the one that was written. -/
theorem readYear?_padded
    {value : Nat}
    (fits : value < 10000)
    (rest : List Char) :
    readYear? (Decimal.padded 4 value ++ rest) = some ((value : Int), rest) := by
  have length : (Decimal.padded 4 value).length = 4 := Decimal.length_padded (by decide) fits
  have digits : readDigits? 4 (Decimal.padded 4 value ++ rest) = some (value, rest) := by
    rw [readDigits?_append (Decimal.padded_ne_nil 4 value)
        (fun _ => Decimal.isDigit_of_mem_padded) (Nat.le_of_eq length) (Or.inl length),
      Decimal.valueOf_padded]
  obtain ⟨first, others, shape, digit⟩ := exists_digit_cons_padded 4 value rest
  rw [shape] at digits ⊢
  rw [readYear?_of_isDigit digit, digits]
  rfl

/-- A year before a hyphen is read as the one that was written. -/
theorem readYear?_yearCharacters (year : Int) (rest : List Char) :
    readYear? (Instant.yearCharacters year ++ '-' :: rest) = some (year, '-' :: rest) := by
  unfold Instant.yearCharacters
  split
  case isTrue fourDigits =>
    rw [readYear?_padded (by omega), Int.toNat_of_nonneg fourDigits.1]
  case isFalse _ =>
    split
    case isTrue negative =>
      have digits := readDigits?_padded_hyphen year.natAbs rest
      have absolute : -(year.natAbs : Int) = year := by omega
      simp only [readYear?, List.cons_append,
        List.dropWhile_cons_of_neg (p := isBlank) (a := '-') (by decide), digits, Option.map_some,
        absolute]
    case isFalse positive =>
      have digits := readDigits?_padded_hyphen year.toNat rest
      have same : (year.toNat : Int) = year := by omega
      simp only [readYear?, List.cons_append,
        List.dropWhile_cons_of_neg (p := isBlank) (a := '+') (by decide), digits, Option.map_some,
        same]

/-! ## Fractions and offsets -/

/-- Digits after a point are read as a fraction of nine of them. -/
theorem readFraction?_padded
    {width value : Nat}
    (positive : 0 < width)
    (bound : width ≤ 9)
    (fits : value < 10 ^ width)
    (mark : Mark) :
    readFraction? ('.' :: (Decimal.padded width value ++ mark.characters)) =
      some (value * 10 ^ (9 - width), mark.characters) := by
  have length : (Decimal.padded width value).length = width :=
    Decimal.length_padded positive fits
  have digits :
      (Decimal.padded width value ++ mark.characters).takeWhile Decimal.isDigit =
        Decimal.padded width value := by
    rw [List.takeWhile_append_of_pos fun _ => Decimal.isDigit_of_mem_padded]
    cases mark <;> simp [Mark.characters, Decimal.isDigit]
  rw [readFraction?]
  dsimp only
  rw [digits, if_neg (Decimal.padded_ne_nil width value),
    List.take_of_length_le (by omega), List.drop_left, Decimal.valueOf_padded, length]
  rfl

/-- A fraction before a mark is read as the one that was written. -/
theorem readFraction?_fractionCharacters
    {nanos : Nat}
    (bound : nanos < 1000000000)
    (mark : Mark) :
    readFraction? (Instant.fractionCharacters nanos ++ mark.characters) =
      some (nanos, mark.characters) := by
  unfold Instant.fractionCharacters
  split
  case isTrue whole =>
    rw [whole]
    cases mark <;> rfl
  case isFalse _ =>
    split
    case isTrue thousandths =>
      rw [List.cons_append, readFraction?_padded (by decide) (by decide) (by omega)]
      congr 2
      omega
    case isFalse _ =>
      split
      case isTrue millionths =>
        rw [List.cons_append, readFraction?_padded (by decide) (by decide) (by omega)]
        congr 2
        omega
      case isFalse _ =>
        rw [List.cons_append, readFraction?_padded (by decide) (by decide) (by omega)]
        simp

/-- Either mark is read as no offset, and nothing is left. -/
theorem readOffset?_characters (mark : Mark) : readOffset? mark.characters = some (0, []) := by
  cases mark <;> decide

/-! ## Whole timestamps -/

/-- The seconds of a day, with a leap second among them, are put together again. -/
theorem seconds_of_parts
    {seconds : Int}
    {nanos : Nat}
    (bounded : nanos < 1000000000 ∨ (nanos < 2000000000 ∧ seconds % 60 = 59)) :
    seconds / daySeconds * daySeconds + ((seconds % daySeconds).toNat / 3600 : Nat) * 3600 +
          ((seconds % daySeconds).toNat / 60 % 60 : Nat) * 60 +
          (((seconds % daySeconds).toNat % 60 + nanos / 1000000000) -
            ((seconds % daySeconds).toNat % 60 + nanos / 1000000000) / 60 : Nat) - 0 =
        seconds ∧
      nanos % 1000000000 +
          ((seconds % daySeconds).toNat % 60 + nanos / 1000000000) / 60 * 1000000000 =
        nanos := by
  simp only [daySeconds]
  rcases bounded with ordinary | ⟨leap, last⟩
  · have whole : nanos / 1000000000 = 0 := by omega
    omega
  · have day : (seconds % 86400).toNat % 60 = 59 := by omega
    omega

/-- The parts of an instant are put together again. -/
theorem assemble?_parts (instant : Instant) :
    assemble? instant.date
        ((instant.seconds % daySeconds).toNat / 3600)
        ((instant.seconds % daySeconds).toNat / 60 % 60)
        ((instant.seconds % daySeconds).toNat % 60 + instant.nanos / 1000000000)
        (instant.nanos % 1000000000) 0 =
      some instant := by
  have daysValid : instant.date.Valid := Date.valid_ofDays _
  have days : instant.date.toDays = instant.seconds / daySeconds := Date.toDays_ofDays _
  have limits :
      (instant.seconds % daySeconds).toNat / 3600 < 24 ∧
        (instant.seconds % daySeconds).toNat / 60 % 60 < 60 ∧
          (instant.seconds % daySeconds).toNat % 60 + instant.nanos / 1000000000 ≤ 60 ∧
            (0 : Int).natAbs < 86400 := by
    have nanosBound := instant.bounded
    simp only [daySeconds]
    omega
  obtain ⟨sameSeconds, sameNanos⟩ := seconds_of_parts instant.bounded
  rw [assemble?, if_pos ⟨daysValid, instant.inRange, limits⟩]
  dsimp only
  rw [days, sameSeconds, sameNanos, Instant.ofParts?,
    dif_pos ⟨instant.bounded, instant.inRange⟩]

end Timestamp

/-- An instant that is written with either mark is read back. -/
theorem Instant.read?_render (instant : Instant) (mark : Mark) :
    Instant.read? (instant.render mark) = some instant := by
  have valid : instant.date.Valid := Date.valid_ofDays _
  have monthBound : instant.date.month < 100 := by
    have bound : instant.date.month ≤ 12 := valid.2.1
    omega
  have dayBound : instant.date.day < 100 := by
    have bound : instant.date.day ≤ monthLength instant.date.year instant.date.month :=
      valid.2.2.2
    have longest := monthLength_le instant.date.year instant.date.month
    omega
  have nanosBound := instant.bounded
  have hyphen : isBlank '-' = false := by decide
  have colon : isBlank ':' = false := by decide
  simp only [Instant.render, Instant.read?, Instant.characters, String.toList_ofList,
    List.append_assoc, List.cons_append, Timestamp.readYear?_yearCharacters,
    Timestamp.pass?_cons hyphen, Timestamp.readNumber?_padded monthBound,
    Timestamp.readNumber?_padded dayBound, Option.bind_eq_bind, Option.bind_some]
  have hour : (instant.seconds % daySeconds).toNat / 3600 < 100 := by
    simp only [daySeconds]
    omega
  have minute : (instant.seconds % daySeconds).toNat / 60 % 60 < 100 := by omega
  have second :
      (instant.seconds % daySeconds).toNat % 60 + instant.nanos / 1000000000 < 100 := by omega
  have fraction : instant.nanos % 1000000000 < 1000000000 := by omega
  simp only [Timestamp.pass?_cons colon, Timestamp.readNumber?_padded hour,
    Timestamp.readNumber?_padded minute, Timestamp.readNumber?_padded second,
    Timestamp.readFraction?_fractionCharacters fraction, Timestamp.readOffset?_characters,
    Option.bind_some, List.all_nil, if_true]
  exact Timestamp.assemble?_parts instant

end Credential.Time
