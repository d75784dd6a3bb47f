import Credential.Text.Blank
import Credential.Text.Decimal
import Credential.Time.Calendar
import Credential.Time.Instant

/-!
# Timestamps

Instants written as a date, a time of day and an offset from universal time.
Writing uses universal time and as few digits of the fraction as show it, in
groups of three.  Reading is more generous: it takes any offset below a day,
numbers without leading zeros, and blanks before most parts.
-/

namespace Credential.Time

open Credential.Text

/-- How a timestamp marks universal time. -/
inductive Mark where
  /-- The letter `Z`. -/
  | letter
  /-- An offset of nothing. -/
  | offset
  deriving Repr, DecidableEq

namespace Mark

/-- The characters of a mark. -/
def characters : Mark → List Char
  | .letter => ['Z']
  | .offset => ['+', '0', '0', ':', '0', '0']

end Mark

namespace Instant

/-- A year: four digits, or more after a sign when four do not do. -/
def yearCharacters (year : Int) : List Char :=
  if 0 ≤ year ∧ year ≤ 9999 then
    Decimal.padded 4 year.toNat
  else if year < 0 then
    '-' :: Decimal.padded 4 year.natAbs
  else
    '+' :: Decimal.padded 4 year.toNat

/-- The fraction of a second after the point, in groups of three digits. -/
def fractionCharacters (nanos : Nat) : List Char :=
  if nanos = 0 then
    []
  else if nanos % 1000000 = 0 then
    '.' :: Decimal.padded 3 (nanos / 1000000)
  else if nanos % 1000 = 0 then
    '.' :: Decimal.padded 6 (nanos / 1000)
  else
    '.' :: Decimal.padded 9 nanos

/-- The characters of an instant in universal time. -/
def characters (mark : Mark) (instant : Instant) : List Char :=
  let date := instant.date
  let time := (instant.seconds % daySeconds).toNat
  let leap := instant.nanos / 1000000000
  yearCharacters date.year ++ '-' :: Decimal.padded 2 date.month ++
    '-' :: Decimal.padded 2 date.day ++
    'T' :: Decimal.padded 2 (time / 3600) ++
    ':' :: Decimal.padded 2 (time / 60 % 60) ++
    ':' :: Decimal.padded 2 (time % 60 + leap) ++
    fractionCharacters (instant.nanos % 1000000000) ++ mark.characters

/-- The text of an instant. -/
def render (instant : Instant) (mark : Mark) : String :=
  String.ofList (instant.characters mark)

end Instant

/-! ## Reading -/

namespace Timestamp

/-- Read one to `most` digits. -/
def readDigits? (most : Nat) (characters : List Char) : Option (Nat × List Char) :=
  let digits := (characters.take most).takeWhile Decimal.isDigit
  if digits = [] then
    none
  else
    some (Decimal.valueOf digits, characters.drop digits.length)

/-- Read one or two digits after any blanks. -/
def readNumber? (characters : List Char) : Option (Nat × List Char) :=
  readDigits? 2 (characters.dropWhile isBlank)

/-- Pass one character after any blanks. -/
def pass? (expected : Char) (characters : List Char) : Option (List Char) :=
  match characters.dropWhile isBlank with
  | first :: rest => if first = expected then some rest else none
  | [] => none

/-- Read a year: up to four digits, or any number of digits after a sign. -/
def readYear? (characters : List Char) : Option (Int × List Char) :=
  match characters.dropWhile isBlank with
  | '-' :: rest => (readDigits? rest.length rest).map fun (value, rest) => (-(value : Int), rest)
  | '+' :: rest => (readDigits? rest.length rest).map fun (value, rest) => ((value : Int), rest)
  | rest => (readDigits? 4 rest).map fun (value, rest) => ((value : Int), rest)

/-- Read a fraction of a second as nanoseconds; digits after the ninth are passed over. -/
def readFraction? : List Char → Option (Nat × List Char)
  | '.' :: rest =>
      let digits := rest.takeWhile Decimal.isDigit
      if digits = [] then
        none
      else
        let kept := digits.take 9
        some (Decimal.valueOf kept * Nat.pow 10 (9 - kept.length), rest.drop digits.length)
  | rest => some (0, rest)

/-- Read two digits. -/
def readPair? : List Char → Option (Nat × List Char)
  | tens :: ones :: rest =>
      if Decimal.isDigit tens ∧ Decimal.isDigit ones then
        some (Decimal.valueOf [tens, ones], rest)
      else
        none
  | _ => none

/-- Read the hours and minutes of an offset; colons and blanks may stand between them. -/
def readOffsetTime? (characters : List Char) : Option (Int × List Char) := do
  let (hours, rest) ← readPair? characters
  let isBetween (character : Char) : Bool := character = ':' || isBlank character
  let (minutes, rest) ← readPair? (rest.dropWhile isBetween)
  if minutes < 60 then
    some ((hours * 3600 + minutes * 60 : Nat), rest)
  else
    none

/-- Read an offset in seconds. -/
def readOffset? (characters : List Char) : Option (Int × List Char) :=
  match characters.dropWhile isBlank with
  | 'Z' :: rest => some (0, rest)
  | 'z' :: rest => some (0, rest)
  | '+' :: rest => readOffsetTime? rest
  | '-' :: rest => (readOffsetTime? rest).map fun (value, rest) => (-value, rest)
  | '\u2212' :: rest => (readOffsetTime? rest).map fun (value, rest) => (-value, rest)
  | first :: second :: third :: rest =>
      if [first, second, third].map Char.toLower = ['u', 't', 'c'] then some (0, rest) else none
  | _ => none

/-- The instant of a date, a time of day and an offset, if there is one. -/
def assemble?
    (date : Date)
    (hour minute second nanos : Nat)
    (offset : Int) :
    Option Instant :=
  if date.Valid ∧ yearInRange date.year ∧ hour < 24 ∧ minute < 60 ∧ second ≤ 60 ∧
      offset.natAbs < 86400 then
    let leap := second / 60
    let seconds : Int :=
      date.toDays * daySeconds + hour * 3600 + minute * 60 + (second - leap : Nat) - offset
    Instant.ofParts? seconds (nanos + leap * 1000000000)
  else
    none

end Timestamp

/-- The instant that a text writes. -/
def Instant.read? (text : String) : Option Instant := do
  let (year, rest) ← Timestamp.readYear? text.toList
  let (month, rest) ← Timestamp.readNumber? (← Timestamp.pass? '-' rest)
  let (day, rest) ← Timestamp.readNumber? (← Timestamp.pass? '-' rest)
  let rest ←
    match rest with
    | 'T' :: rest => some rest
    | 't' :: rest => some rest
    | ' ' :: rest => some rest
    | _ => none
  let (hour, rest) ← Timestamp.readNumber? rest
  let (minute, rest) ← Timestamp.readNumber? (← Timestamp.pass? ':' rest)
  let (second, rest) ← Timestamp.readNumber? (← Timestamp.pass? ':' rest)
  let (nanos, rest) ← Timestamp.readFraction? rest
  let (offset, rest) ← Timestamp.readOffset? rest
  if rest.all isBlank then
    Timestamp.assemble? ⟨year, month, day⟩ hour minute second nanos offset
  else
    none

end Credential.Time
