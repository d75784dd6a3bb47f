/-!
# Decimal numbers

Natural numbers as runs of ASCII digits.
-/

namespace Credential.Text.Decimal

/-- The ASCII digits. -/
def isDigit (character : Char) : Bool :=
  48 ≤ character.toNat && character.toNat ≤ 57

/-- The value of an ASCII digit. -/
def digitValue (character : Char) : Nat :=
  character.toNat - 48

/-- The number that a run of digits denotes. -/
def valueOf (digits : List Char) : Nat :=
  digits.foldl (fun value digit => value * 10 + digitValue digit) 0

/-- The number that a non-empty run of digits denotes. -/
def read? (characters : List Char) : Option Nat :=
  if characters ≠ [] ∧ characters.all isDigit then
    some (valueOf characters)
  else
    none

/-- A number of at most `limit`, written as digits after an optional plus sign. -/
def readUpTo? (limit : Nat) (text : String) : Option Nat :=
  let digits :=
    match text.toList with
    | '+' :: rest => rest
    | characters => characters
  (read? digits).filter (· ≤ limit)

/-- The digits of a number. -/
def digits (value : Nat) : List Char :=
  Nat.toDigits 10 value

/-- The digits of a number, with zeros before them up to a width. -/
def padded (width value : Nat) : List Char :=
  List.replicate (width - (digits value).length) '0' ++ digits value

end Credential.Text.Decimal
