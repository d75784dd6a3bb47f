import Credential.Text.Utf8

/-!
# Percent escapes and form fields

An octet may be written as `%` and two hexadecimal digits.  A `%` that no two
digits follow stands for itself.  Form fields are `name=value` pieces between
`&`, in which `+` stands for a space.
-/

namespace Credential.Text

/-- The value of a hexadecimal digit of either case. -/
def hexValue? (code : Nat) : Option Nat :=
  if 48 ≤ code ∧ code ≤ 57 then
    some (code - 48)
  else if 65 ≤ code ∧ code ≤ 70 then
    some (code - 55)
  else if 97 ≤ code ∧ code ≤ 102 then
    some (code - 87)
  else
    none

namespace Percent

/-- Resolve every complete escape and leave all else. -/
def decode : Octets → Octets
  | [] => []
  | [first] => [first]
  | [first, second] => [first, second]
  | first :: second :: third :: rest =>
      if first = 0x25 then
        match hexValue? second.toNat, hexValue? third.toNat with
        | some high, some low => UInt8.ofNat (high * 16 + low) :: decode rest
        | _, _ => first :: decode (second :: third :: rest)
      else
        first :: decode (second :: third :: rest)

end Percent

/-- Cut octets at every occurrence of a separator. -/
def splitOctets (separator : UInt8) (octets : Octets) : List Octets :=
  octets.splitOn separator

/-- Cut octets at the first occurrence of a separator, which belongs to neither part. -/
def cutOctets (separator : UInt8) (octets : Octets) : Octets × Octets :=
  (octets.takeWhile (· ≠ separator), (octets.dropWhile (· ≠ separator)).drop 1)

namespace Form

/-- The text that one side of a form field spells. -/
def fieldText (octets : Octets) : String :=
  Utf8.decodeLossy
    (Percent.decode (octets.map fun octet => if octet = 0x2B then 0x20 else octet))

/-- The name and value of every field that is not empty. -/
def fields (octets : Octets) : List (String × String) :=
  ((splitOctets 0x26 octets).filter (· ≠ [])).map fun piece =>
    let sides := cutOctets 0x3D piece
    (fieldText sides.1, fieldText sides.2)

end Form

end Credential.Text
