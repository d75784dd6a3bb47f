import Credential.Text.Utf8

/-!
# Base 64

Octets written as characters of six bits each, in the standard and the URL-safe
alphabet.  Reading is exact: unused bits must be zero, so a sequence of octets
has one written form.
-/

namespace Credential.Text.Base64

/-- The two alphabets; they differ in the last two characters. -/
inductive Alphabet where
  | standard
  | urlSafe
  deriving Repr, DecidableEq

namespace Alphabet

/-- The character for 62. -/
def plus : Alphabet → Char
  | .standard => '+'
  | .urlSafe => '-'

/-- The character for 63. -/
def slash : Alphabet → Char
  | .standard => '/'
  | .urlSafe => '_'

/-- The character of a value below 64. -/
def character (alphabet : Alphabet) (value : Nat) : Char :=
  if value < 26 then
    Char.ofNat (value + 65)
  else if value < 52 then
    Char.ofNat (value + 71)
  else if value < 62 then
    Char.ofNat (value - 4)
  else if value = 62 then
    alphabet.plus
  else
    alphabet.slash

/-- The value of a character. -/
def value? (alphabet : Alphabet) (character : Char) : Option Nat :=
  let code := character.toNat
  if 65 ≤ code ∧ code ≤ 90 then
    some (code - 65)
  else if 97 ≤ code ∧ code ≤ 122 then
    some (code - 71)
  else if 48 ≤ code ∧ code ≤ 57 then
    some (code + 4)
  else if character = alphabet.plus then
    some 62
  else if character = alphabet.slash then
    some 63
  else
    none

end Alphabet

/-- The characters of octets, without padding. -/
def encode (alphabet : Alphabet) : Octets → List Char
  | [] => []
  | [first] =>
      let bits := first.toNat
      [alphabet.character (bits / 4), alphabet.character (bits % 4 * 16)]
  | [first, second] =>
      let bits := first.toNat * 256 + second.toNat
      [alphabet.character (bits / 1024), alphabet.character (bits / 16 % 64),
        alphabet.character (bits % 16 * 4)]
  | first :: second :: third :: rest =>
      let bits := (first.toNat * 256 + second.toNat) * 256 + third.toNat
      alphabet.character (bits / 262144) :: alphabet.character (bits / 4096 % 64) ::
        alphabet.character (bits / 64 % 64) :: alphabet.character (bits % 64) ::
        encode alphabet rest

/-- The characters of octets in standard form, filled up with `=` to a multiple of four. -/
def encodePadded (octets : Octets) : List Char :=
  let characters := encode .standard octets
  characters ++ List.replicate ((4 - characters.length % 4) % 4) '='

/-- The octets of unpadded characters; unused bits must be zero. -/
def decode? (alphabet : Alphabet) : List Char → Option Octets
  | [] => some []
  | [_] => none
  | [first, second] => do
      let bits := (← alphabet.value? first) * 64 + (← alphabet.value? second)
      if bits % 16 = 0 then
        some [UInt8.ofNat (bits / 16)]
      else
        none
  | [first, second, third] => do
      let bits :=
        ((← alphabet.value? first) * 64 + (← alphabet.value? second)) * 64 +
          (← alphabet.value? third)
      if bits % 4 = 0 then
        some [UInt8.ofNat (bits / 1024), UInt8.ofNat (bits / 4)]
      else
        none
  | first :: second :: third :: fourth :: rest => do
      let bits :=
        (((← alphabet.value? first) * 64 + (← alphabet.value? second)) * 64 +
          (← alphabet.value? third)) * 64 + (← alphabet.value? fourth)
      let octets ← decode? alphabet rest
      some (UInt8.ofNat (bits / 65536) :: UInt8.ofNat (bits / 256) :: UInt8.ofNat bits :: octets)

/-- The octets of characters in standard form with exact padding. -/
def decodePadded? (characters : List Char) : Option Octets :=
  if characters.length % 4 ≠ 0 then
    none
  else
    match characters.reverse with
    | '=' :: '=' :: rest => decode? .standard rest.reverse
    | '=' :: rest => decode? .standard rest.reverse
    | _ => decode? .standard characters

end Credential.Text.Base64
