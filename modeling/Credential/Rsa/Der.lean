import Credential.Digest.Blake2b
import Credential.Text.Decimal
import Credential.Time.Calendar

/-!
# Tagged data

Keys travel as nested elements, each of a tag, a length and contents.  Writing
gives the one distinguished form.  There are two readers: an exact one for the
fields of a key, and a tolerant one that only surveys a container for its
algorithm and for the key inside.
-/

namespace Credential.Rsa.Der

open Credential.Text (Octets)
open Credential.Text.Decimal (isDigit valueOf)
open Credential.Digest (bigEndian ofBigEndian)
open Credential.Time (Date)

/-- Tag of an integer. -/
def integerTag : UInt8 := 0x02

/-- Tag of a bit string. -/
def bitStringTag : UInt8 := 0x03

/-- Tag of an octet string. -/
def octetStringTag : UInt8 := 0x04

/-- Tag of a sequence. -/
def sequenceTag : UInt8 := 0x30

/-- The octets of a positive number, greatest first and without leading zeros. -/
def naturalOctets (value : Nat) : Octets :=
  bigEndian ((value.log2 + 8) / 8) value

/-- The shortest form of a length. -/
def lengthOctets (length : Nat) : Octets :=
  if length < 0x80 then
    [UInt8.ofNat length]
  else
    let octets := naturalOctets length
    UInt8.ofNat (0x80 + octets.length) :: octets

/-- An element of a tag and contents. -/
def element (tag : UInt8) (contents : Octets) : Octets :=
  tag :: lengthOctets contents.length ++ contents

/-- A natural number; a zero octet keeps the sign bit clear. -/
def integer (value : Nat) : Octets :=
  let octets := naturalOctets value
  element integerTag (if (octets.headD 0) < 0x80 then octets else 0 :: octets)

/-- A sequence of elements. -/
def sequence (items : List Octets) : Octets :=
  element sequenceTag items.flatten

/-- A bit string of whole octets. -/
def bitString (contents : Octets) : Octets :=
  element bitStringTag (0 :: contents)

/-- An octet string. -/
def octetString (contents : Octets) : Octets :=
  element octetStringTag contents

/-- The absent value. -/
def null : Octets :=
  element 0x05 []

/-- The identifier of RSA keys. -/
def rsaIdentifier : Octets :=
  element 0x06 [0x2A, 0x86, 0x48, 0x86, 0xF7, 0x0D, 0x01, 0x01, 0x01]

/-! ## Exact reading -/

/-- The length at the front, in its shortest form and below 65536, and what follows. -/
def readLength? : Octets → Option (Nat × Octets)
  | [] => none
  | first :: rest =>
      if first < 0x80 then
        some (first.toNat, rest)
      else if first = 0x81 then
        match rest with
        | low :: rest => if low < 0x80 then none else some (low.toNat, rest)
        | [] => none
      else if first = 0x82 then
        match rest with
        | high :: low :: rest =>
            if high = 0 then none else some (high.toNat * 256 + low.toNat, rest)
        | _ => none
      else
        none

/-- The contents of the element with the given tag at the front, and what follows it. -/
def readElement? (tag : UInt8) : Octets → Option (Octets × Octets)
  | [] => none
  | first :: rest =>
      if first ≠ tag then
        none
      else
        match readLength? rest with
        | none => none
        | some (length, rest) =>
            if length ≤ rest.length then
              some (rest.take length, rest.drop length)
            else
              none

/-- The natural number at the front, in its shortest form, and what follows. -/
def readNatural? (octets : Octets) : Option (Nat × Octets) :=
  match readElement? integerTag octets with
  | none => none
  | some ([], _) => none
  | some (first :: others, rest) =>
      if first ≥ 0x80 then
        none
      else if first = 0 ∧ others ≠ [] ∧ others.headD 0 < 0x80 then
        none
      else
        some (ofBigEndian (first :: others), rest)

/-! ## Tolerant reading -/

/-- What a survey tells apart. -/
inductive Item where
  | sequence (items : List Item)
  /-- The contents of a bit or octet string. -/
  | string (contents : Octets)
  /-- The numbers of an object identifier. -/
  | identifier (arcs : List Nat)
  | other
  deriving Repr

/-- A number in groups of seven bits, the last of which has the high bit clear. -/
def readGroups? (value : Nat) : Octets → Option (Nat × Octets)
  | [] => none
  | octet :: rest =>
      let value := value * 128 + octet.toNat % 128
      if octet < 0x80 then
        some (value, rest)
      else
        readGroups? value rest

/-- The further numbers of an object identifier. -/
def readArcs? : Nat → Octets → Option (List Nat)
  | 0, _ => none
  | _ + 1, [] => some []
  | fuel + 1, octets =>
      match readGroups? 0 octets with
      | none => none
      | some (arc, rest) => (readArcs? fuel rest).map (arc :: ·)

/-- The numbers of an object identifier; the first octet holds two. -/
def readIdentifier? : Octets → Option (List Nat)
  | [] => none
  | first :: rest =>
      let value := first.toNat
      let root := if value < 40 then 0 else if value < 80 then 1 else 2
      (readArcs? (rest.length + 1) rest).map fun arcs => root :: (value - 40 * root) :: arcs

/-- A length in any form of at most eight octets. -/
def readLooseLength? : Octets → Option (Nat × Octets)
  | [] => none
  | first :: rest =>
      if first < 0x80 then
        some (first.toNat, rest)
      else
        let count := first.toNat - 0x80
        if count ≤ 8 ∧ count ≤ rest.length then
          some (ofBigEndian (rest.take count), rest.drop count)
        else
          none

/-- The class and construction bits, the number of a tag, and what follows. -/
def readTag? : Octets → Option (Nat × Nat × Octets)
  | [] => none
  | first :: rest =>
      if first.toNat % 32 = 31 then
        (readGroups? 0 rest).map fun (number, rest) => (first.toNat / 32, number, rest)
      else
        some (first.toNat / 32, first.toNat % 32, rest)

/-- Whether fourteen digits are a year, month, day, hour, minute and second. -/
def isMoment (characters : List Char) : Bool :=
  let number (start count : Nat) : Nat := valueOf ((characters.drop start).take count)
  characters.length = 14 && characters.all isDigit &&
    decide (Date.Valid ⟨number 0 4, number 4 2, number 6 2⟩) &&
    number 8 2 ≤ 23 && number 10 2 ≤ 59 && number 12 2 ≤ 59

/--
Whether octets are a date of two-digit year: twelve digits and `Z`.

Years below 50 belong to this century, the others to the last one.
-/
def isShortDate (octets : Octets) : Bool :=
  let characters := octets.map fun octet => Char.ofNat octet.toNat
  let digits := characters.take 12
  characters.length = 13 && characters.getLast? = some 'Z' && digits.all isDigit &&
    isMoment ((if digits.headD '0' < '5' then ['2', '0'] else ['1', '9']) ++ digits)

/-- Whether octets are a date of four-digit year, perhaps with a fraction, and `Z`. -/
def isLongDate (octets : Octets) : Bool :=
  let characters := octets.map fun octet => Char.ofNat octet.toNat
  let fraction := (characters.drop 14).dropLast
  15 ≤ characters.length && characters.getLast? = some 'Z' &&
    isMoment (characters.take 14) &&
    (fraction = [] ||
      (fraction.headD ' ' = '.' && (fraction.drop 1).all isDigit && fraction.length ≤ 10))

/-- Whether an octet may occur in a printable string. -/
def isPrintable (octet : UInt8) : Bool :=
  let character := Char.ofNat octet.toNat
  character.isAlphanum || " '()+,-./:=?".toList.contains character

/-- Whether the contents of a universal element of a plain kind are acceptable. -/
def acceptable (number : Nat) (contents : Octets) : Bool :=
  if number = 1 then
    contents.length = 1
  else if number = 12 ∨ number = 20 ∨ number = 28 ∨ number = 30 then
    (Text.Utf8.decode? contents).isSome
  else if number = 19 then
    contents.all isPrintable
  else if number = 22 then
    contents.all (· < 0x80)
  else if number = 23 then
    isShortDate contents
  else if number = 24 then
    isLongDate contents
  else
    true

/--
All items of some octets, or none if they cannot be surveyed or hold no item.

Every item takes at least one unit of `fuel`, and so does every level.
-/
def survey : Nat → Octets → Option (List Item)
  | 0, _ => none
  | fuel + 1, octets =>
      match readTag? octets with
      | none => none
      | some (bits, number, rest) =>
          match readLooseLength? rest with
          | none => none
          | some (length, rest) =>
              if rest.length < length then
                none
              else
                let contents := rest.take length
                let item :=
                  if bits / 2 ≠ 0 then
                    some Item.other
                  else if number = 16 ∨ number = 17 then
                    match survey fuel contents with
                    | none => none
                    | some items =>
                        some (if number = 16 then Item.sequence items else Item.other)
                  else if number = 3 then
                    match contents with
                    | [] => some (Item.string [])
                    | unused :: bits =>
                        if unused.toNat ≤ 8 * bits.length then some (Item.string bits) else none
                  else if number = 4 then
                    some (Item.string contents)
                  else if number = 6 then
                    (readIdentifier? contents).map Item.identifier
                  else if acceptable number contents then
                    some Item.other
                  else
                    none
                match item with
                | none => none
                | some item =>
                    match rest.drop length with
                    | [] => some [item]
                    | rest => (survey fuel rest).map (item :: ·)

/-- All items of some octets. -/
def items? (octets : Octets) : Option (List Item) :=
  survey (octets.length + 1) octets

/-- The families of keys that a container may name. -/
inductive Family where
  | rsa
  | other
  deriving Repr, DecidableEq

/-- The family that an object identifier names. -/
def Family.ofArcs? (arcs : List Nat) : Option Family :=
  if arcs = [1, 2, 840, 113549, 1, 1, 1] then
    some .rsa
  else if arcs = [1, 2, 840, 10045, 2, 1] ∨ arcs = [1, 3, 101, 112] then
    some .other
  else
    none

mutual

/-- The first key family named in a sequence or its sequences. -/
def Item.family? : Item → Option Family
  | .sequence items => Item.familyOfAll? items
  | .identifier arcs => Family.ofArcs? arcs
  | _ => none

/-- The first key family named in some items or their sequences. -/
def Item.familyOfAll? : List Item → Option Family
  | [] => none
  | item :: rest => item.family? <|> Item.familyOfAll? rest

end

mutual

/-- The first bit or octet string in an item. -/
def Item.string? : Item → Option Octets
  | .sequence items => Item.stringOfAll? items
  | .string contents => some contents
  | _ => none

/-- The first bit or octet string in some items. -/
def Item.stringOfAll? : List Item → Option Octets
  | [] => none
  | item :: rest => item.string? <|> Item.stringOfAll? rest

end

end Credential.Rsa.Der
