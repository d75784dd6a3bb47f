import Credential.Json.Value
import Credential.Occasion
import Credential.Rsa.Generation

/-!
# Drawn occasions

Occasions whose random parts are drawn from a seed.
-/

namespace Credential.Occasion

open Credential.Text (Octets)
open Credential.Time (Instant)

/-- The characters of octets in hexadecimal. -/
def hexCharacters (octets : Octets) : List Char :=
  octets.flatMap fun octet => [Json.hexDigit (octet.toNat / 16), Json.hexDigit (octet.toNat % 16)]

/--
A random identifier of sixteen octets in the usual notation.

Four bits tell that it is a random one, and two bits that this is the usual layout.
-/
def identifier (octets : Octets) : String :=
  let marked := octets.mapIdx fun place octet =>
    if place = 6 then octet &&& 0x0F ||| 0x40
    else if place = 8 then octet &&& 0x3F ||| 0x80
    else octet
  let part (start count : Nat) : String :=
    String.ofList (hexCharacters ((marked.drop start).take count))
  part 0 4 ++ "-" ++ part 4 2 ++ "-" ++ part 6 2 ++ "-" ++ part 8 2 ++ "-" ++ part 10 6

/-- Number of octets of a salt. -/
def saltSize : Nat := 16

/-- The occasion of a time whose random parts come from a seed. -/
def drawn (now : Instant) (seed : Octets) : Occasion :=
  { now
    uid := identifier (Rsa.Generation.draw seed "identifier" 16)
    salt := Rsa.Generation.draw seed "salt" saltSize
    drawnKey := Thunk.mk fun _ => Rsa.Generation.generate? seed }

end Credential.Occasion
