import Credential.Digest.Sha2
import Credential.Rsa.Key

/-!
# RSA signatures

Signatures over a hash of the message, with the deterministic padding of ones.
-/

namespace Credential.Rsa

open Credential.Text (Octets)
open Credential.Digest

/-- The identifier of a hash function. -/
def hashIdentifier (hash : Sha2) : Octets :=
  let number : UInt8 :=
    match hash with
    | .sha256 => 1
    | .sha384 => 2
    | .sha512 => 3
  Der.element 0x06 [0x60, 0x86, 0x48, 0x01, 0x65, 0x03, 0x04, 0x02, number]

/-- The hash of a message together with the identifier of the hash function. -/
def hashInfo (hash : Sha2) (message : Octets) : Octets :=
  Der.sequence
    [Der.sequence [hashIdentifier hash, Der.null], Der.octetString (hash.hash message)]

/-- The octets that are signed, for a modulus of `size` octets. -/
def signedOctets (hash : Sha2) (size : Nat) (message : Octets) : Octets :=
  let info := hashInfo hash message
  0x00 :: 0x01 :: List.replicate (size - 3 - info.length) 0xFF ++ 0x00 :: info

namespace PrivateKey

/-- The private power of a number, by way of the two primes. -/
def power (key : PrivateKey) (value : Nat) : Nat :=
  let first := powMod value key.firstExponent key.firstPrime
  let second := powMod value key.secondExponent key.secondPrime
  let difference := first + (key.firstPrime - second % key.firstPrime)
  second + key.coefficient * difference % key.firstPrime * key.secondPrime

/-- The signature of a message, or none if the public power does not undo the private one. -/
def sign? (key : PrivateKey) (hash : Sha2) (message : Octets) : Option Octets :=
  let size := octetLength key.modulus
  let value := ofBigEndian (signedOctets hash size message)
  let signature := key.power value
  if powMod signature key.exponent key.modulus = value then
    some (bigEndian size signature)
  else
    none

end PrivateKey

namespace PublicKey

/-- Whether a signature over a message is good. -/
def verifies (key : PublicKey) (hash : Sha2) (message signature : Octets) : Bool :=
  let size := octetLength key.modulus
  let value := ofBigEndian signature
  decide key.Usable && signature.length = size && decide (value < key.modulus) &&
    powMod value key.exponent key.modulus = ofBigEndian (signedOctets hash size message)

end PublicKey

end Credential.Rsa
