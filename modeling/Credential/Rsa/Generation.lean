import Credential.Digest.Sha2
import Credential.Rsa.Key

/-!
# Key generation

Keys of 2048 bits drawn from a seed.  The draw is a function of the seed, so the
same seed gives the same key; whoever needs a new key brings a new seed.
-/

namespace Credential.Rsa.Generation

open Credential.Text (Octets)
open Credential.Digest

/-- Number of bits of a generated modulus. -/
def keyBits : Nat := 2048

/-- The public exponent of generated keys. -/
def publicExponent : Nat := 65537

/-- Odd primes below 2000, by trial division. -/
def smallPrimes : List Nat :=
  ((List.range 2000).filter fun number =>
    3 ≤ number && (List.range 45).all fun divisor =>
      divisor < 2 || number ≤ divisor || number % divisor ≠ 0)

/-- The product of the small primes. -/
def smallProduct : Nat :=
  smallPrimes.foldl (· * ·) 1

/-- Whether repeated squaring of a power reaches minus one within some steps. -/
def reachesMinusOne (modulus : Nat) : Nat → Nat → Bool
  | 0, _ => false
  | steps + 1, value =>
      value = modulus - 1 || reachesMinusOne modulus steps (value * value % modulus)

/-- Number of times that two divides a positive number. -/
def twos (number : Nat) : Nat :=
  if number = 0 ∨ number % 2 = 1 then 0 else twos (number / 2) + 1
termination_by number
decreasing_by omega

/-- Whether an odd number passes the strong test to a base. -/
def passes (number base : Nat) : Bool :=
  let steps := twos (number - 1)
  let value := powMod base ((number - 1) / Nat.pow 2 steps) number
  value = 1 || reachesMinusOne number steps value

/-- Whether a number is taken for a prime that suits the public exponent. -/
def accepted (number : Nat) : Bool :=
  Nat.gcd number smallProduct = 1 && Nat.gcd (number - 1) publicExponent = 1 &&
    [2, 3, 5, 7, 11, 13, 17, 19].all (passes number)

/-- The first accepted number among `count` odd ones. -/
def search? : Nat → Nat → Option Nat
  | 0, _ => none
  | count + 1, number => if accepted number then some number else search? count (number + 2)

/-- Octets drawn from a seed for one purpose. -/
def draw (seed : Octets) (purpose : String) (count : Nat) : Octets :=
  ((List.range ((count + 63) / 64)).flatMap fun block =>
    Sha2.sha512.hash (bigEndian 8 block ++ Text.Utf8.encode purpose ++ seed)).take count

/-- A prime of half the bits of a modulus; its two highest bits are ones. -/
def prime? (seed : Octets) (purpose : String) : Option Nat :=
  let half := keyBits / 2
  let value := ofBigEndian (draw seed purpose (half / 8))
  let start := (value % Nat.pow 2 (half - 2)) / 2 * 2 + 1 + 3 * Nat.pow 2 (half - 2)
  search? 20000 start

/-- The key that a seed gives. -/
def generate? (seed : Octets) : Option PrivateKey := do
  let first ← prime? seed "first prime"
  let second ← prime? seed "second prime"
  if first = second then
    none
  else
    some (PrivateKey.ofPrimes first second publicExponent)

end Credential.Rsa.Generation
