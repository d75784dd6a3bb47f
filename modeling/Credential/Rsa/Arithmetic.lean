/-!
# Modular arithmetic

Powers and inverses modulo a number.
-/

namespace Credential.Rsa

/-- The power of a base modulo a number, by repeated squaring. -/
def powMod (base exponent modulus : Nat) : Nat :=
  go exponent (base % modulus) (1 % modulus)
where
  /-- Multiply `result` by the power that is left. -/
  go (exponent square result : Nat) : Nat :=
    if exponent = 0 then
      result
    else
      let result := if exponent % 2 = 1 then result * square % modulus else result
      go (exponent / 2) (square * square % modulus) result
  termination_by exponent
  decreasing_by omega

/--
The coefficient of the first argument in Bézout's identity, by Euclid's algorithm.

`first` and `second` are the coefficients of the two numbers so far.
-/
def bezout (number modulus : Nat) (first second : Int) : Int :=
  if modulus = 0 then
    first
  else
    bezout modulus (number % modulus) second (first - (number / modulus : Nat) * second)
termination_by modulus
decreasing_by exact Nat.mod_lt _ (by omega)

/-- The inverse of a number modulo another, where the two have no common divisor. -/
def inverseMod (number modulus : Nat) : Nat :=
  ((bezout number modulus 1 0) % (modulus : Int)).toNat

/-- Number of bits of a number. -/
def bitLength (value : Nat) : Nat :=
  if value = 0 then 0 else value.log2 + 1

/-- Number of octets that hold a number. -/
def octetLength (value : Nat) : Nat :=
  (bitLength value + 7) / 8

end Credential.Rsa
