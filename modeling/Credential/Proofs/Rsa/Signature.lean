import Credential.Rsa.Signature
import Mathlib.Data.Nat.Log
import Mathlib.Tactic.Ring

/-!
# Signatures that verify

A private key signs nothing that its public half would not verify, because it
undoes each signature by the public power before it gives it away.
-/

namespace Credential

/-! ## Numbers as octets -/

namespace Digest

@[simp] theorem length_littleEndian (count value : Nat) :
    (littleEndian count value).length = count := by
  simp [littleEndian]

@[simp] theorem length_bigEndian (count value : Nat) : (bigEndian count value).length = count := by
  simp [bigEndian]

theorem littleEndian_succ (count value : Nat) :
    littleEndian (count + 1) value =
      UInt8.ofNat value :: littleEndian count (value / 256) := by
  have shifted (place : Nat) : value >>> (8 * (place + 1)) = (value / 256) >>> (8 * place) := by
    rw [Nat.mul_succ, Nat.add_comm, Nat.shiftRight_add, Nat.shiftRight_eq_div_pow value 8]
  simp [littleEndian, List.range_succ_eq_map, shifted]

/-- The octets of a number write what is left of it in so many octets. -/
theorem ofLittleEndian_littleEndian (count value : Nat) :
    ofLittleEndian (littleEndian count value) = value % 256 ^ count := by
  induction count generalizing value with
  | zero => simp [littleEndian, ofLittleEndian, Nat.mod_one]
  | succ count inductionHypothesis =>
      have others : ofLittleEndian (littleEndian count (value / 256)) =
          value / 256 % 256 ^ count := inductionHypothesis (value / 256)
      have divided : value % 256 ^ (count + 1) =
          value % 256 + 256 * (value / 256 % 256 ^ count) := by
        rw [Nat.pow_succ', Nat.mod_mul]
      rw [littleEndian_succ, ofLittleEndian, List.foldr_cons, ← ofLittleEndian, others,
        UInt8.toNat_ofNat', divided]
      omega

theorem ofBigEndian_bigEndian {count value : Nat} (fits : value < 256 ^ count) :
    ofBigEndian (bigEndian count value) = value := by
  rw [bigEndian, ofBigEndian, List.foldl_reverse, ← ofLittleEndian, ofLittleEndian_littleEndian,
    Nat.mod_eq_of_lt fits]

end Digest

namespace Rsa

theorem lt_pow_octetLength (value : Nat) : value < 256 ^ octetLength value := by
  have bits : value < 2 ^ bitLength value := by
    rw [bitLength]
    split
    case isTrue zero => simp [zero]
    case isFalse positive => exact Nat.lt_log2_self
  calc
    value < 2 ^ bitLength value := bits
    _ ≤ 2 ^ (8 * octetLength value) := by
      apply Nat.pow_le_pow_right (by decide)
      rw [octetLength]
      omega
    _ = 256 ^ octetLength value := by rw [Nat.pow_mul]

theorem powMod_lt (base exponent : Nat) {modulus : Nat} (positive : 0 < modulus) :
    powMod base exponent modulus < modulus := by
  have go (exponent square result : Nat) (below : result < modulus) :
      powMod.go modulus exponent square result < modulus := by
    induction exponent, square, result using powMod.go.induct modulus with
    | case1 square result =>
        rw [powMod.go]
        exact below
    | case2 exponent square result more next inductionHypothesis =>
        rw [powMod.go, if_neg more]
        apply inductionHypothesis
        dsimp only [next]
        split
        · exact Nat.mod_lt _ positive
        · exact below
  exact go _ _ _ (Nat.mod_lt 1 positive)

namespace PrivateKey

/-- A private power is below the product of the primes. -/
theorem power_lt
    {key : PrivateKey}
    (first : 0 < key.firstPrime)
    (second : 0 < key.secondPrime)
    (value : Nat) :
    key.power value < key.firstPrime * key.secondPrime := by
  have low : powMod value key.secondExponent key.secondPrime < key.secondPrime :=
    powMod_lt value key.secondExponent second
  have high (number : Nat) : number % key.firstPrime + 1 ≤ key.firstPrime :=
    Nat.mod_lt number first
  rw [power]
  -- The power is a multiple of the second prime, fewer times than the first, and a remainder.
  calc
    _ < key.secondPrime + _ := Nat.add_lt_add_right low _
    _ = (_ % key.firstPrime + 1) * key.secondPrime := by ring
    _ ≤ key.firstPrime * key.secondPrime := Nat.mul_le_mul_right _ (high _)

/-- A signature that a private key gives verifies under its public half. -/
theorem verifies_of_sign?
    {key : PrivateKey}
    {hash : Digest.Sha2}
    {message signature : Text.Octets}
    (product : key.firstPrime * key.secondPrime = key.modulus)
    (usable : key.publicKey.Usable)
    (signed : key.sign? hash message = some signature) :
    key.publicKey.verifies hash message signature = true := by
  unfold sign? at signed
  dsimp only at signed
  split at signed
  case isFalse => cases signed
  case isTrue undone =>
    cases signed
    have positive : 0 < key.firstPrime * key.secondPrime := by
      rw [product]
      exact Nat.pos_of_ne_zero fun zero => by
        have odd := usable.1
        rw [publicKey, zero] at odd
        cases odd
    have below := power_lt (Nat.pos_of_mul_pos_right positive) (Nat.pos_of_mul_pos_left positive)
      (Digest.ofBigEndian (signedOctets hash (octetLength key.modulus) message))
    rw [product] at below
    have fits := Nat.lt_trans below (lt_pow_octetLength key.modulus)
    have read : Digest.ofBigEndian (Digest.bigEndian (octetLength key.modulus) _) = _ :=
      Digest.ofBigEndian_bigEndian fits
    rw [PublicKey.verifies, read]
    simp only [Bool.and_eq_true, decide_eq_true_eq]
    exact ⟨⟨⟨usable, Digest.length_bigEndian _ _⟩, below⟩, undone⟩

end PrivateKey

end Rsa

end Credential
