import Credential.Proofs.Rsa.Signature
import Mathlib.FieldTheory.Finite.Basic
import Mathlib.NumberTheory.LucasPrimality
import Mathlib.Tactic.NormNum.Prime

/-!
# Keys that sign every message

A private key of two primes signs whatever it is given: the public power undoes
the private one, which is taken modulo each of the two primes.
-/

namespace Credential

namespace Digest

@[simp] theorem Sha2.length_hash (member : Sha2) (message : Text.Octets) :
    (member.hash message).length = member.size := by
  cases member <;> simp [Sha2.hash, Sha2.State.words, Sha2.size, Sha2.width]

/-- A number is smaller than the power of its number of octets. -/
theorem ofBigEndian_lt (octets : Text.Octets) : ofBigEndian octets < 256 ^ octets.length := by
  induction octets using List.reverseRecOn with
  | nil => exact Nat.one_pos
  | append_singleton octets octet inductionHypothesis =>
      have last := octet.toNat_lt
      rw [ofBigEndian, List.foldl_append, ← ofBigEndian, List.length_append, List.length_singleton,
        pow_succ]
      simp only [List.foldl_cons, List.foldl_nil]
      omega

end Digest

namespace Rsa

/-! ## Powers -/

/-- Repeated squaring computes the power modulo a number. -/
theorem powMod_eq (base exponent modulus : Nat) :
    powMod base exponent modulus = base ^ exponent % modulus := by
  have go (exponent square result : Nat) (reduced : result % modulus = result) :
      powMod.go modulus exponent square result = result * square ^ exponent % modulus := by
    induction exponent, square, result using powMod.go.induct modulus with
    | case1 square result => rw [powMod.go, if_pos rfl, pow_zero, Nat.mul_one, reduced]
    | case2 exponent square result more next inductionHypothesis =>
        rw [powMod.go, if_neg more]
        have squared : (square * square % modulus) ^ (exponent / 2) % modulus =
            square ^ (2 * (exponent / 2)) % modulus := by
          rw [← Nat.pow_mod, pow_mul, sq]
        by_cases odd : exponent % 2 = 1
        · simp only [next, odd, ↓reduceIte, ↓reduceDIte] at inductionHypothesis ⊢
          rw [inductionHypothesis (Nat.mod_mod _ _), Nat.mul_mod, squared, Nat.mod_mod,
            ← Nat.mul_mod, Nat.mul_assoc, ← pow_succ']
          congr 3
          omega
        · simp only [next, odd, ↓reduceIte, ↓reduceDIte] at inductionHypothesis ⊢
          rw [inductionHypothesis reduced, Nat.mul_mod, squared, ← Nat.mul_mod]
          congr 3
          omega
  rw [powMod, go _ _ _ (Nat.mod_mod 1 modulus), Nat.mul_mod, Nat.mod_mod, ← Nat.mul_mod,
    Nat.one_mul, ← Nat.pow_mod]

/-- A number whose predecessor is a prime times a power of two is a prime, by Lucas's test. -/
theorem prime_of_powMod
    {number base factor twos : Nat}
    (predecessor : number - 1 = factor * 2 ^ twos)
    (isPrime : factor.Prime)
    (one : powMod base (number - 1) number = 1)
    (differ : ∀ divisor ∈ [2, factor], powMod base ((number - 1) / divisor) number ≠ 1) :
    number.Prime := by
  have positive : 0 < factor * 2 ^ twos := Nat.mul_pos isPrime.pos (Nat.two_pow_pos twos)
  have pow_eq_one_iff (exponent : Nat) :
      (base : ZMod number) ^ exponent = 1 ↔ powMod base exponent number = 1 := by
    rw [← Nat.cast_pow, ← Nat.cast_one, ZMod.natCast_eq_natCast_iff', powMod_eq,
      Nat.mod_eq_of_lt (show 1 < number by omega)]
  apply lucas_primality number base ((pow_eq_one_iff _).mpr one)
  intro divisor divisorPrime divides
  rw [ne_eq, pow_eq_one_iff]
  apply differ
  rw [predecessor, divisorPrime.dvd_mul] at divides
  rw [List.mem_cons, List.mem_singleton]
  rcases divides with divides | divides
  · exact .inr ((Nat.prime_dvd_prime_iff_eq divisorPrime isPrime).mp divides)
  · exact .inl ((Nat.prime_dvd_prime_iff_eq divisorPrime Nat.prime_two).mp
      (divisorPrime.dvd_of_dvd_pow divides))

/-- A number is at least the power of one octet less than it takes. -/
theorem pow_octetLength_le {value : Nat} (positive : octetLength value ≠ 0) :
    256 ^ (octetLength value - 1) ≤ value := by
  have nonzero : value ≠ 0 := by
    rintro rfl
    exact positive rfl
  have octets : octetLength value = (value.log2 + 8) / 8 := by
    rw [octetLength, bitLength, if_neg nonzero]
  calc
    256 ^ (octetLength value - 1) = 2 ^ (8 * (octetLength value - 1)) := by rw [Nat.pow_mul]
    _ ≤ 2 ^ value.log2 := by
      apply Nat.pow_le_pow_right (by decide)
      omega
    _ ≤ value := Nat.log2_self_le nonzero

/-! ## Two primes -/

namespace PrivateKey

/-- Whether a private key is made of two primes, and its parts undo each other. -/
structure Fits (key : PrivateKey) : Prop where
  firstPrime : key.firstPrime.Prime
  secondPrime : key.secondPrime.Prime
  modulus : key.firstPrime * key.secondPrime = key.modulus
  coefficient : key.coefficient * key.secondPrime % key.firstPrime = 1
  firstExponent : key.exponent * key.firstExponent % (key.firstPrime - 1) = 1
  secondExponent : key.exponent * key.secondExponent % (key.secondPrime - 1) = 1

/-- Modulo a prime, the public power undoes a power with an inverse exponent. -/
theorem pow_pow_of_prime
    {prime exponent inverse : Nat}
    (isPrime : prime.Prime)
    (inverts : exponent * inverse % (prime - 1) = 1)
    (value : ZMod prime) :
    (value ^ inverse) ^ exponent = value := by
  have : Fact prime.Prime := ⟨isPrime⟩
  have product : inverse * exponent = (prime - 1) * (exponent * inverse / (prime - 1)) + 1 := by
    rw [Nat.mul_comm inverse exponent]
    conv_lhs => rw [← Nat.div_add_mod (exponent * inverse) (prime - 1), inverts]
  rw [← pow_mul, product, pow_succ, pow_mul]
  by_cases zero : value = 0
  · rw [zero, mul_zero]
  · rw [ZMod.pow_card_sub_one_eq_one zero, one_pow, one_mul]

/-- Modulo the second prime, the private power is the one that is taken there. -/
theorem power_second (key : PrivateKey) (value : Nat) :
    (key.power value : ZMod key.secondPrime) =
      (value : ZMod key.secondPrime) ^ key.secondExponent := by
  rw [power]
  simp only [Nat.cast_add, Nat.cast_mul, CharP.cast_eq_zero, mul_zero, add_zero, powMod_eq,
    ZMod.natCast_mod, Nat.cast_pow]

namespace Fits

variable {key : PrivateKey}

/-- Modulo the first prime too, if the coefficient is the inverse of the second there. -/
theorem power_first (fits : key.Fits) (value : Nat) :
    (key.power value : ZMod key.firstPrime) = (value : ZMod key.firstPrime) ^ key.firstExponent := by
  have : Fact key.firstPrime.Prime := ⟨fits.firstPrime⟩
  have inverse : (key.coefficient : ZMod key.firstPrime) * key.secondPrime = 1 := by
    rw [← Nat.cast_mul, ← Nat.cast_one, ZMod.natCast_eq_natCast_iff', fits.coefficient,
      Nat.one_mod_eq_one.mpr fits.firstPrime.one_lt.ne']
  have below (number : Nat) : number % key.firstPrime ≤ key.firstPrime :=
    (Nat.mod_lt number fits.firstPrime.pos).le
  rw [power]
  simp only [Nat.cast_add, Nat.cast_mul, ZMod.natCast_mod, Nat.cast_sub (below _),
    CharP.cast_eq_zero, powMod_eq, Nat.cast_pow]
  linear_combination
    ((value : ZMod key.firstPrime) ^ key.firstExponent -
      ((value ^ key.secondExponent % key.secondPrime : Nat) : ZMod key.firstPrime)) * inverse

/-- The public power undoes the private one. -/
theorem power_pow (fits : key.Fits) {value : Nat} (below : value < key.modulus) :
    key.power value ^ key.exponent % key.modulus = value := by
  have differs : key.firstPrime ≠ key.secondPrime := by
    intro same
    have coefficient := fits.coefficient
    rw [same, Nat.mul_mod_left] at coefficient
    cases coefficient
  have coprime : Nat.Coprime key.firstPrime key.secondPrime :=
    (Nat.coprime_primes fits.firstPrime fits.secondPrime).mpr differs
  have first : key.power value ^ key.exponent ≡ value [MOD key.firstPrime] := by
    rw [← ZMod.natCast_eq_natCast_iff, Nat.cast_pow, fits.power_first,
      pow_pow_of_prime fits.firstPrime fits.firstExponent]
  have second : key.power value ^ key.exponent ≡ value [MOD key.secondPrime] := by
    rw [← ZMod.natCast_eq_natCast_iff, Nat.cast_pow, power_second,
      pow_pow_of_prime fits.secondPrime fits.secondExponent]
  have both := (Nat.modEq_and_modEq_iff_modEq_mul coprime).mp ⟨first, second⟩
  rw [fits.modulus] at both
  rw [both, Nat.mod_eq_of_lt below]

end Fits

end PrivateKey

/-! ## Keys that have been read -/

theorem exists_of_bind_eq_ok
    {ε α β : Type}
    {first : Except ε α}
    {next : α → Except ε β}
    {result : β}
    (succeeds : (first >>= next) = .ok result) :
    ∃ value, first = .ok value ∧ next value = .ok result := by
  cases first with
  | error error => cases succeeds
  | ok value => exact ⟨value, rfl, succeeds⟩

namespace PrivateKey

variable {key : PrivateKey}

/-- A private key is read from fields only if its parts fit together. -/
theorem check_of_ofFields
    {fields : Text.Octets}
    (read : ofFields fields = .ok key) :
    key.check = .ok () := by
  unfold ofFields at read
  split at read
  case h_2 => cases read
  split at read
  case h_2 => cases read
  split at read
  case isTrue => cases read
  split at read
  case isTrue => cases read
  split at read
  case h_2 => cases read
  dsimp only at read
  obtain ⟨⟨⟩, checked, ended⟩ := exists_of_bind_eq_ok read
  split at ended
  case isTrue => cases ended
  cases ended
  exact checked

/-- The modulus of a key whose parts fit together has 2048 bits or nearly so. -/
theorem le_octetLength_of_check (checked : key.check = .ok ()) :
    256 ≤ octetLength key.modulus := by
  obtain ⟨⟨⟩, isPublic, -⟩ := exists_of_bind_eq_ok checked
  obtain ⟨⟨⟩, -, sized⟩ := exists_of_bind_eq_ok isPublic
  by_contra small
  have tooSmall : octetLength key.publicKey.modulus < 256 := not_le.mp small
  rw [if_pos tooSmall] at sized
  cases sized

/-- A signature has as many octets as the modulus. -/
theorem length_of_sign?
    {hash : Digest.Sha2}
    {message signature : Text.Octets}
    (signed : key.sign? hash message = some signature) :
    signature.length = octetLength key.modulus := by
  unfold sign? at signed
  dsimp only at signed
  split at signed
  case isFalse => cases signed
  case isTrue =>
    cases signed
    exact Digest.length_bigEndian _ _

end PrivateKey

/-! ## Octets that are signed -/

theorem Der.length_element
    {contents : Text.Octets}
    (short : contents.length < 0x80)
    (tag : UInt8) :
    (Der.element tag contents).length = contents.length + 2 := by
  rw [Der.element, Der.lengthOctets, if_pos short]
  rfl

theorem length_hashInfo (message : Text.Octets) :
    (hashInfo .sha512 message).length = 83 := by
  have hashed : (Digest.Sha2.sha512.hash message).length = 64 :=
    Digest.Sha2.length_hash .sha512 message
  have wrapped : (Der.octetString (Digest.Sha2.sha512.hash message)).length = 66 := by
    rw [Der.octetString, Der.length_element (by omega), hashed]
  have named : (Der.sequence [hashIdentifier .sha512, Der.null]).length = 15 := by
    decide
  have contents : [Der.sequence [hashIdentifier .sha512, Der.null],
      Der.octetString (Digest.Sha2.sha512.hash message)].flatten.length = 81 := by
    simp only [List.flatten_cons, List.flatten_nil, List.append_nil, List.length_append, named,
      wrapped]
  rw [hashInfo, Der.sequence, Der.length_element (by omega), contents]

/-- The octets that are signed write a number below every modulus of so many octets. -/
theorem ofBigEndian_signedOctets_lt
    {modulus : Nat}
    (large : 86 ≤ octetLength modulus)
    (message : Text.Octets) :
    Digest.ofBigEndian (signedOctets .sha512 (octetLength modulus) message) < modulus := by
  have written := Digest.ofBigEndian_lt
    (0x01 :: List.replicate (octetLength modulus - 3 - 83) 0xFF ++
      0x00 :: hashInfo .sha512 message)
  have length : (0x01 :: List.replicate (octetLength modulus - 3 - 83) 0xFF ++
      0x00 :: hashInfo .sha512 message).length = octetLength modulus - 1 := by
    simp only [List.length_append, List.length_cons, List.length_replicate, length_hashInfo]
    omega
  -- The first octet is zero, so it adds nothing.
  calc
    _ = Digest.ofBigEndian (0x01 :: List.replicate (octetLength modulus - 3 - 83) 0xFF ++
          0x00 :: hashInfo .sha512 message) := by
      rw [signedOctets, length_hashInfo]
      rfl
    _ < 256 ^ (octetLength modulus - 1) := length ▸ written
    _ ≤ modulus := pow_octetLength_le (by omega)

namespace PrivateKey

/-- A key of two primes signs every message, if its modulus has room for the hash. -/
theorem Fits.exists_sign?
    {key : PrivateKey}
    (fits : key.Fits)
    (large : 86 ≤ octetLength key.modulus)
    (message : Text.Octets) :
    ∃ signature, key.sign? .sha512 message = some signature := by
  have undone := fits.power_pow (ofBigEndian_signedOctets_lt large message)
  refine Option.isSome_iff_exists.mp ?_
  rw [sign?]
  rw [powMod_eq, undone, if_pos rfl]
  rfl

/-- A private key of 2048 bits, of two primes that pass Lucas's test. -/
def provenKey : PrivateKey :=
  .ofPrimes (3931 * 2 ^ 1012 + 1) (7547 * 2 ^ 1011 + 1) 65537

theorem fits_provenKey : provenKey.Fits where
  firstPrime := by
    have factor : Nat.Prime 3931 := by norm_num
    have twos : provenKey.firstPrime - 1 = 3931 * 2 ^ 1012 := by decide +kernel
    have one : powMod 3 (provenKey.firstPrime - 1) provenKey.firstPrime = 1 := by decide +kernel
    exact prime_of_powMod twos factor one (by decide +kernel)
  secondPrime := by
    have factor : Nat.Prime 7547 := by norm_num
    have twos : provenKey.secondPrime - 1 = 7547 * 2 ^ 1011 := by decide +kernel
    have one : powMod 3 (provenKey.secondPrime - 1) provenKey.secondPrime = 1 := by decide +kernel
    exact prime_of_powMod twos factor one (by decide +kernel)
  modulus := by decide +kernel
  coefficient := by decide +kernel
  firstExponent := by decide +kernel
  secondExponent := by decide +kernel

end PrivateKey

end Rsa

end Credential
