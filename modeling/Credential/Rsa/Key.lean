import Credential.Rsa.Arithmetic
import Credential.Rsa.Der
import Credential.Rsa.Pem

/-!
# RSA keys

Public and private keys, the texts that carry them, and the conditions under
which a key read from a text may be used.
-/

namespace Credential.Rsa

open Credential.Text (Octets)

/-- A public key. -/
structure PublicKey where
  modulus : Nat
  exponent : Nat
  deriving Repr, DecidableEq

/-- A private key, with all that speeds up its use. -/
structure PrivateKey where
  modulus : Nat
  exponent : Nat
  privateExponent : Nat
  firstPrime : Nat
  secondPrime : Nat
  /-- The private exponent modulo the first prime less one. -/
  firstExponent : Nat
  /-- The private exponent modulo the second prime less one. -/
  secondExponent : Nat
  /-- The inverse of the second prime modulo the first. -/
  coefficient : Nat
  deriving Repr, DecidableEq

namespace PublicKey

/-- The fields of a public key. -/
def fields (key : PublicKey) : Octets :=
  Der.sequence [Der.integer key.modulus, Der.integer key.exponent]

/-- A public key as labelled text, wrapped together with the identifier of its family. -/
def render (key : PublicKey) : String :=
  Pem.render
    ⟨"PUBLIC KEY",
      Der.sequence [Der.sequence [Der.rsaIdentifier, Der.null], Der.bitString key.fields]⟩

/-- A public key from its fields. -/
def ofFields? (octets : Octets) : Option PublicKey := do
  let (contents, after) ← Der.readElement? Der.sequenceTag octets
  let (modulus, rest) ← Der.readNatural? contents
  let (exponent, rest) ← Der.readNatural? rest
  if after = [] ∧ rest = [] then
    some ⟨modulus, exponent⟩
  else
    none

/-- Whether a public key is fit for checking signatures. -/
def Usable (key : PublicKey) : Prop :=
  key.modulus % 2 = 1 ∧ 256 ≤ octetLength key.modulus ∧ octetLength key.modulus ≤ 1024 ∧
    key.exponent % 2 = 1 ∧ 3 ≤ key.exponent ∧ key.exponent < 8589934592

instance (key : PublicKey) : Decidable key.Usable :=
  inferInstanceAs (Decidable (_ ∧ _))

end PublicKey

/-- Why a private key is refused. -/
inductive Rejection where
  | invalidEncoding
  | versionNotSupported
  | tooSmall
  | tooLarge
  | invalidComponent
  | inconsistentComponents
  | lengthNotMultipleOf512Bits
  | unexpected
  deriving Repr, DecidableEq

namespace Rejection

/-- The text that reports a refusal. -/
def message : Rejection → String
  | .invalidEncoding => "InvalidEncoding"
  | .versionNotSupported => "VersionNotSupported"
  | .tooSmall => "TooSmall"
  | .tooLarge => "TooLarge"
  | .invalidComponent => "InvalidComponent"
  | .inconsistentComponents => "InconsistentComponents"
  | .lengthNotMultipleOf512Bits => "PrivateModulusLenNotMultipleOf512Bits"
  | .unexpected => "UnexpectedError"

end Rejection

namespace PrivateKey

/-- The public half of a private key. -/
def publicKey (key : PrivateKey) : PublicKey :=
  ⟨key.modulus, key.exponent⟩

/-- The private key of two primes and a public exponent. -/
def ofPrimes (firstPrime secondPrime exponent : Nat) : PrivateKey :=
  let order := Nat.lcm (firstPrime - 1) (secondPrime - 1)
  let privateExponent := inverseMod exponent order
  { modulus := firstPrime * secondPrime
    exponent
    privateExponent
    firstPrime
    secondPrime
    firstExponent := privateExponent % (firstPrime - 1)
    secondExponent := privateExponent % (secondPrime - 1)
    coefficient := inverseMod secondPrime firstPrime }

/-- The fields of a private key, after the number of their version. -/
def fields (key : PrivateKey) : Octets :=
  Der.sequence
    ([0, key.modulus, key.exponent, key.privateExponent, key.firstPrime, key.secondPrime,
      key.firstExponent, key.secondExponent, key.coefficient].map Der.integer)

/-- A private key as labelled text. -/
def render (key : PrivateKey) : String :=
  Pem.render ⟨"RSA PRIVATE KEY", key.fields⟩

/-- Refuse a number that cannot be a modulus: it must be odd and of 25 to 1024 octets. -/
def checkModulus (value : Nat) : Except Rejection Unit :=
  if 8192 < bitLength value then
    .error .tooLarge
  else if octetLength value ≤ 24 then
    .error .unexpected
  else if value % 2 = 0 then
    .error .invalidComponent
  else
    .ok ()

/-- Refuse a public half that is not fit for signing. -/
def checkPublic (key : PublicKey) : Except Rejection Unit := do
  checkModulus key.modulus
  if octetLength key.modulus < 256 then
    throw .tooSmall
  if 4096 < bitLength key.modulus then
    throw .tooLarge
  if 5 < octetLength key.exponent then
    throw .tooLarge
  if key.exponent = 0 then
    throw .invalidEncoding
  if key.exponent < 65537 then
    throw .tooSmall
  if 8589934591 < key.exponent then
    throw .tooLarge
  if key.exponent % 2 = 0 then
    throw .invalidComponent

/-- Refuse a prime that is not half as long as the modulus. -/
def checkPrime (modulus prime : Nat) : Except Rejection Unit := do
  checkModulus prime
  if bitLength prime ≠ (bitLength modulus + 1) / 2 then
    throw .inconsistentComponents
  if bitLength prime % 512 ≠ 0 then
    throw .lengthNotMultipleOf512Bits

/-- Refuse an exponent that is even or not below its prime. -/
def checkExponent (prime exponent : Nat) : Except Rejection Unit :=
  if exponent < prime ∧ exponent % 2 = 1 then
    .ok ()
  else
    .error .inconsistentComponents

/-- Refuse a private key whose parts do not fit together. -/
def check (key : PrivateKey) : Except Rejection Unit := do
  checkPublic key.publicKey
  checkPrime key.modulus key.firstPrime
  checkPrime key.modulus key.secondPrime
  if key.firstPrime * key.secondPrime % key.modulus ≠ 0 then
    throw .inconsistentComponents
  if key.privateExponent % 2 = 0 then
    throw .invalidComponent
  if bitLength key.privateExponent ≤ (bitLength key.modulus + 1) / 2 ∨
      key.modulus ≤ key.privateExponent then
    throw .inconsistentComponents
  if key.firstPrime ≤ key.coefficient then
    throw .invalidComponent
  if key.coefficient * key.secondPrime % key.firstPrime ≠ 1 then
    throw .inconsistentComponents
  checkExponent key.firstPrime key.firstExponent
  checkExponent key.secondPrime key.secondExponent

/-- The numbers at the front, as many as asked for, and what follows. -/
def readNaturals? : Nat → Octets → Option (List Nat × Octets)
  | 0, octets => some ([], octets)
  | count + 1, octets => do
      let (value, rest) ← Der.readNatural? octets
      let (values, rest) ← readNaturals? count rest
      some (value :: values, rest)

/-- A private key from its fields, if it is fit for signing. -/
def ofFields (octets : Octets) : Except Rejection PrivateKey :=
  match Der.readElement? Der.sequenceTag octets with
  | some (contents, after) =>
      match Der.readNatural? contents with
      | some (version, rest) =>
          if 255 < version then
            .error .invalidEncoding
          else if version ≠ 0 then
            .error .versionNotSupported
          else
            match readNaturals? 8 rest with
            | some ([modulus, exponent, privateExponent, firstPrime, secondPrime, firstExponent,
                secondExponent, coefficient], rest) => do
                let key : PrivateKey :=
                  { modulus, exponent, privateExponent, firstPrime, secondPrime, firstExponent,
                    secondExponent, coefficient }
                check key
                if rest ≠ [] ∨ after ≠ [] then
                  throw .invalidEncoding
                return key
            | _ => .error .invalidEncoding
      | none => .error .invalidEncoding
  | none => .error .invalidEncoding

end PrivateKey

/-- Why a labelled text holds no key. -/
inductive ContainerFault where
  /-- The text, its label or the family of its key is unknown. -/
  | format
  /-- The family is right, but there is no string that holds the key. -/
  | missingString
  deriving Repr, DecidableEq

/-- The fields of the RSA key that a labelled text carries. -/
def keyFields (text : String) : Except ContainerFault Octets :=
  match Pem.parse? text with
  | none => .error .format
  | some block =>
      match Der.items? block.contents with
      | none => .error .format
      | some items =>
          if block.label = "RSA PRIVATE KEY" ∨ block.label = "RSA PUBLIC KEY" then
            .ok block.contents
          else if block.label = "PRIVATE KEY" ∨ block.label = "PUBLIC KEY" ∨
              block.label = "CERTIFICATE" then
            match Der.Item.familyOfAll? items with
            | some .rsa =>
                match Der.Item.stringOfAll? items with
                | some contents => .ok contents
                | none => .error .missingString
            | _ => .error .format
          else
            .error .format

end Credential.Rsa
