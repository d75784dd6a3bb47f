import Credential.Proofs.Rsa.Signing
import Credential.Proofs.Token.Validation
import Credential.Proofs.Token.Written

/-!
# Tokens that have been signed

Claims of any kind can be signed under any key id.  A public key that verifies
what the private key signs finds in the token the very claims that were signed,
as long as they are valid; claims that are about somebody else are refused.
-/

namespace Credential.Token

open Credential.Text
open Credential.Time (Instant)

variable {kid privateText publicText token : String} {claims : Claims}

/-! ## The parts of a signed token -/

/-- The parts of a token of some claims. -/
def Parts.issue (kid : String) (claims : Claims) (signature : Octets) : Parts where
  header := encodePart (Header.issue kid).render
  claims := encodePart claims.render
  signature := Base64.encode .urlSafe signature

namespace Parts

/-- A signed token is divided into the parts that it was made of. -/
theorem ofToken?_issue (kid : String) (claims : Claims) (signature : Octets) :
    ofToken? (issue kid claims signature).render = some (issue kid claims signature) := by
  apply ofToken?_render
  · simp only [issue]
    exact point_not_mem_encodePart claims.render
  · simp only [issue]
    exact Base64.point_not_mem_encode signature

theorem header?_issue (kid : String) (claims : Claims) (signature : Octets) :
    (issue kid claims signature).header? = some (Header.issue kid) := by
  rw [header?, issue, decode?_encodePart, Option.bind_some, Utf8.symbols_encode]
  exact Header.read?_render (Header.issue kid)

end Parts

/-- A token is signed by signing its first two parts. -/
theorem sign_eq_ok (signed : sign kid claims privateText = .ok token) :
    ∃ key signature, signingKey privateText = .ok key ∧
      key.sign? .sha512 (Utf8.encode (String.ofList
        (Parts.issue kid claims signature).message)) = some signature ∧
      token = (Parts.issue kid claims signature).render := by
  unfold sign at signed
  split at signed
  case h_1 => cases signed
  case h_2 key read =>
    dsimp only at signed
    split at signed
    case h_1 => cases signed
    case h_2 signature isSignature =>
      have written := Except.ok.inj signed
      refine ⟨key, signature, read, ?_, ?_⟩
      · simpa only [Parts.message, Parts.issue] using isSignature
      · simpa only [Parts.issue] using written.symm

/-- A token is signed wherever its first two parts can be signed. -/
theorem sign_of_sign?
    {key : Rsa.PrivateKey}
    {signature : Octets}
    (read : signingKey privateText = .ok key)
    (signed : key.sign? .sha512 (Utf8.encode (String.ofList
      (Parts.issue kid claims []).message)) = some signature) :
    sign kid claims privateText = .ok (Parts.issue kid claims signature).render := by
  simp only [Parts.message, Parts.issue] at signed
  rw [sign, read]
  simp only [Parts.message, signed, Parts.issue]

/-- A signed token names the key id that it was signed under. -/
theorem signingKid_of_sign
    (notEmpty : kid ≠ "")
    (signed : sign kid claims privateText = .ok token) :
    signingKid token = .ok kid := by
  obtain ⟨key, signature, -, -, rfl⟩ := sign_eq_ok signed
  have accepted : (Header.issue kid).algorithm.hash?.isNone = false := rfl
  have named : (Header.issue kid).kid = some kid := rfl
  rw [signingKid, Parts.ofToken?_issue, Option.bind_some, Parts.header?_issue]
  simp only [accepted, named, notEmpty, Bool.false_eq_true, ↓reduceIte]

/-! ## Checking signed claims -/

/-- Whether a second is neither after the last one of claims nor before their first. -/
def Claims.IsValidAt (claims : Claims) (now : Nat) : Prop :=
  now ≤ claims.exp.toInt ∧ ∀ nbf ∈ claims.nbf, nbf.toInt ≤ now

/-- Claims are not valid at a second that is after their last one, or before their first. -/
theorem Claims.not_isValidAt_iff
    {now : Nat} :
    ¬ claims.IsValidAt now ↔
      claims.exp.toInt < now ∨ ∃ nbf ∈ claims.nbf, (now : Int) < nbf.toInt := by
  rw [IsValidAt, not_and_or, not_le]
  simp only [not_forall, not_le, exists_prop]

/-- Signed claims are read twice, and the second reading decides on their times. -/
theorem checkClaims_render (kid : String) (claims : Claims) (now : Nat) :
    checkClaims kid (encodePart claims.render) now =
      ((Examination.ofClaims claims).check now).bind fun _ =>
        if claims.sub = kid then .ok claims else .error .unauthorized := by
  rw [checkClaims, decode?_encodePart]
  dsimp only
  rw [Utf8.symbols_encode, ← Json.inputOf, Claims.read?_render, Examination.read?_render]
  dsimp only
  cases (Examination.ofClaims claims).check now with
  | error error => rfl
  | ok _ => rfl

namespace Examination

/-- Claims whose last second is before 1970 have none that counts. -/
theorem check_of_negative
    (negative : claims.exp.toInt < 0)
    (now : Nat) :
    (ofClaims claims).check now = .error .unauthorized := by
  have missing : (ofClaims claims).exp = none := by
    simpa [ofClaims] using negative
  rw [check, missing]

/-- Only the times of written claims count, if there are any. -/
theorem check_of_natural
    (natural : 0 ≤ claims.exp.toInt)
    (now : Nat) :
    (ofClaims claims).check now =
      if claims.exp.toInt < now then .error .expired
      else if ((claims.nbf.map Int64.toInt).filter (0 ≤ ·)).any ((now : Int) < ·) then
        .error .expired
      else .ok () := by
  have found : (ofClaims claims).exp = some claims.exp.toInt := by
    simpa [ofClaims] using natural
  rw [check, found]
  rfl

/-- Claims that are not valid have expired, or are too early. -/
theorem check_of_not_isValidAt
    {now : Nat}
    (natural : 0 ≤ claims.exp.toInt)
    (invalid : ¬ claims.IsValidAt now) :
    (ofClaims claims).check now = .error .expired := by
  rw [check_of_natural natural]
  by_cases late : claims.exp.toInt < now
  · rw [if_pos late]
  · obtain ⟨nbf, isNbf, early⟩ := (Claims.not_isValidAt_iff.mp invalid).resolve_left late
    have seen :
        ((claims.nbf.map Int64.toInt).filter (0 ≤ ·)).any ((now : Int) < ·) = true := by
      have notNegative : 0 ≤ nbf.toInt := by omega
      rw [Option.mem_def.mp isNbf]
      simp [notNegative, early]
    rw [if_neg late, if_pos seen]

/-- Claims that are valid pass the examination. -/
theorem check_of_isValidAt
    {now : Nat}
    (valid : claims.IsValidAt now) :
    (ofClaims claims).check now = .ok () := by
  obtain ⟨notExpired, begun⟩ := valid
  have natural : 0 ≤ claims.exp.toInt := by omega
  have unseen :
      ((claims.nbf.map Int64.toInt).filter (0 ≤ ·)).any ((now : Int) < ·) = false := by
    cases isNbf : claims.nbf with
    | none => rfl
    | some nbf =>
        have started := begun nbf isNbf
        rw [Option.map_some, Option.filter_some]
        split
        · simpa using started
        · rfl
  rw [check_of_natural natural, if_neg (not_lt.mpr notExpired), unseen, if_neg Bool.false_ne_true]

end Examination

/-- Claims that are valid come out as they were signed, unless they are about somebody else. -/
theorem checkClaims_of_isValidAt
    {now : Nat}
    (valid : claims.IsValidAt now)
    (kid : String) :
    checkClaims kid (encodePart claims.render) now =
      if claims.sub = kid then .ok claims else .error .unauthorized := by
  rw [checkClaims_render, Examination.check_of_isValidAt valid]
  rfl

/-- The refusal of claims that are not valid: they have expired, unless they ended before 1970. -/
def Claims.refusal (claims : Claims) : Error :=
  if claims.exp.toInt < 0 then .unauthorized else .expired

/-- Claims that are not valid are refused, whomever they are about. -/
theorem checkClaims_of_not_isValidAt
    {now : Nat}
    (invalid : ¬ claims.IsValidAt now)
    (kid : String) :
    checkClaims kid (encodePart claims.render) now = .error claims.refusal := by
  rw [checkClaims_render, Claims.refusal]
  by_cases negative : claims.exp.toInt < 0
  · rw [Examination.check_of_negative negative, if_pos negative]
    rfl
  · rw [Examination.check_of_not_isValidAt (not_lt.mp negative) invalid, if_neg negative]
    rfl

/-! ## Key pairs -/

/-- Whether a public key verifies whatever a private key signs. -/
def Matches (privateText publicText : String) : Prop :=
  ∀ key message signature, signingKey privateText = .ok key →
    key.sign? .sha512 message = some signature →
      ∃ fields publicKey, Rsa.keyFields publicText = .ok fields ∧
        Rsa.PublicKey.ofFields? fields = some publicKey ∧
        publicKey.verifies .sha512 message signature = true

/-- The public half of a key verifies what the key signs. -/
theorem Matches.of_usable
    {key : Rsa.PrivateKey}
    {fields : Octets}
    (product : key.firstPrime * key.secondPrime = key.modulus)
    (usable : key.publicKey.Usable)
    (read : signingKey privateText = .ok key)
    (keyed : Rsa.keyFields publicText = .ok fields)
    (found : Rsa.PublicKey.ofFields? fields = some key.publicKey) :
    Matches privateText publicText := by
  intro other message signature otherRead signed
  obtain rfl : key = other := Except.ok.inj (read.symm.trans otherRead)
  exact ⟨fields, key.publicKey, keyed, found,
    Rsa.PrivateKey.verifies_of_sign? product usable signed⟩

/-- Under a matching public key it is the claims that decide on a signed token. -/
theorem verify_of_sign
    (signed : sign kid claims privateText = .ok token)
    (matching : Matches privateText publicText)
    (account : String)
    (now : Instant) :
    verify token account publicText now =
      checkClaims account (encodePart claims.render) now.unixSeconds := by
  obtain ⟨key, signature, read, isSignature, rfl⟩ := sign_eq_ok signed
  obtain ⟨fields, publicKey, keyed, found, verified⟩ := matching key _ signature read isSignature
  have good : signatureGood fields (Header.issue kid).algorithm
      (Parts.issue kid claims signature) signature = true := by
    rw [signatureGood, found]
    exact verified
  have decoded : Base64.decode? .urlSafe (Parts.issue kid claims signature).signature =
      some signature := by
    simp only [Parts.issue]
    exact Base64.decode?_encode .urlSafe signature
  rw [verify_of_signatureGood account now keyed (Parts.ofToken?_issue _ _ _)
    (Parts.header?_issue _ _ _) rfl decoded good]
  simp only [Parts.issue]

/--
Whether texts hold the two halves of a key pair.

The private half signs every message, and the public one verifies what it signs.
-/
structure IsPair (privateText publicText : String) : Prop where
  signs : ∃ key, signingKey privateText = .ok key ∧
    ∀ message, ∃ signature, key.sign? .sha512 message = some signature
  verifies : Matches privateText publicText

namespace IsPair

/-- With a key pair every token can be signed. -/
theorem exists_sign_eq_ok
    (pair : IsPair privateText publicText)
    (kid : String)
    (claims : Claims) :
    ∃ token, sign kid claims privateText = .ok token := by
  obtain ⟨key, read, signs⟩ := pair.signs
  obtain ⟨signature, signed⟩ :=
    signs (Utf8.encode (String.ofList (Parts.issue kid claims []).message))
  exact ⟨_, sign_of_sign? read signed⟩

/-- A key of two primes makes a pair with its public half. -/
theorem of_fits
    {key : Rsa.PrivateKey}
    {fields : Octets}
    (fits : key.Fits)
    (usable : key.publicKey.Usable)
    (read : signingKey privateText = .ok key)
    (keyed : Rsa.keyFields publicText = .ok fields)
    (found : Rsa.PublicKey.ofFields? fields = some key.publicKey) :
    IsPair privateText publicText where
  signs := by
    have large : 86 ≤ Rsa.octetLength key.modulus := Nat.le_trans (by decide) usable.2.1
    exact ⟨key, read, fits.exists_sign? large⟩
  verifies := .of_usable fits.modulus usable read keyed found

end IsPair

theorem signingKey_provenKey :
    signingKey Rsa.PrivateKey.provenKey.render = .ok .provenKey := by
  apply Manager.eq_ok_of_toOption
  rw [signingKey, Rsa.keyFields, Rsa.Pem.parse?, Rsa.PrivateKey.render, Rsa.Pem.toList_render]
  decide +kernel

/-- The texts of a key that is made of proven primes hold a key pair. -/
theorem isPair_provenKey :
    IsPair Rsa.PrivateKey.provenKey.render Rsa.PrivateKey.provenKey.publicKey.render := by
  have held : ((Rsa.keyFields Rsa.PrivateKey.provenKey.publicKey.render).toOption.bind
      Rsa.PublicKey.ofFields?) = some Rsa.PrivateKey.provenKey.publicKey := by
    rw [Rsa.keyFields, Rsa.Pem.parse?, Rsa.PublicKey.render, Rsa.Pem.toList_render]
    decide +kernel
  obtain ⟨fields, keyed, found⟩ := Option.bind_eq_some_iff.mp held
  exact .of_fits Rsa.PrivateKey.fits_provenKey (by decide +kernel) signingKey_provenKey
    (Manager.eq_ok_of_toOption keyed) found

/-! ## What has been signed is verified -/

/--
Verifying undoes signing.

With a key pair any claims can be signed under any key id.  At every second at
which they are valid, verification gives back the claims, field for field, if
they are about the account of the key id, and refuses them otherwise.
-/
theorem verify_sign
    (pair : IsPair privateText publicText)
    (kid : String)
    (claims : Claims) :
    ∃ token, sign kid claims privateText = .ok token ∧
      ∀ now : Instant,
        now.unixSeconds ≤ claims.exp.toInt →
          (∀ nbf ∈ claims.nbf, nbf.toInt ≤ now.unixSeconds) →
            verify token kid publicText now =
              if claims.sub = kid then .ok claims else .error .unauthorized := by
  obtain ⟨token, signed⟩ := pair.exists_sign_eq_ok kid claims
  refine ⟨token, signed, fun now notExpired begun => ?_⟩
  rw [verify_of_sign signed pair.verifies]
  exact checkClaims_of_isValidAt ⟨notExpired, begun⟩ kid

/-- Quotes, backslashes, line ends and the bounds of the integers survive. -/
theorem verify_sign_quoted :
    let claims : Claims := ⟨"\"ada\" \\ \u0000\n", Int64.minValue, Int64.maxValue, some (-1)⟩
    ∃ token, sign claims.sub claims Rsa.PrivateKey.provenKey.render = .ok token ∧
      verify token claims.sub Rsa.PrivateKey.provenKey.publicKey.render .start = .ok claims := by
  intro claims
  obtain ⟨token, signed, verified⟩ := verify_sign isPair_provenKey claims.sub claims
  have notExpired : ((0 : Nat) : Int) ≤ claims.exp.toInt := by
    change ((0 : Nat) : Int) ≤ Int64.maxValue.toInt
    decide
  have begun : ∀ nbf ∈ claims.nbf, nbf.toInt ≤ ((0 : Nat) : Int) := by
    rintro nbf ⟨⟩
    decide
  exact ⟨token, signed, (verified .start notExpired begun).trans (if_pos rfl)⟩

end Credential.Token
