import Credential.Proofs.Token.Pinning
import Credential.Proofs.Token.Signed

/-!
# Key ids in tokens

The key id that a token is signed under is found again in it, whatever its
characters are: in the header it stands in quotes, and the header is written in
base 64, where there are no points.
-/

namespace Credential.Token

open Credential.Text

variable {kid privateText token : String} {claims : Claims}

/-! ## The shape of a signed token -/

/-- Whether characters are octets, at least one, in base 64. -/
structure IsPart (characters : List Char) : Prop where
  notEmpty : characters ≠ []
  alphabet : ∀ character ∈ characters, character.isAlphanum ∨ character ∈ ['-', '_']
  encoded : ∃ octets, Base64.decode? .urlSafe characters = some octets ∧
    Base64.encode .urlSafe octets = characters

/-- Octets make a part, unless there are none. -/
theorem IsPart.encode
    {octets : Octets}
    (notEmpty : octets ≠ []) :
    IsPart (Base64.encode .urlSafe octets) where
  notEmpty := Base64.encode_ne_nil notEmpty .urlSafe
  alphabet := by
    have all (value : Fin 64) : (Base64.Alphabet.urlSafe.character value).isAlphanum ∨
        Base64.Alphabet.urlSafe.character value ∈ ['-', '_'] := by
      revert value
      decide
    intro character member
    obtain ⟨value, inRange, rfl⟩ := Base64.exists_of_mem_encode member
    exact all ⟨value, inRange⟩
  encoded := ⟨octets, Base64.decode?_encode .urlSafe octets, rfl⟩

/-- A text makes a part, unless it is empty. -/
theorem isPart_encodePart
    {text : String}
    (notEmpty : text ≠ "") :
    IsPart (encodePart text) := by
  apply IsPart.encode
  intro nothing
  have symbols := Utf8.symbols_encode text
  rw [nothing] at symbols
  apply notEmpty
  rw [← String.toList_eq_nil_iff]
  exact List.map_eq_nil_iff.mp symbols.symm

theorem Header.render_ne_empty (header : Header) : header.render ≠ "" := by
  intro nothing
  have read := Header.read?_render header
  rw [nothing] at read
  cases read

theorem Claims.render_ne_empty (claims : Claims) : claims.render ≠ "" := by
  intro nothing
  have read := Claims.read?_render claims
  rw [nothing] at read
  cases read

/-- A private key that has been read has a modulus of 2048 bits or nearly so. -/
theorem le_octetLength_of_signingKey
    {key : Rsa.PrivateKey}
    (read : signingKey privateText = .ok key) :
    256 ≤ Rsa.octetLength key.modulus := by
  unfold signingKey at read
  split at read
  case h_1 => cases read
  case h_2 => cases read
  case h_3 =>
    split at read
    case h_1 => cases read
    case h_2 fields other isKey =>
      cases read
      exact Rsa.PrivateKey.le_octetLength_of_check (Rsa.PrivateKey.check_of_ofFields isKey)

/-- No key that can sign is so short that a signature would be empty. -/
theorem ne_nil_of_sign?
    {key : Rsa.PrivateKey}
    {hash : Digest.Sha2}
    {message signature : Octets}
    (read : signingKey privateText = .ok key)
    (signed : key.sign? hash message = some signature) :
    signature ≠ [] := by
  have large := le_octetLength_of_signingKey read
  rw [← Rsa.PrivateKey.length_of_sign? signed] at large
  rintro rfl
  exact absurd large (by decide)

/-- The points of a signed token are those between its parts. -/
theorem pieces_issue (kid : String) (claims : Claims) (signature : Octets) :
    pieces (Parts.issue kid claims signature).render =
      [encodePart (Header.issue kid).render, encodePart claims.render,
        Base64.encode .urlSafe signature] := by
  have header := point_not_mem_encodePart (Header.issue kid).render
  have claimsPart := point_not_mem_encodePart claims.render
  have signaturePart := Base64.point_not_mem_encode signature
  rw [pieces, Parts.toList_render, Parts.message, Parts.issue]
  generalize encodePart (Header.issue kid).render = headerPart at header ⊢
  rw [List.splitOn_append_cons_self, List.splitOn_append_cons_self,
    List.splitOn_eq_singleton header, List.splitOn_eq_singleton claimsPart,
    List.splitOn_eq_singleton signaturePart]
  rfl

/-! ## The key id of a signed token -/

/-- Whether a token has three parts and shows the key id, which may be empty. -/
structure ShowsKid (kid token : String) : Prop where
  parts : ∃ header claims signature, pieces token = [header, claims, signature] ∧
    IsPart header ∧ IsPart claims ∧ IsPart signature
  named : signingKid token = if kid = "" then .error .unauthorized else .ok kid

/-- A token that is signed under an empty key id names no key. -/
theorem signingKid_of_sign_empty (signed : sign "" claims privateText = .ok token) :
    signingKid token = .error .unauthorized := by
  obtain ⟨key, signature, -, -, rfl⟩ := sign_eq_ok signed
  have headed : headerOf? (Parts.issue "" claims signature).render = some (Header.issue "") := by
    rw [← header?_eq_headerOf?, Parts.ofToken?_issue, Option.bind_some, Parts.header?_issue]
  exact signingKid_of_unnamed headed (by decide) (.inr rfl)

/-- A signed token shows the key id that it was signed under. -/
theorem ShowsKid.of_sign (signed : sign kid claims privateText = .ok token) :
    ShowsKid kid token where
  parts := by
    obtain ⟨key, signature, read, isSignature, rfl⟩ := sign_eq_ok signed
    have header : IsPart (encodePart (Header.issue kid).render) :=
      isPart_encodePart (Header.render_ne_empty _)
    have claimsPart : IsPart (encodePart claims.render) :=
      isPart_encodePart (Claims.render_ne_empty _)
    have signaturePart : IsPart (Base64.encode .urlSafe signature) :=
      .encode (ne_nil_of_sign? read isSignature)
    exact ⟨_, _, _, pieces_issue kid claims signature, header, claimsPart, signaturePart⟩
  named := by
    split
    case isTrue isEmpty =>
      subst isEmpty
      exact signingKid_of_sign_empty signed
    case isFalse notEmpty => exact signingKid_of_sign notEmpty signed

/-- Signing fails for a reason that the text of the private key decides alone. -/
theorem exists_signingFailed (privateText : String) :
    ∃ reason, ∀ kid claims error,
      sign kid claims privateText = .error error → error = .signingFailed reason := by
  cases read : signingKey privateText with
  | error refusal =>
      obtain ⟨reason, rfl⟩ : ∃ reason, refusal = .signingFailed reason := by
        unfold signingKey at read
        split at read
        case h_1 => exact ⟨_, (Except.error.inj read).symm⟩
        case h_2 => exact ⟨_, (Except.error.inj read).symm⟩
        case h_3 =>
          split at read
          case h_1 => exact ⟨_, (Except.error.inj read).symm⟩
          case h_2 => cases read
      refine ⟨reason, fun kid claims error fails => ?_⟩
      rw [sign, read] at fails
      exact (Except.error.inj fails).symm
  | ok key =>
      refine ⟨"RsaFailedSigning", fun kid claims error fails => ?_⟩
      rw [sign, read] at fails
      dsimp only at fails
      split at fails
      case h_1 => exact (Except.error.inj fails).symm
      case h_2 => cases fails

/-- A key of two primes, whose parts undo each other, signs under every key id and all claims. -/
theorem exists_sign_of_fits
    {key : Rsa.PrivateKey}
    (read : signingKey privateText = .ok key)
    (fits : key.Fits)
    (kid : String)
    (claims : Claims) :
    ∃ token, sign kid claims privateText = .ok token := by
  have large : 86 ≤ Rsa.octetLength key.modulus :=
    Nat.le_trans (by decide) (le_octetLength_of_signingKey read)
  obtain ⟨signature, signed⟩ :=
    fits.exists_sign? large (Utf8.encode (String.ofList (Parts.issue kid claims []).message))
  exact ⟨_, sign_of_sign? read signed⟩

/--
The key id survives the token.

Under every key id, whatever its characters, and for all claims: what is signed
has three parts of base 64 between points, none of them empty, and shows the key
id, or no key if the id is empty.  Where signing fails, the error and its reason
are the same under every key id and for all claims; a text that holds no usable
key fails under all of them, and a sound key under none.
-/
theorem sign_keeps_kid (privateText : String) :
    ∃ reason, ∀ kid claims,
      ((∃ token, sign kid claims privateText = .ok token ∧ ShowsKid kid token) ∨
        sign kid claims privateText = .error (.signingFailed reason)) ∧
      ((signingKey privateText).toOption = none →
        sign kid claims privateText = .error (.signingFailed reason)) ∧
      ∀ key, signingKey privateText = .ok key → key.Fits →
        ∃ token, sign kid claims privateText = .ok token := by
  obtain ⟨reason, failed⟩ := exists_signingFailed privateText
  refine ⟨reason, fun kid claims => ⟨?_, fun unusable => ?_, fun key read fits => ?_⟩⟩
  · cases signed : sign kid claims privateText with
    | ok token => exact .inl ⟨token, rfl, .of_sign signed⟩
    | error error =>
        obtain rfl := failed kid claims error signed
        exact .inr rfl
  · cases read : signingKey privateText with
    | ok key =>
        rw [read] at unusable
        cases unusable
    | error refusal =>
        have fails : sign kid claims privateText = .error refusal := by rw [sign, read]
        obtain rfl := failed kid claims refusal fails
        exact fails
  · exact exists_sign_of_fits read fits kid claims

/-- Points, quotes, control characters and others beyond ASCII come back; no key signs nothing. -/
theorem sign_keeps_kid_quoted :
    let kid := "a.b.\"\\\u0000\n\u00e9"
    (∃ token, sign kid (.issue "" .start) Rsa.PrivateKey.provenKey.render = .ok token ∧
      signingKid token = .ok kid) ∧
    ∃ reason, sign kid (.issue "" .start) "" = .error (.signingFailed reason) := by
  intro kid
  constructor
  · obtain ⟨reason, keeps⟩ := sign_keeps_kid Rsa.PrivateKey.provenKey.render
    obtain ⟨shown, -, sound⟩ := keeps kid (.issue "" .start)
    obtain ⟨token, signed⟩ := sound .provenKey signingKey_provenKey Rsa.PrivateKey.fits_provenKey
    rcases shown with ⟨other, same, shows⟩ | fails
    · exact ⟨other, same, shows.named.trans (if_neg (by decide))⟩
    · rw [signed] at fails
      cases fails
  · obtain ⟨reason, keeps⟩ := sign_keeps_kid ""
    have unusable : (signingKey "").toOption = none := by
      decide +kernel
    exact ⟨reason, (keeps kid (.issue "" .start)).2.1 unusable⟩

end Credential.Token
