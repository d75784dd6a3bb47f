import Credential.Token.Signing

/-!
# Checking tokens

A token is checked in this order: the key, the form of the header, the
algorithm, the form of the signature, the signature, the form of the claims,
the times, the audience and the subject.

Claims are read twice.  The first reading wants their exact form.  The second
one looks at what decides on validity and tolerates values of the wrong kind
there; a value that it cannot read counts as missing.
-/

namespace Credential.Token

open Credential.Text
open Credential.Time (Instant)

namespace Examination

/-- A number that a time may be; a negative one is of the wrong kind. -/
def timeReader : Json.Reader :=
  Json.Reader.tolerant (Json.Reader.integer 0 (Json.maxWord : Nat))

/-- The members that the second reading looks at. -/
def members : List Json.Member :=
  [.defaulted "exp" timeReader, .defaulted "nbf" timeReader,
    ⟨"sub", .inList, Json.Reader.tolerant (.optional .text)⟩,
    ⟨"iss", .inList, Json.Reader.tolerant (.optional .any)⟩,
    ⟨"aud", .inList, Json.Reader.tolerant (.optional .any)⟩]

/-- Whether a value names one audience or a list of them. -/
def namesAudience (value : Json.Value) : Bool :=
  match value with
  | .text _ => true
  | .list items => items.all fun item => item.text?.isSome
  | _ => false

end Examination

/-- What the second reading of claims finds. -/
structure Examination where
  exp : Option Int
  nbf : Option Int
  hasSubject : Bool
  hasAudience : Bool
  deriving Repr, DecidableEq

namespace Examination

/-- The second reading of claims. -/
def read? (input : Json.Input) : Option Examination :=
  (((Json.Reader.record members).whole input).toOption).map fun value =>
    { exp := (value.member? "exp").bind Json.Value.integer?
      nbf := (value.member? "nbf").bind Json.Value.integer?
      hasSubject := ((value.member? "sub").bind Json.Value.text?).isSome
      hasAudience := ((value.member? "aud").map namesAudience).getD false }

/--
Check the times and the audience.

A token is valid up to and including its last second.  A token that names an
audience is meant for somebody else.
-/
def check (examination : Examination) (now : Int) : Except Error Unit :=
  match examination.exp with
  | none => .error .unauthorized
  | some exp =>
      if examination.hasSubject = false then
        .error .unauthorized
      else if exp < now then
        .error .expired
      else if examination.nbf.any (now < ·) then
        .error .expired
      else if examination.hasAudience then
        .error .unauthorized
      else
        .ok ()

end Examination

/-- Whether the signature of a token is good under the fields of a public key. -/
def signatureGood
    (fields : Octets)
    (algorithm : Algorithm)
    (parts : Parts)
    (signature : Octets) :
    Bool :=
  match algorithm.hash?, Rsa.PublicKey.ofFields? fields with
  | some hash, some key => key.verifies hash (Utf8.encode (String.ofList parts.message)) signature
  | _, _ => false

/-- Check the claims of a token whose signature is good. -/
def checkClaims (kid : String) (claimsPart : List Char) (now : Int) : Except Error Claims :=
  match Base64.decode? .urlSafe claimsPart with
  | none => .error .malformed
  | some octets =>
      let input := Utf8.symbols octets
      match Claims.read? input, Examination.read? input with
      | some claims, some examination =>
          match examination.check now with
          | .error error => .error error
          | .ok _ => if claims.sub = kid then .ok claims else .error .unauthorized
      | _, _ => .error .malformed

/-- The claims of a token that is good under a public key at a time. -/
def verify (token kid publicText : String) (now : Instant) : Except Error Claims :=
  match Rsa.keyFields publicText with
  | .error _ => .error .unauthorized
  | .ok fields =>
      match Parts.ofToken? token with
      | none => .error .malformed
      | some parts =>
          match parts.header? with
          | none => .error .malformed
          | some header =>
              if header.algorithm.hash?.isNone then
                .error .unauthorized
              else
                match Base64.decode? .urlSafe parts.signature with
                | none => .error .malformed
                | some signature =>
                    if signatureGood fields header.algorithm parts signature then
                      checkClaims kid parts.claims now.unixSeconds
                    else
                      .error .unauthorized

end Credential.Token
