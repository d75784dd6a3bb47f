import Credential.Error
import Credential.Rsa.Signature
import Credential.Token.Claims
import Credential.Token.Header

/-!
# Signed tokens

A token is a header, claims and a signature over the two, each in base 64, with
a point between any two.
-/

namespace Credential.Token

open Credential.Text
open Credential.Time (Instant)

/-- The three parts of a token. -/
structure Parts where
  header : List Char
  claims : List Char
  signature : List Char
  deriving Repr, DecidableEq

namespace Parts

/-- What stands before and after the last point. -/
def cutLast? (characters : List Char) : Option (List Char × List Char) :=
  let reversed := characters.reverse
  let after := reversed.takeWhile (· ≠ '.')
  match reversed.drop after.length with
  | _ :: before => some (before.reverse, after.reverse)
  | [] => none

/-- The parts of a token; all points but the last two belong to the header. -/
def ofToken? (token : String) : Option Parts := do
  let (message, signature) ← cutLast? token.toList
  let (header, claims) ← cutLast? message
  some ⟨header, claims, signature⟩

/-- What is signed. -/
def message (parts : Parts) : List Char :=
  parts.header ++ '.' :: parts.claims

/-- The header that the first part holds. -/
def header? (parts : Parts) : Option Header :=
  (Base64.decode? .urlSafe parts.header).bind fun octets => Header.read? (Utf8.symbols octets)

/-- The token of the parts. -/
def render (parts : Parts) : String :=
  String.ofList (parts.message ++ '.' :: parts.signature)

end Parts

/-- A text as a part of a token. -/
def encodePart (text : String) : List Char :=
  Base64.encode .urlSafe (Utf8.encode text)

/-- The private key of a text. -/
def signingKey (privateText : String) : Except Error Rsa.PrivateKey :=
  match Rsa.keyFields privateText with
  | .error .format => .error (.signingFailed "InvalidKeyFormat")
  | .error .missingString => .error (.signingFailed "InvalidEcdsaKey")
  | .ok fields =>
      match Rsa.PrivateKey.ofFields fields with
      | .error rejection => .error (.signingFailed ("RSA key invalid: " ++ rejection.message))
      | .ok key => .ok key

/-- The token of claims, signed under a key. -/
def sign (kid : String) (claims : Claims) (privateText : String) : Except Error String :=
  match signingKey privateText with
  | .error error => .error error
  | .ok key =>
      let unsigned : Parts :=
        ⟨encodePart (Header.issue kid).render, encodePart claims.render, []⟩
      match key.sign? .sha512 (Utf8.encode (String.ofList unsigned.message)) with
      | none => .error (.signingFailed "RsaFailedSigning")
      | some signature =>
          .ok ({ unsigned with signature := Base64.encode .urlSafe signature } : Parts).render

/-- A token for an account, issued now. -/
def generate (uid privateText : String) (now : Instant) : Except Error String :=
  if uid = "" then
    .error (.nilArgument "uid")
  else
    sign uid (Claims.issue uid now) privateText

/--
The key that a token claims to be signed with.

Nothing is checked but the header: it must be readable, name an algorithm that
tokens may be signed with, and name a key.
-/
def signingKid (token : String) : Except Error String :=
  match (Parts.ofToken? token).bind Parts.header? with
  | none => .error .malformed
  | some header =>
      if header.algorithm.hash?.isNone then
        .error .wrongSigningMethod
      else
        match header.kid with
        | some kid => if kid = "" then .error .unauthorized else .ok kid
        | none => .error .unauthorized

end Credential.Token
