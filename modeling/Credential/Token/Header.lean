import Credential.Digest.Sha2
import Credential.Json.Reader

/-!
# Headers of tokens

A header names the algorithm of the signature and, perhaps, the key.
-/

namespace Credential.Token

open Credential.Digest (Sha2)

/-- The signature algorithms that a header may name. -/
inductive Algorithm where
  | hs256
  | hs384
  | hs512
  | es256
  | es384
  | rs256
  | rs384
  | rs512
  | ps256
  | ps384
  | ps512
  | edDsa
  deriving Repr, DecidableEq

namespace Algorithm

/-- All algorithms. -/
def all : List Algorithm :=
  [.hs256, .hs384, .hs512, .es256, .es384, .rs256, .rs384, .rs512, .ps256, .ps384, .ps512, .edDsa]

/-- The name of an algorithm. -/
def name : Algorithm → String
  | .hs256 => "HS256"
  | .hs384 => "HS384"
  | .hs512 => "HS512"
  | .es256 => "ES256"
  | .es384 => "ES384"
  | .rs256 => "RS256"
  | .rs384 => "RS384"
  | .rs512 => "RS512"
  | .ps256 => "PS256"
  | .ps384 => "PS384"
  | .ps512 => "PS512"
  | .edDsa => "EdDSA"

/-- The algorithm of a name. -/
def ofName? (name : String) : Option Algorithm :=
  all.find? (·.name = name)

/-- The hash function of an algorithm that tokens may be signed with. -/
def hash? : Algorithm → Option Sha2
  | .rs256 => some .sha256
  | .rs384 => some .sha384
  | .rs512 => some .sha512
  | _ => none

/-- The algorithm that tokens are issued with. -/
def issuing : Algorithm := .rs512

/-- The name of an algorithm, or an object of that name with null. -/
def reader : Json.Reader := fun depth input =>
  let name := Json.Reader.textThat fun text => (ofName? text).isSome
  match Json.skipSpace input with
  | some '{' :: rest =>
      if depth ≤ 1 then
        .stop .malformed rest
      else
        (name (depth - 1) rest).bind fun value rest =>
          (Json.Reader.passColon rest).bind fun _ rest =>
            (Json.readWord "null".toList (Json.skipSpace rest)).bind fun _ rest =>
              match Json.skipSpace rest with
              | some '}' :: rest => .done value rest
              | rest => .stop .malformed rest
  | rest => name depth rest

end Algorithm

namespace EmbeddedKey

/-- Whether an optional member is missing, null, or passes a test. -/
def optionally (accepts : Json.Value → Bool) (key : Json.Value) (name : String) : Bool :=
  match key.member? name with
  | none => true
  | some .null => true
  | some value => accepts value

/-- Whether a value is a text. -/
def isText (value : Json.Value) : Bool :=
  value.text?.isSome

/-- Whether a value is a list of texts. -/
def isTexts (value : Json.Value) : Bool :=
  match value with
  | .list items => items.all isText
  | _ => false

/-- Whether a member is one of some texts. -/
def isOneOf (names : List String) (key : Json.Value) (name : String) : Bool :=
  match (key.member? name).bind Json.Value.text? with
  | some text => names.contains text
  | none => false

/-- Whether a member is a text. -/
def hasText (key : Json.Value) (name : String) : Bool :=
  ((key.member? name).bind Json.Value.text?).isSome

/-- The curves that a key may be on. -/
def curves : List String :=
  ["P-256", "P-384", "P-521", "Ed25519"]

/-- Whether a key has the members of one of the four kinds of keys. -/
def hasKind (key : Json.Value) : Bool :=
  (isOneOf ["EC"] key "kty" && isOneOf curves key "crv" && hasText key "x" && hasText key "y") ||
    (isOneOf ["RSA"] key "kty" && hasText key "n" && hasText key "e") ||
    (isOneOf ["oct"] key "kty" && hasText key "k") ||
    (isOneOf ["OKP"] key "kty" && isOneOf curves key "crv" && hasText key "x")

/-- The members that describe a key of any kind. -/
def commonNames : List String :=
  ["use", "key_ops", "alg", "kid", "x5u", "x5c", "x5t", "x5t#S256"]

/-- Whether a name comes at most once. -/
def comesOnce (key : Json.Value) (name : String) : Bool :=
  (key.members.filter (·.1 = name)).length ≤ 1

/-- Whether a value is a key that a header may hold. -/
def accepts (value : Json.Value) : Bool :=
  match value with
  | .object _ =>
      (commonNames ++ ["kty", "crv", "x", "y", "n", "e", "k"]).all (comesOnce value) &&
        ["use", "alg", "kid", "x5u", "x5t", "x5t#S256"].all (optionally isText value) &&
        ["key_ops", "x5c"].all (optionally isTexts value) && hasKind value
  | _ => false

/-- The reader of keys that a header may hold. -/
def reader : Json.Reader := fun depth input =>
  (Json.Reader.any depth input).bind fun value rest =>
    if accepts value then .done value rest else .stop .mismatch rest

end EmbeddedKey

/-- What is used of a header. -/
structure Header where
  algorithm : Algorithm
  /-- The key that checks the signature. -/
  kid : Option String
  deriving Repr, DecidableEq

namespace Header

/-- The header of a token that is issued under a key. -/
def issue (kid : String) : Header :=
  ⟨Algorithm.issuing, some kid⟩

/-- A header as a value. -/
def toValue (header : Header) : Json.Value :=
  .object
    ([("typ", .text "JWT"), ("alg", .text header.algorithm.name)] ++
      match header.kid with
      | some kid => [("kid", .text kid)]
      | none => [])

/-- The members that a header is read from. -/
def members : List Json.Member :=
  [.positional "typ" .text, .mandatory "alg" Algorithm.reader, .positional "cty" .text,
    .positional "jku" .text, .positional "jwk" EmbeddedKey.reader, .positional "kid" .text,
    .positional "x5u" .text, .positional "x5c" (.listOf .text), .positional "x5t" .text,
    .positional "x5t#S256" .text]

/-- The header that an input holds. -/
def read? (input : Json.Input) : Option Header := do
  let value ← ((Json.Reader.record members).whole input).toOption
  let name ← (value.member? "alg").bind Json.Value.text?
  let algorithm ← Algorithm.ofName? name
  some ⟨algorithm, (value.member? "kid").bind Json.Value.text?⟩

/-- The text of a header. -/
def render (header : Header) : String :=
  header.toValue.render

end Header

end Credential.Token
