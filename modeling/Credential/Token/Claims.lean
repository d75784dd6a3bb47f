import Credential.Json.Reader
import Credential.Time.Instant

/-!
# Claims

What a token says: whom it is about, when it was issued, and when it is valid.
-/

namespace Credential.Token

open Credential.Time (Instant)

/-- Number of seconds for which an issued token is valid. -/
def lifetime : Int := 86400

/-- What a token says; times are seconds since the start of 1970. -/
structure Claims where
  /-- The uid of the account. -/
  sub : String
  /-- The time of issue. -/
  iat : Int64
  /-- The last second of validity. -/
  exp : Int64
  /-- The first second of validity, if there is one. -/
  nbf : Option Int64
  deriving Repr, DecidableEq

namespace Claims

/-- The claims of a token issued now. -/
def issue (uid : String) (now : Instant) : Claims :=
  { sub := uid
    iat := Int64.ofInt now.seconds
    exp := Int64.ofInt (now.seconds + lifetime)
    nbf := none }

/-- Claims as a value. -/
def toValue (claims : Claims) : Json.Value :=
  .object
    ([("sub", .text claims.sub), ("iat", .integer claims.iat.toInt),
      ("exp", .integer claims.exp.toInt)] ++
      match claims.nbf with
      | some nbf => [("nbf", .integer nbf.toInt)]
      | none => [])

/-- A number of 64 bits with a sign. -/
def numberReader : Json.Reader :=
  Json.Reader.integer Int64.minValue.toInt Int64.maxValue.toInt

/-- The members that claims are read from. -/
def members : List Json.Member :=
  [.mandatory "sub" .text, .mandatory "iat" numberReader, .mandatory "exp" numberReader,
    .optional "nbf" numberReader]

/-- The reader of claims. -/
def reader : Json.Reader :=
  Json.Reader.record members

/-- The claims of a value that has been read. -/
def ofValue (value : Json.Value) : Claims :=
  let number? (name : String) : Option Int64 :=
    ((value.member? name).bind Json.Value.integer?).map Int64.ofInt
  { sub := ((value.member? "sub").bind Json.Value.text?).getD ""
    iat := (number? "iat").getD 0
    exp := (number? "exp").getD 0
    nbf := number? "nbf" }

/-- The claims that an input holds. -/
def read? (input : Json.Input) : Option Claims :=
  ((reader.whole input).toOption).map ofValue

/-- The text of claims. -/
def render (claims : Claims) : String :=
  claims.toValue.render

end Claims

end Credential.Token
