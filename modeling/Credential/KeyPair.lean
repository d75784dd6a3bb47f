import Credential.Account.Basic
import Credential.Error
import Credential.Rsa.Generation

/-!
# Key pairs

The record of an account's key pair, and its text.  The private half is never
written.
-/

namespace Credential

open Credential.Time (Instant)

/-- The record of a key pair; both halves are labelled texts. -/
structure KeyPair where
  /-- Given by the store; the same as `accountId`. -/
  kid : Option String
  pubKey : String
  privKey : String
  accountId : String
  active : Option Bool
  created : Option Instant
  updated : Option Instant
  deriving Repr, DecidableEq

namespace KeyPair

/-- A key pair as a value, without its private half. -/
def toValue (key : KeyPair) : Json.Value :=
  .object
    (Account.optionalMember "kid" .text key.kid ++
      [("pub_key", .text key.pubKey), ("account_id", .text key.accountId)] ++
      Account.optionalMember "active" .flag key.active ++
      Account.optionalMember "created" .ofInstant key.created ++
      Account.optionalMember "updated" .ofInstant key.updated)

/-- The members that a key pair is read from. -/
def members : List Json.Member :=
  [.optional "kid" .text, .mandatory "pub_key" .text, .defaulted "priv_key" .text,
    .mandatory "account_id" .text, .optional "active" .flag, .optional "created" .instant,
    .optional "updated" .instant]

/-- The key pair of a value that has been read. -/
def ofValue (value : Json.Value) : KeyPair :=
  let part (name : String) : String := ((value.member? name).bind Json.Value.text?).getD ""
  { kid := (value.member? "kid").bind Json.Value.text?
    pubKey := part "pub_key"
    privKey := part "priv_key"
    accountId := part "account_id"
    active := (value.member? "active").bind Json.Value.flag?
    created := (value.member? "created").bind Json.Value.instant?
    updated := (value.member? "updated").bind Json.Value.instant? }

/-- The key pair that a text holds. -/
def parse? (text : String) : Option KeyPair :=
  ((Json.Reader.record members).parse? text).map ofValue

/-- The text of a key pair. -/
def render (key : KeyPair) : String :=
  key.toValue.render

/--
A new key pair for an account.

`drawn` is the private key that the draw gave, or none if the draw failed.
-/
def generate (drawn : Thunk (Option Rsa.PrivateKey)) (accountUid : String) :
    Except Error KeyPair :=
  if accountUid = "" then
    .error (.nilArgument "account uid")
  else
    match drawn.get with
    | none => .error (.keyGeneration "too few primes")
    | some key =>
        .ok
          { kid := none
            pubKey := key.publicKey.render
            privKey := key.render
            accountId := accountUid
            active := none
            created := none
            updated := none }

/-- The record that a store adds: with its key, its timestamps and its default. -/
def prepareInsert (key : KeyPair) (now : Instant) : KeyPair :=
  { key with
    kid := some key.accountId
    created := some now
    updated := some now
    active := some (key.active.getD true) }

/-- A text, or what is stored in its place if it is empty. -/
def textOr (text stored : String) : String :=
  if text = "" then stored else text

/--
The record that a store puts in the place of a stored one.

A half that is left empty keeps its stored text; the key, the account and the
time of creation always stay.
-/
def prepareUpdate (key stored : KeyPair) (now : Instant) : KeyPair :=
  { kid := stored.kid
    pubKey := textOr key.pubKey stored.pubKey
    privKey := textOr key.privKey stored.privKey
    accountId := stored.accountId
    active := some (key.active.getD (stored.active.getD true))
    created := stored.created
    updated := some now }

end KeyPair

end Credential
