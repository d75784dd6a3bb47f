import Credential.Field
import Credential.Time.Timestamp

/-!
# Accounts

The record of an account, and its text.  The password hash has no place in the
text: it is neither written nor read.
-/

namespace Credential

open Credential.Time (Instant Mark)

/-- A timestamp as a value. -/
def Json.Value.ofInstant (instant : Instant) : Json.Value :=
  .text (instant.render .letter)

/-- The instant of a value, if it is a timestamp. -/
def Json.Value.instant? (value : Json.Value) : Option Instant :=
  value.text?.bind Instant.read?

/-- A timestamp. -/
def Json.Reader.instant : Json.Reader :=
  Json.Reader.textThat fun text => (Instant.read? text).isSome

/--
The record of an account.

The store gives `uid` and the two timestamps; the other fields are those that a
partial record may leave out.
-/
structure Account where
  uid : Option String
  email : Field String
  name : Field String
  /-- The text of the password hash. -/
  password : Field String
  active : Field Bool
  created : Option Instant
  updated : Option Instant
  deleted : Field Bool
  deriving Repr, DecidableEq

namespace Account

/-- The record that gives nothing. -/
def blank : Account :=
  { uid := none, email := .unset, name := .unset, password := .unset, active := .unset,
    created := none, updated := none, deleted := .unset }

instance : Inhabited Account :=
  ⟨blank⟩

/-- The member of an object that an optional part of a record makes. -/
def optionalMember (name : String) (render : α → Json.Value) (part : Option α) :
    List (String × Json.Value) :=
  match part with
  | some content => [(name, render content)]
  | none => []

/-- An account as a value, without its password hash. -/
def toValue (account : Account) : Json.Value :=
  .object
    (optionalMember "uid" .text account.uid ++
      account.email.toMembers "email" .text ++
      account.name.toMembers "name" .text ++
      account.active.toMembers "active" .flag ++
      optionalMember "created" .ofInstant account.created ++
      optionalMember "updated" .ofInstant account.updated ++
      account.deleted.toMembers "deleted" .flag)

/-- The members that an account is read from. -/
def members : List Json.Member :=
  [.optional "uid" .text, .optional "email" .text, .optional "name" .text,
    .optional "active" .flag, .optional "created" .instant, .optional "updated" .instant,
    .optional "deleted" .flag]

/-- The account of a value that has been read. -/
def ofValue (value : Json.Value) : Account :=
  { uid := (value.member? "uid").bind Json.Value.text?
    email := Field.ofMember Json.Value.text? value "email"
    name := Field.ofMember Json.Value.text? value "name"
    password := .unset
    active := Field.ofMember Json.Value.flag? value "active"
    created := (value.member? "created").bind Json.Value.instant?
    updated := (value.member? "updated").bind Json.Value.instant?
    deleted := Field.ofMember Json.Value.flag? value "deleted" }

/-- The reader of accounts. -/
def reader : Json.Reader :=
  Json.Reader.record members

/-- The account that a text holds. -/
def parse? (text : String) : Option Account :=
  (reader.parse? text).map ofValue

/-- The text of an account. -/
def render (account : Account) : String :=
  account.toValue.render

/-- Whether an account is marked as deleted. -/
def isDeleted (account : Account) : Bool :=
  account.deleted = .value true

/-- The email of an account, if it has one. -/
def email? (account : Account) : Option String :=
  account.email.value?

/-- An account with its password hash cleared. -/
def withoutPassword (account : Account) : Account :=
  { account with password := .null }

/-- An account marked as deleted; nothing else changes. -/
def softDelete (account : Account) : Account :=
  { account with deleted := .value true }

end Account

end Credential
