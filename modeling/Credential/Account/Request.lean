import Credential.Account.Rules

/-!
# Requests about accounts

What callers send to create an account, to change one, and to authenticate.
-/

namespace Credential

open Credential.Text (Octets)

/-- A request for a new account. -/
structure CreateRequest where
  email : String
  name : String
  password : String
  deriving Repr, DecidableEq

namespace CreateRequest

/-- The members that a request is read from. -/
def members : List Json.Member :=
  [.mandatory "email" .text, .mandatory "name" .text, .mandatory "password" .text]

/-- The reader of requests. -/
def reader : Json.Reader :=
  Json.Reader.record members

/-- The request of a value that has been read. -/
def ofValue (value : Json.Value) : CreateRequest :=
  let part (name : String) : String := ((value.member? name).bind Json.Value.text?).getD ""
  ⟨part "email", part "name", part "password"⟩

/-- The request that a text holds. -/
def parse? (text : String) : Option CreateRequest :=
  (reader.parse? text).map ofValue

/-- A request as a value. -/
def toValue (request : CreateRequest) : Json.Value :=
  .object
    [("email", .text request.email), ("name", .text request.name),
      ("password", .text request.password)]

end CreateRequest

/-- A request to check an email and a password. -/
structure AuthenticateRequest where
  email : String
  password : String
  deriving Repr, DecidableEq

namespace AuthenticateRequest

/-- The members that a request is read from; one that is missing is empty. -/
def members : List Json.Member :=
  [.defaulted "email" .text, .defaulted "password" .text]

/-- The request that a text holds. -/
def parse? (text : String) : Option AuthenticateRequest :=
  ((Json.Reader.record members).parse? text).map fun value =>
    let part (name : String) : String := ((value.member? name).bind Json.Value.text?).getD ""
    ⟨part "email", part "password"⟩

/-- A request as a value. -/
def toValue (request : AuthenticateRequest) : Json.Value :=
  .object [("email", .text request.email), ("password", .text request.password)]

end AuthenticateRequest

/-- A change of an account; the password is not hashed yet. -/
structure AccountPatch where
  email : Field String
  name : Field String
  password : Option String
  active : Field Bool
  deleted : Field Bool
  deriving Repr, DecidableEq

namespace AccountPatch

/-- The members that a change is read from. -/
def members : List Json.Member :=
  [.optional "email" .text, .optional "name" .text, .optional "password" .text,
    .optional "active" .flag, .optional "deleted" .flag]

/-- The reader of changes. -/
def reader : Json.Reader :=
  Json.Reader.record members

/-- The change of a value that has been read. -/
def ofValue (value : Json.Value) : AccountPatch :=
  { email := Field.ofMember Json.Value.text? value "email"
    name := Field.ofMember Json.Value.text? value "name"
    password := (value.member? "password").bind Json.Value.text?
    active := Field.ofMember Json.Value.flag? value "active"
    deleted := Field.ofMember Json.Value.flag? value "deleted" }

/-- The change that a text holds. -/
def parse? (text : String) : Option AccountPatch :=
  (reader.parse? text).map ofValue

/-- A change as a partial record, with the password hashed. -/
def toAccount (patch : AccountPatch) (salt : Octets) : Except Error Account :=
  let account : Account :=
    { Account.blank with
      email := patch.email
      name := patch.name
      active := patch.active
      deleted := patch.deleted }
  match patch.password with
  | some password => account.setPassword salt password
  | none => .ok account

end AccountPatch

end Credential
