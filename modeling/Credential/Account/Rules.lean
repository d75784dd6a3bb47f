import Credential.Account.Basic
import Credential.Error
import Credential.Password.HashText

/-!
# Rules for accounts

Which names, emails and passwords are acceptable, and what a store puts into a
record that it adds or changes.
-/

namespace Credential.Account

open Credential.Time (Instant)
open Credential.Text (Octets)

/-- Least number of characters of a password. -/
def minPasswordLength : Nat := 8

/-- Greatest number of characters of a password. -/
def maxPasswordLength : Nat := 256

/-- Greatest number of characters of a name or an email. -/
def maxFieldLength : Nat := 256

/--
Whether characters begin like an address.

That is: some characters other than `@`, an `@`, some characters other than `@`
and a point, a point, and one more character other than those two.
-/
def beginsLikeAddress (characters : List Char) : Bool :=
  let afterLocal := characters.dropWhile (· ≠ '@')
  let domain := afterLocal.drop 1
  let afterLabel := domain.dropWhile fun character => character ≠ '@' && character ≠ '.'
  characters.head? ≠ some '@' && afterLocal ≠ [] &&
    domain.length ≠ afterLabel.length && afterLabel.head? = some '.' &&
    match afterLabel.drop 1 with
    | [] => false
    | next :: _ => next ≠ '@' && next ≠ '.'

/-- Whether a number of characters is acceptable for a name or an email. -/
def fieldLengthOk (text : String) : Bool :=
  1 ≤ text.length && text.length ≤ maxFieldLength

/-- Check that an account has an acceptable name and email. -/
def validate (account : Account) : Except Error Unit :=
  match account.name with
  | .value name =>
      match account.email with
      | .value email =>
          if fieldLengthOk name = false then
            .error .invalidName
          else if fieldLengthOk email && beginsLikeAddress email.toList then
            .ok ()
          else
            .error .invalidEmail
      | _ => .error .invalidEmail
  | _ => .error .invalidName

/-- Whether a password is acceptable. -/
def passwordOk (password : String) : Bool :=
  minPasswordLength ≤ password.length && password.length ≤ maxPasswordLength

/-- Give an account a new password, hashed with a salt. -/
def setPassword (account : Account) (salt : Octets) (password : String) :
    Except Error Account :=
  if passwordOk password then
    .ok { account with password := .value (Password.hash salt password) }
  else
    .error .invalidPassword

/-- Give an account another password; any account may be given one. -/
def updatePassword (account : Account) (salt : Octets) (password : String) :
    Except Error Account :=
  setPassword account salt password

/-- The record of a new account. -/
def create (salt : Octets) (email name password : String) : Except Error Account :=
  setPassword { blank with email := .value email, name := .value name } salt password

/-- Check a candidate against the password hash of an account. -/
def matchPassword (account : Account) (candidate : String) : Except Error Unit :=
  match account.password with
  | .value stored =>
      if Password.accepts stored candidate then .ok () else .error .passwordMismatch
  | _ => .error .passwordMismatch

/-- An account that can no longer be matched by any password. -/
def deletePassword (account : Account) : Account :=
  { account with password := .null }

/-- A truth value, with a default for a field without one. -/
def flagOr (default : Bool) (field : Field Bool) : Field Bool :=
  match field with
  | .value content => .value content
  | _ => .value default

/-- The record that a store adds: with its key, its timestamps and its defaults. -/
def prepareInsert (account : Account) (uid : String) (now : Instant) : Account :=
  { account with
    uid := some uid
    created := some now
    updated := some now
    active := flagOr true account.active
    deleted := flagOr false account.deleted }

/--
The record that a store puts in the place of a stored one.

Fields that are not given keep their stored value; the key and the time of
creation always do.
-/
def prepareUpdate (account stored : Account) (now : Instant) : Account :=
  { uid := stored.uid
    email := account.email.orStored stored.email
    name := account.name.orStored stored.name
    password := account.password.orStored stored.password
    active := flagOr true (account.active.orStored stored.active)
    created := stored.created
    updated := some now
    deleted := account.deleted.orStored stored.deleted }

end Credential.Account
