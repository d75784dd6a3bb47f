import Credential.Account.Rules

/-!
# Operations on an account

The operations on the record of one account as data, so that runs of any of them
can be spoken of.
-/

namespace Credential.Account

open Credential.Text (Octets)

/-- One operation with its arguments; those that hash a password come with a salt. -/
inductive Operation where
  | create (salt : Octets) (email name password : String)
  | setPassword (salt : Octets) (password : String)
  | updatePassword (salt : Octets) (password : String)
  | deletePassword
  | softDelete
  | setEmail (email : Field String)
  | setName (name : Field String)
  | validate
  | matchPassword (candidate : String)
  | withoutPassword
  deriving Repr, DecidableEq

/-- What an operation gives. -/
inductive Answer where
  | done
  | account (account : Account)
  deriving Repr, DecidableEq

/-- The answer and the record after an operation that may fail to make another record. -/
def replaced (account : Account) (made : Except Error Account) :
    Except Error Answer × Account :=
  match made with
  | .ok next => (.ok .done, next)
  | .error error => (.error error, account)

/-- Carry out one operation on the record of an account. -/
def perform (account : Account) : Operation → Except Error Answer × Account
  | .create salt email name password => account.replaced (create salt email name password)
  | .setPassword salt password => account.replaced (account.setPassword salt password)
  | .updatePassword salt password => account.replaced (account.updatePassword salt password)
  | .deletePassword => (.ok .done, account.deletePassword)
  | .softDelete => (.ok .done, account.softDelete)
  | .setEmail email => (.ok .done, { account with email })
  | .setName name => (.ok .done, { account with name })
  | .validate => (account.validate.map fun _ => .done, account)
  | .matchPassword candidate => ((account.matchPassword candidate).map fun _ => .done, account)
  | .withoutPassword => (.ok (.account account.withoutPassword), account)

/-- The record after a run of operations. -/
def run (account : Account) (operations : List Operation) : Account :=
  operations.foldl (fun account operation => (account.perform operation).2) account

end Credential.Account
