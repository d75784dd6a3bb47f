import Credential.Account.Request
import Credential.Manager.Basic

/-!
# Accounts of a manager

Every record that goes into the store by way of the manager is valid: a new one
as it is given, a changed one as it will be stored.
-/

namespace Credential.Manager

/-- The account of a uid. -/
def loadAccount (manager : Manager) (uid : String) : Except Error Account :=
  manager.store.loadAccount uid

/-- All accounts in the order of their creation. -/
def loadAllAccounts (manager : Manager) : Except Error (List Account) :=
  manager.store.loadAllAccounts

/-- The live account of an email. -/
def accountByEmail (manager : Manager) (email : String) : Except Error Account :=
  manager.store.accountByEmail email

/-- Whether a live account has a text for its uid, email or name; the empty text never. -/
def existsAccount (manager : Manager) (query : String) : Except Error Bool :=
  if query = "" then .ok false else manager.store.existsAccount query

/-- Check a record as it will be stored. -/
def checkAccount (manager : Manager) (occasion : Occasion) (account : Account) :
    Except Error Unit :=
  match account.uid with
  | none => account.validate
  | some uid =>
      match manager.loadAccount uid with
      | .ok stored => (account.prepareUpdate stored occasion.now).validate
      | .error error => .error error

/-- Add a valid account without a uid, or change the one of the uid; the record then. -/
def saveAccount (manager : Manager) (occasion : Occasion) (account : Account) :
    Except Error Account × Manager :=
  match manager.checkAccount occasion account with
  | .error error => (.error error, manager)
  | .ok _ => manager.changed (manager.store.saveAccount occasion account)

/-- Add an account; its uid. -/
def createAccount (manager : Manager) (occasion : Occasion) (email name password : String) :
    Except Error String × Manager :=
  match Account.create occasion.salt email name password with
  | .error error => (.error error, manager)
  | .ok account =>
      andThen (manager.saveAccount occasion account) fun record manager =>
        match record.uid with
        | some uid => (.ok uid, manager)
        | none => (.error (.internal "store assigned no uid"), manager)

/-- Change the account of a uid; the record then, without its password hash. -/
def updateAccount (manager : Manager) (occasion : Occasion) (uid : String) (patch : AccountPatch) :
    Except Error Account × Manager :=
  if uid = "" then
    (.error (.nilArgument "uid"), manager)
  else
    match patch.toAccount occasion.salt with
    | .error error => (.error error, manager)
    | .ok account =>
        andThen (manager.saveAccount occasion { account with uid := some uid })
          fun record manager => (.ok record.withoutPassword, manager)

/-- Remove the account of a uid. -/
def deleteAccount (manager : Manager) (uid : String) : Except Error Unit × Manager :=
  manager.changed (manager.store.deleteAccount uid)

/-- The account of an email and its password, without the password hash. -/
def authenticate (manager : Manager) (email password : String) : Except Error Account :=
  match manager.accountByEmail email with
  | .error error => .error error
  | .ok account =>
      match account.matchPassword password with
      | .error error => .error error
      | .ok _ => .ok account.withoutPassword

end Credential.Manager
