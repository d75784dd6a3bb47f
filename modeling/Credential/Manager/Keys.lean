import Credential.Manager.Accounts

/-!
# Key pairs of a manager
-/

namespace Credential.Manager

open Credential.Text (Octets)

/-- The key pair of a key id. -/
def loadKey (manager : Manager) (kid : String) : Except Error KeyPair :=
  manager.store.loadKey kid

/-- All key pairs in the order of their creation. -/
def loadAllKeys (manager : Manager) : Except Error (List KeyPair) :=
  manager.store.loadAllKeys

/-- The key pair of an account. -/
def keyByAccount (manager : Manager) (uid : String) : Except Error KeyPair :=
  manager.store.keyByAccount uid

/-- The key pair of the live account of an email. -/
def keyByEmail (manager : Manager) (email : String) : Except Error KeyPair :=
  match manager.accountByEmail email with
  | .error error => .error error
  | .ok account =>
      match account.uid with
      | none => .error .accountNotFound
      | some uid => manager.keyByAccount uid

/-- The key pair whose public half is written by some octets. -/
def keyByPublic (manager : Manager) (octets : Octets) : Except Error KeyPair :=
  manager.store.keyByPublic octets

/-- Whether there is a key pair of a key id. -/
def existsKey (manager : Manager) (kid : String) : Except Error Bool :=
  manager.store.existsKey kid

/-- Add a key pair without a key id, or change the one of the key id; the record then. -/
def saveKey (manager : Manager) (occasion : Occasion) (key : KeyPair) :
    Except Error KeyPair × Manager :=
  manager.changed (manager.store.saveKey occasion key)

/-- Remove the key pair of a key id. -/
def deleteKey (manager : Manager) (kid : String) : Except Error Unit × Manager :=
  manager.changed (manager.store.deleteKey kid)

/-- Check that an account can be given a key pair. -/
def checkNewKey (manager : Manager) (uid : String) : Except Error Unit :=
  if uid = "" then
    .error (.nilArgument "uid")
  else
    match manager.loadAccount uid with
    | .error error => .error error
    | .ok _ =>
        match manager.store.keyByAccount uid with
        | .ok _ => .error .keyAlreadyExists
        | .error .keyNotFound => .ok ()
        | .error error => .error error

/-- Make a key pair for an account that has none. -/
def createKey (manager : Manager) (occasion : Occasion) (uid : String) :
    Except Error KeyPair × Manager :=
  match manager.checkNewKey uid with
  | .error error => (.error error, manager)
  | .ok _ =>
      match KeyPair.generate occasion.drawnKey uid with
      | .error error => (.error error, manager)
      | .ok key => manager.saveKey occasion key

/--
Add an account and make a key pair for it.

The account stays if no key pair can be made.
-/
def createAccountWithKey
    (manager : Manager)
    (occasion : Occasion)
    (email name password : String) :
    Except Error (Account × KeyPair) × Manager :=
  andThen (manager.createAccount occasion email name password) fun uid manager =>
    andThen (manager.createKey occasion uid) fun key manager =>
      match manager.loadAccount uid with
      | .error error => (.error error, manager)
      | .ok account => (.ok (account.withoutPassword, key), manager)

end Credential.Manager
