import Credential.Store.Database
import Credential.Store.Memory

/-!
# Stores

A store is one of two backends.  Both answer the same operations; a look-up that
finds nothing is an error that says what is missing, and every operation on the
tables of a store that is not connected is refused.
-/

namespace Credential

open Credential.Store
open Credential.Text (Octets)

/-- A store of either backend. -/
inductive Store where
  | memory (store : MemoryStore)
  | database (store : DatabaseStore)
  deriving Repr

namespace Store

/-- Connect a store. -/
def dial (store : Store) (dialing : Dialing) : Except Error Unit × Store :=
  match store with
  | .memory store => (.ok (), .memory store.dial)
  | .database store =>
      let (outcome, store) := store.dial dialing
      (outcome, .database store)

/-- Disconnect a store. -/
def close : Store → Store
  | .memory store => .memory store.close
  | .database store => .database store.close

/-- Whether a store is connected. -/
def status : Store → Status
  | .memory store => store.status
  | .database store => store.status

/-- Read from the tables of either backend. -/
def read
    (store : Store)
    (memory : MemoryTables → Except Error α)
    (database : Database → Except Error α) :
    Except Error α :=
  match store with
  | .memory store => store.read memory
  | .database store => store.read database

/-- Carry out a step on the tables of either backend. -/
def write (memory : Step MemoryTables α) (database : Step Database α) : Step Store α := fun store =>
  match store with
  | .memory store =>
      let (outcome, store) := (MemoryStore.write memory).run store
      (outcome, .memory store)
  | .database store =>
      let (outcome, store) := (DatabaseStore.write database).run store
      (outcome, .database store)

/-- What a step on a lent record leaves of it, or why it failed, and the state then. -/
def saved (step : Step (Lent Record Store) Unit) (store : Store) (record : Record) :
    Except Error Record × Store :=
  let (outcome, lent) := step.run ⟨record, store⟩
  (outcome.map fun _ => lent.record, lent.state)

/-! ## Accounts -/

/-- All accounts in the order of their creation. -/
def loadAllAccounts (store : Store) : Except Error (List Account) :=
  store.read (fun tables => .ok tables.allAccounts) Database.allAccounts

/-- The account of a uid. -/
def loadAccount (store : Store) (uid : String) : Except Error Account :=
  store.read (fun tables => found .accountNotFound (tables.accounts.get? uid))
    (Database.account? · uid)

/-- The live account of an email. -/
def accountByEmail (store : Store) (email : String) : Except Error Account :=
  store.read (fun tables => found .emailNotFound (tables.accountByEmail? email))
    (Database.accountByEmail · email)

/-- Add the account that is lent, or change the one of its uid. -/
def saveLentAccount (occasion : Occasion) : Step (Lent Account Store) Unit :=
  .withLent fun account =>
    write (MemoryTables.saveAccount occasion account) (Database.saveAccount occasion account)

/-- Add an account without a uid, or change the one of the uid; the record as it is then. -/
def saveAccount (store : Store) (occasion : Occasion) (account : Account) :
    Except Error Account × Store :=
  saved (saveLentAccount occasion) store account

/-- Remove the account of a uid. -/
def deleteAccount (store : Store) (uid : String) : Except Error Unit × Store :=
  (write (Tables.deleteAccount uid) (Tables.deleteAccount uid)).run store

/-- Whether a live account has a text for its uid, email or name. -/
def existsAccount (store : Store) (query : String) : Except Error Bool :=
  store.read (fun tables => .ok (tables.existsAccount query))
    (fun database => .ok (database.existsAccount query))

/-! ## Key pairs -/

/-- All key pairs in the order of their creation. -/
def loadAllKeys (store : Store) : Except Error (List KeyPair) :=
  store.read (fun tables => .ok tables.allKeys) Database.allKeys

/-- The key pair of a key id. -/
def loadKey (store : Store) (kid : String) : Except Error KeyPair :=
  store.read (fun tables => found .keyNotFound (tables.keys.get? kid)) (Database.key? · kid)

/-- The key pair of an account. -/
def keyByAccount (store : Store) (accountId : String) : Except Error KeyPair :=
  store.read (fun tables => found .keyNotFound (tables.keyByAccount? accountId))
    (Database.findKey · (·.accountId = accountId))

/--
The key pair whose public half is written by some octets.

In a database it is looked up as a text, so octets that are none are found to be
missing before the connection is asked for.
-/
def keyByPublic (store : Store) (octets : Octets) : Except Error KeyPair :=
  match store with
  | .memory store => store.read fun tables => found .keyNotFound (tables.keyByPublic? octets)
  | .database store =>
      match Text.Utf8.decode? octets with
      | none => .error .keyNotFound
      | some text => store.read (Database.findKey · (·.pubKey = text))

/-- Add the key pair that is lent, or change the one of its key id. -/
def saveLentKey (occasion : Occasion) : Step (Lent KeyPair Store) Unit :=
  .withLent fun key =>
    write (MemoryTables.saveKey occasion.now key) (Database.saveKey occasion.now key)

/-- Add a key pair without a key id, or change the one of the key id; the record then. -/
def saveKey (store : Store) (occasion : Occasion) (key : KeyPair) :
    Except Error KeyPair × Store :=
  saved (saveLentKey occasion) store key

/-- Remove the key pair of a key id. -/
def deleteKey (store : Store) (kid : String) : Except Error Unit × Store :=
  (write (Tables.deleteKey kid) (Tables.deleteKey kid)).run store

/-- Whether there is a key pair of a key id. -/
def existsKey (store : Store) (kid : String) : Except Error Bool :=
  store.read (fun tables => .ok (tables.keys.contains kid))
    (fun database => .ok (database.keys.contains kid))

/-! ## Tokens -/

/-- The token recorded for an account. -/
def loadToken (store : Store) (uid : String) : Except Error String :=
  store.read (fun tables => found .tokenNotFound (tables.tokens.get? uid)) (Database.token · uid)

/-- Put the token of an account in the place of the one that is there. -/
def putToken (occasion : Occasion) (uid token : String) : Step Store Unit := do
  .ask fun _ => require uid "uid"
  .ask fun _ => require token "token"
  write (Tables.putToken uid token)
    (Tables.putToken uid ⟨uid, token, columnText occasion.now⟩)

/-- Record a token for an account; empty arguments are refused first of all. -/
def saveToken (store : Store) (occasion : Occasion) (uid token : String) :
    Except Error Unit × Store :=
  (putToken occasion uid token).run store

/-- Remove the token of an account. -/
def deleteToken (store : Store) (uid : String) : Except Error Unit × Store :=
  (write (Tables.deleteToken uid) (Tables.deleteToken uid)).run store

/-- Whether a token is recorded for an account. -/
def existsToken (store : Store) (uid : String) : Except Error Bool :=
  store.read (fun tables => .ok (tables.tokens.contains uid))
    (fun database => .ok (database.tokens.contains uid))

end Store

end Credential
