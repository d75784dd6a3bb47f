import Credential.Account.Basic
import Credential.Account.Rules
import Credential.KeyPair
import Credential.Occasion
import Credential.Store.Settings
import Credential.Store.Tables

/-!
# The store in memory

Three tables of records, which are there from dialing to closing.  There is no
way back from a change of a table, so every check of a write comes before it.
-/

namespace Credential.Store

open Credential.Time (Instant)

/-- The tables of the store in memory: of records, and of tokens. -/
abbrev MemoryTables :=
  Tables Account KeyPair String

/-- The store in memory; it has tables while it is connected. -/
structure MemoryStore where
  tables : Option MemoryTables
  deriving Repr

namespace MemoryTables

/-- Whether a live account other than the one of a uid has an email. -/
def emailTaken (tables : MemoryTables) (email : String) (except : Option String) : Bool :=
  tables.accounts.rows.any fun account =>
    account.isDeleted = false && account.email? = some email && account.uid ≠ except

/-- Whether one record was created no later than another. -/
def createdInOrder (first second : Option Instant) : Bool :=
  match first, second with
  | none, _ => true
  | some _, none => false
  | some first, some second => first.notAfter second

/-- All accounts in the order of their creation. -/
def allAccounts (tables : MemoryTables) : List Account :=
  tables.accounts.rows.mergeSort fun first second => createdInOrder first.created second.created

/-- All key pairs in the order of their creation. -/
def allKeys (tables : MemoryTables) : List KeyPair :=
  tables.keys.rows.mergeSort fun first second => createdInOrder first.created second.created

/-- The live account of an email. -/
def accountByEmail? (tables : MemoryTables) (email : String) : Option Account :=
  tables.accounts.rows.find? fun account =>
    account.isDeleted = false && account.email? = some email

/-- Whether a live account has a text for its uid, email or name. -/
def existsAccount (tables : MemoryTables) (query : String) : Bool :=
  tables.accounts.rows.any fun account =>
    account.isDeleted = false &&
      (account.uid = some query || account.email? = some query ||
        account.name.value? = some query)

/-- The key pair of an account. -/
def keyByAccount? (tables : MemoryTables) (accountId : String) : Option KeyPair :=
  tables.keys.rows.find? (·.accountId = accountId)

/-- The key pair whose public half is written by some octets. -/
def keyByPublic? (tables : MemoryTables) (octets : Text.Octets) : Option KeyPair :=
  tables.keys.rows.find? fun key => Text.Utf8.encode key.pubKey = octets

/-- The record of a new account, whose email no live account may have. -/
def newAccount (occasion : Occasion) (account : Account) : Step MemoryTables Account :=
  match account.email? with
  | none => .fail (.nilArgument "email")
  | some email => do
      let taken ← .look (emailTaken · email none)
      if taken then
        .fail .duplicateEmail
      else
        return account.prepareInsert occasion.uid occasion.now

/-- The record of an account that changes; no other live account may have its email. -/
def changedAccount (occasion : Occasion) (uid : String) (account : Account) :
    Step MemoryTables Account := do
  let stored ← .ask fun tables => found .accountNotFound (tables.accounts.get? uid)
  let record := account.prepareUpdate stored occasion.now
  match record.isDeleted, record.email? with
  | false, some email =>
      let taken ← .look (emailTaken · email (some uid))
      if taken then .fail .duplicateEmail else return record
  | _, _ => return record

/-- Put a record into the accounts, under its uid. -/
def storeAccount (record : Account) : Step MemoryTables Account :=
  match record.uid with
  | none => .fail (.nilArgument "uid")
  | some uid => do
      Tables.putAccount uid record
      return record

/-- Add an account without a uid, or change the one of the uid; the record then. -/
def saveAccount (occasion : Occasion) (account : Account) : Step MemoryTables Account := do
  let record ←
    match account.uid with
    | none => newAccount occasion account
    | some uid => changedAccount occasion uid account
  storeAccount record

/-- The record of a new key pair, for an account that has none. -/
def newKey (now : Instant) (key : KeyPair) : Step MemoryTables KeyPair := do
  .ask fun _ => require key.accountId "account id"
  .ask fun _ => require key.pubKey "public key"
  .ask fun _ => require key.privKey "private key"
  let known ← .look (·.accounts.contains key.accountId)
  let taken ← .look (·.keys.rows.any (·.accountId = key.accountId))
  if known = false then
    .fail .accountNotFound
  else if taken then
    .fail .keyAlreadyExists
  else
    return key.prepareInsert now

/-- The record of a key pair that changes. -/
def changedKey (now : Instant) (kid : String) (key : KeyPair) : Step MemoryTables KeyPair := do
  let stored ← .ask fun tables => found .keyNotFound (tables.keys.get? kid)
  return key.prepareUpdate stored now

/-- Put a record into the key pairs, under its key id. -/
def storeKey (record : KeyPair) : Step MemoryTables KeyPair :=
  match record.kid with
  | none => .fail (.nilArgument "kid")
  | some kid => do
      Tables.putKey kid record
      return record

/-- Add a key pair without a key id, or change the one of the key id; the record then. -/
def saveKey (now : Instant) (key : KeyPair) : Step MemoryTables KeyPair := do
  let record ←
    match key.kid with
    | none => newKey now key
    | some kid => changedKey now kid key
  storeKey record

end MemoryTables

namespace MemoryStore

/-- The store before it has been dialed. -/
def initial : MemoryStore :=
  ⟨none⟩

/-- Make empty tables, unless the store is connected. -/
def dial (store : MemoryStore) : MemoryStore :=
  ⟨some (store.tables.getD Tables.empty)⟩

/-- Drop the tables. -/
def close (_ : MemoryStore) : MemoryStore :=
  initial

/-- Whether the store is connected. -/
def status (store : MemoryStore) : Status :=
  if store.tables.isSome then .connected else .disconnected

/-- Read from the tables of a connected store. -/
def read (store : MemoryStore) (view : MemoryTables → Except Error α) : Except Error α :=
  match store.tables with
  | none => .error .notConnected
  | some tables => view tables

/-- Carry out a step on the tables of a connected store. -/
def write (step : Step MemoryTables α) : Step MemoryStore α := fun store =>
  match store.tables with
  | none => (.error .notConnected, store)
  | some tables =>
      let (outcome, tables) := step.run tables
      (outcome, ⟨some tables⟩)

end MemoryStore

end Credential.Store
