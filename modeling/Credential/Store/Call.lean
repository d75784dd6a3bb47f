import Credential.Store.Basic

/-!
# Calls of a store

The operations of a store as data, so that runs of any calls can be spoken of.
-/

namespace Credential.Store

open Credential.Text (Octets)

/-- One operation with its arguments. -/
inductive Call where
  | dial (dialing : Dialing)
  | close
  | loadAllAccounts
  | loadAccount (uid : String)
  | accountByEmail (email : String)
  | saveAccount (account : Account)
  | deleteAccount (uid : String)
  | existsAccount (query : String)
  | loadAllKeys
  | loadKey (kid : String)
  | keyByAccount (accountId : String)
  | keyByPublic (octets : Octets)
  | saveKey (key : KeyPair)
  | deleteKey (kid : String)
  | existsKey (kid : String)
  | loadToken (uid : String)
  | saveToken (uid token : String)
  | deleteToken (uid : String)
  | existsToken (uid : String)
  deriving Repr, DecidableEq

/-- What an operation gives. -/
inductive Answer where
  | done
  | accounts (accounts : List Account)
  | account (account : Account)
  | keys (keys : List KeyPair)
  | key (key : KeyPair)
  | token (token : String)
  | flag (value : Bool)
  deriving Repr, DecidableEq

/-- The outcome and the store after an operation that changes it. -/
def changed (answer : α → Answer) (result : Except Error α × Store) :
    Except Error Answer × Store :=
  (result.1.map answer, result.2)

/-- Carry out one call. -/
def perform (store : Store) (occasion : Occasion) : Call → Except Error Answer × Store
  | .dial dialing => changed (fun _ => .done) (store.dial dialing)
  | .close => (.ok .done, store.close)
  | .loadAllAccounts => (store.loadAllAccounts.map .accounts, store)
  | .loadAccount uid => ((store.loadAccount uid).map .account, store)
  | .accountByEmail email => ((store.accountByEmail email).map .account, store)
  | .saveAccount account => changed .account (store.saveAccount occasion account)
  | .deleteAccount uid => changed (fun _ => .done) (store.deleteAccount uid)
  | .existsAccount query => ((store.existsAccount query).map .flag, store)
  | .loadAllKeys => (store.loadAllKeys.map .keys, store)
  | .loadKey kid => ((store.loadKey kid).map .key, store)
  | .keyByAccount accountId => ((store.keyByAccount accountId).map .key, store)
  | .keyByPublic octets => ((store.keyByPublic octets).map .key, store)
  | .saveKey key => changed .key (store.saveKey occasion key)
  | .deleteKey kid => changed (fun _ => .done) (store.deleteKey kid)
  | .existsKey kid => ((store.existsKey kid).map .flag, store)
  | .loadToken uid => ((store.loadToken uid).map .token, store)
  | .saveToken uid token => changed (fun _ => .done) (store.saveToken occasion uid token)
  | .deleteToken uid => changed (fun _ => .done) (store.deleteToken uid)
  | .existsToken uid => ((store.existsToken uid).map .flag, store)

/-- The store after a run of calls, each with its occasion. -/
def run (store : Store) (calls : List (Occasion × Call)) : Store :=
  calls.foldl (fun store (occasion, call) => (store.perform occasion call).2) store

end Credential.Store
