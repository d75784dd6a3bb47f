import Credential.Manager.Tokens

/-!
# Calls of a manager

The operations of a manager as data, so that runs of any calls can be spoken of.
-/

namespace Credential.Manager

open Credential.Text (Octets)
open Credential.Token (Claims)

/-- One operation with its arguments. -/
inductive Call where
  | init
  | close
  | unregister (name : String)
  | loadAllAccounts
  | loadAccount (uid : String)
  | accountByEmail (email : String)
  | createAccount (email name password : String)
  | createAccountWithKey (email name password : String)
  | saveAccount (account : Account)
  | updateAccount (uid : String) (patch : AccountPatch)
  | deleteAccount (uid : String)
  | existsAccount (query : String)
  | authenticate (email password : String)
  | loadAllKeys
  | loadKey (kid : String)
  | keyByAccount (uid : String)
  | keyByEmail (email : String)
  | keyByPublic (octets : Octets)
  | createKey (uid : String)
  | saveKey (key : KeyPair)
  | deleteKey (kid : String)
  | existsKey (kid : String)
  | loadToken (uid : String)
  | tokenByEmail (email : String)
  | createToken (uid : String)
  | validateToken (token : String)
  | saveToken (uid token : String)
  | deleteToken (uid : String)
  | existsToken (uid : String)
  deriving Repr, DecidableEq

/-- What an operation gives. -/
inductive Answer where
  | done
  | accounts (accounts : List Account)
  | account (account : Account)
  | uid (uid : String)
  | accountAndKey (account : Account) (key : KeyPair)
  | keys (keys : List KeyPair)
  | key (key : KeyPair)
  | token (token : String)
  | claims (claims : Claims)
  | flag (value : Bool)
  deriving Repr, DecidableEq

/-- The answer and the manager after an operation that changes it. -/
def answered (answer : α → Answer) (result : Except Error α × Manager) :
    Except Error Answer × Manager :=
  (result.1.map answer, result.2)

/-- Carry out one call. -/
def perform (manager : Manager) (occasion : Occasion) : Call → Except Error Answer × Manager
  | .init => answered (fun _ => .done) manager.init
  | .close => (.ok .done, manager.close)
  | .unregister name => answered (fun _ => .done) (manager.unregister name)
  | .loadAllAccounts => (manager.loadAllAccounts.map .accounts, manager)
  | .loadAccount uid => ((manager.loadAccount uid).map .account, manager)
  | .accountByEmail email => ((manager.accountByEmail email).map .account, manager)
  | .createAccount email name password =>
      answered .uid (manager.createAccount occasion email name password)
  | .createAccountWithKey email name password =>
      answered (fun (account, key) => .accountAndKey account key)
        (manager.createAccountWithKey occasion email name password)
  | .saveAccount account => answered .account (manager.saveAccount occasion account)
  | .updateAccount uid patch => answered .account (manager.updateAccount occasion uid patch)
  | .deleteAccount uid => answered (fun _ => .done) (manager.deleteAccount uid)
  | .existsAccount query => ((manager.existsAccount query).map .flag, manager)
  | .authenticate email password => ((manager.authenticate email password).map .account, manager)
  | .loadAllKeys => (manager.loadAllKeys.map .keys, manager)
  | .loadKey kid => ((manager.loadKey kid).map .key, manager)
  | .keyByAccount uid => ((manager.keyByAccount uid).map .key, manager)
  | .keyByEmail email => ((manager.keyByEmail email).map .key, manager)
  | .keyByPublic octets => ((manager.keyByPublic octets).map .key, manager)
  | .createKey uid => answered .key (manager.createKey occasion uid)
  | .saveKey key => answered .key (manager.saveKey occasion key)
  | .deleteKey kid => answered (fun _ => .done) (manager.deleteKey kid)
  | .existsKey kid => ((manager.existsKey kid).map .flag, manager)
  | .loadToken uid => ((manager.loadToken uid).map .token, manager)
  | .tokenByEmail email => ((manager.tokenByEmail email).map .token, manager)
  | .createToken uid => answered .token (manager.createToken occasion uid)
  | .validateToken token => ((manager.validateToken token occasion.now).map .claims, manager)
  | .saveToken uid token => answered (fun _ => .done) (manager.saveToken occasion uid token)
  | .deleteToken uid => answered (fun _ => .done) (manager.deleteToken uid)
  | .existsToken uid => ((manager.existsToken uid).map .flag, manager)

/-- The manager after a run of calls, each with its occasion. -/
def run (manager : Manager) (calls : List (Occasion × Call)) : Manager :=
  calls.foldl (fun manager (occasion, call) => (manager.perform occasion call).2) manager

end Credential.Manager
