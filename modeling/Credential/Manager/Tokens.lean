import Credential.Manager.Keys
import Credential.Token.Verification

/-!
# Tokens of a manager

A token is good by its signature and its times alone; whether it is recorded does
not matter.
-/

namespace Credential.Manager

open Credential.Time (Instant)
open Credential.Token (Claims)

/-- The token recorded for an account. -/
def loadToken (manager : Manager) (uid : String) : Except Error String :=
  manager.store.loadToken uid

/-- The token recorded for the live account of an email. -/
def tokenByEmail (manager : Manager) (email : String) : Except Error String :=
  match manager.accountByEmail email with
  | .error error => .error error
  | .ok account =>
      match account.uid with
      | none => .error .accountNotFound
      | some uid => manager.loadToken uid

/-- Whether a token is recorded for an account. -/
def existsToken (manager : Manager) (uid : String) : Except Error Bool :=
  manager.store.existsToken uid

/-- Record a token for an account. -/
def saveToken (manager : Manager) (occasion : Occasion) (uid token : String) :
    Except Error Unit × Manager :=
  manager.changed (manager.store.saveToken occasion uid token)

/-- Remove the token recorded for an account. -/
def deleteToken (manager : Manager) (uid : String) : Except Error Unit × Manager :=
  manager.changed (manager.store.deleteToken uid)

/-- The key pair of an account, unless it has been deactivated. -/
def activeKey (manager : Manager) (uid : String) : Except Error KeyPair :=
  match manager.keyByAccount uid with
  | .error error => .error error
  | .ok key => if key.active = some false then .error .unauthorized else .ok key

/-- Issue a token for an account and record it. -/
def createToken (manager : Manager) (occasion : Occasion) (uid : String) :
    Except Error String × Manager :=
  match manager.activeKey uid with
  | .error error => (.error error, manager)
  | .ok key =>
      match Token.generate uid key.privKey occasion.now with
      | .error error => (.error error, manager)
      | .ok token =>
          andThen (manager.saveToken occasion uid token) fun _ manager => (.ok token, manager)

/-- The claims of a good token. -/
def validateToken (manager : Manager) (token : String) (now : Instant) : Except Error Claims :=
  match Token.signingKid token with
  | .error error => .error error
  | .ok kid =>
      match manager.activeKey kid with
      | .error error => .error error
      | .ok key => Token.verify token kid key.pubKey now

end Credential.Manager
