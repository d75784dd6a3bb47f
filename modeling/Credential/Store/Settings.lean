import Credential.Error

/-!
# Dialing and status

What a store is dialed with, whether it is connected, and the checks that its
operations share.
-/

namespace Credential.Store

/-- Whether a store is connected. -/
inductive Status where
  | disconnected
  | connected
  deriving Repr, DecidableEq

namespace Status

/-- The word for a status. -/
def name : Status → String
  | .disconnected => "Disconnected"
  | .connected => "Connected"

end Status

/-- What a store is dialed with. -/
structure Dialing where
  /-- The file of the database, for a store that has one. -/
  path : Option String
  /-- Seconds to wait for the database. -/
  timeout : Nat
  deriving Repr, DecidableEq

/-- Refuse an empty argument. -/
def require (argument what : String) : Except Error Unit :=
  if argument = "" then .error (.nilArgument what) else .ok ()

/-- What was found, or the error that says what is missing. -/
def found (missing : Error) (result : Option α) : Except Error α :=
  match result with
  | some value => .ok value
  | none => .error missing

end Credential.Store
