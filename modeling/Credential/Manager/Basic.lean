import Credential.Registry
import Credential.Store.Basic

/-!
# The manager

The manager works on one store, chosen by name from a registry.  It keeps the
rules that need more than one operation of the store.
-/

namespace Credential

open Credential.Store (Dialing Status)

/-- A manager of a store. -/
structure Manager where
  registry : Registry Store
  provider : String
  dialing : Dialing
  store : Store

namespace Manager

/-- A manager of the store of a name, which is not dialed yet. -/
def create (registry : Registry Store) (dialing : Dialing) (name : String) :
    Except Error Manager :=
  match registry.get name with
  | .ok store => .ok ⟨registry, name, dialing, store⟩
  | .error error => .error error

/-- The manager with the store that an operation leaves. -/
def changed (manager : Manager) (result : Except Error α × Store) : Except Error α × Manager :=
  (result.1, { manager with store := result.2 })

/-- Connect the store. -/
def init (manager : Manager) : Except Error Unit × Manager :=
  manager.changed (manager.store.dial manager.dialing)

/-- Disconnect the store. -/
def close (manager : Manager) : Manager :=
  { manager with store := manager.store.close }

/-- Whether the store is connected. -/
def status (manager : Manager) : Status :=
  manager.store.status

/-- Remove a provider from the registry; the manager keeps its own store. -/
def unregister (manager : Manager) (name : String) : Except Error Unit × Manager :=
  match manager.registry.unregister name with
  | .ok registry => (.ok (), { manager with registry })
  | .error error => (.error error, manager)

/-- Go on with the result of an operation, on the manager that it leaves. -/
def andThen
    (step : Except Error α × Manager)
    (next : α → Manager → Except Error β × Manager) :
    Except Error β × Manager :=
  match step with
  | (.ok result, manager) => next result manager
  | (.error error, manager) => (.error error, manager)

end Manager

end Credential
