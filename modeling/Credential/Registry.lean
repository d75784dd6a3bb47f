import Credential.Error
import Credential.Store.Table

/-!
# Providers

Stores under the names by which they are chosen.  The operations that change a
registry are also data, so that runs of any of them can be spoken of.
-/

namespace Credential

open Credential.Store (Table)

/-- Providers under distinct, non-empty names. -/
structure Registry (Provider : Type) where
  providers : Table Provider

namespace Registry

variable {Provider : Type}

/-- The registry without providers. -/
def empty : Registry Provider :=
  ⟨Table.empty⟩

/-- Add a provider under a new name. -/
def register (registry : Registry Provider) (name : String) (provider : Option Provider) :
    Except Error (Registry Provider) :=
  match provider with
  | none => .error .nilStore
  | some provider =>
      if name = "" then
        .error (.nilArgument "provider name")
      else if registry.providers.contains name then
        .error (.alreadyRegistered name)
      else
        .ok ⟨registry.providers.insert name provider⟩

/-- Remove the provider of a name. -/
def unregister (registry : Registry Provider) (name : String) :
    Except Error (Registry Provider) :=
  if registry.providers.contains name then
    .ok ⟨registry.providers.erase name⟩
  else
    .error (.notRegistered name)

/-- The provider of a name. -/
def get (registry : Registry Provider) (name : String) : Except Error Provider :=
  match registry.providers.get? name with
  | some provider => .ok provider
  | none => .error (.notRegistered name)

/-- The names in ascending order. -/
def names (registry : Registry Provider) : List String :=
  registry.providers.keys.mergeSort fun first second => first ≤ second

/-! ## Calls -/

/-- One operation with its arguments. -/
inductive Call (Provider : Type) where
  | register (name : String) (provider : Option Provider)
  | unregister (name : String)
  deriving Repr, DecidableEq

/-- The name that a call is about. -/
def Call.name : Call Provider → String
  | .register name _ => name
  | .unregister name => name

/-- The outcome and the registry after an operation; one that fails makes no other registry. -/
def changed (registry : Registry Provider) (made : Except Error (Registry Provider)) :
    Except Error Unit × Registry Provider :=
  match made with
  | .ok next => (.ok (), next)
  | .error error => (.error error, registry)

/-- Carry out one call. -/
def perform (registry : Registry Provider) : Call Provider → Except Error Unit × Registry Provider
  | .register name provider => registry.changed (registry.register name provider)
  | .unregister name => registry.changed (registry.unregister name)

/-- The registry after a run of calls. -/
def run (registry : Registry Provider) (calls : List (Call Provider)) : Registry Provider :=
  calls.foldl (fun registry call => (registry.perform call).2) registry

end Registry

end Credential
