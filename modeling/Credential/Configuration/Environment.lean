import Credential.Configuration.Basic
import Credential.Text.Blank
import Credential.Text.Decimal
import Credential.Text.Utf8

/-!
# Environments

Named variables, and the configuration that they describe.  A variable whose
octets spell no text counts as one that is not set.
-/

namespace Credential

open Credential.Text (Octets trim)

/-- Variables under their names; of two with one name the first counts. -/
structure Environment where
  entries : List (String × Octets)
  deriving Repr, DecidableEq

namespace Environment

/-- The text of a variable. -/
def get? (environment : Environment) (name : String) : Option String :=
  (environment.entries.lookup name).bind Text.Utf8.decode?

/-- Give a variable a text. -/
def set (environment : Environment) (name text : String) : Environment :=
  ⟨(name, Text.Utf8.encode text) :: environment.entries⟩

/-- A number that a variable gives, of at most `limit`. -/
def number
    (environment : Environment)
    (name : String)
    (limit default : Nat)
    (fault : String) :
    Except Error Nat :=
  match environment.get? name with
  | none => .ok default
  | some text =>
      match Text.Decimal.readUpTo? limit text with
      | some value => .ok value
      | none => .error (.config fault)

/-- The items of a list with commas between them, without those that are blank. -/
def items (text : String) : List String :=
  ((text.toList.splitOn ',').map fun item => trim (String.ofList item)).filter (· ≠ "")

/-- The configuration that the variables describe. -/
def configuration (environment : Environment) : Except Error Configuration := do
  let standard := Configuration.default
  let port ← environment.number "KEYSTEAD_PORT" 65535 standard.service.port.toNat
    "Invalid port number"
  let timeout ← environment.number "KEYSTEAD_STORE_TIMEOUT" Json.maxWord
    standard.store.timeout.toNat "Invalid store timeout"
  let text (name : String) (default : String) : String := (environment.get? name).getD default
  return {
    service :=
      ⟨text "KEYSTEAD_HOST" standard.service.host, port.toUInt16, standard.service.version⟩
    store :=
      ⟨text "KEYSTEAD_STORE" standard.store.provider,
        text "KEYSTEAD_STORE_PATH" standard.store.path, timeout.toUInt64⟩
    cors := ⟨((environment.get? "KEYSTEAD_ORIGINS").map items).getD standard.cors.origins⟩
    logging :=
      ⟨text "RUST_LOG" standard.logging.level, text "KEYSTEAD_LOG_FORMAT" standard.logging.format⟩
  }

end Environment

end Credential
