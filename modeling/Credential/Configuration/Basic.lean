import Credential.Json.Reader
import Credential.Store.Settings

/-!
# Configuration

What the service is run with: where it listens, which store it works on, which
origins may call it, and how it logs.
-/

namespace Credential

open Credential.Json (Value)
open Credential.Store (Dialing)

/-- The version of the service. -/
def serviceVersion : String := "0.1.0"

namespace Configuration

/-- Where the service listens, and the version that it is known under. -/
structure Service where
  host : String
  port : UInt16
  version : String
  deriving Repr, DecidableEq

/-- Which store the service works on. -/
structure Backing where
  /-- The name under which the store is registered. -/
  provider : String
  path : String
  /-- Seconds to wait for the store. -/
  timeout : UInt64
  deriving Repr, DecidableEq

/-- Which origins may call. -/
structure Sharing where
  /-- The origins; `*` stands for any. -/
  origins : List String
  deriving Repr, DecidableEq

/-- What is logged, and in which format. -/
structure Logging where
  level : String
  format : String
  deriving Repr, DecidableEq

end Configuration

/-- What the service is run with. -/
structure Configuration where
  service : Configuration.Service
  store : Configuration.Backing
  cors : Configuration.Sharing
  logging : Configuration.Logging
  deriving Repr, DecidableEq

namespace Configuration

/-- The configuration that holds where nothing else is said. -/
def default : Configuration :=
  { service := ⟨"127.0.0.1", 8000, serviceVersion⟩
    store := ⟨"sqlite", "./data/keystead.sqlite", 5⟩
    cors := ⟨["*"]⟩
    logging := ⟨"keystead=debug,tower_http=debug", "text"⟩ }

/-- Refuse a configuration that no service can run with; the first fault counts. -/
def validate (configuration : Configuration) : Except Error Unit :=
  if configuration.service.host = "" then
    .error (.config "Host cannot be empty")
  else if configuration.service.port = 0 then
    .error (.config "Port cannot be 0")
  else if configuration.store.provider = "" then
    .error (.config "Store provider cannot be empty")
  else if configuration.store.timeout = 0 then
    .error (.config "Store timeout must be positive")
  else
    .ok ()

/-- What the store is dialed with. -/
def dialing (configuration : Configuration) : Dialing :=
  ⟨some configuration.store.path, configuration.store.timeout.toNat⟩

/-- The host and the port to listen at. -/
def address (configuration : Configuration) : String :=
  configuration.service.host ++ ":" ++
    String.ofList (Json.naturalText configuration.service.port.toNat)

/-! ## The text of a configuration -/

/-- A configuration as a value. -/
def toValue (configuration : Configuration) : Value :=
  let { service, store, cors, logging } := configuration
  .object
    [("service", .object
      [("host", .text service.host), ("port", .integer service.port.toNat),
        ("version", .text service.version)]),
      ("store", .object
        [("provider", .text store.provider), ("path", .text store.path),
          ("timeout", .integer store.timeout.toNat)]),
      ("cors", .object [("origins", .list (cors.origins.map .text))]),
      ("logging", .object [("level", .text logging.level), ("format", .text logging.format)])]

/-- The members that a configuration is read from; all must be given. -/
def members : List Json.Member :=
  [.mandatory "service" (.record
    [.mandatory "host" .text, .mandatory "port" (.integer 0 65535), .mandatory "version" .text]),
    .mandatory "store" (.record
      [.mandatory "provider" .text, .mandatory "path" .text,
        .mandatory "timeout" (.integer 0 (Json.maxWord : Nat))]),
    .mandatory "cors" (.record [.mandatory "origins" (.listOf .text)]),
    .mandatory "logging" (.record [.mandatory "level" .text, .mandatory "format" .text])]

/-- The configuration of a value that has been read. -/
def ofValue (value : Value) : Configuration :=
  let part (group name : String) : Option Value := (value.member? group).bind (·.member? name)
  let text (group name : String) : String := ((part group name).bind Value.text?).getD ""
  let number (group name : String) : Nat :=
    (((part group name).bind Value.integer?).getD 0).toNat
  let origins := (((part "cors" "origins").bind Value.list?).getD []).filterMap Value.text?
  { service := ⟨text "service" "host", (number "service" "port").toUInt16, text "service" "version"⟩
    store :=
      ⟨text "store" "provider", text "store" "path", (number "store" "timeout").toUInt64⟩
    cors := ⟨origins⟩
    logging := ⟨text "logging" "level", text "logging" "format"⟩ }

/-- The configuration that a text holds. -/
def parse? (text : String) : Option Configuration :=
  ((Json.Reader.record members).parse? text).map ofValue

/-- The text of a configuration. -/
def render (configuration : Configuration) : String :=
  configuration.toValue.render

end Configuration

end Credential
