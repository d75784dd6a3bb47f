import Credential.Configuration.Basic
import Credential.Http.Bearer
import Credential.Http.Endpoint
import Credential.Http.Response
import Credential.Manager.Tokens

/-!
# The service

The service answers requests by the operations of its manager.  A request that
cannot be understood is rejected before any operation; an operation that fails is
told by its error.
-/

namespace Credential.Http

open Credential.Json (Value)
open Credential.Store (Table)
open Credential.Text (Octets)
open Credential.Time (Instant)

/-- Why a request is not carried out. -/
inductive Refusal where
  | rejection (cause : Rejection)
  | error (cause : Error)
  deriving Repr, DecidableEq

/-- The answer that tells a refusal. -/
def Refusal.response : Refusal → Response
  | .rejection cause => .ofRejection cause
  | .error cause => .ofError cause

/-- A service at work. -/
structure Service where
  configuration : Configuration
  manager : Manager
  /-- When the service began. -/
  started : Instant

namespace Service

/-- The names and first states of the stores that a service can choose from. -/
def providers (disk : Store.Disk) : Registry Store :=
  ⟨(Table.empty.insert "memory" (Store.memory .initial)).insert "sqlite"
    (Store.database (.initial disk))⟩

/-- A service with a valid configuration, on the connected store of its choice. -/
def start (configuration : Configuration) (registry : Registry Store) (now : Instant) :
    Except Error Service := do
  configuration.validate
  let manager ←
    Manager.create registry configuration.dialing configuration.store.provider
  let (outcome, manager) := manager.init
  outcome
  return ⟨configuration, manager, now⟩

/-! ## What is answered -/

/-- An answer, or a refusal, of a value. -/
abbrev Outcome (α : Type) := Except Refusal α

/-- The outcome of an operation. -/
def operated : Except Error α → Outcome α
  | .ok value => .ok value
  | .error error => .error (.error error)

/-- The outcome of taking something out of a request. -/
def extracted : Except Rejection α → Outcome α
  | .ok value => .ok value
  | .error rejection => .error (.rejection rejection)

/-- The answer of a value. -/
def found (value : Value) : Response :=
  .of 200 (.json value)

/-- The answer of a value that has been made. -/
def created (value : Value) : Response :=
  .of 201 (.json value)

/-- What the service says about itself. -/
def healthValue (service : Service) (now : Instant) : Value :=
  .object
    [("status", .text "ok"), ("version", .text serviceVersion),
      ("store", .object
        [("provider", .text service.manager.provider),
          ("status", .text service.manager.status.name),
          ("registered", .list (service.manager.registry.names.map .text))]),
      ("uptime_seconds",
        .integer (((now.seconds - service.started.seconds) * 1000000000 + now.nanos -
          service.started.nanos) / 1000000000))]

/-- The reading of the clock as an answer. -/
def timeValue (now : Instant) : Value :=
  .object [("time", .text (now.render .offset)), ("unix", .integer now.seconds)]

/-- A token of an account as an answer. -/
def tokenValue (uid token : String) : Value :=
  .object [("uid", .text uid), ("token", .text token)]

/-- An email that must be given. -/
def givenEmail (text : Option String) : Outcome String :=
  match nonEmpty text with
  | some email => .ok email
  | none => .error (.error (.nilArgument "email"))

/-! ## Actions that only read -/

/-- The token that a request carries for validation; a form that cannot be read has none. -/
def requestToken (request : Request) : Outcome String := do
  let query ← extracted (request.queryText tokenName)
  let form :=
    match request.formFields [tokenName] with
    | .ok fields => fields.lookup tokenName
    | .error _ => none
  match token? form query request.headers (Cookie.ofHeaders request.headers) with
  | some token => .ok token
  | none => .error (.error (.nilArgument "jwt"))

/-- What is told about an error of a validation: that a key is missing stays hidden. -/
def hiddenError (error : Error) : Error :=
  if error.isNotFound then .unauthorized else error

/-- Validate the token of a request. -/
def validateToken (service : Service) (occasion : Occasion) (request : Request) :
    Outcome Response := do
  let token ← requestToken request
  match service.manager.validateToken token occasion.now with
  | .ok claims =>
      return found (.object
        [("valid", .flag true), ("sub", .text claims.sub), ("exp", .integer claims.exp.toInt)])
  | .error error => .error (.error (hiddenError error))

/-- Check the email and the password of a form. -/
def authenticate (service : Service) (request : Request) : Outcome Response := do
  let fields ← extracted (request.formFields ["email", "password"])
  let email ← givenEmail (fields.lookup "email")
  let password := (fields.lookup "password").getD ""
  if password = "" then
    .error (.error (.nilArgument "password"))
  else
    return found (← operated (service.manager.authenticate email password)).toValue

/-- The key pairs, or the one of the public half that the query names. -/
def listKeys (service : Service) (request : Request) : Outcome Response := do
  let query ← extracted (request.queryText "pubkey")
  match nonEmpty query with
  | some text =>
      let key ← operated (service.manager.keyByPublic (Text.Utf8.encode text))
      return found (.list [key.toValue])
  | none =>
      let keys ← operated service.manager.loadAllKeys
      return found (.list (keys.map KeyPair.toValue))

/-- The token of the account whose email the query names. -/
def tokenByEmail (service : Service) (request : Request) : Outcome Response := do
  let query ← extracted (request.queryText "email")
  let email ← givenEmail query
  let token ← operated (service.manager.tokenByEmail email)
  return found (.object [("email", .text email), ("token", .text token)])

/-! ## Actions that change the store -/

/-- Go on with what has been taken out of a request, unless that failed. -/
def withExtracted
    (extraction : Except Rejection α)
    (manager : Manager)
    (next : α → Outcome Response × Manager) :
    Outcome Response × Manager :=
  match extraction with
  | .ok value => next value
  | .error rejection => (.error (.rejection rejection), manager)

/-- The outcome of an operation of the manager, with the answer that it makes. -/
def answered (answer : α → Response) (result : Except Error α × Manager) :
    Outcome Response × Manager :=
  ((operated result.1).map answer, result.2)

/-- Add the account that the body describes, and a key pair unless the query forbids it. -/
def createAccount (manager : Manager) (occasion : Occasion) (request : Request) :
    Outcome Response × Manager :=
  withExtracted (request.queryFlag "nokey") manager fun withoutKey =>
    withExtracted (request.jsonBody CreateRequest.reader) manager fun value =>
      let { email, name, password } := CreateRequest.ofValue value
      if withoutKey then
        answered (fun account => created (.object [("account", account.toValue)]))
          (Manager.andThen (manager.createAccount occasion email name password)
            fun uid manager => (manager.loadAccount uid, manager))
      else
        answered
          (fun (account, key) =>
            created (.object [("account", account.toValue), ("key", key.toValue)]))
          (manager.createAccountWithKey occasion email name password)

/-- Change the account of a uid as the body describes. -/
def updateAccount (manager : Manager) (occasion : Occasion) (uid : String) (request : Request) :
    Outcome Response × Manager :=
  withExtracted (request.jsonBody AccountPatch.reader) manager fun value =>
    answered (fun account => found account.toValue)
      (manager.updateAccount occasion uid (AccountPatch.ofValue value))

/-! ## All actions -/

/-- The only parameter of a path, if it has one. -/
def parameterText (parameters : List Octets) : Except Rejection String :=
  Request.pathText (parameters.headD [])

/-- Carry out an action on the thing that the path names. -/
def carryOutAt
    (service : Service)
    (occasion : Occasion)
    (request : Request)
    (name : String) : Action → Outcome Response × Manager
  | .health => (.ok (found (service.healthValue occasion.now)), service.manager)
  | .time => (.ok (found (timeValue occasion.now)), service.manager)
  | .listAccounts =>
      ((operated service.manager.loadAllAccounts).map
        fun accounts => found (.list (accounts.map Account.toValue)), service.manager)
  | .createAccount => createAccount service.manager occasion request
  | .loadAccount =>
      ((operated (service.manager.loadAccount name)).map
        fun account => found account.toValue, service.manager)
  | .updateAccount => updateAccount service.manager occasion name request
  | .deleteAccount =>
      answered (fun _ => .bare 204) (service.manager.deleteAccount name)
  | .accountKey =>
      ((operated (service.manager.keyByAccount name)).map fun key => found key.toValue,
        service.manager)
  | .createKey =>
      answered (fun key => created key.toValue) (service.manager.createKey occasion name)
  | .accountToken =>
      ((operated (service.manager.loadToken name)).map
        fun token => found (tokenValue name token), service.manager)
  | .hasToken =>
      (match service.manager.existsToken name with
        | .ok true => .ok (.bare 200)
        | .ok false => .error (.error .tokenNotFound)
        | .error error => .error (.error error),
        service.manager)
  | .tokenByEmail => (service.tokenByEmail request, service.manager)
  | .listKeys => (service.listKeys request, service.manager)
  | .loadKey =>
      ((operated (service.manager.loadKey name)).map fun key => found key.toValue, service.manager)
  | .deleteKey => answered (fun _ => .bare 204) (service.manager.deleteKey name)
  | .authenticate => (service.authenticate request, service.manager)
  | .validateToken => (service.validateToken occasion request, service.manager)
  | .issueToken =>
      answered (fun token => created (tokenValue name token))
        (service.manager.createToken occasion name)

/-- Carry out an action. -/
def carryOut
    (service : Service)
    (occasion : Occasion)
    (request : Request)
    (parameters : List Octets)
    (action : Action) :
    Outcome Response × Manager :=
  withExtracted (parameterText parameters) service.manager fun name =>
    service.carryOutAt occasion request name action

/-- The answer to a request that has reached an endpoint, before compression. -/
def endpointResponse
    (service : Service)
    (occasion : Occasion)
    (request : Request)
    (endpoint : Endpoint)
    (parameters : List Octets) :
    Response × Manager :=
  let policy := OriginPolicy.ofOrigins service.configuration.cors.origins
  match endpoint.action? request.method with
  | some action =>
      let (outcome, manager) := service.carryOut occasion request parameters action
      let response :=
        match outcome with
        | .ok response => response
        | .error refusal => refusal.response
      (response.shared policy request.headers, manager)
  | none =>
      let response :=
        if request.method = "OPTIONS" then .preflight policy request.headers
        else (Response.bare 405).shared policy request.headers
      (response.withHeader "allow" endpoint.allow, service.manager)

/-- The answer to a request, and the service after it. -/
def respond (service : Service) (occasion : Occasion) (request : Request) :
    Response × Service :=
  match Endpoint.ofPath? request.target.path with
  | none => (.notFound, service)
  | some (endpoint, parameters) =>
      let (response, manager) := service.endpointResponse occasion request endpoint parameters
      let coded := response.coded request.headers
      (if request.method = "HEAD" then coded.withoutBody else coded, { service with manager })

/-- The service after a run of requests, each with its occasion. -/
def run (service : Service) (requests : List (Occasion × Request)) : Service :=
  requests.foldl (fun service (occasion, request) => (service.respond occasion request).2) service

end Service

end Credential.Http
