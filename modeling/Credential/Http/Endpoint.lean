import Credential.Text.Utf8

/-!
# Endpoints

The paths that the service answers at, and the methods that each one takes.
-/

namespace Credential.Http

open Credential.Text (Octets)

/-- What a request asks for. -/
inductive Action where
  | health
  | time
  | listAccounts
  | createAccount
  | loadAccount
  | updateAccount
  | deleteAccount
  | accountKey
  | createKey
  | accountToken
  | hasToken
  | tokenByEmail
  | listKeys
  | loadKey
  | deleteKey
  | authenticate
  | validateToken
  | issueToken
  deriving Repr, DecidableEq

/-- A segment of an endpoint's path. -/
inductive Place where
  | fixed (name : String)
  /-- Any segment; the last one of a path must not be empty. -/
  | parameter
  deriving Repr, DecidableEq

/-- The parameters of a path that fits places, in order. -/
def Place.fit? : List Place → List Octets → Option (List Octets)
  | [], [] => some []
  | [.parameter], [segment] => if segment = [] then none else some [segment]
  | .fixed name :: places, segment :: segments =>
      if segment = Text.Utf8.encode name then fit? places segments else none
  | .parameter :: places, segment :: segments =>
      (fit? places segments).map (segment :: ·)
  | _, _ => none

/-- A path, and what each method asks for there. -/
structure Endpoint where
  places : List Place
  actions : List (String × Action)
  deriving Repr, DecidableEq

namespace Endpoint

/-- The places of a path below the common start of all but two paths. -/
def versioned (places : List Place) : List Place :=
  .fixed "api" :: .fixed "v1" :: places

/-- All endpoints; of two that a path fits, the first counts. -/
def all : List Endpoint :=
  [⟨[.fixed "health"], [("GET", .health), ("HEAD", .health)]⟩,
    ⟨[.fixed "time"], [("GET", .time), ("HEAD", .time)]⟩,
    ⟨versioned [.fixed "accounts"],
      [("GET", .listAccounts), ("HEAD", .listAccounts), ("POST", .createAccount)]⟩,
    ⟨versioned [.fixed "accounts", .parameter],
      [("GET", .loadAccount), ("HEAD", .loadAccount), ("PUT", .updateAccount),
        ("DELETE", .deleteAccount)]⟩,
    ⟨versioned [.fixed "accounts", .parameter, .fixed "keys"],
      [("GET", .accountKey), ("HEAD", .accountKey), ("POST", .createKey)]⟩,
    ⟨versioned [.fixed "accounts", .parameter, .fixed "tokens"],
      [("GET", .accountToken), ("HEAD", .hasToken)]⟩,
    ⟨versioned [.fixed "tokens"], [("GET", .tokenByEmail), ("HEAD", .tokenByEmail)]⟩,
    ⟨versioned [.fixed "keys"], [("GET", .listKeys), ("HEAD", .listKeys)]⟩,
    ⟨versioned [.fixed "keys", .parameter],
      [("GET", .loadKey), ("HEAD", .loadKey), ("DELETE", .deleteKey)]⟩,
    ⟨versioned [.fixed "authenticate"], [("POST", .authenticate)]⟩,
    ⟨versioned [.fixed "jwt", .fixed "token", .fixed "validate"],
      [("GET", .validateToken), ("HEAD", .validateToken), ("POST", .validateToken)]⟩,
    ⟨versioned [.fixed "jwt", .fixed "token", .parameter], [("POST", .issueToken)]⟩]

/-- The segments of a path that begins with a slash. -/
def segments? (path : Octets) : Option (List Octets) :=
  match path with
  | 0x2F :: rest => some (rest.splitOn 0x2F)
  | _ => none

/-- The endpoint that a path leads to, with its parameters. -/
def ofPath? (path : Octets) : Option (Endpoint × List Octets) :=
  (segments? path).bind fun segments =>
    all.findSome? fun endpoint =>
      (Place.fit? endpoint.places segments).map fun parameters => (endpoint, parameters)

/-- The methods of an endpoint, as an answer names them. -/
def allow (endpoint : Endpoint) : String :=
  ",".intercalate (endpoint.actions.map Prod.fst)

/-- What a method asks for at an endpoint. -/
def action? (endpoint : Endpoint) (method : String) : Option Action :=
  endpoint.actions.lookup method

end Endpoint

end Credential.Http
