import Credential.Http.Header
import Credential.Http.Media
import Credential.Http.Target
import Credential.Json.Reader

/-!
# Requests

A request, and what is taken out of its path, its query and its body.  What
cannot be taken out is rejected with a plain text, before any operation begins.
-/

namespace Credential.Http

open Credential.Text (Octets)

/-- A request. -/
structure Request where
  method : String
  target : Target
  headers : Headers
  body : Octets
  deriving Repr, DecidableEq

/-- Why nothing can be taken out of a request. -/
inductive Rejection where
  /-- A part of the path spells no text. -/
  | path
  /-- A field of the query is given twice, or is not of its kind. -/
  | query
  /-- The body is too long. -/
  | length
  /-- The request does not say that its body is an interchange text. -/
  | notJson
  /-- The body is no interchange text. -/
  | malformedJson
  /-- The body holds another value than the one asked for. -/
  | mismatchedJson
  /-- The request does not say that its body is a form. -/
  | notForm
  /-- A field of the form is given twice. -/
  | form
  deriving Repr, DecidableEq

namespace Rejection

/-- The status of the answer. -/
def status : Rejection → Nat
  | .path => 400
  | .query => 400
  | .length => 413
  | .notJson => 415
  | .malformedJson => 400
  | .mismatchedJson => 422
  | .notForm => 415
  | .form => 422

/-- The text of the answer. -/
def reason : Rejection → String
  | .path => "Invalid URL: Invalid UTF-8 in a parameter"
  | .query => "Failed to deserialize query string: bad field"
  | .length => "Failed to buffer the request body: length limit exceeded"
  | .notJson => "Expected request with `Content-Type: application/json`"
  | .malformedJson => "Failed to parse the request body as JSON"
  | .mismatchedJson => "Failed to deserialize the JSON body into the target type"
  | .notForm => "Form requests must have `Content-Type: application/x-www-form-urlencoded`"
  | .form => "Failed to deserialize form body: duplicate field"

end Rejection

/-- Fields by name, as a query or a form gives them. -/
abbrev Fields := List (String × String)

namespace Fields

/-- The fields of some names, unless one of them is given twice. -/
def only? (names : List String) (fields : Fields) : Option Fields :=
  let known := fields.filter fun field => field.1 ∈ names
  if (known.map Prod.fst).Nodup then some known else none

/-- The truth value that a text spells. -/
def flag? : String → Option Bool
  | "true" => some true
  | "false" => some false
  | _ => none

end Fields

namespace Request

/-- The text of a part of the path. -/
def pathText (octets : Octets) : Except Rejection String :=
  match Text.Utf8.decode? (Text.Percent.decode octets) with
  | some text => .ok text
  | none => .error .path

/-- The fields of the query with some names. -/
def queryFields (request : Request) (names : List String) : Except Rejection Fields :=
  match Fields.only? names (Text.Form.fields (request.target.query.getD [])) with
  | some fields => .ok fields
  | none => .error .query

/-- The field of the query with a name. -/
def queryText (request : Request) (name : String) : Except Rejection (Option String) :=
  (request.queryFields [name]).map fun fields => fields.lookup name

/-- The field of the query with a name, which is a truth value or left out. -/
def queryFlag (request : Request) (name : String) : Except Rejection Bool :=
  match request.queryText name with
  | .error rejection => .error rejection
  | .ok none => .ok false
  | .ok (some text) => (Fields.flag? text).elim (.error .query) .ok

/-- The greatest length of a body. -/
def bodyLimit : Nat := 2097152

/-- The body, unless it is too long. -/
def boundedBody (request : Request) : Except Rejection Octets :=
  if request.body.length > bodyLimit then .error .length else .ok request.body

/-- The value that the body holds; what follows the value does not matter. -/
def jsonBody (request : Request) (reader : Json.Reader) : Except Rejection Json.Value :=
  if saysJson request.headers then
    match request.boundedBody with
    | .error rejection => .error rejection
    | .ok body =>
        match reader.front (Text.Utf8.symbols body) with
        | .ok value => .ok value
        | .error .malformed => .error .malformedJson
        | .error .mismatch => .error .mismatchedJson
  else
    .error .notJson

/-- The octets of the form: the body, but the query of a request that only reads. -/
def formOctets (request : Request) : Except Rejection Octets :=
  if request.method = "GET" then
    .ok (request.target.query.getD [])
  else if saysForm request.headers then
    request.boundedBody
  else
    .error .notForm

/-- The fields of the form with some names. -/
def formFields (request : Request) (names : List String) : Except Rejection Fields :=
  match request.formOctets with
  | .error rejection => .error rejection
  | .ok octets =>
      match Fields.only? names (Text.Form.fields octets) with
      | some fields => .ok fields
      | none => .error .form

end Request

end Credential.Http
