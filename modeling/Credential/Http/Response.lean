import Credential.Error
import Credential.Http.Coding
import Credential.Http.Origins
import Credential.Http.Request

/-!
# Responses

The answer to a request, and the headers that every answer of an endpoint gets:
those that let pages of other origins read it, and those about compression.
-/

namespace Credential.Http

open Credential.Text (Octets)

/-- The body of an answer. -/
inductive Body where
  | empty
  | json (value : Json.Value)
  | plain (text : String)
  deriving Repr

namespace Body

/-- The octets of a body, before any compression. -/
def octets : Body → Octets
  | .empty => []
  | .json value => Text.Utf8.encode value.render
  | .plain text => Text.Utf8.encode text

/-- The header that tells the kind of a body. -/
def headers : Body → List (String × String)
  | .empty => []
  | .json _ => [("content-type", "application/json")]
  | .plain _ => [("content-type", "text/plain; charset=utf-8")]

end Body

/-- The answer to a request; a body under a content coding is sent compressed. -/
structure Response where
  status : Nat
  headers : List (String × String)
  body : Body
  deriving Repr

namespace Response

/-- An answer with the header that its body needs. -/
def of (status : Nat) (body : Body) : Response :=
  ⟨status, body.headers, body⟩

/-- An answer without a body. -/
def bare (status : Nat) : Response :=
  of status .empty

/-- The answer that tells an error. -/
def ofError (error : Error) : Response :=
  of error.report.status (.json error.report.body)

/-- The answer that tells a rejection. -/
def ofRejection (rejection : Rejection) : Response :=
  of rejection.status (.plain rejection.reason)

/-- The answer where there is no endpoint. -/
def notFound : Response :=
  of 404 (.json (Error.Report.body ⟨404, "NotFound", "Endpoint not found"⟩))

/-- The answer with a header more. -/
def withHeader (response : Response) (name value : String) : Response :=
  { response with headers := response.headers ++ [(name, value)] }

/-- All values of a header, joined. -/
def header? (response : Response) (name : String) : Option String :=
  match (response.headers.filter (·.1 = name)).map Prod.snd with
  | [] => none
  | values => some (", ".intercalate values)

/-! ## Other origins -/

/-- An answer that pages of some other origins may read. -/
def shared (response : Response) (policy : OriginPolicy) (headers : Headers) : Response :=
  let varying :=
    response.withHeader "vary"
      "origin, access-control-request-method, access-control-request-headers"
  match policy.allowed? headers with
  | some origin => varying.withHeader "access-control-allow-origin" origin
  | none => varying

/-- The answer to a page that asks what it may send. -/
def preflight (policy : OriginPolicy) (headers : Headers) : Response :=
  (((bare 200).shared policy headers).withHeader
    "access-control-allow-methods" "GET,POST,PUT,DELETE").withHeader
      "access-control-allow-headers" "content-type,authorization"

/-! ## Compression -/

/-- The least length of a body that is worth compressing. -/
def compressible : Nat := 32

/-- An answer in the coding that the client wants. -/
def coded (response : Response) (headers : Headers) : Response :=
  if response.body.octets.length < compressible then
    response
  else
    let varying := response.withHeader "vary" "accept-encoding"
    match Coding.preferred headers with
    | .gzip => varying.withHeader "content-encoding" "gzip"
    | .identity => varying

/-- An answer without its body. -/
def withoutBody (response : Response) : Response :=
  { response with body := .empty }

end Response

end Credential.Http
