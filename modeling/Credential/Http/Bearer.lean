import Credential.Http.Cookie

/-!
# Where a request carries its token

A token may come in a form, in the query, in an authorization header or in a
cookie.  The first place that holds one counts, in this order.
-/

namespace Credential.Http

open Credential.Text (trim)

/-- A text unless it is empty. -/
def nonEmpty (text : Option String) : Option String :=
  text.filter (· ≠ "")

/-- The name of the form field, the query field and the cookie that carry a token. -/
def tokenName : String := "jwt"

/-- The token of the authorization header. -/
def bearerToken? (headers : Headers) : Option String := do
  let text ← headers.text? "authorization"
  let scheme := "Bearer "
  if scheme.isPrefixOf text then
    nonEmpty (some (trim (String.ofList (text.toList.drop scheme.length))))
  else
    none

/-- The token of a cookie. -/
def cookieToken? (cookies : List Cookie) : Option String :=
  nonEmpty (Cookie.find? cookies tokenName)

/-- The token of a request: that of its form, its query, its headers or its cookies. -/
def token? (form query : Option String) (headers : Headers) (cookies : List Cookie) :
    Option String :=
  nonEmpty form <|> nonEmpty query <|> bearerToken? headers <|> cookieToken? cookies

end Credential.Http
