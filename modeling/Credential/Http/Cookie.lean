import Credential.Http.Header
import Credential.Text.Blank
import Credential.Text.Percent

/-!
# Cookies

Cookies are `name=value` pieces between semicolons.  Names and values may hold
percent escapes, and keep any quotes.
-/

namespace Credential.Http

open Credential.Text (trim)

/-- A cookie of a request. -/
structure Cookie where
  name : String
  value : String
  deriving Repr, DecidableEq

namespace Cookie

/-- The text of which another one is the escaped form. -/
def unescape? (text : String) : Option String :=
  Text.Utf8.decode? (Text.Percent.decode (Text.Utf8.encode text))

/-- The cookie that a piece spells; it must have an equals sign after a name. -/
def ofPiece? (piece : List Char) : Option Cookie :=
  match piece.dropWhile (· ≠ '=') with
  | [] => none
  | _ :: value =>
      let name := trim (String.ofList (piece.takeWhile (· ≠ '=')))
      if name = "" then
        none
      else
        match unescape? name, unescape? (trim (String.ofList value)) with
        | some name, some value => some ⟨name, value⟩
        | _, _ => none

/-- The cookies of a request, in their order. -/
def ofHeaders (headers : Headers) : List Cookie :=
  (headers.texts "cookie").flatMap fun text => (text.toList.splitOn ';').filterMap ofPiece?

/-- The value of a cookie; the last cookie of the name counts. -/
def find? (cookies : List Cookie) (name : String) : Option String :=
  (cookies.reverse.find? (·.name = name)).map value

end Cookie

end Credential.Http
