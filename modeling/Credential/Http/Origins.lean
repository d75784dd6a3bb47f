import Credential.Http.Header

/-!
# Other origins

Which pages of other origins may read an answer.  Origins that no header can
carry allow nothing, and a list that holds only such origins is not a wildcard.
-/

namespace Credential.Http

/-- Whose pages may read an answer. -/
inductive OriginPolicy where
  /-- The pages of every origin. -/
  | any
  /-- The pages of some origins, each of them the value of a header. -/
  | listed (origins : List String)
  deriving Repr, DecidableEq

namespace OriginPolicy

/-- The text that stands for every origin. -/
def wildcard : String := "*"

/-- The policy of configured origins. -/
def ofOrigins (origins : List String) : OriginPolicy :=
  if origins = [] ∨ wildcard ∈ origins then
    .any
  else
    .listed (origins.filter fun origin => (Header.value? (Text.Utf8.encode origin)).isSome)

/-- The policy of a list of origins; a list with the text for every origin is refused. -/
def list? (origins : List String) : Option OriginPolicy :=
  if wildcard ∈ origins then none else some (.listed origins)

/-- The policy that is built from configured origins, unless building it is refused. -/
def build? (origins : List String) : Option OriginPolicy :=
  if origins = [] ∨ wildcard ∈ origins then
    some .any
  else
    list? (origins.filter fun origin => (Header.value? (Text.Utf8.encode origin)).isSome)

/-- What an answer says about the origins that may read it. -/
def allowed? (policy : OriginPolicy) (headers : Headers) : Option String :=
  match policy with
  | .any => some wildcard
  | .listed origins =>
      (headers.all "origin").head?.bind fun header =>
        origins.find? fun origin => Text.Utf8.encode origin = header.value

end OriginPolicy

end Credential.Http
