import Credential.Text.Utf8

/-!
# Headers

Header names and values, and the look-up of headers in a request.  Names are kept
in lower case, so that equal names are equal texts.
-/

namespace Credential.Http

open Credential.Text (Octets)

/-- Whether a character may stand in a token: a method or the name of a header. -/
def isTokenCharacter (character : Char) : Bool :=
  character.isAlphanum || character ∈ "!#$%&'*+-.^_`|~".toList

/-- Whether a text is a token. -/
def isToken (text : String) : Bool :=
  text ≠ "" && text.toList.all isTokenCharacter

/-- A text with its ASCII letters in lower case. -/
def lowered (text : String) : String :=
  String.ofList (text.toList.map Char.toLower)

/-- Whether an octet may stand in the value of a header. -/
def isValueOctet (octet : UInt8) : Bool :=
  (0x20 ≤ octet && octet ≠ 0x7F) || octet = 0x09

/-- Whether an octet of a value is a visible character, a space or a tab. -/
def isVisibleOctet (octet : UInt8) : Bool :=
  (0x20 ≤ octet && octet < 0x7F) || octet = 0x09

/-- A header of a request. -/
structure Header where
  /-- In lower case. -/
  name : String
  value : Octets
  deriving Repr, DecidableEq

namespace Header

/-- The greatest length of a name. -/
def nameLimit : Nat := 65535

/-- The name that a text is, in lower case. -/
def name? (text : String) : Option String :=
  if isToken text ∧ text.length ≤ nameLimit then some (lowered text) else none

/-- The value that octets are. -/
def value? (octets : Octets) : Option Octets :=
  if octets.all isValueOctet then some octets else none

/-- The text of a value, if all of it is visible. -/
def text? (header : Header) : Option String :=
  if header.value.all isVisibleOctet then
    some (String.ofList (header.value.map fun octet => Char.ofNat octet.toNat))
  else
    none

end Header

/-- The headers of a request, in their order. -/
abbrev Headers := List Header

namespace Headers

/-- The headers of a name. -/
def all (headers : Headers) (name : String) : List Header :=
  headers.filter (·.name = name)

/-- The text of the first header of a name, if all of it is visible. -/
def text? (headers : Headers) (name : String) : Option String :=
  (all headers name).head?.bind Header.text?

/-- The texts of all headers of a name that are visible. -/
def texts (headers : Headers) (name : String) : List String :=
  (all headers name).filterMap Header.text?

end Headers

end Credential.Http
