import Credential.Http.Header

/-!
# Media types

What a content type says about a body: whether it is an interchange text, or a
form.
-/

namespace Credential.Http

/-- Where in the parameters of a media type a reader is. -/
inductive MediaPlace where
  /-- Where a name may begin, or the parameters may end. -/
  | beforeName
  | inName
  /-- Where a value begins. -/
  | beforeValue
  | inValue
  /-- After the opening quote of a value. -/
  | quoteOpened
  | inQuote
  /-- After the closing quote of a value. -/
  | quoteClosed
  deriving Repr, DecidableEq

namespace MediaPlace

/-- Whether a character may stand between quotes. -/
def mayBeQuoted (character : Char) : Bool :=
  31 < character.toNat && character.toNat ≠ 127

/-- Take one character. -/
def step (place : MediaPlace) (character : Char) : Option MediaPlace :=
  match place with
  | .beforeName =>
      if character = ' ' then some .beforeName
      else if isTokenCharacter character then some .inName
      else none
  | .inName =>
      if character = '=' then some .beforeValue
      else if isTokenCharacter character then some .inName
      else none
  | .beforeValue =>
      if character = '"' then some .quoteOpened
      else if isTokenCharacter character then some .inValue
      else none
  | .inValue =>
      if character = ';' then some .beforeName
      else if isTokenCharacter character then some .inValue
      else none
  | .quoteOpened => if mayBeQuoted character then some .inQuote else none
  | .inQuote =>
      if character = '"' then some .quoteClosed
      else if mayBeQuoted character then some .inQuote
      else none
  | .quoteClosed =>
      if character = ';' then some .beforeName
      else if character = ' ' then some .quoteClosed
      else none

/-- Whether the parameters may end here. -/
def mayEnd : MediaPlace → Bool
  | .inName => false
  | .quoteOpened => false
  | .inQuote => false
  | _ => true

/-- Whether characters are parameters. -/
def accepts (characters : List Char) : Bool :=
  (characters.foldlM step .beforeName).elim false mayEnd

end MediaPlace

/-- A media type without its parameters, in lower case. -/
structure MediaType where
  family : List Char
  /-- What stands before the last plus sign. -/
  subtype : List Char
  /-- What stands behind the last plus sign, if there is one. -/
  suffix : Option (List Char)
  deriving Repr, DecidableEq

namespace MediaType

/-- Cut a subtype at its last plus sign that is not its first character. -/
def cutSuffix (subtype : List Char) : List Char × Option (List Char) :=
  let suffix := (subtype.reverse.takeWhile (· ≠ '+')).reverse
  let stem := (subtype.reverse.dropWhile (· ≠ '+')).reverse.dropLast
  if stem = [] then (subtype, none) else (stem, some suffix)

/-- The media type that a text spells. -/
def parse? (text : String) : Option MediaType :=
  let characters := text.toList
  let family := characters.takeWhile isTokenCharacter
  match characters.dropWhile isTokenCharacter with
  | '/' :: rest =>
      let subtype := rest.takeWhile isTokenCharacter
      let isComplete : Bool :=
        match rest.dropWhile isTokenCharacter with
        | [] => true
        | separator :: parameters =>
            (separator = ';' || separator = ' ') && !subtype.isEmpty &&
              MediaPlace.accepts parameters
      if !family.isEmpty && isComplete then
        let (stem, suffix) := cutSuffix (subtype.map Char.toLower)
        some ⟨family.map Char.toLower, stem, suffix⟩
      else
        none
  | _ => none

/-- Whether bodies of a media type are interchange texts. -/
def isJson (media : MediaType) : Bool :=
  media.family = "application".toList &&
    (media.subtype = "json".toList || media.suffix = some "json".toList)

end MediaType

/-- Whether a request says that its body is an interchange text. -/
def saysJson (headers : Headers) : Bool :=
  match (headers.text? "content-type").bind MediaType.parse? with
  | some media => media.isJson
  | none => false

/-- Whether a request says that its body is a form. -/
def saysForm (headers : Headers) : Bool :=
  match headers.text? "content-type" with
  | some text => "application/x-www-form-urlencoded".isPrefixOf text
  | none => false

end Credential.Http
