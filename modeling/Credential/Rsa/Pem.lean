import Credential.Text.Base64
import Credential.Text.Blank

/-!
# Armoured text

Octets written as lines of base 64 between a line that opens and a line that
closes a labelled block.
-/

namespace Credential.Rsa

open Credential.Text

/-- A labelled block of octets. -/
structure Pem where
  label : String
  contents : Octets
  deriving Repr, DecidableEq

namespace Pem

/-- Number of characters of a full line. -/
def lineLength : Nat := 64

/-- Cut characters into lines, each with a line feed at its end. -/
def lines : Nat → List Char → List Char
  | 0, _ => []
  | fuel + 1, characters =>
      if characters = [] then
        []
      else
        characters.take lineLength ++ '\n' :: lines fuel (characters.drop lineLength)

/-- The text of a block. -/
def render (block : Pem) : String :=
  let characters := Base64.encodePadded block.contents
  "-----BEGIN " ++ block.label ++ "-----\n" ++
    String.ofList (lines (characters.length + 1) characters) ++
    "-----END " ++ block.label ++ "-----\n"

/-- What stands before and after the first occurrence of a marker. -/
def cutAt? (marker : List Char) : List Char → Option (List Char × List Char)
  | [] => if marker = [] then some ([], []) else none
  | first :: rest =>
      if marker.isPrefixOf (first :: rest) then
        some ([], (first :: rest).drop marker.length)
      else
        (cutAt? marker rest).map fun (before, after) => (first :: before, after)

/-- Whether a character may stand between a label and the body. -/
def isGap (character : Char) : Bool :=
  character = ' ' || character = '\t' || character = '\n' || character = '\r'

/-- Split a body into the header lines and the data; a blank line divides the two. -/
def splitBody (body : List Char) : List Char × List Char :=
  match cutAt? ['\n', '\n'] body with
  | some parts => parts
  | none => (cutAt? ['\r', '\n', '\r', '\n'] body).getD ([], body)

/-- The lines of the headers; the last one may have a line feed at its end. -/
def headerLines (headers : List Char) : List (List Char) :=
  let pieces := headers.splitOn '\n'
  if pieces.getLast? = some [] then pieces.dropLast else pieces

/-- Whether every header line names a field. -/
def headersNamed (headers : List Char) : Bool :=
  (headerLines headers).all (·.contains ':')

/-- The first labelled block of a text; all that stands before and after it is passed over. -/
def parse? (text : String) : Option Pem := do
  let (_, rest) ← cutAt? "-----BEGIN ".toList text.toList
  let (label, rest) ← cutAt? "-----".toList rest
  let (body, rest) ← cutAt? "-----END ".toList (rest.dropWhile isGap)
  let (closing, _) ← cutAt? "-----".toList rest
  let (headers, characters) := splitBody body
  if label = [] ∨ label ≠ closing ∨ headersNamed headers = false then
    none
  else
    let contents ← Base64.decodePadded? (characters.filter (isBlank · = false))
    some ⟨String.ofList label, contents⟩

end Pem

end Credential.Rsa
