import Credential.Configuration.Environment
import Credential.Text.Alphanumeric

/-!
# Assignments in a file

A file may give variables that the environment leaves unset, one `name=value` a
line.  A value may hold quotes, escapes and the names of other variables.  The
first line that cannot be read ends the file.
-/

namespace Credential

open Credential.Text (Octets trimBlank isBlank)

namespace Assignment

/-- Whether a character may begin a name. -/
def beginsName (character : Char) : Bool :=
  character.isAlpha || character = '_'

/-- Whether a character may go on a name. -/
def continuesName (character : Char) : Bool :=
  character.isAlphanum || character = '_' || character = '.'

/-- Cut a name from the front of a line. -/
def cutName? (line : List Char) : Option (String × List Char) :=
  match line with
  | first :: _ =>
      if beginsName first then
        some (String.ofList (line.takeWhile continuesName), line.dropWhile continuesName)
      else
        none
  | [] => none

/-- Cut an equals sign from the front of a line. -/
def cutEquals? : List Char → Option (List Char)
  | '=' :: rest => some rest
  | _ => none

/-- Where in a value a reader is. -/
inductive Place where
  /-- Outside quotes. -/
  | plain
  /-- Between double quotes. -/
  | weak
  /-- Between single quotes, where every character stands for itself. -/
  | strong
  /-- After the value, where only blanks and a comment may stand. -/
  | ended
  /-- In the comment after the value. -/
  | comment
  deriving Repr, DecidableEq

/-- What a reader is in the middle of. -/
inductive Pending where
  | nothing
  /-- After a backslash. -/
  | escape
  /-- In the name after a dollar sign. -/
  | bare (name : List Char)
  /-- In the name between a dollar sign's braces. -/
  | braced (name : List Char)
  deriving Repr, DecidableEq

/-- The state of a reader of values; the output is latest first, as names are. -/
structure Reader where
  place : Place
  pending : Pending
  output : List Char
  deriving Repr, DecidableEq

namespace Reader

/-- The state at the front of a value. -/
def start : Reader :=
  ⟨.plain, .nothing, []⟩

/-- Add a character to the output. -/
def put (reader : Reader) (character : Char) : Reader :=
  { reader with pending := .nothing, output := character :: reader.output }

/-- Add the text of a variable to the output. -/
def substitute (reader : Reader) (environment : Environment) (name : List Char) : Reader :=
  let text := (environment.get? (String.ofList name.reverse)).getD ""
  { reader with pending := .nothing, output := text.toList.reverse ++ reader.output }

/-- Take a character that no backslash and no name precedes. -/
def plainStep (reader : Reader) (character : Char) : Option Reader :=
  match reader.place with
  | .comment => some reader
  | .ended =>
      if character = ' ' ∨ character = '\t' then some reader
      else if character = '#' then some { reader with place := .comment }
      else none
  | .strong =>
      if character = '\'' then some { reader with place := .plain } else some (reader.put character)
  | .weak =>
      if character = '$' then some { reader with pending := .bare [] }
      else if character = '"' then some { reader with place := .plain }
      else if character = '\\' then some { reader with pending := .escape }
      else some (reader.put character)
  | .plain =>
      if character = '$' then some { reader with pending := .bare [] }
      else if character = '\'' then some { reader with place := .strong }
      else if character = '"' then some { reader with place := .weak }
      else if character = '\\' then some { reader with pending := .escape }
      else if character = ' ' ∨ character = '\t' then some { reader with place := .ended }
      else some (reader.put character)

/--
Take one character of a value.

The character that ends a bare name stands for itself, whatever it is, unless it
is a dollar sign.
-/
def step (environment : Environment) (reader : Reader) (character : Char) : Option Reader :=
  match reader.pending with
  | .nothing => reader.plainStep character
  | .escape =>
      if character ∈ ['\\', '\'', '"', '$', ' '] then some (reader.put character)
      else if character = 'n' then some (reader.put '\n')
      else none
  | .bare name =>
      if Text.isAlphanumeric character then
        some { reader with pending := .bare (character :: name) }
      else if character = '{' ∧ name = [] then
        some { reader with pending := .braced [] }
      else
        let reader := reader.substitute environment name
        if character = '$' then
          some { reader with pending := .bare [] }
        else
          some (reader.put character)
  | .braced name =>
      if character = '}' then
        some (reader.substitute environment name)
      else
        some { reader with pending := .braced (character :: name) }

/-- The value at the end of a line; quotes and braces must be closed. -/
def finish? (environment : Environment) (reader : Reader) : Option String :=
  if reader.place = .weak ∨ reader.place = .strong then
    none
  else
    match reader.pending with
    | .braced _ => none
    | .bare name =>
        some (String.ofList (reader.substitute environment name).output.reverse)
    | _ => some (String.ofList reader.output.reverse)

end Reader

/-- The value that the rest of a line spells. -/
def value? (environment : Environment) (characters : List Char) : Option String :=
  if characters = [] ∨ characters.head? = some '#' then
    some ""
  else
    (characters.foldlM (Reader.step environment) Reader.start).bind (Reader.finish? environment)

/-- Cut the name of an assignment, with the word `export` before it or not. -/
def cutTarget? (line : List Char) : Option (String × List Char) := do
  let (name, rest) ← cutName? line
  let rest := rest.dropWhile isBlank
  match cutEquals? rest with
  | some rest => some (name, rest)
  | none =>
      if name = "export" then
        let (name, rest) ← cutName? rest
        let rest ← cutEquals? (rest.dropWhile isBlank)
        some (name, rest)
      else
        none

/--
The environment after a line.

A variable that has a text keeps it.  A blank line or a comment says nothing.
-/
def line? (environment : Environment) (line : List Char) : Option Environment :=
  let line := trimBlank line
  if line = [] ∨ line.head? = some '#' then
    some environment
  else
    match cutTarget? line with
    | none => none
    | some (name, rest) =>
        (value? environment (rest.dropWhile isBlank)).map fun value =>
          match environment.get? name with
          | some _ => environment
          | none => environment.set name value

/-- The environment after lines, up to the first that cannot be read. -/
def lines (environment : Environment) : List Octets → Environment
  | [] => environment
  | line :: rest =>
      match (Text.Utf8.decode? line).bind fun text => line? environment text.toList with
      | some environment => lines environment rest
      | none => environment

end Assignment

/-- The environment with the variables that a file gives. -/
def Environment.withFile (environment : Environment) (file : Octets) : Environment :=
  Assignment.lines environment (file.splitOn 0x0A)

end Credential
