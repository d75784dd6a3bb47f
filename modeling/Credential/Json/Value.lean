/-!
# Values and their text

The values that requests, answers and tokens carry, and the compact text of a
value.  Members of an object keep their order.
-/

namespace Credential.Json

/-- A value of an interchange text. -/
inductive Value where
  | null
  | flag (value : Bool)
  | integer (value : Int)
  /-- A number with a decimal point: digits, and the power of ten that they count. -/
  | real (negative : Bool) (digits : Nat) (exponent : Int)
  | text (value : String)
  | list (items : List Value)
  | object (members : List (String × Value))
  deriving Repr

namespace Value

/-- The text of a value, if it is one. -/
def text? : Value → Option String
  | .text value => some value
  | _ => none

/-- The truth value of a value, if it is one. -/
def flag? : Value → Option Bool
  | .flag value => some value
  | _ => none

/-- The number of a value, if it is an integer. -/
def integer? : Value → Option Int
  | .integer value => some value
  | _ => none

/-- The items of a value, if it is a list. -/
def list? : Value → Option (List Value)
  | .list items => some items
  | _ => none

/-- The members of a value; none but an object has members. -/
def members : Value → List (String × Value)
  | .object members => members
  | _ => []

/-- The first member of a name. -/
def member? (value : Value) (name : String) : Option Value :=
  value.members.lookup name

end Value

/-- The hexadecimal digit of a number below 16, in lower case. -/
def hexDigit (value : Nat) : Char :=
  if value < 10 then Char.ofNat (value + 48) else Char.ofNat (value + 87)

/-- A character as it stands in a quoted text. -/
def escape (character : Char) : List Char :=
  if character = '"' then
    ['\\', '"']
  else if character = '\\' then
    ['\\', '\\']
  else if character = '\n' then
    ['\\', 'n']
  else if character = '\r' then
    ['\\', 'r']
  else if character = '\t' then
    ['\\', 't']
  else if character = '\x08' then
    ['\\', 'b']
  else if character = '\x0C' then
    ['\\', 'f']
  else if character.toNat < 32 then
    ['\\', 'u', '0', '0', hexDigit (character.toNat / 16), hexDigit (character.toNat % 16)]
  else
    [character]

/-- A text between quotes; quotes, backslashes and control characters are escaped. -/
def quote (text : String) : List Char :=
  '"' :: text.toList.flatMap escape ++ ['"']

/-- The characters of a natural number. -/
def naturalText (value : Nat) : List Char :=
  Nat.toDigits 10 value

/-- The characters of an integer. -/
def integerText : Int → List Char
  | .ofNat value => naturalText value
  | .negSucc value => '-' :: naturalText (value + 1)

/-- A positive number without the zeros at its end, and how many there were. -/
def stripZeros (digits : Nat) : Nat × Nat :=
  if digits = 0 ∨ digits % 10 ≠ 0 then
    (digits, 0)
  else
    let (stripped, count) := stripZeros (digits / 10)
    (stripped, count + 1)
termination_by digits
decreasing_by omega

/--
The characters of a number with a decimal point.

The point stands among the digits, or with zeros beside it, from 1e-5 up to
below 1e16; further out there is a power of ten.
-/
def realText (negative : Bool) (digits : Nat) (exponent : Int) : List Char :=
  let (stripped, zeros) := stripZeros digits
  let characters := naturalText stripped
  let count := characters.length
  let scale : Int := if stripped = 0 then 0 else exponent + zeros
  let point := scale + count
  let body :=
    if 0 ≤ scale ∧ point ≤ 16 then
      characters ++ List.replicate scale.toNat '0' ++ ['.', '0']
    else if 0 < point ∧ point ≤ 16 then
      characters.take point.toNat ++ '.' :: characters.drop point.toNat
    else if -5 < point ∧ point ≤ 0 then
      '0' :: '.' :: List.replicate (-point).toNat '0' ++ characters
    else
      characters.take 1 ++ (if count = 1 then [] else '.' :: characters.drop 1) ++
        'e' :: integerText (point - 1)
  if negative then '-' :: body else body

/-- Join pieces with a comma between any two. -/
def commaJoin : List (List Char) → List Char
  | [] => []
  | [piece] => piece
  | piece :: rest => piece ++ ',' :: commaJoin rest

mutual

/-- The characters of a value. -/
def Value.characters : Value → List Char
  | .null => "null".toList
  | .flag value => if value then "true".toList else "false".toList
  | .integer value => integerText value
  | .real negative digits exponent => realText negative digits exponent
  | .text value => quote value
  | .list items => '[' :: commaJoin (Value.itemCharacters items) ++ [']']
  | .object members => '{' :: commaJoin (Value.memberCharacters members) ++ ['}']

/-- The characters of each item of a list. -/
def Value.itemCharacters : List Value → List (List Char)
  | [] => []
  | item :: rest => item.characters :: Value.itemCharacters rest

/-- The characters of each member of an object. -/
def Value.memberCharacters : List (String × Value) → List (List Char)
  | [] => []
  | (name, value) :: rest =>
      (quote name ++ ':' :: value.characters) :: Value.memberCharacters rest

end

/-- The compact text of a value. -/
def Value.render (value : Value) : String :=
  String.ofList value.characters

end Credential.Json
