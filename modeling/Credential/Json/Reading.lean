import Credential.Json.Value
import Credential.Text.Utf8

/-!
# Reading a text from left to right

A text is read symbol by symbol, and a reader stops where the text first goes
wrong.  There are two ways to go wrong: the text breaks the rules of writing, or
it is well written so far but is not what was to be read.  What has not been
read yet is part of every result, because one reader may go on where another
has stopped.
-/

namespace Credential.Json

open Credential.Text (Symbol)

/-- What is left to read. -/
abbrev Input := List Symbol

/-- Why a reader stops. -/
inductive Fault where
  /-- The text breaks the rules of writing. -/
  | malformed
  /-- The text is not what was to be read. -/
  | mismatch
  deriving Repr, DecidableEq

/-- What a reader makes of its input. -/
inductive Reading (α : Type) where
  | done (value : α) (rest : Input)
  | stop (fault : Fault) (rest : Input)
  deriving Repr

namespace Reading

/-- Go on with what has been read. -/
def bind (reading : Reading α) (next : α → Input → Reading β) : Reading β :=
  match reading with
  | .done value rest => next value rest
  | .stop fault rest => .stop fault rest

/-- Change what has been read. -/
def map (change : α → β) (reading : Reading α) : Reading β :=
  reading.bind fun value rest => .done (change value) rest

end Reading

/-- The symbols of a text. -/
def inputOf (text : String) : Input :=
  text.toList.map some

/-- The symbols that may stand between the parts of a text. -/
def isSpace : Symbol → Bool
  | some character =>
      character = ' ' || character = '\n' || character = '\t' || character = '\r'
  | none => false

/-- Pass over space. -/
def skipSpace (input : Input) : Input :=
  input.dropWhile isSpace

/-- Read exactly some characters. -/
def readWord : List Char → Input → Reading Unit
  | [], input => .done () input
  | _ :: _, [] => .stop .malformed []
  | character :: word, symbol :: rest =>
      if symbol = some character then readWord word rest else .stop .malformed rest

/-! ## Quoted texts -/

/-- The value of a hexadecimal digit, if a symbol is one. -/
def hexSymbol? : Symbol → Option Nat
  | some character =>
      let code := character.toNat
      if 48 ≤ code ∧ code ≤ 57 then
        some (code - 48)
      else if 65 ≤ code ∧ code ≤ 70 then
        some (code - 55)
      else if 97 ≤ code ∧ code ≤ 102 then
        some (code - 87)
      else
        none
  | none => none

/-- The character that stands for itself or for a control character after a backslash. -/
def simpleEscape? : Symbol → Option Char
  | some '"' => some '"'
  | some '\\' => some '\\'
  | some '/' => some '/'
  | some 'b' => some '\x08'
  | some 'f' => some '\x0C'
  | some 'n' => some '\n'
  | some 'r' => some '\r'
  | some 't' => some '\t'
  | _ => none

/-- Where a reader is inside a quoted text. -/
inductive Phase where
  | plain
  /-- After a backslash. -/
  | escape
  /-- Among the digits of a numeric escape; the second of a pair knows the first. -/
  | digits (left value : Nat) (first : Option Nat)
  /-- After the first escape of a pair. -/
  | pair (first : Nat)
  /-- After the backslash of the second escape of a pair. -/
  | pairEscape (first : Nat)
  deriving Repr, DecidableEq

/-- What is left when one octet of a symbol is passed over. -/
def passOctet (symbol : Symbol) (rest : Input) : Input :=
  match symbol with
  | some character => if character.toNat < 0x80 then rest else none :: rest
  | none => rest

/--
Read a quoted text after its opening quote.

`read` holds the characters so far, latest first, and `gap` tells whether there
has been a gap among them; a gap is only reported at the closing quote.  Numeric
escapes above U+FFFF come in pairs, and half of a pair is malformed.
-/
def readQuoted (phase : Phase) (read : List Char) (gap : Bool) : Input → Reading String
  | [] => .stop .malformed []
  | symbol :: rest =>
      match phase with
      | .plain =>
          match symbol with
          | some character =>
              if character = '"' then
                if gap then .stop .malformed rest
                else .done (String.ofList read.reverse) rest
              else if character = '\\' then
                readQuoted .escape read gap rest
              else if character.toNat < 32 then
                .stop .malformed rest
              else
                readQuoted .plain (character :: read) gap rest
          | none => readQuoted .plain read true rest
      | .escape =>
          match simpleEscape? symbol with
          | some character => readQuoted .plain (character :: read) gap rest
          | none =>
              if symbol = some 'u' then readQuoted (.digits 4 0 none) read gap rest
              else .stop .malformed rest
      | .digits left value first =>
          match hexSymbol? symbol with
          | none => .stop .malformed rest
          | some digit =>
              let value := value * 16 + digit
              if 1 < left then
                readQuoted (.digits (left - 1) value first) read gap rest
              else
                match first with
                | none =>
                    if 0xDC00 ≤ value ∧ value ≤ 0xDFFF then
                      .stop .malformed rest
                    else if 0xD800 ≤ value ∧ value ≤ 0xDBFF then
                      readQuoted (.pair value) read gap rest
                    else
                      readQuoted .plain (Char.ofNat value :: read) gap rest
                | some high =>
                    if 0xDC00 ≤ value ∧ value ≤ 0xDFFF then
                      let code := (high - 0xD800) * 0x400 + (value - 0xDC00) + 0x10000
                      readQuoted .plain (Char.ofNat code :: read) gap rest
                    else
                      .stop .malformed rest
      | .pair first =>
          if symbol = some '\\' then readQuoted (.pairEscape first) read gap rest
          else .stop .malformed (passOctet symbol rest)
      | .pairEscape first =>
          if symbol = some 'u' then readQuoted (.digits 4 0 (some first)) read gap rest
          else .stop .malformed (passOctet symbol rest)

/--
Pass over a quoted text after its opening quote.

Escapes are checked for their form only: neither gaps nor halves of pairs matter.
-/
def skipQuoted (phase : Phase) : Input → Reading Unit
  | [] => .stop .malformed []
  | symbol :: rest =>
      match phase with
      | .escape =>
          if (simpleEscape? symbol).isSome then skipQuoted .plain rest
          else if symbol = some 'u' then skipQuoted (.digits 4 0 none) rest
          else .stop .malformed rest
      | .digits left _ _ =>
          if (hexSymbol? symbol).isNone then .stop .malformed rest
          else if 1 < left then skipQuoted (.digits (left - 1) 0 none) rest
          else skipQuoted .plain rest
      | _ =>
          match symbol with
          | some character =>
              if character = '"' then .done () rest
              else if character = '\\' then skipQuoted .escape rest
              else if character.toNat < 32 then .stop .malformed rest
              else skipQuoted .plain rest
          | none => skipQuoted .plain rest

/-! ## Numbers -/

/-- The value of a decimal digit, if a symbol is one. -/
def digitSymbol? : Symbol → Option Nat
  | some character =>
      if 48 ≤ character.toNat ∧ character.toNat ≤ 57 then some (character.toNat - 48) else none
  | none => none

/-- The decimal digits at the front, and what follows them. -/
def splitDigits : Input → List Nat × Input
  | [] => ([], [])
  | symbol :: rest =>
      match digitSymbol? symbol with
      | some digit =>
          let (digits, rest) := splitDigits rest
          (digit :: digits, rest)
      | none => ([], symbol :: rest)

/-- The greatest number of 64 bits. -/
def maxWord : Nat := 18446744073709551615

/-- The leading digits of a number that fit a word, and a power of ten. -/
structure Scaled where
  significand : Nat
  exponent : Int
  /-- Whether a digit has been left out. -/
  full : Bool
  deriving Repr, DecidableEq

namespace Scaled

/-- Take a digit before the point; one that does not fit raises the power. -/
def takeWhole (number : Scaled) (digit : Nat) : Scaled :=
  let next := number.significand * 10 + digit
  if !number.full && next ≤ maxWord then
    { number with significand := next }
  else
    { number with exponent := number.exponent + 1, full := true }

/-- Take a digit after the point; one that does not fit is left out. -/
def takeFraction (number : Scaled) (digit : Nat) : Scaled :=
  let next := number.significand * 10 + digit
  if !number.full && next ≤ maxWord then
    { number with significand := next, exponent := number.exponent - 1 }
  else
    { number with full := true }

end Scaled

/-- A number rounded to 53 significant bits, a tie to the even one. -/
def roundTo53 (value : Nat) : Nat :=
  let extra := value.log2 - 52
  let unit := Nat.pow 2 extra
  let quotient := value / unit
  let remainder := value % unit
  if 2 * remainder < unit ∨ (2 * remainder = unit ∧ quotient % 2 = 0) then
    quotient * unit
  else
    (quotient + 1) * unit

/-- Whether a number is beyond the finite ones of 64-bit floating point. -/
def isTooLarge (significand : Nat) (exponent : Int) : Bool :=
  significand ≠ 0 && 0 ≤ exponent &&
    (308 < exponent ||
      Nat.pow 2 1024 - Nat.pow 2 970 ≤
        roundTo53 significand * roundTo53 (Nat.pow 10 exponent.toNat))

/-- The digits of a power of ten, up to the first with which it leaves 31 bits. -/
def readPower (value : Nat) : Input → Option Nat × Input
  | [] => (some value, [])
  | symbol :: rest =>
      match digitSymbol? symbol with
      | some digit =>
          let next := value * 10 + digit
          if 2147483647 < next then (none, rest) else readPower next rest
      | none => (some value, symbol :: rest)

/-- The sign of a power of ten, and what follows it. -/
def readPowerSign : Input → Bool × Input
  | some '+' :: rest => (false, rest)
  | some '-' :: rest => (true, rest)
  | input => (false, input)

/-- A number with a point or a power, unless it is too large. -/
def finishReal (negative : Bool) (number : Scaled) (power : Int) (rest : Input) : Reading Value :=
  if isTooLarge number.significand (number.exponent + power) then
    .stop .malformed rest
  else
    .done (.real negative number.significand (number.exponent + power)) rest

/-- Read the power of ten of a number, if there is one. -/
def readScaled (negative : Bool) (number : Scaled) (input : Input) : Reading Value :=
  match input with
  | some mark :: rest =>
      if mark = 'e' ∨ mark = 'E' then
        let (negativePower, rest) := readPowerSign rest
        match rest with
        | symbol :: _ =>
            if (digitSymbol? symbol).isNone then
              .stop .malformed rest
            else
              match readPower 0 rest with
              | (some power, rest) =>
                  finishReal negative number (if negativePower then -power else power) rest
              | (none, rest) =>
                  if number.significand ≠ 0 ∧ negativePower = false then
                    .stop .malformed rest
                  else
                    .done (.real negative 0 0) (splitDigits rest).2
        | [] => .stop .malformed []
      else
        finishReal negative number 0 input
  | _ => finishReal negative number 0 input

/-- The whole number of some digits: an integer if it fits 64 bits, else a real number. -/
def finishWhole (negative : Bool) (digits : List Nat) (rest : Input) : Reading Value :=
  let number := digits.foldl Scaled.takeWhole ⟨0, 0, false⟩
  if number.full then
    finishReal negative number 0 rest
  else if negative then
    if number.significand = 0 ∨ 9223372036854775808 < number.significand then
      .done (.real true number.significand 0) rest
    else
      .done (.integer (-number.significand)) rest
  else
    .done (.integer number.significand) rest

/-- Read a number after its sign. -/
def readUnsigned (negative : Bool) (input : Input) : Reading Value :=
  let (digits, rest) := splitDigits input
  match digits with
  | [] => .stop .malformed rest
  | 0 :: _ :: _ => .stop .malformed rest
  | _ =>
      let number := digits.foldl Scaled.takeWhole ⟨0, 0, false⟩
      match rest with
      | some '.' :: rest =>
          let (fraction, rest) := splitDigits rest
          if fraction = [] then
            .stop .malformed rest
          else
            readScaled negative (fraction.foldl Scaled.takeFraction { number with full := false })
              rest
      | some 'e' :: _ => readScaled negative number rest
      | some 'E' :: _ => readScaled negative number rest
      | _ => finishWhole negative digits rest

/-- Read a number. -/
def readNumber : Input → Reading Value
  | some '-' :: rest => readUnsigned true rest
  | input => readUnsigned false input

/-- Pass over the power of ten of a number, if there is one. -/
def skipPower : Input → Reading Unit
  | some mark :: rest =>
      if mark = 'e' ∨ mark = 'E' then
        let (digits, rest) := splitDigits (readPowerSign rest).2
        if digits = [] then .stop .malformed rest else .done () rest
      else
        .done () (some mark :: rest)
  | input => .done () input

/-- Pass over the sign of a number, if there is one. -/
def skipMinus : Input → Input
  | some '-' :: rest => rest
  | input => input

/-- Pass over a number of any size. -/
def skipNumber (input : Input) : Reading Unit :=
  let (digits, rest) := splitDigits (skipMinus input)
  match digits with
  | [] => .stop .malformed rest
  | 0 :: _ :: _ => .stop .malformed rest
  | _ =>
      match rest with
      | some '.' :: rest =>
          let (fraction, rest) := splitDigits rest
          if fraction = [] then .stop .malformed rest else skipPower rest
      | _ => skipPower rest

/-! ## Passing over values -/

/-- What encloses the value that is being passed over. -/
inductive Enclosure where
  | list
  | object
  deriving Repr, DecidableEq

namespace Enclosure

/-- The character that ends an enclosure. -/
def close : Enclosure → Char
  | .list => ']'
  | .object => '}'

end Enclosure

/-- Pass over the name of a member and the colon after it. -/
def skipName (input : Input) : Reading Unit :=
  match skipSpace input with
  | some '"' :: rest =>
      (skipQuoted .plain rest).bind fun _ rest =>
        match skipSpace rest with
        | some ':' :: rest => .done () rest
        | rest => .stop .malformed rest
  | rest => .stop .malformed rest

/-- Pass over a value that encloses no others. -/
def skipScalar (input : Input) : Reading Unit :=
  match input with
  | some 'n' :: rest => readWord "ull".toList rest
  | some 't' :: rest => readWord "rue".toList rest
  | some 'f' :: rest => readWord "alse".toList rest
  | some '"' :: rest => skipQuoted .plain rest
  | some '-' :: _ => skipNumber input
  | symbol :: _ => if (digitSymbol? symbol).isSome then skipNumber input else .stop .malformed input
  | [] => .stop .malformed []

/--
Close enclosures after a complete value.

The result is the enclosures that are left, of which the innermost goes on after
a comma.
-/
def closeEnclosures : List Enclosure → Input → Reading (List Enclosure)
  | [], input => .done [] input
  | innermost :: outer, input =>
      match skipSpace input with
      | some ',' :: rest => .done (innermost :: outer) rest
      | some character :: rest =>
          if character = innermost.close then closeEnclosures outer rest
          else .stop .malformed (some character :: rest)
      | rest => .stop .malformed rest

/-- Go on after a complete value: close what ends, then read what follows a comma. -/
def afterValue
    (goOn : List Enclosure → Input → Reading Unit)
    (enclosures : List Enclosure)
    (input : Input) :
    Reading Unit :=
  match closeEnclosures enclosures input with
  | .stop fault rest => .stop fault rest
  | .done [] rest => .done () rest
  | .done (.list :: outer) rest => goOn (.list :: outer) rest
  | .done (.object :: outer) rest =>
      match skipName rest with
      | .done _ rest => goOn (.object :: outer) rest
      | .stop fault rest => .stop fault rest

/--
Pass over one value and all that still encloses it.

Every turn reads at least one symbol and takes one unit of `fuel`.  Nothing limits
the depth.
-/
def skipWithin : Nat → List Enclosure → Input → Reading Unit
  | 0, _, input => .stop .malformed input
  | fuel + 1, enclosures, input =>
      match skipSpace input with
      | some '[' :: rest =>
          match skipSpace rest with
          | some ']' :: rest => afterValue (skipWithin fuel) enclosures rest
          | rest => skipWithin fuel (.list :: enclosures) rest
      | some '{' :: rest =>
          match skipSpace rest with
          | some '}' :: rest => afterValue (skipWithin fuel) enclosures rest
          | rest =>
              match skipName rest with
              | .done _ rest => skipWithin fuel (.object :: enclosures) rest
              | .stop fault rest => .stop fault rest
      | rest =>
          match skipScalar rest with
          | .done _ rest => afterValue (skipWithin fuel) enclosures rest
          | .stop fault rest => .stop fault rest

/-- Pass over one value. -/
def skipValue (input : Input) : Reading Unit :=
  skipWithin (input.length + 1) [] input

end Credential.Json
