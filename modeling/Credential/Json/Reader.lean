import Credential.Json.Reading

/-!
# Readers of values

Readers for the kinds of values that records are made of, and for records.  A
record is an object, or a list of its members in order.  A member that is not
known is passed over, and one that is given twice is not accepted.
-/

namespace Credential.Json

/-- A reader of one value; the number bounds how deep values may still be nested. -/
abbrev Reader := Nat → Input → Reading Value

/-- Stop at a value of the wrong kind; a scalar is read first, and must be well written. -/
def mismatched (input : Input) : Reading Value :=
  match input with
  | some 'n' :: rest => (readWord "ull".toList rest).bind fun _ rest => .stop .mismatch rest
  | some 't' :: rest => (readWord "rue".toList rest).bind fun _ rest => .stop .mismatch rest
  | some 'f' :: rest => (readWord "alse".toList rest).bind fun _ rest => .stop .mismatch rest
  | some '"' :: rest => (readQuoted .plain [] false rest).bind fun _ rest => .stop .mismatch rest
  | some '[' :: _ => .stop .mismatch input
  | some '{' :: _ => .stop .mismatch input
  | some '-' :: _ => (readNumber input).bind fun _ rest => .stop .mismatch rest
  | symbol :: _ =>
      if (digitSymbol? symbol).isSome then
        (readNumber input).bind fun _ rest => .stop .mismatch rest
      else
        .stop .malformed input
  | [] => .stop .malformed []

/-- Whether a number begins here. -/
def numberBegins : Input → Bool
  | symbol :: _ => symbol = some '-' || (digitSymbol? symbol).isSome
  | [] => false

namespace Reader

/-- A text. -/
def text : Reader := fun _ input =>
  match skipSpace input with
  | some '"' :: rest => (readQuoted .plain [] false rest).map .text
  | rest => mismatched rest

/-- A text that passes a test. -/
def textThat (accepts : String → Bool) : Reader := fun depth input =>
  (text depth input).bind fun value rest =>
    match value with
    | .text content => if accepts content then .done value rest else .stop .mismatch rest
    | _ => .stop .mismatch rest

/-- A truth value. -/
def flag : Reader := fun _ input =>
  match skipSpace input with
  | some 't' :: rest => (readWord "rue".toList rest).map fun _ => .flag true
  | some 'f' :: rest => (readWord "alse".toList rest).map fun _ => .flag false
  | rest => mismatched rest

/-- An integer within bounds. -/
def integer (least greatest : Int) : Reader := fun _ input =>
  let input := skipSpace input
  if numberBegins input then
    (readNumber input).bind fun value rest =>
      match value with
      | .integer number =>
          if least ≤ number ∧ number ≤ greatest then .done value rest else .stop .mismatch rest
      | _ => .stop .mismatch rest
  else
    mismatched input

/-- What another reader reads, or null. -/
def optional (reader : Reader) : Reader := fun depth input =>
  match skipSpace input with
  | some 'n' :: rest => (readWord "ull".toList rest).map fun _ => .null
  | rest => reader depth rest

/-- What is left after an attempt to end a list. -/
def passListEnd (input : Input) : Input :=
  match skipSpace input with
  | some ']' :: rest => rest
  | some ',' :: rest => skipSpace rest
  | rest => rest

/-- What is left after an attempt to end an object. -/
def passObjectEnd (input : Input) : Input :=
  match skipSpace input with
  | some '}' :: rest => rest
  | rest => rest

/-- End a list that must hold no more items. -/
def endList (value : Value) (input : Input) : Reading Value :=
  match skipSpace input with
  | some ']' :: rest => .done value rest
  | rest => .stop .malformed rest

/-- Whether another item or member comes, and where it begins. -/
def hasNext (close : Char) (isFirst : Bool) (input : Input) : Reading Bool :=
  match skipSpace input with
  | [] => .stop .malformed []
  | symbol :: rest =>
      if symbol = some close then
        .done false (symbol :: rest)
      else if isFirst then
        .done true (symbol :: rest)
      else if symbol = some ',' then
        match skipSpace rest with
        | [] => .stop .malformed []
        | next :: rest =>
            if next = some close then .stop .malformed (next :: rest)
            else .done true (next :: rest)
      else
        .stop .malformed (symbol :: rest)

/-- Read items with one reader up to the end of their list, which is not passed. -/
def items (reader : Reader) (depth : Nat) :
    Nat → Bool → List Value → Input → Reading (List Value)
  | 0, _, _, input => .stop .malformed input
  | fuel + 1, isFirst, read, input =>
      (hasNext ']' isFirst input).bind fun more rest =>
        if more then
          (reader depth rest).bind fun value rest =>
            items reader depth fuel false (value :: read) rest
        else
          .done read.reverse rest

/-- Pass the bracket at the front and take one level of depth. -/
def enter (depth : Nat) (input : Input) (inside : Nat → Input → Reading Value) : Reading Value :=
  if depth ≤ 1 then .stop .malformed input else inside (depth - 1) (input.drop 1)

/-- A list of values that one reader reads. -/
def listOf (reader : Reader) : Reader := fun depth input =>
  match skipSpace input with
  | some '[' :: rest =>
      enter depth (some '[' :: rest) fun depth rest =>
        match items reader depth (rest.length + 1) true [] rest with
        | .done values rest => endList (.list values) rest
        | .stop fault rest => .stop fault (passListEnd rest)
  | rest => mismatched rest

/-- Read the name of a member and the colon after it. -/
def memberName (input : Input) : Reading String :=
  match input with
  | some '"' :: rest => readQuoted .plain [] false rest
  | rest => .stop .malformed rest

/-- Pass the colon after the name of a member. -/
def passColon (input : Input) : Reading Unit :=
  match skipSpace input with
  | some ':' :: rest => .done () rest
  | rest => .stop .malformed rest

/-! ## Any value -/

mutual

/-- Any value; every value and every item takes one unit of `fuel`. -/
def anyWithin : Nat → Nat → Input → Reading Value
  | 0, _, input => .stop .malformed input
  | fuel + 1, depth, input =>
      match skipSpace input with
      | some 'n' :: rest => (readWord "ull".toList rest).map fun _ => .null
      | some 't' :: rest => (readWord "rue".toList rest).map fun _ => .flag true
      | some 'f' :: rest => (readWord "alse".toList rest).map fun _ => .flag false
      | some '"' :: rest => (readQuoted .plain [] false rest).map .text
      | some '[' :: rest =>
          if depth ≤ 1 then
            .stop .malformed (some '[' :: rest)
          else
            match anyItems fuel (depth - 1) true [] rest with
            | .done values rest => endList (.list values) rest
            | .stop fault rest => .stop fault (passListEnd rest)
      | some '{' :: rest =>
          if depth ≤ 1 then
            .stop .malformed (some '{' :: rest)
          else
            match anyMembers fuel (depth - 1) true [] rest with
            | .done members rest => .done (.object members) (rest.drop 1)
            | .stop fault rest => .stop fault (passObjectEnd rest)
      | rest => if numberBegins rest then readNumber rest else .stop .malformed rest

/-- Any items up to the end of their list. -/
def anyItems : Nat → Nat → Bool → List Value → Input → Reading (List Value)
  | 0, _, _, _, input => .stop .malformed input
  | fuel + 1, depth, isFirst, read, input =>
      match hasNext ']' isFirst input with
      | .done true rest =>
          match anyWithin fuel depth rest with
          | .done value rest => anyItems fuel depth false (value :: read) rest
          | .stop fault rest => .stop fault rest
      | .done false rest => .done read.reverse rest
      | .stop fault rest => .stop fault rest

/-- Any members up to the end of their object. -/
def anyMembers :
    Nat → Nat → Bool → List (String × Value) → Input → Reading (List (String × Value))
  | 0, _, _, _, input => .stop .malformed input
  | fuel + 1, depth, isFirst, read, input =>
      match hasNext '}' isFirst input with
      | .done true rest =>
          match memberName rest with
          | .done name rest =>
              match passColon rest with
              | .done _ rest =>
                  match anyWithin fuel depth rest with
                  | .done value rest => anyMembers fuel depth false ((name, value) :: read) rest
                  | .stop fault rest => .stop fault rest
              | .stop fault rest => .stop fault rest
          | .stop fault rest => .stop fault rest
      | .done false rest => .done read.reverse rest
      | .stop fault rest => .stop fault rest

end

/-- Any value. -/
def any : Reader := fun depth input =>
  anyWithin (2 * input.length + 2) depth input

/-- What another reader reads, or null in place of whatever it does not read. -/
def tolerant (reader : Reader) : Reader := fun depth input =>
  match reader depth input with
  | .done value rest => .done value rest
  | .stop _ rest => .done .null rest

end Reader

/-! ## Records -/

/-- When a member must be given. -/
inductive Presence where
  | always
  /-- Only in a record that is written as a list. -/
  | inList
  | never
  deriving Repr, DecidableEq

/-- A member of a record. -/
structure Member where
  name : String
  presence : Presence
  reader : Reader

namespace Member

/-- A member that must be given. -/
def mandatory (name : String) (reader : Reader) : Member :=
  ⟨name, .always, reader⟩

/-- A member that may be left out. -/
def defaulted (name : String) (reader : Reader) : Member :=
  ⟨name, .never, reader⟩

/-- A member that may be left out or null. -/
def optional (name : String) (reader : Reader) : Member :=
  ⟨name, .never, reader.optional⟩

/-- A member that may be null, and may be left out of an object but not of a list. -/
def positional (name : String) (reader : Reader) : Member :=
  ⟨name, .inList, reader.optional⟩

end Member

namespace Reader

/-- Whether some member that must be given is missing among those read. -/
def lacks (members : List Member) (read : List (String × Value)) : Bool :=
  members.any fun member => member.presence = .always && (read.lookup member.name).isNone

/--
Read the members of an object up to its end, which is not passed.

`read` holds the members so far, latest first.
-/
def objectMembers (members : List Member) (depth : Nat) :
    Nat → Bool → List (String × Value) → Input → Reading (List (String × Value))
  | 0, _, _, input => .stop .malformed input
  | fuel + 1, isFirst, read, input =>
      (hasNext '}' isFirst input).bind fun more rest =>
        if more then
          (memberName rest).bind fun name rest =>
            match members.find? (·.name = name) with
            | none =>
                (passColon rest).bind fun _ rest =>
                  (skipValue rest).bind fun _ rest =>
                    objectMembers members depth fuel false read rest
            | some member =>
                if (read.lookup name).isSome then
                  .stop .mismatch rest
                else
                  (passColon rest).bind fun _ rest =>
                    (member.reader depth rest).bind fun value rest =>
                      objectMembers members depth fuel false ((name, value) :: read) rest
        else if lacks members read then
          .stop .mismatch rest
        else
          .done read.reverse rest

/-- Read the members of a record that is written as a list. -/
def listMembers (depth : Nat) :
    List Member → Bool → List (String × Value) → Input → Reading (List (String × Value))
  | [], _, read, input => .done read.reverse input
  | member :: members, isFirst, read, input =>
      (hasNext ']' isFirst input).bind fun more rest =>
        if more then
          (member.reader depth rest).bind fun value rest =>
            listMembers depth members false ((member.name, value) :: read) rest
        else if member.presence ≠ .never then
          .stop .mismatch rest
        else
          listMembers depth members isFirst read rest

/-- A record: an object of its members, or a list of them in order. -/
def record (members : List Member) : Reader := fun depth input =>
  match skipSpace input with
  | some '{' :: rest =>
      enter depth (some '{' :: rest) fun depth rest =>
        match objectMembers members depth (rest.length + 1) true [] rest with
        | .done read rest => .done (.object read) (rest.drop 1)
        | .stop fault rest => .stop fault (passObjectEnd rest)
  | some '[' :: rest =>
      enter depth (some '[' :: rest) fun depth rest =>
        match listMembers depth members true [] rest with
        | .done read rest => endList (.object read) rest
        | .stop fault rest => .stop fault (passListEnd rest)
  | rest => mismatched rest

/-- How deep values may be nested. -/
def depthLimit : Nat := 128

/-- Read one value at the front of an input and leave the rest. -/
def front (reader : Reader) (input : Input) : Except Fault Value :=
  match reader depthLimit input with
  | .done value _ => .ok value
  | .stop fault _ => .error fault

/-- Read an input that holds one value and, but for space, nothing else. -/
def whole (reader : Reader) (input : Input) : Except Fault Value :=
  match reader depthLimit input with
  | .done value rest => if skipSpace rest = [] then .ok value else .error .malformed
  | .stop fault _ => .error fault

/-- The value that a text holds. -/
def parse? (reader : Reader) (text : String) : Option Value :=
  (reader.whole (inputOf text)).toOption

end Reader

end Credential.Json
