import Credential.Password.Argon2
import Credential.Text.Base64
import Credential.Text.Decimal

/-!
# Password hashes

A password hash is kept as one text that names the variant, the version, the
costs, the salt and the output, each after a `$`.
-/

namespace Credential.Password

open Credential.Text
open Credential.Password.Argon2

/-- A password hash together with all that went into it but the password. -/
structure HashText where
  variant : Variant
  version : Version
  cost : Cost
  salt : Octets
  associated : Octets
  output : Octets
  deriving Repr, DecidableEq

namespace HashText

/-- The name of a variant. -/
def variantName : Variant → String
  | .dependent => "argon2d"
  | .independent => "argon2i"
  | .hybrid => "argon2id"

/-- The variant of a name. -/
def variantOf? (name : List Char) : Option Variant :=
  [Variant.dependent, Variant.independent, Variant.hybrid].find? fun variant =>
    (variantName variant).toList = name

/-- The version of a number. -/
def versionOf? (number : Nat) : Option Version :=
  [Version.v16, Version.v19].find? (·.number = number)

/-- Whether a character may occur in the value of a parameter. -/
def isValueCharacter (character : Char) : Bool :=
  character.isAlphanum || "/+.-".toList.contains character

/-- The value of a parameter: up to 64 characters. -/
def value? (characters : List Char) : Option (List Char) :=
  if characters.length ≤ 64 ∧ characters.all isValueCharacter then some characters else none

/-- A number below 2³² without leading zeros. -/
def number? (characters : List Char) : Option Nat :=
  if characters.length = 1 ∨ characters.head? ≠ some '0' then
    (Decimal.read? characters).filter (· < 4294967296)
  else
    none

/-- The costs and the associated data that parameters set. -/
structure Parameters where
  memory : Nat
  passes : Nat
  lanes : Nat
  associated : Octets
  deriving Repr, DecidableEq

/-- The costs of new hashes, which also stand for missing parameters. -/
def Parameters.standard : Parameters :=
  ⟨19456, 2, 1, []⟩

/-- The octets of at most `limit` that a parameter gives. -/
def octets? (limit : Nat) (characters : List Char) : Option Octets :=
  (Base64.decode? .standard characters).filter (·.length ≤ limit)

/-- Take one parameter. -/
def Parameters.set? (parameters : Parameters) (name value : List Char) : Option Parameters :=
  match String.ofList name with
  | "m" => (number? value).map fun memory => { parameters with memory }
  | "t" => (number? value).map fun passes => { parameters with passes }
  | "p" => (number? value).map fun lanes => { parameters with lanes }
  | "keyid" => (octets? 8 value).map fun _ => parameters
  | "data" => (octets? 32 value).map fun associated => { parameters with associated }
  | _ => none

/-- The names and values of the parameters of a field; no name may come twice. -/
def pairs? (field : List Char) : Option (List (List Char × List Char)) := do
  if 127 < (String.ofList field).utf8ByteSize then
    none
  let pairs ← (field.splitOn ',').mapM fun piece =>
    match piece.splitOn '=' with
    | [name, value] => (value? value).map fun value => (name, value)
    | _ => none
  if (pairs.map (·.1)).Nodup then
    some pairs
  else
    none

/-- The parameters of a field. -/
def parameters? (field : List Char) : Option Parameters := do
  let pairs ← pairs? field
  pairs.foldlM (fun parameters (name, value) => parameters.set? name value) Parameters.standard

/-- The version that a field gives, if it is the field for it. -/
def versionField? (field : List Char) : Option (List Char) :=
  match field with
  | 'v' :: '=' :: rest => if field.contains ',' then none else some rest
  | _ => none

/-- The version at the front of some fields, and the fields after it. -/
def takeVersion? : List (List Char) → Option (Version × List (List Char))
  | [] => some (.v19, [])
  | field :: rest =>
      match versionField? field with
      | some characters => do
          let number ← number? (← value? characters)
          some (← versionOf? number, rest)
      | none => some (.v19, field :: rest)

/-- The parameters at the front of some fields, and the fields after them. -/
def takeParameters? : List (List Char) → Option (Parameters × List (List Char))
  | [] => some (Parameters.standard, [])
  | field :: rest =>
      if field.contains '=' then
        (parameters? field).map fun parameters => (parameters, rest)
      else
        some (Parameters.standard, field :: rest)

/-- Whether the memory suffices for the lanes, and each cost is at least one. -/
def Parameters.Sound (parameters : Parameters) : Prop :=
  1 ≤ parameters.passes ∧ 1 ≤ parameters.lanes ∧ parameters.lanes < 16777216 ∧
    8 * parameters.lanes ≤ parameters.memory

instance (parameters : Parameters) : Decidable parameters.Sound :=
  inferInstanceAs (Decidable (_ ∧ _))

/-- The hash that a text holds. -/
def parse? (text : String) : Option HashText :=
  match text.toList.splitOn '$' with
  | [] :: name :: fields => do
      let variant ← variantOf? name
      let (version, fields) ← takeVersion? fields
      let (parameters, fields) ← takeParameters? fields
      match fields with
      | [saltField, outputField] =>
          let salt ← Base64.decode? .standard saltField
          let output ← Base64.decode? .standard outputField
          if parameters.Sound ∧ saltField.length ≤ 64 ∧ 8 ≤ salt.length ∧
              10 ≤ output.length ∧ output.length ≤ 64 then
            some
              { variant
                version
                cost := ⟨parameters.memory, parameters.passes, parameters.lanes, output.length⟩
                salt
                associated := parameters.associated
                output }
          else
            none
      | _ => none
  | _ => none

/-- The text of a hash without associated data. -/
def render (hash : HashText) : String :=
  "$" ++ variantName hash.variant ++ "$v=" ++ String.ofList (Decimal.digits hash.version.number) ++
    "$m=" ++ String.ofList (Decimal.digits hash.cost.memory) ++
    ",t=" ++ String.ofList (Decimal.digits hash.cost.passes) ++
    ",p=" ++ String.ofList (Decimal.digits hash.cost.lanes) ++
    "$" ++ String.ofList (Base64.encode .standard hash.salt) ++
    "$" ++ String.ofList (Base64.encode .standard hash.output)

/-- What is hashed to check a candidate. -/
def input (hash : HashText) (candidate : String) : Input :=
  { variant := hash.variant
    version := hash.version
    cost := hash.cost
    password := Utf8.encode candidate
    salt := hash.salt
    associated := hash.associated }

/-- Whether a candidate gives the output of a hash. -/
def accepts (hash : HashText) (candidate : String) : Bool :=
  Argon2.hash (hash.input candidate) = hash.output

end HashText

/-- Number of octets of the output of new hashes. -/
def outputSize : Nat := 32

/-- The text of a new hash of a password with a salt. -/
def hash (salt : Octets) (password : String) : String :=
  let parameters := HashText.Parameters.standard
  let blank : HashText :=
    { variant := .hybrid
      version := .v19
      cost := ⟨parameters.memory, parameters.passes, parameters.lanes, outputSize⟩
      salt
      associated := []
      output := [] }
  ({ blank with output := Argon2.hash (blank.input password) } : HashText).render

/-- Whether a candidate is the password of a stored text. -/
def accepts (stored candidate : String) : Bool :=
  match HashText.parse? stored with
  | some hash => hash.accepts candidate
  | none => false

end Credential.Password
