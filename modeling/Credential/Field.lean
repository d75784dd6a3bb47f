import Credential.Json.Reader

/-!
# Fields of partial records

A partial record may leave a field out, clear it, or give it a value.  Leaving a
field out and clearing it are different: only the former keeps what is stored.
-/

namespace Credential

/-- A field of a record that need not be complete. -/
inductive Field (α : Type) where
  /-- The field is not given. -/
  | unset
  /-- The field is cleared. -/
  | null
  /-- The field has a value. -/
  | value (content : α)
  deriving Repr, DecidableEq

namespace Field

instance : Inhabited (Field α) :=
  ⟨.unset⟩

/-- Whether a field is not given. -/
def isUnset : Field α → Bool
  | .unset => true
  | _ => false

/-- The value of a field, if it has one. -/
def value? : Field α → Option α
  | .value content => some content
  | _ => none

/-- A field, or what is stored in its place if it is not given. -/
def orStored (field stored : Field α) : Field α :=
  match field with
  | .unset => stored
  | _ => field

/-- The field of a value that may be absent. -/
def ofOption : Option α → Field α
  | some content => .value content
  | none => .null

/-- A field as a value; one without a value is null. -/
def toValue (render : α → Json.Value) : Field α → Json.Value
  | .value content => render content
  | _ => .null

/-- The members of an object that a field makes: none if it is not given. -/
def toMembers (name : String) (render : α → Json.Value) (field : Field α) :
    List (String × Json.Value) :=
  if field.isUnset then [] else [(name, field.toValue render)]

/-- The field that an object has under a name. -/
def ofMember (read : Json.Value → Option α) (object : Json.Value) (name : String) : Field α :=
  match object.member? name with
  | none => .unset
  | some member => ofOption (read member)

/-- A field that is not given takes what is stored. -/
@[simp] theorem orStored_unset (stored : Field α) :
    (Field.unset : Field α).orStored stored = stored :=
  rfl

/-- Filling a field from two records, one after the other, is filling it from the filled one. -/
theorem orStored_assoc (field middle stored : Field α) :
    (field.orStored middle).orStored stored = field.orStored (middle.orStored stored) := by
  cases field <;> rfl

end Field

end Credential
