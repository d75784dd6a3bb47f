import Credential.Account.Request
import Credential.Occasion.Drawn
import Credential.Proofs.Account.Passwords
import Credential.Proofs.Json.Records
import Credential.Proofs.Store.Ledger

/-!
# What a change of an account says

A change is read from a text, in which a member may be missing, null or given.
Laid over a stored account it makes the record that the account is to have.
-/

namespace Credential

open Credential.Json (HoldsRecord Input Reader Value inputOf)
open Credential.Text (Octets)
open Credential.Time (Instant)

/-! ## Reading a change -/

/-- How a field is given by a member: not at all, as null, or by a value. -/
inductive Field.IsGiven
    {Content : Type}
    (render : Content → Value) :
    Option Value → Field Content → Prop where
  | missing : IsGiven render none .unset
  | null : IsGiven render (some .null) .null
  | value (content : Content) : IsGiven render (some (render content)) (.value content)

/-- A field that is found under a name is given by the member of that name. -/
theorem Field.isGiven_ofMember
    {Content : Type}
    {render : Content → Value}
    {content? : Value → Option Content}
    (rendered : ∀ content, content? (render content) = some content)
    (null : content? .null = none)
    {read : List (String × Value)}
    {name : String}
    (nullOr : ∀ value, read.lookup name = some value → value.IsNullOr render) :
    IsGiven render (read.lookup name) (ofMember content? (.object read) name) := by
  rw [ofMember, Value.member?, Value.members]
  cases found : read.lookup name with
  | none => exact .missing
  | some value =>
      rcases nullOr value found with rfl | ⟨content, rfl⟩
      · dsimp only
        rw [null]
        exact .null
      · dsimp only
        rw [rendered]
        exact .value content

namespace AccountPatch

/-- What a change says if some members have been read. -/
structure Says (patch : AccountPatch) (read : List (String × Value)) : Prop where
  email : patch.email.IsGiven .text (read.lookup "email")
  name : patch.name.IsGiven .text (read.lookup "name")
  /-- A password that is null is not given. -/
  password : ∃ field, Field.IsGiven .text (read.lookup "password") field ∧
    patch.password = field.value?
  active : patch.active.IsGiven .flag (read.lookup "active")
  deleted : patch.deleted.IsGiven .flag (read.lookup "deleted")

/-- What can be read under the name of a member: a truth value for two of them, else a text. -/
def Admits (name : String) (value : Value) : Prop :=
  if name ∈ ["active", "deleted"] then value.IsNullOr Value.flag else value.IsNullOr Value.text

theorem admits_of_holdsRecord
    {input : Input}
    {read : List (String × Value)}
    (record : HoldsRecord members input read) :
    ∀ entry ∈ read, Admits entry.1 entry.2 := by
  refine record.forall_mem ?_
  intro member isMember levels start value rest done
  simp only [members, List.mem_cons, List.not_mem_nil, or_false] at isMember
  rcases isMember with rfl | rfl | rfl | rfl | rfl
  · exact Reader.isNullOr_text done
  · exact Reader.isNullOr_text done
  · exact Reader.isNullOr_text done
  · exact Reader.isNullOr_flag done
  · exact Reader.isNullOr_flag done

/-- Whether a text holds a record and a change says what the record does. -/
structure IsReadFrom (patch : AccountPatch) (text : String) : Prop where
  holds : ∃ read, HoldsRecord members (inputOf text) read
  meant : ∀ {read}, HoldsRecord members (inputOf text) read → patch.Says read

/-- A change that is read from a text says what the record in the text does. -/
theorem isReadFrom_of_parse?
    {text : String}
    {patch : AccountPatch}
    (parses : parse? text = some patch) :
    patch.IsReadFrom text := by
  obtain ⟨value, reads, rfl⟩ := Option.map_eq_some_iff.mp parses
  obtain ⟨read, rfl, record⟩ := HoldsRecord.of_whole reads
  have admits {name : String} {value : Value} (found : read.lookup name = some value) :
      Admits name value := by
    obtain ⟨before, after, rfl, -⟩ := List.lookup_eq_some_iff.mp found
    exact admits_of_holdsRecord record (name, value) (by simp)
  have text (name : String) (isText : name ∉ ["active", "deleted"]) :
      (Field.ofMember Value.text? (.object read) name).IsGiven .text (read.lookup name) := by
    have rendered (content : String) : (Value.text content).text? = some content := rfl
    refine Field.isGiven_ofMember rendered rfl fun value found => ?_
    have admitted := admits found
    rw [Admits, if_neg isText] at admitted
    exact admitted
  have flag (name : String) (isFlag : name ∈ ["active", "deleted"]) :
      (Field.ofMember Value.flag? (.object read) name).IsGiven .flag (read.lookup name) := by
    have rendered (content : Bool) : (Value.flag content).flag? = some content := rfl
    refine Field.isGiven_ofMember rendered rfl fun value found => ?_
    have admitted := admits found
    rw [Admits, if_pos isFlag] at admitted
    exact admitted
  refine ⟨⟨read, record⟩, fun same => ?_⟩
  obtain rfl := record.unique same
  refine ⟨text "email" (by decide), text "name" (by decide),
    ⟨_, text "password" (by decide), ?_⟩, flag "active" (by decide), flag "deleted" (by decide)⟩
  rw [Field.ofMember, ofValue]
  cases (Value.object read).member? "password" with
  | none => rfl
  | some value => exact (Field.value?_ofOption _).symm

/-! ## Laying a change over an account -/

/-- Whether the password of a change, if there is one, has a number of characters that is allowed. -/
def HasFitPassword (patch : AccountPatch) : Prop :=
  ∀ password, patch.password = some password → 8 ≤ password.length ∧ password.length ≤ 256

/-- The record that a change makes of a stored account. -/
def mergedInto (patch : AccountPatch) (stored : Account) (occasion : Occasion) : Account :=
  { stored with
    email := patch.email.orStored stored.email
    name := patch.name.orStored stored.name
    password :=
      match patch.password with
      | some password => .value (Password.hash occasion.salt password)
      | none => stored.password
    active :=
      match patch.active with
      | .unset => stored.active
      | .null => .value true
      | .value flag => .value flag
    updated := some occasion.now
    deleted := patch.deleted.orStored stored.deleted }

variable {patch : AccountPatch} {occasion : Occasion} {account stored : Account}

/-- A change with a password that is not allowed makes no record. -/
theorem toAccount_of_not_fit (unfit : ¬ patch.HasFitPassword) (salt : Octets) :
    patch.toAccount salt = .error .invalidPassword := by
  simp only [HasFitPassword, not_forall] at unfit
  obtain ⟨password, given, length⟩ := unfit
  rw [toAccount, given]
  exact if_neg (mt Account.passwordOk_iff.mp length)

/-- Any other change makes one. -/
theorem exists_toAccount_eq_ok (fits : patch.HasFitPassword) (salt : Octets) :
    ∃ account, patch.toAccount salt = .ok account := by
  rw [toAccount]
  cases given : patch.password with
  | none => exact ⟨_, rfl⟩
  | some password => exact ⟨_, if_pos (Account.passwordOk_iff.mpr (fits password given))⟩

/-- The record that is stored for a change is the one that it makes of the stored account. -/
theorem prepareUpdate_of_toAccount
    (made : patch.toAccount occasion.salt = .ok account)
    (settled : ∃ flag, stored.active = .value flag)
    (uid : String) :
    { account with uid := some uid }.prepareUpdate stored occasion.now =
      patch.mergedInto stored occasion := by
  have active : Account.flagOr true (patch.active.orStored stored.active) =
      (patch.mergedInto stored occasion).active := by
    obtain ⟨flag, isFlag⟩ := settled
    rw [mergedInto]
    cases patch.active with
    | unset => rw [Field.orStored_unset, isFlag, Account.flagOr]
    | null => rfl
    | value content => rfl
  rw [toAccount] at made
  cases given : patch.password with
  | none =>
      rw [given] at made
      cases made
      simp only [Account.prepareUpdate, Account.blank, active, Field.orStored_unset]
      simp only [mergedInto, given]
  | some password =>
      rw [given] at made
      dsimp only at made
      unfold Account.setPassword at made
      split at made
      case isFalse => cases made
      case isTrue =>
        cases made
        simp only [Account.prepareUpdate, active]
        simp only [mergedInto, given, Field.orStored]

/-- A record that has been given a password is matched by it. -/
theorem matchPassword_mergedInto
    {password : String}
    (given : patch.password = some password)
    (salted : occasion.salt.length = Occasion.saltSize)
    (stored : Account) :
    (patch.mergedInto stored occasion).matchPassword password = .ok () := by
  have least : 8 ≤ occasion.salt.length := by
    rw [salted]
    decide
  have greatest : (Text.Base64.encode .standard occasion.salt).length ≤ 64 := by
    rw [Text.Base64.length_encode, salted]
    decide
  have accepted := Password.accepts_hash least greatest password
  rw [Account.matchPassword, mergedInto, given]
  exact if_pos accepted

end AccountPatch

end Credential
