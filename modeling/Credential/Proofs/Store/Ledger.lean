import Credential.Proofs.Store.Table
import Credential.Proofs.Time.Order
import Credential.Store.Call

/-!
# Ledgers

A ledger is what a store holds, whatever its backend: the record under each uid
and key id.  The operations of a store are said here once, on ledgers; that the
backends follow them is shown elsewhere.

The backends differ in two things only.  A database keeps an absent field as a
cleared one, and it refuses a new account for its email only if the account is
not marked as deleted.
-/

namespace Credential

open Credential.Time (Instant)

/-! ## Cleared records -/

/-- A field with its absence read as a cleared field. -/
def Field.cleared (field : Field α) : Field α :=
  .ofOption field.value?

@[simp] theorem Field.value?_ofOption (content : Option α) :
    (Field.ofOption content).value? = content := by
  cases content <;> rfl

@[simp] theorem Field.value?_cleared (field : Field α) : field.cleared.value? = field.value? :=
  Field.value?_ofOption field.value?

@[simp] theorem Field.cleared_value (content : α) :
    (Field.value content).cleared = .value content :=
  rfl

@[simp] theorem Field.cleared_ofOption (content : Option α) :
    (Field.ofOption content).cleared = .ofOption content := by
  cases content <;> rfl

/-- A cleared field stays given. -/
@[simp] theorem Field.isUnset_cleared (field : Field α) : field.cleared.isUnset = false := by
  cases field <;> rfl

/-- Taking a stored field and clearing it afterwards does not depend on an absence there. -/
@[simp] theorem Field.cleared_orStored_cleared (field stored : Field α) :
    (field.orStored stored.cleared).cleared = (field.orStored stored).cleared := by
  cases field with
  | unset => simp [orStored, cleared]
  | null => rfl
  | value content => rfl

/-- An account with its absent fields read as cleared ones. -/
def Account.cleared (account : Account) : Account :=
  { account with
    email := account.email.cleared
    name := account.name.cleared
    password := account.password.cleared
    active := account.active.cleared
    deleted := account.deleted.cleared }

namespace Account

@[simp] theorem uid_cleared (account : Account) : account.cleared.uid = account.uid :=
  rfl

@[simp] theorem created_cleared (account : Account) : account.cleared.created = account.created :=
  rfl

@[simp] theorem email?_cleared (account : Account) : account.cleared.email? = account.email? :=
  Field.value?_cleared account.email

/-- An account is marked as deleted by the value of its field. -/
theorem isDeleted_iff {account : Account} :
    account.isDeleted = true ↔ account.deleted.value? = some true := by
  rw [isDeleted, decide_eq_true_eq]
  cases account.deleted <;> simp [Field.value?]

/-- An account that is not marked as deleted has another value in its field, or none. -/
theorem isDeleted_eq_false_iff {account : Account} :
    account.isDeleted = false ↔ account.deleted.value? ≠ some true := by
  rw [ne_eq, ← isDeleted_iff, Bool.not_eq_true]

@[simp] theorem isDeleted_cleared (account : Account) :
    account.cleared.isDeleted = account.isDeleted := by
  rw [Bool.eq_iff_iff, isDeleted_iff, isDeleted_iff]
  exact iff_of_eq (congrArg (· = some true) (Field.value?_cleared account.deleted))

end Account

namespace Account

/-- Whether an account is live and has an email. -/
def IsLiveWith (email : String) (account : Account) : Prop :=
  account.isDeleted = false ∧ account.email? = some email

/-- Whether an account is live and has a text for its uid, email or name. -/
def IsLiveFor (query : String) (account : Account) : Prop :=
  account.isDeleted = false ∧
    (account.uid = some query ∨ account.email? = some query ∨ account.name.value? = some query)

end Account

/-! ## Records that are kept -/

/-- What holds of every account that a store keeps under a uid. -/
structure Account.WellKept (account : Account) (uid : String) : Prop where
  uid_eq : account.uid = some uid
  created : account.created.isSome = true
  updated : account.updated.isSome = true
  active : ∃ flag, account.active = .value flag
  email : account.email.isUnset = false
  deleted : account.deleted.isUnset = false

/-- What holds of every key pair that a store keeps under a key id. -/
structure KeyPair.WellKept (key : KeyPair) (kid : String) : Prop where
  kid_eq : key.kid = some kid
  accountId_eq : key.accountId = kid
  accountId : key.accountId ≠ ""
  pubKey : key.pubKey ≠ ""
  privKey : key.privKey ≠ ""
  active : key.active.isSome = true
  created : key.created.isSome = true
  updated : key.updated.isSome = true

namespace Store

/-- The kinds of stores. -/
inductive Backend where
  | memory
  | database
  deriving Repr, DecidableEq

/-- The account that a backend keeps of one that is put into it. -/
def Backend.kept (backend : Backend) (account : Account) : Account :=
  match backend with
  | .memory => account
  | .database => account.cleared

/-- What a store holds: the account of each uid, the key pair of each key id, and the tokens. -/
structure Ledger where
  accounts : String → Option Account
  keys : String → Option KeyPair
  tokens : String → Option String

namespace Ledger

variable {Record : Type}

/-- The ledger without records. -/
def empty : Ledger :=
  ⟨fun _ => none, fun _ => none, fun _ => none⟩

/-- A ledger with another account under a uid, or with none there. -/
def setAccount (ledger : Ledger) (uid : String) (account : Option Account) : Ledger :=
  { ledger with accounts := Function.update ledger.accounts uid account }

/-- A ledger with another key pair under a key id, or with none there. -/
def setKey (ledger : Ledger) (kid : String) (key : Option KeyPair) : Ledger :=
  { ledger with keys := Function.update ledger.keys kid key }

/-- A ledger with another token under a uid, or with none there. -/
def setToken (ledger : Ledger) (uid : String) (token : Option String) : Ledger :=
  { ledger with tokens := Function.update ledger.tokens uid token }

/-! ## Listings -/

/-- Whether the time of creation of a record is written with four digits for its year. -/
def WrittenPlainly (created : Option Instant) : Prop :=
  ∀ instant ∈ created, instant.FourDigitYear

/--
Whether a list holds the records of a view, each once, in the order of their creation.

A database keeps times as texts, and their order is that of time only for years
of four digits.
-/
def ListsByCreation
    (backend : Backend)
    (created : Record → Option Instant)
    (view : String → Option Record)
    (records : List Record) :
    Prop :=
  Table.Lists view records ∧
    ((backend = .memory ∨ ∀ record ∈ records, WrittenPlainly (created record)) →
      records.Pairwise fun first second =>
        MemoryTables.createdInOrder (created first) (created second) = true)

/-! ## Emails -/

/-- Whether a live account other than the one of a uid has an email. -/
def EmailTaken (ledger : Ledger) (email : String) (except : Option String) : Prop :=
  ∃ uid account,
    ledger.accounts uid = some account ∧ account.isDeleted = false ∧
      account.email? = some email ∧ some uid ≠ except

/-- Whether a backend refuses to add a record with an email under a uid. -/
def RefusesNew
    (ledger : Ledger)
    (backend : Backend)
    (uid email : String)
    (record : Account) :
    Prop :=
  match backend with
  | .memory => ledger.EmailTaken email none
  | .database =>
      ledger.accounts uid ≠ none ∨ record.isDeleted = false ∧ ledger.EmailTaken email none

/-- Whether a changed record of a uid has an email that another live account has. -/
def RefusesChange (ledger : Ledger) (uid : String) (record : Account) : Prop :=
  record.isDeleted = false ∧
    ∃ email, record.email? = some email ∧ ledger.EmailTaken email (some uid)

/-! ## Operations -/

open Classical in
/-- Add an account without a uid, or change the one of the uid. -/
noncomputable def saveAccount
    (ledger : Ledger)
    (backend : Backend)
    (occasion : Occasion)
    (account : Account) :
    Except Error Account × Ledger :=
  match account.uid with
  | none =>
      match account.email? with
      | none => (.error (.nilArgument "email"), ledger)
      | some email =>
          let record := account.prepareInsert occasion.uid occasion.now
          if ledger.RefusesNew backend occasion.uid email record then
            (.error .duplicateEmail, ledger)
          else
            (.ok record, ledger.setAccount occasion.uid (some (backend.kept record)))
  | some uid =>
      match ledger.accounts uid with
      | none => (.error .accountNotFound, ledger)
      | some stored =>
          let record := account.prepareUpdate stored occasion.now
          if ledger.RefusesChange uid record then
            (.error .duplicateEmail, ledger)
          else
            (.ok record, ledger.setAccount uid (some (backend.kept record)))

/-- Remove the account of a uid. -/
def deleteAccount (ledger : Ledger) (uid : String) : Except Error Unit × Ledger :=
  if (ledger.accounts uid).isSome then (.ok (), ledger.setAccount uid none)
  else (.error .accountNotFound, ledger)

/-- What a new key pair must have. -/
def requireKey (key : KeyPair) : Except Error Unit := do
  require key.accountId "account id"
  require key.pubKey "public key"
  require key.privKey "private key"

/-- Add a key pair without a key id, or change the one of the key id. -/
def saveKey (ledger : Ledger) (now : Instant) (key : KeyPair) : Except Error KeyPair × Ledger :=
  match key.kid with
  | none =>
      match requireKey key with
      | .error error => (.error error, ledger)
      | .ok _ =>
          if (ledger.accounts key.accountId).isNone then
            (.error .accountNotFound, ledger)
          else if (ledger.keys key.accountId).isSome then
            (.error .keyAlreadyExists, ledger)
          else
            (.ok (key.prepareInsert now),
              ledger.setKey key.accountId (some (key.prepareInsert now)))
  | some kid =>
      match ledger.keys kid with
      | none => (.error .keyNotFound, ledger)
      | some stored =>
          (.ok (key.prepareUpdate stored now),
            ledger.setKey kid (some (key.prepareUpdate stored now)))

/-- Remove the key pair of a key id. -/
def deleteKey (ledger : Ledger) (kid : String) : Except Error Unit × Ledger :=
  if (ledger.keys kid).isSome then (.ok (), ledger.setKey kid none)
  else (.error .keyNotFound, ledger)

/-- What a token to be recorded must have. -/
def requireToken (uid token : String) : Except Error Unit := do
  require uid "uid"
  require token "token"

/-- Put the token of an account in the place of the one that is there. -/
def putToken (ledger : Ledger) (uid token : String) : Except Error Unit × Ledger :=
  match requireToken uid token with
  | .error error => (.error error, ledger)
  | .ok _ => (.ok (), ledger.setToken uid (some token))

/-- Remove the token of an account. -/
def deleteToken (ledger : Ledger) (uid : String) : Except Error Unit × Ledger :=
  if (ledger.tokens uid).isSome then (.ok (), ledger.setToken uid none)
  else (.error .tokenNotFound, ledger)

end Ledger

end Store

end Credential
