import Credential.Account.Operation
import Credential.Proofs.Password.HashText

/-!
# The password of an account

Whatever is done with the record of an account, it is matched by the password
that it was given last, until its password is deleted.
-/

namespace Credential

open Credential.Text (Octets)

namespace Account

open Credential.Password (HashText)

variable {account : Account} {salt : Octets} {password : String}

/-! ## One operation -/

/-- Whether a password has a number of characters that is allowed. -/
def IsFitPassword (password : String) : Prop :=
  8 ≤ password.length ∧ password.length ≤ 256

instance (password : String) : Decidable (IsFitPassword password) :=
  inferInstanceAs (Decidable (_ ∧ _))

theorem passwordOk_iff : passwordOk password = true ↔ IsFitPassword password := by
  rw [passwordOk, Bool.and_eq_true, decide_eq_true_eq, decide_eq_true_eq]
  rfl

namespace Operation

/-- The salt and the password of an operation that is to give a record a password. -/
def brought? : Operation → Option (Octets × String)
  | .create salt _ _ password => some (salt, password)
  | .setPassword salt password => some (salt, password)
  | .updatePassword salt password => some (salt, password)
  | _ => none

/-- The record that an operation gives a password: a new one, or the one that is there. -/
def recipient (account : Account) : Operation → Account
  | .create _ email name _ => { blank with email := .value email, name := .value name }
  | _ => account

/-- Whether the salt of an operation, if it has one, is of a size that a text can give. -/
def IsSalted (operation : Operation) : Prop :=
  ∀ brought ∈ operation.brought?, 8 ≤ brought.1.length ∧ brought.1.length ≤ 48

instance (operation : Operation) : Decidable operation.IsSalted :=
  inferInstanceAs (Decidable (∀ brought ∈ operation.brought?, _ ∧ _))

/-- Whether an operation gives a record an allowed password. -/
def Gives (operation : Operation) (salt : Octets) (password : String) : Prop :=
  operation.brought? = some (salt, password) ∧ IsFitPassword password

/-- Whether an operation neither gives a record another password nor deletes the one it has. -/
def Spares (operation : Operation) : Prop :=
  operation ≠ .deletePassword ∧ ∀ brought ∈ operation.brought?, ¬ IsFitPassword brought.2

instance (operation : Operation) : Decidable operation.Spares :=
  inferInstanceAs (Decidable (_ ≠ _ ∧ ∀ brought ∈ operation.brought?, ¬ IsFitPassword brought.2))

end Operation

variable {operation : Operation} {operations : List Operation}

theorem replaced_setPassword (account made : Account) (salt : Octets) (password : String) :
    account.replaced (made.setPassword salt password) =
      if IsFitPassword password then
        (.ok .done, { made with password := .value (Password.hash salt password) })
      else (.error .invalidPassword, account) := by
  simp only [setPassword, passwordOk_iff]
  split <;> rfl

/-- A password that is allowed is taken; any other one changes nothing. -/
theorem perform_of_brought
    (brought : operation.brought? = some (salt, password))
    (account : Account) :
    account.perform operation =
      if IsFitPassword password then
        (.ok .done,
          { operation.recipient account with password := .value (Password.hash salt password) })
      else (.error .invalidPassword, account) := by
  cases operation <;> cases brought
  case create email name => exact replaced_setPassword account _ salt password
  case setPassword => exact replaced_setPassword account account salt password
  case updatePassword => exact replaced_setPassword account account salt password

/-- An operation that spares the password of a record leaves it as it is. -/
theorem password_perform_of_spares (spares : operation.Spares) (account : Account) :
    (account.perform operation).2.password = account.password := by
  cases brought : operation.brought? with
  | some pair =>
      obtain ⟨salt, password⟩ := pair
      rw [perform_of_brought brought, if_neg (spares.2 (salt, password) brought)]
  | none =>
      cases operation
      case create => cases brought
      case setPassword => cases brought
      case updatePassword => cases brought
      case deletePassword => exact (spares.1 rfl).elim
      case softDelete => rfl
      case setEmail email => rfl
      case setName name => rfl
      case validate => rfl
      case matchPassword candidate => rfl
      case withoutPassword => rfl

/-! ## Runs of operations -/

theorem run_append (account : Account) (before later : List Operation) :
    account.run (before ++ later) = (account.run before).run later :=
  List.foldl_append

/-- Operations that all spare the password of a record leave it as it is. -/
theorem password_run_of_spares
    (spares : ∀ operation ∈ operations, operation.Spares)
    (account : Account) :
    (account.run operations).password = account.password := by
  induction operations generalizing account with
  | nil => rfl
  | cons operation later inductionHypothesis =>
      have spared := password_perform_of_spares (spares operation List.mem_cons_self) account
      have kept := inductionHypothesis
        (fun other member => spares other (List.mem_cons_of_mem operation member))
        (account.perform operation).2
      exact kept.trans spared

/-- The password of a record is the one after the last operation that did not spare it. -/
theorem password_run_split
    {before later : List Operation}
    (spares : ∀ other ∈ later, other.Spares)
    (start : Account) :
    (start.run (before ++ operation :: later)).password =
      ((start.run before).perform operation).2.password := by
  rw [run_append]
  exact password_run_of_spares spares _

/-! ## Matching -/

/-- Whether a record holds a hash of a password with a salt that is read as it was written. -/
def HoldsHashOf (account : Account) (salt : Octets) (password : String) : Prop :=
  ∃ hash : HashText, account.password = .value hash.render ∧
    HashText.parse? hash.render = some hash ∧ hash.salt = salt ∧ hash.IsHashOf password

/-- What the text that a record has for a password says about the candidates that match it. -/
structure MatchesByHash (account : Account) : Prop where
  /-- Without a password nothing matches. -/
  absent : account.password.value? = none →
    ∀ candidate, account.matchPassword candidate = .error .passwordMismatch
  /-- Nothing matches a text that is not one of a hash. -/
  unreadable : ∀ stored, account.password = .value stored → HashText.parse? stored = none →
    ∀ candidate, account.matchPassword candidate = .error .passwordMismatch
  /-- Just the candidates with the output of a hash match it. -/
  readable : ∀ stored hash, account.password = .value stored →
    HashText.parse? stored = some hash →
      hash.Fits ∧ ∀ candidate, account.matchPassword candidate =
        if hash.IsHashOf candidate then .ok () else .error .passwordMismatch
  /-- A hash that has been written is matched like the one that is read. -/
  rendered : ∀ hash : HashText, hash.Fits → hash.associated = [] →
    account.password = .value hash.render → ∀ candidate, account.matchPassword candidate =
      if hash.IsHashOf candidate then .ok () else .error .passwordMismatch

theorem matchPassword_of_parse?
    {stored : String}
    {hash : HashText}
    (held : account.password = .value stored)
    (reads : HashText.parse? stored = some hash)
    (candidate : String) :
    account.matchPassword candidate =
      if hash.IsHashOf candidate then .ok () else .error .passwordMismatch := by
  rw [matchPassword, held]
  simp only [Password.accepts_iff_of_parse? reads]

theorem matchesByHash (account : Account) : account.MatchesByHash where
  absent none candidate := by
    cases held : account.password with
    | unset => rw [matchPassword, held]
    | null => rw [matchPassword, held]
    | value stored =>
        rw [held] at none
        cases none
  unreadable stored held none candidate := by
    rw [matchPassword, held]
    simp [Password.accepts, none]
  readable stored hash held reads :=
    ⟨HashText.fits_of_parse? reads, matchPassword_of_parse? held reads⟩
  rendered hash fits plain held := matchPassword_of_parse? held (HashText.parse?_render fits plain)

/-- A record holds a hash of the password that an operation has given it. -/
theorem holdsHashOf_perform
    (salted : operation.IsSalted)
    (gives : operation.Gives salt password)
    (account : Account) :
    (account.perform operation).2.HoldsHashOf salt password := by
  obtain ⟨output, size, rendered, isHash⟩ := Password.exists_hash_eq_render salt password
  have fits := HashText.fits_standard (salted (salt, password) gives.1) size
  refine ⟨HashText.standard salt output, ?_, HashText.parse?_render fits rfl, rfl, isHash⟩
  rw [perform_of_brought gives.1, if_pos gives.2, rendered]

theorem HoldsHashOf.matches
    (holds : account.HoldsHashOf salt password) :
    account.matchPassword password = .ok () := by
  obtain ⟨hash, held, reads, -, isHash⟩ := holds
  rw [matchPassword_of_parse? held reads, if_pos isHash]

/--
What is known of the password of a record after any operations.

Wherever among them an operation brings a password, it is taken just if its number
of characters is allowed, and nothing changes otherwise.  The record is matched by
the password that it was given last, and by none if that has been deleted since.
What else matches it is up to the hash that it holds.
-/
theorem matchPassword_run
    (salted : ∀ operation ∈ operations, operation.IsSalted)
    (start : Account) :
    (∀ before operation later salt password, operations = before ++ operation :: later →
      operation.brought? = some (salt, password) →
        (((start.run before).perform operation).1 = .ok .done ↔ IsFitPassword password) ∧
        (¬ IsFitPassword password →
          (start.run before).perform operation = (.error .invalidPassword, start.run before))) ∧
      (∀ before operation later salt password, operations = before ++ operation :: later →
        operation.Gives salt password → (∀ other ∈ later, other.Spares) →
          (start.run operations).HoldsHashOf salt password ∧
          (start.run operations).matchPassword password = .ok ()) ∧
      (∀ before later, operations = before ++ .deletePassword :: later →
        (∀ other ∈ later, other.Spares) →
          ∀ candidate, (start.run operations).matchPassword candidate = .error .passwordMismatch) ∧
      (start.run operations).MatchesByHash := by
  refine ⟨?checked, ?given, ?deleted, matchesByHash _⟩
  case checked =>
    rintro before operation later salt password - brought
    rw [perform_of_brought brought]
    by_cases fits : IsFitPassword password
    · simp [fits]
    · simp [fits]
  case given =>
    rintro before operation later salt password rfl gives spares
    have isSalted := salted operation (by simp)
    obtain ⟨hash, held, reads, isSalt, isHash⟩ :=
      holdsHashOf_perform isSalted gives (start.run before)
    rw [← password_run_split spares] at held
    have holds : (start.run (before ++ operation :: later)).HoldsHashOf salt password :=
      ⟨hash, held, reads, isSalt, isHash⟩
    exact ⟨holds, holds.matches⟩
  case deleted =>
    rintro before later rfl spares
    refine (matchesByHash _).absent ?_
    rw [password_run_split spares]
    rfl

/-- A record is matched by a password of eight characters, whatever is done without another one. -/
theorem matchPassword_run_kept :
    let salt : Octets := List.replicate 16 0x73
    let before : List Operation :=
      [.create salt "ada@example.org" "Ada" "analytical", .deletePassword]
    let later : List Operation :=
      [.setPassword salt "☃☃☃☃", .setEmail .null, .softDelete, .withoutPassword, .validate]
    let operations := before ++ .updatePassword salt "Grüße ☃!" :: later
    (∀ operation ∈ operations, operation.IsSalted) ∧
      (∀ other ∈ later, other.Spares) ∧
      (∀ candidate, (blank.run before).matchPassword candidate = .error .passwordMismatch) ∧
      (blank.run operations).matchPassword "Grüße ☃!" = .ok () := by
  intro salt before later operations
  have salted : ∀ operation ∈ operations, operation.IsSalted := by decide +kernel
  have spares : ∀ other ∈ later, other.Spares := by decide +kernel
  have saltedBefore : ∀ operation ∈ before, operation.IsSalted := by decide +kernel
  have deleted := (matchPassword_run saltedBefore blank).2.2.1
    [.create salt "ada@example.org" "Ada" "analytical"] [] rfl (by simp)
  have given := (matchPassword_run salted blank).2.1 before
    (.updatePassword salt "Grüße ☃!") later salt "Grüße ☃!" rfl ⟨rfl, by decide +kernel⟩ spares
  exact ⟨salted, spares, deleted, given.2⟩

end Account

end Credential
