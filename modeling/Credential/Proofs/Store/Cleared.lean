import Credential.Proofs.Store.Sound

/-!
# Ledgers with cleared fields

A database keeps the ledger of a memory store with its absent fields cleared.
Operations on the one ledger come to the same as operations on the other, as long
as new accounts have fresh uids and are not refused by one backend alone.
-/

namespace Credential

open Credential.Time (Instant)

/-! ## Records -/

/-- A truth value with a default does not depend on an absence in what is stored. -/
theorem Account.flagOr_orStored_cleared (default : Bool) (field stored : Field Bool) :
    flagOr default (field.orStored stored.cleared) = flagOr default (field.orStored stored) := by
  cases field with
  | unset => cases stored <;> rfl
  | null => rfl
  | value content => rfl

/-- There is nothing left to clear in a cleared account. -/
@[simp] theorem Account.cleared_cleared (account : Account) :
    account.cleared.cleared = account.cleared := by
  simp [cleared, Field.cleared]

/-- Clearing the stored record first does not matter to the changed one, once it is cleared. -/
theorem Account.cleared_prepareUpdate_cleared (account stored : Account) (now : Instant) :
    (account.prepareUpdate stored.cleared now).cleared =
      (account.prepareUpdate stored now).cleared := by
  simp [cleared, prepareUpdate, flagOr_orStored_cleared]

/-- A new record is marked as deleted exactly if it was given so. -/
theorem Account.isDeleted_prepareInsert (account : Account) (uid : String) (now : Instant) :
    (account.prepareInsert uid now).isDeleted = account.isDeleted := by
  cases deleted : account.deleted with
  | unset => simp [isDeleted, prepareInsert, flagOr, deleted]
  | null => simp [isDeleted, prepareInsert, flagOr, deleted]
  | value content => simp [isDeleted, prepareInsert, flagOr, deleted]

namespace Store.Ledger

/-- A ledger with the absent fields of its accounts cleared. -/
def cleared (ledger : Ledger) : Ledger :=
  { ledger with accounts := fun uid => (ledger.accounts uid).map Account.cleared }

@[simp] theorem accounts_cleared (ledger : Ledger) (uid : String) :
    ledger.cleared.accounts uid = (ledger.accounts uid).map Account.cleared :=
  rfl

@[simp] theorem keys_cleared (ledger : Ledger) : ledger.cleared.keys = ledger.keys :=
  rfl

@[simp] theorem tokens_cleared (ledger : Ledger) : ledger.cleared.tokens = ledger.tokens :=
  rfl

/-- Clearing an account that is put is putting it into the cleared ledger. -/
theorem cleared_setAccount (ledger : Ledger) (uid : String) (account : Option Account) :
    (ledger.setAccount uid account).cleared =
      ledger.cleared.setAccount uid (account.map Account.cleared) := by
  rw [cleared, setAccount, setAccount, cleared, mk.injEq]
  refine ⟨?_, rfl, rfl⟩
  funext other
  dsimp only
  rw [Function.update_apply, Function.update_apply]
  split <;> rfl

variable {ledger : Ledger}

/-- Whether a cleared account is live and has an email does not depend on absent fields. -/
theorem isLiveWith_cleared_iff (email : String) (account : Account) :
    account.cleared.IsLiveWith email ↔ account.IsLiveWith email := by
  rw [Account.IsLiveWith, Account.IsLiveWith, Account.isDeleted_cleared, Account.email?_cleared]

/-- Clearing absent fields keeps a ledger sound. -/
theorem Sound.cleared (sound : ledger.Sound) : ledger.cleared.Sound where
  accounts := by
    intro uid account present
    obtain ⟨stored, storedPresent, rfl⟩ := Option.map_eq_some_iff.mp present
    exact (sound.accounts storedPresent).cleared
  emails := by
    intro email firstUid secondUid first second firstPresent secondPresent firstLive secondLive
      firstEmail secondEmail
    obtain ⟨_, firstStored, rfl⟩ := Option.map_eq_some_iff.mp firstPresent
    obtain ⟨_, secondStored, rfl⟩ := Option.map_eq_some_iff.mp secondPresent
    rw [Account.isDeleted_cleared] at firstLive secondLive
    rw [Account.email?_cleared] at firstEmail secondEmail
    exact sound.emails firstStored secondStored firstLive secondLive firstEmail secondEmail
  keys := sound.keys

/-- Whether an email is taken does not depend on absent fields. -/
theorem emailTaken_cleared_iff (email : String) (except : Option String) :
    ledger.cleared.EmailTaken email except ↔ ledger.EmailTaken email except := by
  constructor
  · rintro ⟨uid, account, present, live, hasEmail, differs⟩
    obtain ⟨stored, storedPresent, rfl⟩ := Option.map_eq_some_iff.mp present
    rw [Account.isDeleted_cleared] at live
    rw [Account.email?_cleared] at hasEmail
    exact ⟨uid, stored, storedPresent, live, hasEmail, differs⟩
  · rintro ⟨uid, account, present, live, hasEmail, differs⟩
    refine ⟨uid, account.cleared, by rw [accounts_cleared, present]; rfl, ?_, ?_, differs⟩
    · rw [Account.isDeleted_cleared]
      exact live
    · rw [Account.email?_cleared]
      exact hasEmail

/-- Whether a changed record is refused does not depend on absent fields. -/
theorem refusesChange_cleared_iff
    (ledger : Ledger)
    {first second : Account}
    (same : first.cleared = second.cleared)
    (uid : String) :
    ledger.cleared.RefusesChange uid first ↔ ledger.RefusesChange uid second := by
  have sameDeleted : first.isDeleted = second.isDeleted := by
    rw [← Account.isDeleted_cleared, same, Account.isDeleted_cleared]
  have sameEmail : first.email? = second.email? := by
    rw [← Account.email?_cleared, same, Account.email?_cleared]
  simp only [RefusesChange, sameDeleted, sameEmail, emailTaken_cleared_iff]

/-! ## Operations -/

/--
Saving an account comes to the same in both ledgers.

A new account must have a uid that is not stored, and if it is given as deleted,
an email that no live account has: the backends refuse it on different grounds.
-/
theorem saveAccount_cleared
    (occasion : Occasion)
    {account : Account}
    (fresh : account.uid = none → ledger.accounts occasion.uid = none)
    (free : account.uid = none → account.isDeleted = true → ∀ email,
      account.email? = some email → ¬ ledger.EmailTaken email none) :
    let memory := ledger.saveAccount .memory occasion account
    let database := ledger.cleared.saveAccount .database occasion account
    database.1.map Account.cleared = memory.1.map Account.cleared ∧
      database.2 = memory.2.cleared := by
  intro memory database
  unfold memory database
  rw [saveAccount, saveAccount]
  cases given : account.uid with
  | none =>
      dsimp only
      cases hasEmail : account.email? with
      | none => exact ⟨rfl, rfl⟩
      | some email =>
          have refuses_iff :
              ledger.cleared.RefusesNew .database occasion.uid email
                  (account.prepareInsert occasion.uid occasion.now) ↔
                ledger.RefusesNew .memory occasion.uid email
                  (account.prepareInsert occasion.uid occasion.now) := by
            rw [RefusesNew, RefusesNew, accounts_cleared, fresh given, emailTaken_cleared_iff,
              Account.isDeleted_prepareInsert]
            cases live : account.isDeleted with
            | false => simp
            | true => simpa using free given live email hasEmail
          dsimp only
          by_cases refused : ledger.RefusesNew .memory occasion.uid email
              (account.prepareInsert occasion.uid occasion.now)
          · rw [if_pos refused, if_pos (refuses_iff.mpr refused)]
            exact ⟨rfl, rfl⟩
          · rw [if_neg refused, if_neg (mt refuses_iff.mp refused)]
            refine ⟨rfl, ?_⟩
            dsimp only
            rw [cleared_setAccount, Option.map_some, Backend.kept, Backend.kept]
  | some uid =>
      dsimp only
      rw [accounts_cleared]
      cases present : ledger.accounts uid with
      | none => exact ⟨rfl, rfl⟩
      | some stored =>
          have same := Account.cleared_prepareUpdate_cleared account stored occasion.now
          have refuses_iff := refusesChange_cleared_iff ledger same uid
          rw [Option.map_some]
          dsimp only
          by_cases refused :
            ledger.RefusesChange uid (account.prepareUpdate stored occasion.now)
          · rw [if_pos refused, if_pos (refuses_iff.mpr refused)]
            exact ⟨rfl, rfl⟩
          · rw [if_neg refused, if_neg (mt refuses_iff.mp refused)]
            refine ⟨congrArg Except.ok same, ?_⟩
            dsimp only
            rw [cleared_setAccount, Option.map_some, Backend.kept, Backend.kept, same]

/-- Removing an account comes to the same in both ledgers. -/
theorem deleteAccount_cleared (uid : String) :
    ledger.cleared.deleteAccount uid =
      ((ledger.deleteAccount uid).1, (ledger.deleteAccount uid).2.cleared) := by
  rw [deleteAccount, deleteAccount, accounts_cleared, Option.isSome_map]
  split_ifs
  · rw [cleared_setAccount]
    rfl
  · rfl

/-- Saving a key pair comes to the same in both ledgers. -/
theorem saveKey_cleared (now : Instant) (key : KeyPair) :
    ledger.cleared.saveKey now key =
      ((ledger.saveKey now key).1, (ledger.saveKey now key).2.cleared) := by
  rw [saveKey, saveKey, accounts_cleared, keys_cleared]
  cases key.kid with
  | none =>
      cases requireKey key with
      | error error => rfl
      | ok _ =>
          dsimp only
          rw [Option.isNone_map]
          split_ifs <;> rfl
  | some kid =>
      dsimp only
      cases ledger.keys kid <;> rfl

/-- Removing a key pair comes to the same in both ledgers. -/
theorem deleteKey_cleared (kid : String) :
    ledger.cleared.deleteKey kid =
      ((ledger.deleteKey kid).1, (ledger.deleteKey kid).2.cleared) := by
  rw [deleteKey, deleteKey, keys_cleared]
  split_ifs <;> rfl

/-- Recording a token comes to the same in both ledgers. -/
theorem putToken_cleared (uid token : String) :
    ledger.cleared.putToken uid token =
      ((ledger.putToken uid token).1, (ledger.putToken uid token).2.cleared) := by
  rw [putToken, putToken]
  cases requireToken uid token <;> rfl

/-- Removing a token comes to the same in both ledgers. -/
theorem deleteToken_cleared (uid : String) :
    ledger.cleared.deleteToken uid =
      ((ledger.deleteToken uid).1, (ledger.deleteToken uid).2.cleared) := by
  rw [deleteToken, deleteToken, tokens_cleared]
  split_ifs <;> rfl

end Store.Ledger

end Credential
