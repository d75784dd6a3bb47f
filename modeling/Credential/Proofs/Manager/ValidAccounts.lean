import Credential.Proofs.Manager.Steps

/-!
# Accounts stored by a manager are valid

A manager checks an account on a copy that it has merged itself; the store merges
the record again when it saves it.  Both merge the same record into the same
account, so what has been checked is what is stored.
-/

namespace Credential

namespace Account

/-- Whether an account is valid, and it is said whether it is active and whether it is deleted. -/
structure IsSettled (account : Account) : Prop where
  valid : account.validate = .ok ()
  active : ∃ flag, account.active = .value flag
  deleted : account.deleted ≠ .unset

/-- The check of an account is one of its name and its email. -/
theorem validate_congr
    {first second : Account}
    (name : first.name = second.name)
    (email : first.email = second.email) :
    first.validate = second.validate := by
  rw [validate, validate, name, email]

/-- A valid account has a name and an email. -/
theorem exists_of_validate
    {account : Account}
    (valid : account.validate = .ok ()) :
    (∃ name, account.name = .value name) ∧ ∃ email, account.email = .value email := by
  unfold validate at valid
  split at valid
  case h_1 name named =>
    split at valid
    case h_1 email given => exact ⟨⟨name, named⟩, email, given⟩
    case h_2 => cases valid
  case h_2 => cases valid

namespace IsSettled

variable {account : Account}

/-- A settled account stays settled when its absent fields are read as cleared ones. -/
theorem cleared (settled : account.IsSettled) : account.cleared.IsSettled := by
  obtain ⟨⟨name, named⟩, email, given⟩ := exists_of_validate settled.valid
  obtain ⟨flag, active⟩ := settled.active
  constructor
  · rw [← settled.valid]
    apply validate_congr
    · simp [Account.cleared, named]
    · simp [Account.cleared, given]
  · exact ⟨flag, by simp [Account.cleared, active]⟩
  · intro unset
    have given := Field.isUnset_cleared account.deleted
    rw [show account.deleted.cleared = .unset from unset] at given
    cases given

/-- A valid record is settled as a new account. -/
theorem prepareInsert
    (valid : account.validate = .ok ())
    (uid : String)
    (now : Time.Instant) :
    (account.prepareInsert uid now).IsSettled where
  valid := by
    rw [← valid]
    exact validate_congr rfl rfl
  active := exists_flagOr_eq_value true account.active
  deleted := by
    obtain ⟨flag, deleted⟩ := exists_flagOr_eq_value false account.deleted
    simp [Account.prepareInsert, deleted]

/-- A record that is valid when it is merged is settled if the stored account is. -/
theorem prepareUpdate
    {stored : Account}
    {now : Time.Instant}
    (settled : stored.IsSettled)
    (valid : (account.prepareUpdate stored now).validate = .ok ()) :
    (account.prepareUpdate stored now).IsSettled where
  valid := valid
  active := exists_flagOr_eq_value true (account.active.orStored stored.active)
  deleted := by
    rw [Account.prepareUpdate]
    cases account.deleted with
    | unset => exact settled.deleted
    | null => simp [Field.orStored]
    | value flag => simp [Field.orStored]

end IsSettled

end Account

/-! ## Every account of a store -/

namespace Store

/-- Whether every account of a store, in whichever file, can be read and has a property. -/
structure EveryAccount (holds : Account → Prop) (store : Store) : Prop where
  sound : store.IsSound
  reads : ∀ path uid reading, (store.withFile path).storedAccount? uid = some reading →
    ∃ account, reading = .ok account ∧ holds account

namespace EveryAccount

variable {holds : Account → Prop} {store : Store}

/-- A store without rows has no account without the property. -/
theorem of_rowless (rowless : store.Rowless) : store.EveryAccount holds where
  sound := rowless.isSound
  reads := by
    intro path uid reading stored
    rw [(rowless.withFile path).storedAccount?_eq_none uid] at stored
    cases stored

/-- The accounts of the open file have the property. -/
theorem stored
    (every : store.EveryAccount holds)
    {uid : String}
    {reading : Except Error Account}
    (stored : store.storedAccount? uid = some reading) :
    ∃ account, reading = .ok account ∧ holds account := by
  obtain ⟨path, inFile⟩ := exists_withFile_eq_self (isOpen_of_storedAccount? stored)
  apply every.reads path uid reading
  rw [inFile]
  exact stored

/-- A call keeps the property of every account if it saves no record without it. -/
theorem perform
    (every : store.EveryAccount holds)
    (cleared : ∀ account, holds account → holds account.cleared)
    {occasion : Occasion}
    {call : Call}
    (added : ∀ account, call = .saveAccount account → account.uid = none →
      holds (account.prepareInsert occasion.uid occasion.now))
    (changed : ∀ account uid stored, call = .saveAccount account → account.uid = some uid →
      store.loadAccount uid = .ok stored → holds stored →
        holds (account.prepareUpdate stored occasion.now)) :
    (store.perform occasion call).2.EveryAccount holds where
  sound := every.sound.perform occasion call
  reads := by
    intro path uid reading stored
    rcases storedAccount?_of_perform every.sound stored with
      earlier | ⟨ledger, account, record, showing, -, inFile, rfl, -, saves, rfl⟩
    · exact every.reads path uid reading earlier
    · have kept : ∀ backend : Backend, holds record → holds (backend.kept record) := by
        intro backend holdsRecord
        cases backend with
        | memory => exact holdsRecord
        | database => exact cleared record holdsRecord
      refine ⟨_, rfl, kept _ ?_⟩
      cases saves with
      | added isNew => exact added account rfl isNew
      | @changed uid before named present =>
          have earlier : store.storedAccount? uid = some (.ok before) := by
            rw [showing.storedAccount?_eq, present]
            rfl
          obtain ⟨_, ⟨⟩, holdsBefore⟩ := every.stored earlier
          refine changed account uid before rfl named ?_ holdsBefore
          rw [showing.loadAccount_eq, present]
          rfl

end EveryAccount

end Store

/-! ## Runs of a manager -/

namespace Manager

/-- A record that is approved is settled as it is added. -/
theorem Approves.prepareInsert
    {store : Store}
    {occasion : Occasion}
    {account : Account}
    (approves : Approves store occasion account)
    (isNew : account.uid = none) :
    (account.prepareInsert occasion.uid occasion.now).IsSettled := by
  rw [Approves, isNew] at approves
  exact .prepareInsert approves occasion.uid occasion.now

/-- A record that is approved is settled as it is merged into the stored account. -/
theorem Approves.prepareUpdate
    {store : Store}
    {occasion : Occasion}
    {account stored : Account}
    {uid : String}
    (approves : Approves store occasion account)
    (named : account.uid = some uid)
    (loaded : store.loadAccount uid = .ok stored)
    (settled : stored.IsSettled) :
    (account.prepareUpdate stored occasion.now).IsSettled := by
  rw [Approves, named] at approves
  obtain ⟨other, otherLoaded, valid⟩ := approves
  obtain rfl : other = stored := Except.ok.inj (otherLoaded.symm.trans loaded)
  exact settled.prepareUpdate valid

/-- Whatever call a manager carries out, the accounts of its store stay settled. -/
theorem everyAccount_perform
    {manager : Manager}
    (every : manager.store.EveryAccount Account.IsSettled)
    (occasion : Occasion)
    (call : Call) :
    (manager.perform occasion call).2.store.EveryAccount Account.IsSettled := by
  refine (manager.leads_perform occasion call).preserves ?_ every
  intro store storeCall every makes
  apply every.perform fun _ => Account.IsSettled.cleared
  · rintro account rfl isNew
    exact makes.1.prepareInsert isNew
  · rintro account uid stored rfl named loaded settled
    exact makes.1.prepareUpdate named loaded settled

/-- Whatever calls a manager carries out, the accounts of its store stay settled. -/
theorem everyAccount_run
    {manager : Manager}
    (every : manager.store.EveryAccount Account.IsSettled)
    (calls : List (Occasion × Call)) :
    (manager.run calls).store.EveryAccount Account.IsSettled := by
  induction calls generalizing manager with
  | nil => exact every
  | cons call rest inductionHypothesis =>
      exact inductionHypothesis (everyAccount_perform every call.1 call.2)

end Manager

end Credential
