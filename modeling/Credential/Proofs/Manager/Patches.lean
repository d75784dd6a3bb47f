import Credential.Proofs.Account.Patches
import Credential.Proofs.Manager.Outcomes
import Credential.Proofs.Store.DuplicateEmails

/-!
# Changes of accounts

Whether a change of an account is accepted, and what it is refused for, is decided by
the record that it makes of the stored account.  That record is stored, and given
back without its password hash.
-/

namespace Credential

namespace AccountPatch

variable {patch : AccountPatch} {store : Store} {occasion : Occasion} {uid : String}

/-- Whether a change is accepted for a stored account, in whose place the merged record is put. -/
structure IsAccepted
    (patch : AccountPatch)
    (store : Store)
    (occasion : Occasion)
    (uid : String)
    (stored : Account) :
    Prop where
  named : uid ≠ ""
  fits : patch.HasFitPassword
  present : store.storedAccount? uid = some (.ok stored)
  valid : (patch.mergedInto stored occasion).validate = .ok ()
  /-- The record is marked as deleted, or no other live account has its email. -/
  free : ¬ store.ConflictsChanged uid (patch.mergedInto stored occasion)

/-- What a change is refused for; of several reasons, the first one counts. -/
inductive IsRefused
    (patch : AccountPatch)
    (store : Store)
    (occasion : Occasion)
    (uid : String) :
    Error → Prop where
  | unnamed (isEmpty : uid = "") : IsRefused patch store occasion uid (.nilArgument "uid")
  | password
      (named : uid ≠ "")
      (unfit : ¬ patch.HasFitPassword) :
      IsRefused patch store occasion uid .invalidPassword
  | missing
      (named : uid ≠ "")
      (fits : patch.HasFitPassword)
      (absent : store.storedAccount? uid = none) :
      IsRefused patch store occasion uid .accountNotFound
  | invalid
      {stored : Account}
      {error : Error}
      (named : uid ≠ "")
      (fits : patch.HasFitPassword)
      (present : store.storedAccount? uid = some (.ok stored))
      (isFault : error = .invalidName ∨ error = .invalidEmail)
      (fails : (patch.mergedInto stored occasion).validate = .error error) :
      IsRefused patch store occasion uid error
  | duplicate
      {stored : Account}
      (named : uid ≠ "")
      (fits : patch.HasFitPassword)
      (present : store.storedAccount? uid = some (.ok stored))
      (valid : (patch.mergedInto stored occasion).validate = .ok ())
      (conflicts : store.ConflictsChanged uid (patch.mergedInto stored occasion)) :
      IsRefused patch store occasion uid .duplicateEmail

/-- A record that is not valid has a fault in its name or its email. -/
theorem fault_of_validate
    {record : Account}
    {error : Error}
    (fails : record.validate = .error error) :
    error = .invalidName ∨ error = .invalidEmail := by
  unfold Account.validate at fails
  split at fails
  case h_1 =>
    split at fails
    case h_1 =>
      split_ifs at fails
      · exact .inl (Except.error.inj fails).symm
      · exact .inr (Except.error.inj fails).symm
    case h_2 => exact .inr (Except.error.inj fails).symm
  case h_2 => exact .inl (Except.error.inj fails).symm

/-- A change that clears the name or the email is never accepted. -/
theorem IsAccepted.not_null
    {stored : Account}
    (accepted : patch.IsAccepted store occasion uid stored) :
    patch.email ≠ .null ∧ patch.name ≠ .null := by
  have valid := accepted.valid
  unfold Account.validate mergedInto at valid
  constructor
  · intro isNull
    simp only [isNull, Field.orStored] at valid
    split at valid <;> cases valid
  · intro isNull
    simp only [isNull, Field.orStored] at valid
    cases valid

/-- A change is accepted or refused, if the rows of the store can be read. -/
theorem isAccepted_or_isRefused
    (readable : ∀ {reading}, store.storedAccount? uid = some reading →
      ∃ stored, reading = .ok stored) :
    (∃ stored, patch.IsAccepted store occasion uid stored) ∨
      ∃ error, patch.IsRefused store occasion uid error := by
  by_cases named : uid = ""
  · exact .inr ⟨_, .unnamed named⟩
  by_cases fits : patch.HasFitPassword
  case neg => exact .inr ⟨_, .password named fits⟩
  cases present : store.storedAccount? uid with
  | none => exact .inr ⟨_, .missing named fits present⟩
  | some reading =>
      obtain ⟨stored, rfl⟩ := readable present
      cases checked : (patch.mergedInto stored occasion).validate with
      | error error =>
          exact .inr ⟨error, .invalid named fits present (fault_of_validate checked) checked⟩
      | ok _ =>
          by_cases conflicts : store.ConflictsChanged uid (patch.mergedInto stored occasion)
          · exact .inr ⟨_, .duplicate named fits present checked conflicts⟩
          · exact .inl ⟨stored, named, fits, present, checked, conflicts⟩

end AccountPatch

namespace Manager

/-- What a manager does with a change of an account. -/
structure Applies
    (manager : Manager)
    (occasion : Occasion)
    (uid : String)
    (patch : AccountPatch) :
    Prop where
  /-- It succeeds if the change is accepted, and not otherwise. -/
  succeeds_iff :
    (∃ record after, manager.updateAccount occasion uid patch = (.ok record, after)) ↔
      ∃ stored, patch.IsAccepted manager.store occasion uid stored
  /-- It fails with what the change is refused for. -/
  fails_iff :
    ∀ error, (manager.updateAccount occasion uid patch).1 = .error error ↔
      patch.IsRefused manager.store occasion uid error
  /-- If it fails, nothing has changed. -/
  unchanged :
    ∀ error, (manager.updateAccount occasion uid patch).1 = .error error →
      (manager.updateAccount occasion uid patch).2 = manager
  /-- If it succeeds, the merged record is stored, nothing else has changed. -/
  stores :
    ∀ stored, patch.IsAccepted manager.store occasion uid stored →
      ∃ store,
        manager.updateAccount occasion uid patch =
          (.ok (patch.mergedInto stored occasion).withoutPassword, { manager with store }) ∧
        store.storedAccount? uid = some (.ok (patch.mergedInto stored occasion)) ∧
        manager.store.SameBut (.account uid) store
  /-- A name or an email that is null is never accepted. -/
  notNull : patch.email = .null ∨ patch.name = .null →
    ∀ stored, ¬ patch.IsAccepted manager.store occasion uid stored
  /-- A password that is given is matched by the hash that is stored of it. -/
  recognizes : occasion.salt.length = Occasion.saltSize → ∀ password,
    patch.password = some password → ∀ stored : Account,
      (patch.mergedInto stored occasion).matchPassword password = .ok ()

variable {manager : Manager} {occasion : Occasion} {uid : String} {patch : AccountPatch}

/-- A record that is to change a stored account is checked as merged with it. -/
theorem checkAccount_of_stored
    (sound : manager.store.IsSound)
    {account stored : Account}
    (named : account.uid = some uid)
    (present : manager.store.storedAccount? uid = some (.ok stored)) :
    manager.checkAccount occasion account =
      (account.prepareUpdate stored occasion.now).validate := by
  rw [checkAccount, named]
  dsimp only
  rw [loadAccount_of_storedAccount? sound present]

/-- No record of an account that is not there passes the check. -/
theorem checkAccount_of_missing
    (sound : manager.store.IsSound)
    (isOpen : manager.store.isOpen = true)
    {account : Account}
    (named : account.uid = some uid)
    (absent : manager.store.storedAccount? uid = none) :
    manager.checkAccount occasion account = .error .accountNotFound := by
  obtain ⟨ledger, showing, -⟩ := sound.exists_shows isOpen
  rw [showing.storedAccount?_eq] at absent
  rw [checkAccount, named]
  dsimp only
  rw [loadAccount, showing.loadAccount_eq, Option.map_eq_none_iff.mp absent]
  rfl

/-- A stored account has a truth value for its activity. -/
theorem settled_of_stored
    (sound : manager.store.IsSound)
    {stored : Account}
    (present : manager.store.storedAccount? uid = some (.ok stored)) :
    ∃ flag, stored.active = .value flag := by
  obtain ⟨ledger, showing, ledgerSound⟩ :=
    sound.exists_shows (Store.isOpen_of_storedAccount? present)
  exact (ledgerSound.accounts (showing.storedAccount?_eq_some_iff.mp present)).active

/-- A change that makes a record is a record that is saved. -/
theorem updateAccount_of_toAccount
    {account : Account}
    (named : uid ≠ "")
    (made : patch.toAccount occasion.salt = .ok account) :
    manager.updateAccount occasion uid patch =
      andThen (manager.saveAccount occasion { account with uid := some uid })
        fun record manager => (.ok record.withoutPassword, manager) := by
  rw [updateAccount, if_neg named, made]

/-- What a change of a stored account saves is the merged record, which is checked first. -/
theorem exists_record_of_stored
    (sound : manager.store.IsSound)
    {stored : Account}
    (named : uid ≠ "")
    (fits : patch.HasFitPassword)
    (present : manager.store.storedAccount? uid = some (.ok stored)) :
    ∃ account : Account, account.uid = some uid ∧
      account.prepareUpdate stored occasion.now = patch.mergedInto stored occasion ∧
      manager.checkAccount occasion account = (patch.mergedInto stored occasion).validate ∧
      manager.updateAccount occasion uid patch =
        andThen (manager.saveAccount occasion account)
          fun record manager => (.ok record.withoutPassword, manager) := by
  obtain ⟨account, made⟩ := AccountPatch.exists_toAccount_eq_ok fits occasion.salt
  have merged := AccountPatch.prepareUpdate_of_toAccount made (settled_of_stored sound present) uid
  refine ⟨{ account with uid := some uid }, rfl, merged, ?_, updateAccount_of_toAccount named made⟩
  rw [checkAccount_of_stored sound rfl present, merged]

/-- A change that is refused fails, and changes nothing. -/
theorem updateAccount_of_isRefused
    (sound : manager.store.IsSound)
    (isOpen : manager.store.isOpen = true)
    {error : Error}
    (refused : patch.IsRefused manager.store occasion uid error) :
    manager.updateAccount occasion uid patch = (.error error, manager) := by
  cases refused with
  | unnamed isEmpty => rw [updateAccount, if_pos isEmpty]
  | password named unfit =>
      rw [updateAccount, if_neg named, AccountPatch.toAccount_of_not_fit unfit]
  | missing named fits absent =>
      obtain ⟨account, made⟩ := AccountPatch.exists_toAccount_eq_ok fits occasion.salt
      have checked : manager.checkAccount occasion { account with uid := some uid } =
          .error .accountNotFound := checkAccount_of_missing sound isOpen rfl absent
      rw [updateAccount_of_toAccount named made, saveAccount, checked]
      rfl
  | invalid named fits present isFault fails =>
      obtain ⟨account, -, -, checked, saves⟩ := exists_record_of_stored sound named fits present
      rw [saves, saveAccount, checked, fails]
      rfl
  | duplicate named fits present valid conflicts =>
      obtain ⟨account, isNamed, merged, checked, saves⟩ :=
        exists_record_of_stored sound named fits present
      rw [← merged] at conflicts
      have saved := (sound.refusesDuplicates isOpen).refusesChange isNamed present conflicts
      rw [saves, saveAccount, checked, valid]
      dsimp only
      rw [saved]
      rfl

/-- A change that is accepted puts the merged record in the place of the stored one. -/
theorem updateAccount_of_isAccepted
    (sound : manager.store.IsSound)
    {stored : Account}
    (accepted : patch.IsAccepted manager.store occasion uid stored) :
    ∃ store,
      manager.updateAccount occasion uid patch =
        (.ok (patch.mergedInto stored occasion).withoutPassword, { manager with store }) ∧
      store.storedAccount? uid = some (.ok (patch.mergedInto stored occasion)) ∧
      manager.store.SameBut (.account uid) store := by
  obtain ⟨named, fits, present, valid, free⟩ := accepted
  obtain ⟨account, isNamed, merged, checked, saves⟩ :=
    exists_record_of_stored sound named fits present
  have isOpen := Store.isOpen_of_storedAccount? present
  rw [← merged] at free
  have puts := (sound.refusesDuplicates isOpen).changes isNamed present free
  rw [merged] at puts
  refine ⟨_, ?_, puts.stored, puts.sameBut⟩
  rw [saves, saveAccount, checked, valid]
  dsimp only
  rw [changed, puts.answer]
  rfl

/-- Every change of an account is applied, or refused for the first reason that there is. -/
theorem applies_of_isSound
    (sound : manager.store.IsSound)
    (isOpen : manager.store.isOpen = true)
    (occasion : Occasion)
    (uid : String)
    (patch : AccountPatch) :
    manager.Applies occasion uid patch := by
  have decided :
      (∃ stored record after, patch.IsAccepted manager.store occasion uid stored ∧
        manager.updateAccount occasion uid patch = (.ok record, after)) ∨
      ∃ error, patch.IsRefused manager.store occasion uid error ∧
        manager.updateAccount occasion uid patch = (.error error, manager) := by
    rcases AccountPatch.isAccepted_or_isRefused (sound.refusesDuplicates isOpen).readable with
      ⟨stored, accepted⟩ | ⟨error, refused⟩
    · obtain ⟨store, updated, -, -⟩ := updateAccount_of_isAccepted sound accepted
      exact .inl ⟨stored, _, _, accepted, updated⟩
    · exact .inr ⟨error, refused, updateAccount_of_isRefused sound isOpen refused⟩
  constructor
  case succeeds_iff =>
    constructor
    · rintro ⟨record, after, succeeds⟩
      rcases decided with ⟨stored, _, _, accepted, -⟩ | ⟨error, -, failed⟩
      · exact ⟨stored, accepted⟩
      · rw [failed] at succeeds
        cases succeeds
    · rintro ⟨stored, accepted⟩
      obtain ⟨store, updated, -, -⟩ := updateAccount_of_isAccepted sound accepted
      exact ⟨_, _, updated⟩
  case fails_iff =>
    intro error
    constructor
    · intro fails
      rcases decided with ⟨_, _, _, -, updated⟩ | ⟨other, refused, failed⟩
      · rw [updated] at fails
        cases fails
      · rw [failed] at fails
        cases fails
        exact refused
    · intro refused
      rw [updateAccount_of_isRefused sound isOpen refused]
  case unchanged =>
    intro error fails
    rcases decided with ⟨_, _, _, -, updated⟩ | ⟨other, -, failed⟩
    · rw [updated] at fails
      cases fails
    · rw [failed]
  case stores =>
    intro stored accepted
    exact updateAccount_of_isAccepted sound accepted
  case notNull =>
    intro isNull stored accepted
    rcases isNull with email | name
    · exact accepted.not_null.1 email
    · exact accepted.not_null.2 name
  case recognizes =>
    intro salted password given stored
    exact AccountPatch.matchPassword_mergedInto given salted stored

/--
What a text that changes an account means.

A text that reads as a change says, of each member, whether it is missing, null or
given.  In every open manager that runs reach, the change is applied if it is
accepted for the account, and refused otherwise for the first reason that there is.
-/
theorem updateAccount_of_text
    {text : String}
    {patch : AccountPatch}
    (parses : AccountPatch.parse? text = some patch)
    {manager : Manager}
    (rowless : manager.store.Rowless)
    (calls : List (Occasion × Call))
    (isOpen : (manager.run calls).store.isOpen = true) :
    patch.IsReadFrom text ∧ ∀ occasion uid, (manager.run calls).Applies occasion uid patch :=
  ⟨AccountPatch.isReadFrom_of_parse? parses, fun occasion uid =>
    applies_of_isSound (isSound_run rowless.isSound calls) isOpen occasion uid patch⟩

/-- Members that are not known, a uid among them, have no part in a change. -/
theorem updateAccount_of_text_renamed :
    let text := "\x7b\"uid\": \"other\", \"name\": \"Countess\", \"active\": null, \"n\": [1]\x7d"
    let patch : AccountPatch := ⟨.unset, .value "Countess", none, .null, .unset⟩
    let occasion : Occasion := ⟨.start, "first", List.replicate 16 0x73, .mk fun _ => none⟩
    let calls : List (Occasion × Call) :=
      [(occasion, .createAccount "ada@example.org" "Ada" "analytical")]
    let manager : Manager := ⟨⟨.empty⟩, "memory", ⟨none, 0⟩, .memory ⟨some .empty⟩⟩
    AccountPatch.parse? text = some patch ∧ manager.store.Rowless ∧
      (manager.run calls).store.isOpen = true ∧
      ∃ stored after, (manager.run calls).store.storedAccount? "first" = some (.ok stored) ∧
        (manager.run calls).updateAccount occasion "first" patch =
          (.ok { stored with
            name := .value "Countess", password := .null, active := .value true,
            updated := some .start }, after) := by
  intro text patch occasion calls manager
  have parses : AccountPatch.parse? text = some patch := by
    decide +kernel
  have rowless : manager.store.Rowless := by
    rintro tables ⟨⟩
    rfl
  have isOpen : (manager.run calls).store.isOpen = true := by
    decide +kernel
  have applies := (updateAccount_of_text parses rowless calls isOpen).2 occasion "first"
  have succeeds : ((manager.run calls).updateAccount occasion "first" patch).1.toOption.isSome =
      true := by
    decide +kernel
  obtain ⟨record, isRecord⟩ := Option.isSome_iff_exists.mp succeeds
  obtain ⟨stored, accepted⟩ :=
    applies.succeeds_iff.mp ⟨record, _, Prod.ext (eq_ok_of_toOption isRecord) rfl⟩
  obtain ⟨store, updated, -, -⟩ := applies.stores stored accepted
  exact ⟨parses, rowless, isOpen, stored, _, accepted.present, updated⟩

end Manager

end Credential
