import Credential.Proofs.Manager.Outcomes

/-!
# Accounts that calls leave alone

An account stays as it is in all calls but those that are about it, and those
about the connection.  A call is about the account that it names, or about the one
of the uid that is drawn if it adds an account.
-/

namespace Credential.Manager

variable {manager : Manager} {occasion : Occasion} {uid : String}

/-- Whether a call can neither add, change nor remove the account of a uid. -/
def Call.SparesAccount (occasion : Occasion) (uid : String) : Call → Prop
  | .init | .close => False
  | .createAccount _ _ _ | .createAccountWithKey _ _ _ => occasion.uid ≠ uid
  | .saveAccount account => account.uid.getD occasion.uid ≠ uid
  | .updateAccount other _ | .deleteAccount other => other ≠ uid
  | _ => True

/-- An account that is saved under another uid leaves the one of a uid alone. -/
theorem storedAccount?_of_saves
    {store after : Store}
    {account record : Account}
    {other : String}
    {ledger : Store.Ledger}
    (saves : store.SavesAccount occasion account other record after ledger)
    (differs : other ≠ uid) :
    after.storedAccount? uid = store.storedAccount? uid :=
  saves.sameBut.storedAccount?_eq fun same => differs (Store.Place.account.inj same)

theorem storedAccount?_createAccount
    (sound : manager.store.IsSound)
    (differs : occasion.uid ≠ uid)
    (email name password : String) :
    (manager.createAccount occasion email name password).2.store.storedAccount? uid =
      manager.store.storedAccount? uid := by
  rcases manager.createAccount_cases sound occasion email name password with
    ⟨error, refused, -⟩ | ⟨account, record, after, ledger, -, saves, created⟩
  · rw [refused]
  · rw [created]
    exact storedAccount?_of_saves saves differs

/-- A new key pair leaves all accounts alone, the one that it is for too. -/
theorem storedAccount?_createKey
    (sound : manager.store.IsSound)
    (occasion : Occasion)
    (owner uid : String) :
    (manager.createKey occasion owner).2.store.storedAccount? uid =
      manager.store.storedAccount? uid := by
  rcases manager.createKey_cases sound occasion owner with
    ⟨error, refused, -⟩ | ⟨key, record, after, ledger, -, saves, created⟩
  · rw [refused]
  · rw [created]
    exact saves.sameBut.storedAccount?_eq nofun

theorem storedAccount?_createAccountWithKey
    (sound : manager.store.IsSound)
    (differs : occasion.uid ≠ uid)
    (email name password : String) :
    (manager.createAccountWithKey occasion email name password).2.store.storedAccount? uid =
      manager.store.storedAccount? uid := by
  have created := storedAccount?_createAccount sound differs email name password
  rw [snd_createAccountWithKey]
  rcases added : manager.createAccount occasion email name password with ⟨error | other, after⟩
  · rw [added] at created
    exact created
  · rw [added] at created
    rw [← created]
    exact storedAccount?_createKey (isSound_of_createAccount sound added) occasion other uid

/-- An account stays as it is in a call that spares it. -/
theorem storedAccount?_perform
    (sound : manager.store.IsSound)
    {call : Call}
    (spares : call.SparesAccount occasion uid) :
    (manager.perform occasion call).2.store.storedAccount? uid =
      manager.store.storedAccount? uid := by
  have elsewhere (storeCall : Store.Call)
      (onTables : storeCall.IsOnTables)
      (isElsewhere : storeCall.place? occasion ≠ some (.account uid)) :
      (manager.store.perform occasion storeCall).2.storedAccount? uid =
        manager.store.storedAccount? uid :=
    sound.storedAccount?_perform occasion onTables isElsewhere
  cases call with
  | init => exact spares.elim
  | close => exact spares.elim
  | unregister name =>
      rw [perform, answered, unregister]
      split <;> rfl
  | createAccount email name password =>
      exact storedAccount?_createAccount sound spares email name password
  | createAccountWithKey email name password =>
      exact storedAccount?_createAccountWithKey sound spares email name password
  | saveAccount account =>
      rcases manager.saveAccount_cases sound occasion account with
        ⟨error, refused, -⟩ | ⟨other, record, after, ledger, saves, saved⟩
      · rw [perform, answered, refused]
      · rw [perform, answered, saved]
        have isUid : account.uid.getD occasion.uid = other := saves.saves.getD_uid
        exact storedAccount?_of_saves saves fun same => spares (isUid.trans same)
  | updateAccount other patch =>
      rcases manager.updateAccount_cases sound occasion other patch with
        ⟨error, refused, -⟩ | ⟨account, record, after, ledger, -, saves, updated⟩
      · rw [perform, answered, refused]
      · rw [perform, answered, updated]
        exact storedAccount?_of_saves saves spares
  | deleteAccount other =>
      refine elsewhere (.deleteAccount other) trivial fun same => ?_
      exact spares (Store.Place.account.inj (Option.some.inj same))
  | createKey owner => exact storedAccount?_createKey sound occasion owner uid
  | createToken owner =>
      rcases manager.createToken_cases sound occasion owner with
        ⟨error, refused, -⟩ | ⟨token, created⟩
      · rw [perform, answered, refused]
      · rw [perform, answered, created]
        exact elsewhere (.saveToken owner token) trivial (by simp [Store.Call.place?])
  | saveKey key => exact elsewhere (.saveKey key) trivial (by simp [Store.Call.place?])
  | deleteKey kid => exact elsewhere (.deleteKey kid) trivial (by simp [Store.Call.place?])
  | saveToken owner token =>
      exact elsewhere (.saveToken owner token) trivial (by simp [Store.Call.place?])
  | deleteToken owner =>
      exact elsewhere (.deleteToken owner) trivial (by simp [Store.Call.place?])
  | _ => rfl

end Credential.Manager
