import Credential.Proofs.Store.Atomicity
import Credential.Proofs.Store.Connection

/-!
# Key pairs and tokens of sound stores

A key pair that is stored stays as it is in all calls but those that are about it
and those that disconnect the store.  A token can be recorded in any store that
is connected, and is loaded as it was recorded.
-/

namespace Credential.Store

variable {store : Store} {uid : String} {key : KeyPair}

/-! ## Key pairs -/

/-- Whether a call can neither change nor remove the key pair of an account that has one. -/
def Call.Spares (uid : String) : Call → Prop
  | .close => False
  | .saveKey key => key.kid ≠ some uid
  | .deleteKey kid => kid ≠ uid
  | _ => True

/-- No key pair is stored under an empty key id. -/
theorem kid_ne_empty_of_storedKey?
    (sound : store.IsSound)
    (stored : store.storedKey? uid = some (.ok key)) :
    uid ≠ "" := by
  obtain ⟨ledger, showing, ledgerSound⟩ := sound.exists_shows (isOpen_of_storedKey? stored)
  have present := showing.storedKey?_eq_some_iff.mp stored
  have wellKept := ledgerSound.keys present
  exact wellKept.accountId_eq ▸ wellKept.accountId

/-- A key pair that is stored stays as it is in a call that spares it. -/
theorem storedKey?_of_spares
    (sound : store.IsSound)
    (occasion : Occasion)
    {call : Call}
    (spares : call.Spares uid)
    (stored : store.storedKey? uid = some (.ok key)) :
    (store.perform occasion call).2.storedKey? uid = some (.ok key) := by
  have isOpen := isOpen_of_storedKey? stored
  by_cases onTables : call.IsOnTables
  · obtain ⟨ledger, showing, ledgerSound⟩ := sound.exists_shows isOpen
    obtain ⟨after, performed⟩ := showing.perform ledgerSound occasion onTables
    have step := Ledger.keyStep_of_performs performed.performs uid
    have present := showing.storedKey?_eq_some_iff.mp stored
    rw [performed.shows.storedKey?_eq_some_iff]
    generalize after.keys uid = result at step
    generalize (store.perform occasion call).1 = outcome at step
    cases step with
    | kept => exact present
    | removed => exact (spares rfl).elim
    | saved saves =>
        cases saves with
        | added isNew owned absent => cases present.symm.trans absent
        | changed named => exact (spares named).elim
  · cases call with
    | dial dialing =>
        change (store.dial dialing).2.storedKey? uid = some (.ok key)
        rw [dial_of_connected (status_of_isOpen isOpen)]
        exact stored
    | close => exact spares.elim
    | _ => exact (onTables trivial).elim

/-- The key pair of an account is the one that is stored under its uid. -/
theorem keyByAccount_of_isSound (sound : store.IsSound) (uid : String) :
    store.keyByAccount uid =
      if store.isOpen then (store.storedKey? uid).getD (.error .keyNotFound)
      else .error .notConnected := by
  cases isOpen : store.isOpen with
  | true =>
      obtain ⟨ledger, showing, ledgerSound⟩ := sound.exists_shows isOpen
      rw [showing.keyByAccount_eq ledgerSound, showing.storedKey?_eq, if_pos rfl]
      cases ledger.keys uid <;> rfl
  | false =>
      rw [keyByAccount, read_of_closed isOpen]
      rfl

/-! ## Tokens -/

theorem perform_saveToken
    {occasion : Occasion}
    {token : String}
    {outcome : Except Error Unit}
    {after : Store}
    (saved : store.saveToken occasion uid token = (outcome, after)) :
    store.perform occasion (.saveToken uid token) = (outcome.map fun _ => .done, after) := by
  rw [perform, saved]
  rfl

/-- A token can be recorded in any store that is connected, unless it or the uid is empty. -/
theorem exists_saveToken_eq_ok
    (sound : store.IsSound)
    (isOpen : store.isOpen = true)
    (occasion : Occasion)
    {token : String}
    (complete : Ledger.requireToken uid token = .ok ()) :
    ∃ after, store.saveToken occasion uid token = (.ok (), after) := by
  obtain ⟨ledger, showing, ledgerSound⟩ := sound.exists_shows isOpen
  have onTables : (Call.saveToken uid token).IsOnTables := trivial
  obtain ⟨next, performs, -, -, -⟩ := showing.perform ledgerSound occasion onTables
  rcases saved : store.saveToken occasion uid token with ⟨error | _, after⟩
  · rw [perform_saveToken saved] at performs
    have outcome := (Prod.mk.inj performs).1
    rw [Ledger.putToken, complete] at outcome
    cases outcome
  · exact ⟨after, rfl⟩

theorem eq_of_saveToken_error
    (sound : store.IsSound)
    {occasion : Occasion}
    {token : String}
    {error : Error}
    {after : Store}
    (refused : store.saveToken occasion uid token = (.error error, after)) :
    after = store := by
  have onTables : (Call.saveToken uid token).IsOnTables := trivial
  have frame := sound.writesAt occasion onTables
  rw [perform_saveToken refused] at frame
  exact frame

theorem loadToken_of_saveToken
    (sound : store.IsSound)
    {occasion : Occasion}
    {token : String}
    {after : Store}
    (saved : store.saveToken occasion uid token = (.ok (), after)) :
    after.loadToken uid = .ok token := by
  have onTables : (Call.saveToken uid token).IsOnTables := trivial
  cases isOpen : store.isOpen with
  | false =>
      obtain ⟨error, fails⟩ := (perform_of_closed isOpen occasion onTables).2 (.token uid) rfl
      rw [perform_saveToken saved] at fails
      cases fails
  | true =>
      obtain ⟨ledger, showing, ledgerSound⟩ := sound.exists_shows isOpen
      obtain ⟨next, performs, shows, -, -⟩ := showing.perform ledgerSound occasion onTables
      rw [perform_saveToken saved] at performs shows
      obtain ⟨outcome, rfl⟩ := Prod.mk.inj performs
      rw [shows.loadToken_eq]
      unfold Ledger.putToken at outcome ⊢
      cases required : Ledger.requireToken uid token with
      | error error =>
          rw [required] at outcome
          cases outcome
      | ok _ => simp [Ledger.tokens_setToken, found]

end Credential.Store
