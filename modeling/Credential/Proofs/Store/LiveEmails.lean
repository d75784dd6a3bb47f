import Credential.Proofs.Store.Reachable

/-!
# Live emails are distinct

However a store has been used since it was empty, its accounts are complete, and
no two of them that are live share an email.
-/

namespace Credential.Store

/-- Whether the accounts of a store are complete and under their uids, and live emails distinct. -/
structure KeepsAccounts (store : Store) : Prop where
  /-- Every row reads as an account that is complete, and whose uid is the one of the row. -/
  complete : ∀ uid reading, store.storedAccount? uid = some reading →
    ∃ account, reading = .ok account ∧ account.uid = some uid ∧
      account.created.isSome = true ∧ account.updated.isSome = true ∧
      (∃ flag, account.active = .value flag) ∧
      account.email ≠ .unset ∧ account.deleted ≠ .unset
  /-- An email of two accounts that are not marked as deleted is the email of one account. -/
  distinct : ∀ email firstUid secondUid first second,
    store.storedAccount? firstUid = some (.ok first) →
      store.storedAccount? secondUid = some (.ok second) →
        first.deleted ≠ .value true → second.deleted ≠ .value true →
          first.email = .value email → second.email = .value email → firstUid = secondUid

/-- A field that is given is not unset. -/
theorem ne_unset
    {Content : Type}
    {field : Field Content}
    (given : field.isUnset = false) :
    field ≠ .unset := by
  rintro rfl
  cases given

/-- A store that shows a sound ledger keeps its accounts. -/
theorem Shows.keepsAccounts
    {store : Store}
    {ledger : Ledger}
    (showing : store.Shows ledger)
    (sound : ledger.Sound) :
    store.KeepsAccounts where
  complete := by
    intro uid reading stored
    rw [showing.storedAccount?_eq] at stored
    obtain ⟨account, present, rfl⟩ := Option.map_eq_some_iff.mp stored
    have wellKept := sound.accounts present
    exact ⟨account, rfl, wellKept.uid_eq, wellKept.created, wellKept.updated, wellKept.active,
      ne_unset wellKept.email, ne_unset wellKept.deleted⟩
  distinct := by
    intro email firstUid secondUid first second firstStored secondStored firstLive secondLive
      firstEmail secondEmail
    have firstPresent := showing.storedAccount?_eq_some_iff.mp firstStored
    have secondPresent := showing.storedAccount?_eq_some_iff.mp secondStored
    exact sound.emails firstPresent secondPresent (decide_eq_false firstLive)
      (decide_eq_false secondLive) (congrArg Field.value? firstEmail)
      (congrArg Field.value? secondEmail)

/-- A store without tables has no accounts to keep. -/
theorem keepsAccounts_of_closed
    {store : Store}
    (closed : store.isOpen = false) :
    store.KeepsAccounts := by
  have absent : ∀ uid, store.storedAccount? uid = none := by
    intro uid
    rcases store with ⟨_ | tables⟩ | store
    · rfl
    · cases closed
    · rw [storedAccount?, Option.isNone_iff_eq_none.mp (Option.isSome_eq_false_iff.mp closed)]
      rfl
  constructor
  · intro uid reading stored
    rw [absent] at stored
    cases stored
  · intro email firstUid secondUid first second stored
    rw [absent] at stored
    cases stored

/-- Any run of calls from a store without rows keeps the accounts. -/
theorem keepsAccounts_run
    {store : Store}
    (rowless : store.Rowless)
    (calls : List (Occasion × Call)) :
    (store.run calls).KeepsAccounts := by
  cases isOpen : (store.run calls).isOpen with
  | false => exact keepsAccounts_of_closed isOpen
  | true =>
      obtain ⟨ledger, showing, sound⟩ := (rowless.isSound.run calls).exists_shows isOpen
      exact showing.keepsAccounts sound

/-- An account that is revived while another has its email stays deleted, in either backend. -/
theorem keepsAccounts_run_revived :
    let drawing (uid : String) : Occasion := ⟨.start, uid, [], .mk fun _ => none⟩
    let ada := { Account.blank with email := .value "ada@example.org" }
    let calls : List (Occasion × Call) :=
      [(drawing "", .dial ⟨some "store", 0⟩), (drawing "first", .saveAccount ada),
        (drawing "", .saveAccount { Account.blank with uid := some "first", deleted := .value true }),
        (drawing "second", .saveAccount ada),
        (drawing "", .saveAccount { Account.blank with uid := some "first", deleted := .null })]
    (Store.memory .initial).Rowless ∧ ((Store.memory .initial).run calls).KeepsAccounts ∧
      (Store.database (.initial .empty)).Rowless ∧
        ((Store.database (.initial .empty)).run calls).KeepsAccounts := by
  intro drawing ada calls
  have memory : (Store.memory .initial).Rowless := by
    intro tables member
    cases member
  have database : (Store.database (.initial .empty)).Rowless := by
    intro path tables content
    cases content
  exact ⟨memory, keepsAccounts_run memory calls, database, keepsAccounts_run database calls⟩

end Credential.Store
