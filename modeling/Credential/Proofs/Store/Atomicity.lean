import Credential.Proofs.Store.Reachable

/-!
# Calls are all or nothing

A call on the tables that fails leaves the store and the record that was lent to
it as they were, and so does a call that only reads, and a call that writes
leaves everything outside the one row that it is about.
-/

namespace Credential.Store

variable {store : Store}

/-- A call on the tables of a sound store writes in its place only, and nothing if it fails. -/
theorem IsSound.writesAt
    (sound : store.IsSound)
    (occasion : Occasion)
    {call : Call}
    (onTables : call.IsOnTables) :
    match call.place? occasion with
    | none => (store.perform occasion call).2 = store
    | some place => store.WritesAt place (store.perform occasion call) := by
  cases isOpen : store.isOpen with
  | true =>
      obtain ⟨ledger, showing, ledgerSound⟩ := sound.exists_shows isOpen
      obtain ⟨after, performed⟩ := showing.perform ledgerSound occasion onTables
      exact performed.frame
  | false =>
      obtain ⟨unchanged, fails⟩ := perform_of_closed isOpen occasion onTables
      cases isWrite : call.place? occasion with
      | none => exact unchanged
      | some place =>
          obtain ⟨error, outcome⟩ := fails place isWrite
          have result : store.perform occasion call = (.error error, store) :=
            Prod.ext outcome unchanged
          rw [result]
          rfl

/-- A saved record that was lent comes back unchanged, with the store, if saving fails. -/
theorem run_withLent_eq_self
    {Record : Type}
    {work : Record → Step Store Record}
    {record : Record}
    {error : Error}
    (clean : ∀ error, (saved (.withLent work) store record).1 = .error error →
      (saved (.withLent work) store record).2 = store)
    (fails : (Step.run (.withLent work) ⟨record, store⟩).1 = .error error) :
    (Step.run (.withLent work) ⟨record, store⟩).2 = ⟨record, store⟩ := by
  rw [saved_withLent] at clean
  rcases ran : (work record).run store with ⟨failure | result, after⟩
  · rw [ran] at clean
    rw [Step.run_withLent_of_error ran]
    exact congrArg (Lent.mk record) (clean failure rfl)
  · rw [Step.run_withLent_of_ok ran] at fails
    cases fails

/--
Calls on the tables of any store that runs reach are all or nothing.

A call that fails, or only reads, leaves the store as it was, and one that writes
leaves everything outside its place.  A record that could not be saved is given
back as it was lent.
-/
theorem perform_run_atomic
    (rowless : store.Rowless)
    (calls : List (Occasion × Call))
    (occasion : Occasion)
    {call : Call}
    (onTables : call.IsOnTables) :
    let before := store.run calls
    (∀ error, (before.perform occasion call).1 = .error error →
      (before.perform occasion call).2 = before) ∧
    (call.place? occasion = none → (before.perform occasion call).2 = before) ∧
    (∀ place answer, call.place? occasion = some place →
      (before.perform occasion call).1 = .ok answer →
        before.SameBut place (before.perform occasion call).2) ∧
    (∀ account error,
      ((saveLentAccount occasion).run ⟨account, before⟩).1 = .error error →
        ((saveLentAccount occasion).run ⟨account, before⟩).2 = ⟨account, before⟩) ∧
    (∀ key error,
      ((saveLentKey occasion).run ⟨key, before⟩).1 = .error error →
        ((saveLentKey occasion).run ⟨key, before⟩).2 = ⟨key, before⟩) := by
  intro before
  have sound : before.IsSound := rowless.isSound.run calls
  have clean : ∀ {call : Call}, call.IsOnTables → ∀ error,
      (before.perform occasion call).1 = .error error →
        (before.perform occasion call).2 = before := by
    intro call onTables error fails
    have frame := sound.writesAt occasion onTables
    cases isWrite : call.place? occasion with
    | none =>
        rw [isWrite] at frame
        exact frame
    | some place =>
        rw [isWrite] at frame
        generalize before.perform occasion call = result at frame fails
        obtain ⟨outcome, after⟩ := result
        obtain rfl : outcome = .error error := fails
        exact frame
  refine ⟨clean onTables, ?reads, ?writes, ?account, ?key⟩
  case reads =>
    intro isRead
    have frame := sound.writesAt occasion onTables
    rw [isRead] at frame
    exact frame
  case writes =>
    intro place answer isWrite succeeds
    have frame := sound.writesAt occasion onTables
    rw [isWrite] at frame
    generalize before.perform occasion call = result at frame succeeds
    obtain ⟨outcome, after⟩ := result
    obtain rfl : outcome = .ok answer := succeeds
    exact frame
  case account =>
    intro account error fails
    refine run_withLent_eq_self (fun failure saves => ?_) fails
    exact @clean (.saveAccount account) trivial failure (congrArg (Except.map Answer.account) saves)
  case key =>
    intro key error fails
    refine run_withLent_eq_self (fun failure saves => ?_) fails
    exact @clean (.saveKey key) trivial failure (congrArg (Except.map Answer.key) saves)

/-- An account that is given the email of another one in a database stays as it was. -/
theorem perform_run_atomic_saved :
    let drawing (uid : String) : Occasion := ⟨.start, uid, [], .mk fun _ => none⟩
    let ada := { Account.blank with email := .value "ada@example.org" }
    let bob := { Account.blank with email := .value "bob@example.org" }
    let calls : List (Occasion × Call) :=
      [(drawing "", .dial ⟨some "store", 0⟩), (drawing "first", .saveAccount ada),
        (drawing "second", .saveAccount bob)]
    let refused := Call.saveAccount { ada with uid := some "second" }
    let before := (Store.database (.initial .empty)).run calls
    (Store.database (.initial .empty)).Rowless ∧ refused.IsOnTables ∧
      ∀ error, (before.perform (drawing "") refused).1 = .error error →
        (before.perform (drawing "") refused).2 = before := by
  intro drawing ada bob calls refused before
  have rowless : (Store.database (.initial .empty)).Rowless := by
    intro path tables content
    cases content
  have onTables : refused.IsOnTables := trivial
  exact ⟨rowless, onTables, (perform_run_atomic rowless calls (drawing "") onTables).1⟩

end Credential.Store
