import Credential.Proofs.Store.Reachable

/-!
# What a call does to a row

A row that is there after a call was there before it, or the call has saved it.
Rows stand in files: the ones of a database that is not open stay as they are,
and a store in memory loses its rows when it is closed.
-/

namespace Credential.Store

/-! ## Ledgers -/

namespace Ledger

variable {ledger after : Ledger} {backend : Backend} {occasion : Occasion} {call : Call}
  {outcome : Except Error Answer}

/-- The record that saving an account puts under a uid, unless it is refused. -/
inductive SavesAccount (ledger : Ledger) (occasion : Occasion) (account : Account) :
    String → Account → Prop where
  | added
      (isNew : account.uid = none) :
      SavesAccount ledger occasion account occasion.uid
        (account.prepareInsert occasion.uid occasion.now)
  | changed
      {uid : String}
      {stored : Account}
      (named : account.uid = some uid)
      (present : ledger.accounts uid = some stored) :
      SavesAccount ledger occasion account uid (account.prepareUpdate stored occasion.now)

/-- The record that saving a key pair puts under a key id, unless it is refused. -/
inductive SavesKey (ledger : Ledger) (occasion : Occasion) (key : KeyPair) :
    String → KeyPair → Prop where
  | added
      (isNew : key.kid = none)
      (owned : ledger.accounts key.accountId ≠ none)
      (absent : ledger.keys key.accountId = none) :
      SavesKey ledger occasion key key.accountId (key.prepareInsert occasion.now)
  | changed
      {kid : String}
      {stored : KeyPair}
      (named : key.kid = some kid)
      (present : ledger.keys kid = some stored) :
      SavesKey ledger occasion key kid (key.prepareUpdate stored occasion.now)

/-- An account that is saved under a uid bears it. -/
theorem SavesAccount.uid_eq
    {account record : Account}
    {uid : String}
    (saves : ledger.SavesAccount occasion account uid record)
    (sound : ledger.Sound) :
    record.uid = some uid := by
  cases saves with
  | added isNew => rfl
  | changed named present => exact (sound.accounts present).uid_eq

/-- An account is saved under its uid, or under the one that is drawn. -/
theorem SavesAccount.getD_uid
    {account record : Account}
    {uid : String}
    (saves : ledger.SavesAccount occasion account uid record) :
    account.uid.getD occasion.uid = uid := by
  cases saves with
  | added isNew => rw [isNew, Option.getD_none]
  | changed named present => rw [named, Option.getD_some]

/-- A key pair is saved under its key id, or under its account. -/
theorem SavesKey.getD_kid
    {key record : KeyPair}
    {kid : String}
    (saves : ledger.SavesKey occasion key kid record) :
    key.kid.getD key.accountId = kid := by
  cases saves with
  | added isNew owned absent => rw [isNew, Option.getD_none]
  | changed named present => rw [named, Option.getD_some]

/-- A key pair that is saved under a key id bears it, also as its account. -/
theorem SavesKey.kid_eq
    {key record : KeyPair}
    {kid : String}
    (saves : ledger.SavesKey occasion key kid record)
    (sound : ledger.Sound) :
    record.kid = some kid ∧ record.accountId = kid := by
  cases saves with
  | added isNew owned absent => exact ⟨rfl, rfl⟩
  | changed named present =>
      have wellKept := sound.keys present
      exact ⟨wellKept.kid_eq, wellKept.accountId_eq⟩

/-- An account is refused, or saved under a uid. -/
theorem saveAccount_cases
    (ledger : Ledger)
    (backend : Backend)
    (occasion : Occasion)
    (account : Account) :
    (∃ error, ledger.saveAccount backend occasion account = (.error error, ledger)) ∨
      ∃ uid record, ledger.SavesAccount occasion account uid record ∧
        ledger.saveAccount backend occasion account =
          (.ok record, ledger.setAccount uid (some (backend.kept record))) := by
  unfold saveAccount
  split
  case h_1 isNew =>
    split
    case h_1 => exact .inl ⟨_, rfl⟩
    case h_2 =>
      dsimp only
      split
      case isTrue => exact .inl ⟨_, rfl⟩
      case isFalse => exact .inr ⟨_, _, .added isNew, rfl⟩
  case h_2 uid named =>
    split
    case h_1 => exact .inl ⟨_, rfl⟩
    case h_2 stored present =>
      dsimp only
      split
      case isTrue => exact .inl ⟨_, rfl⟩
      case isFalse => exact .inr ⟨_, _, .changed named present, rfl⟩

/-- A key pair is refused, or saved under a key id. -/
theorem saveKey_cases (ledger : Ledger) (occasion : Occasion) (key : KeyPair) :
    (∃ error, ledger.saveKey occasion.now key = (.error error, ledger)) ∨
      ∃ kid record, ledger.SavesKey occasion key kid record ∧
        ledger.saveKey occasion.now key = (.ok record, ledger.setKey kid (some record)) := by
  unfold saveKey
  split
  case h_1 isNew =>
    split
    case h_1 => exact .inl ⟨_, rfl⟩
    case h_2 =>
      split
      case isTrue => exact .inl ⟨_, rfl⟩
      case isFalse owned =>
        split
        case isTrue => exact .inl ⟨_, rfl⟩
        case isFalse absent =>
          refine .inr ⟨_, _, .added isNew ?_ ?_, rfl⟩
          · simpa using owned
          · simpa using absent
  case h_2 kid named =>
    split
    case h_1 => exact .inl ⟨_, rfl⟩
    case h_2 stored present => exact .inr ⟨_, _, .changed named present, rfl⟩

/-- What a call makes of the account under a uid: it stays, goes, or is saved. -/
inductive AccountStep (ledger : Ledger) (backend : Backend) (occasion : Occasion) (uid : String) :
    Call → Except Error Answer → Option Account → Prop where
  | kept {call : Call} {outcome : Except Error Answer} :
      AccountStep ledger backend occasion uid call outcome (ledger.accounts uid)
  | removed {outcome : Except Error Answer} :
      AccountStep ledger backend occasion uid (.deleteAccount uid) outcome none
  | saved
      {account record : Account}
      (saves : ledger.SavesAccount occasion account uid record) :
      AccountStep ledger backend occasion uid (.saveAccount account) (.ok (.account record))
        (some (backend.kept record))

/-- What a call makes of the key pair under a key id: it stays, goes, or is saved. -/
inductive KeyStep (ledger : Ledger) (occasion : Occasion) (kid : String) :
    Call → Except Error Answer → Option KeyPair → Prop where
  | kept {call : Call} {outcome : Except Error Answer} :
      KeyStep ledger occasion kid call outcome (ledger.keys kid)
  | removed {outcome : Except Error Answer} :
      KeyStep ledger occasion kid (.deleteKey kid) outcome none
  | saved
      {key record : KeyPair}
      (saves : ledger.SavesKey occasion key kid record) :
      KeyStep ledger occasion kid (.saveKey key) (.ok (.key record)) (some record)

theorem accountStep_of_performs
    (performs : ledger.Performs backend occasion call outcome after)
    (uid : String) :
    ledger.AccountStep backend occasion uid call outcome (after.accounts uid) := by
  cases call with
  | dial dialing => exact performs.elim
  | close => exact performs.elim
  | saveAccount account =>
      obtain ⟨rfl, rfl⟩ := Prod.mk.inj performs
      rcases ledger.saveAccount_cases backend occasion account with
        ⟨error, refused⟩ | ⟨other, record, saves, saved⟩
      · rw [refused]
        exact .kept
      · rw [saved]
        by_cases same : uid = other
        · subst same
          simpa [accounts_setAccount, Except.map] using AccountStep.saved saves
        · simpa [accounts_setAccount, same] using AccountStep.kept
  | deleteAccount other =>
      obtain ⟨-, rfl⟩ := Prod.mk.inj performs
      rw [deleteAccount]
      split
      case isTrue =>
        by_cases same : uid = other
        · subst same
          simpa [accounts_setAccount] using AccountStep.removed
        · simpa [accounts_setAccount, same] using AccountStep.kept
      case isFalse => exact .kept
  | saveKey key =>
      obtain ⟨-, rfl⟩ := Prod.mk.inj performs
      rcases ledger.saveKey_cases occasion key with ⟨error, refused⟩ | ⟨kid, record, -, saved⟩
      · rw [refused]
        exact .kept
      · rw [saved]
        exact .kept
  | deleteKey kid =>
      obtain ⟨-, rfl⟩ := Prod.mk.inj performs
      rw [deleteKey]
      split <;> exact .kept
  | saveToken other token =>
      obtain ⟨-, rfl⟩ := Prod.mk.inj performs
      rw [putToken]
      split <;> exact .kept
  | deleteToken other =>
      obtain ⟨-, rfl⟩ := Prod.mk.inj performs
      rw [deleteToken]
      split <;> exact .kept
  | _ =>
      obtain ⟨rfl, -⟩ := performs
      exact .kept

theorem keyStep_of_performs
    (performs : ledger.Performs backend occasion call outcome after)
    (kid : String) :
    ledger.KeyStep occasion kid call outcome (after.keys kid) := by
  cases call with
  | dial dialing => exact performs.elim
  | close => exact performs.elim
  | saveKey key =>
      obtain ⟨rfl, rfl⟩ := Prod.mk.inj performs
      rcases ledger.saveKey_cases occasion key with ⟨error, refused⟩ | ⟨other, record, saves, saved⟩
      · rw [refused]
        exact .kept
      · rw [saved]
        by_cases same : kid = other
        · subst same
          simpa [keys_setKey, Except.map] using KeyStep.saved saves
        · simpa [keys_setKey, same] using KeyStep.kept
  | deleteKey other =>
      obtain ⟨-, rfl⟩ := Prod.mk.inj performs
      rw [deleteKey]
      split
      case isTrue =>
        by_cases same : kid = other
        · subst same
          simpa [keys_setKey] using KeyStep.removed
        · simpa [keys_setKey, same] using KeyStep.kept
      case isFalse => exact .kept
  | saveAccount account =>
      obtain ⟨-, rfl⟩ := Prod.mk.inj performs
      rcases ledger.saveAccount_cases backend occasion account with
        ⟨error, refused⟩ | ⟨uid, record, -, saved⟩
      · rw [refused]
        exact .kept
      · rw [saved]
        exact .kept
  | deleteAccount uid =>
      obtain ⟨-, rfl⟩ := Prod.mk.inj performs
      rw [deleteAccount]
      split <;> exact .kept
  | saveToken uid token =>
      obtain ⟨-, rfl⟩ := Prod.mk.inj performs
      rw [putToken]
      split <;> exact .kept
  | deleteToken uid =>
      obtain ⟨-, rfl⟩ := Prod.mk.inj performs
      rw [deleteToken]
      split <;> exact .kept
  | _ =>
      obtain ⟨rfl, -⟩ := performs
      exact .kept

end Ledger

/-! ## Files -/

variable {store : Store}

/-- A store with the file of a path open, whichever is open now; a store in memory has no files. -/
def withFile (store : Store) (path : String) : Store :=
  match store with
  | .memory store => .memory store
  | .database store => .database { store with opened := some path }

/-! ## Stores that have rows -/

/-- A store that has the row of an account has tables. -/
theorem isOpen_of_storedAccount?
    {uid : String}
    {reading : Except Error Account}
    (stored : store.storedAccount? uid = some reading) :
    store.isOpen = true := by
  rcases store with ⟨_ | tables⟩ | store
  · cases stored
  · rfl
  · obtain ⟨row, found, -⟩ := Option.map_eq_some_iff.mp stored
    obtain ⟨tables, isOpen, -⟩ := Option.bind_eq_some_iff.mp found
    exact Option.isSome_iff_exists.mpr ⟨tables, isOpen⟩

/-- A store that has the row of a key pair has tables. -/
theorem isOpen_of_storedKey?
    {kid : String}
    {reading : Except Error KeyPair}
    (stored : store.storedKey? kid = some reading) :
    store.isOpen = true := by
  rcases store with ⟨_ | tables⟩ | store
  · cases stored
  · rfl
  · obtain ⟨row, found, -⟩ := Option.map_eq_some_iff.mp stored
    obtain ⟨tables, isOpen, -⟩ := Option.bind_eq_some_iff.mp found
    exact Option.isSome_iff_exists.mpr ⟨tables, isOpen⟩

/-- An open store has some file open, unless it is in memory. -/
theorem exists_withFile_eq_self
    (isOpen : store.isOpen = true) :
    ∃ path, store.withFile path = store := by
  rcases store with store | ⟨_ | path, disk⟩
  · exact ⟨"", rfl⟩
  · cases isOpen
  · exact ⟨path, rfl⟩

namespace Rowless

theorem withFile (rowless : store.Rowless) (path : String) : (store.withFile path).Rowless := by
  cases store <;> exact rowless

/-- A store without rows shows the ledger without records, if it is open. -/
theorem shows_empty (rowless : store.Rowless) (isOpen : store.isOpen = true) :
    store.Shows .empty := by
  rcases store with ⟨_ | tables⟩ | ⟨opened, disk⟩
  · cases isOpen
  · rw [rowless tables rfl]
    exact .memory Tables.shows_empty
  · obtain ⟨tables, found⟩ := Option.isSome_iff_exists.mp isOpen
    obtain ⟨path, rfl, content⟩ := DatabaseStore.database?_eq_some_iff.mp found
    rw [rowless path tables content] at content
    exact .database content Tables.shows_empty

theorem storedAccount?_eq_none (rowless : store.Rowless) (uid : String) :
    store.storedAccount? uid = none := by
  by_contra present
  obtain ⟨reading, present⟩ := Option.ne_none_iff_exists'.mp present
  rw [(rowless.shows_empty (isOpen_of_storedAccount? present)).storedAccount?_eq] at present
  cases present

theorem storedKey?_eq_none (rowless : store.Rowless) (kid : String) :
    store.storedKey? kid = none := by
  by_contra present
  obtain ⟨reading, present⟩ := Option.ne_none_iff_exists'.mp present
  rw [(rowless.shows_empty (isOpen_of_storedKey? present)).storedKey?_eq] at present
  cases present

end Rowless

/-! ## Rows after a call -/

/-- Whether all accounts and key pairs of one store are stored alike in another. -/
structure Within (first second : Store) : Prop where
  accounts : ∀ {uid reading}, first.storedAccount? uid = some reading →
    second.storedAccount? uid = some reading
  keys : ∀ {kid reading}, first.storedKey? kid = some reading →
    second.storedKey? kid = some reading

/-- A store is within itself. -/
theorem Within.refl (store : Store) : store.Within store :=
  ⟨id, id⟩

/-- A file that has the same content as before, or an empty one, has no rows more. -/
theorem within_of_content
    {before after : DatabaseStore}
    {path : String}
    (content : ∀ tables, after.disk.database? path = some tables →
      before.disk.database? path = some tables ∨ tables = Tables.empty) :
    (withFile (.database after) path).Within (withFile (.database before) path) := by
  constructor
  · intro uid reading stored
    obtain ⟨row, found, reads⟩ := Option.map_eq_some_iff.mp stored
    obtain ⟨tables, isOpen, present⟩ := Option.bind_eq_some_iff.mp found
    rcases content tables isOpen with same | rfl
    · rw [withFile, storedAccount?, DatabaseStore.database?_mk, same, Option.bind_some, present]
      exact congrArg some reads
    · cases present
  · intro kid reading stored
    obtain ⟨row, found, reads⟩ := Option.map_eq_some_iff.mp stored
    obtain ⟨tables, isOpen, present⟩ := Option.bind_eq_some_iff.mp found
    rcases content tables isOpen with same | rfl
    · rw [withFile, storedKey?, DatabaseStore.database?_mk, same, Option.bind_some, present]
      exact congrArg some reads
    · cases present

/-- Connecting makes no rows. -/
theorem within_dial (store : Store) (dialing : Dialing) (path : String) :
    ((store.dial dialing).2.withFile path).Within (store.withFile path) := by
  rcases store with ⟨_ | tables⟩ | store
  · constructor <;> intro key reading stored <;> cases stored
  · exact .refl _
  · apply within_of_content
    exact fun tables => DatabaseStore.content_of_dial

/-- Disconnecting makes no rows. -/
theorem within_close (store : Store) (path : String) :
    (store.close.withFile path).Within (store.withFile path) := by
  cases store with
  | memory store => constructor <;> intro key reading stored <;> cases stored
  | database store => exact .refl _

/-- A file has no rows more after a call, unless it is open and the call is about the tables. -/
theorem within_perform
    (sound : store.IsSound)
    (occasion : Occasion)
    (call : Call)
    (path : String) :
    ((store.perform occasion call).2.withFile path).Within (store.withFile path) ∨
      call.IsOnTables ∧ store.isOpen = true ∧ store.withFile path = store ∧
        (store.perform occasion call).2.withFile path = (store.perform occasion call).2 := by
  by_cases onTables : call.IsOnTables
  · cases isOpen : store.isOpen with
    | false =>
        rw [(perform_of_closed isOpen occasion onTables).1]
        exact .inl (.refl _)
    | true =>
        obtain ⟨ledger, showing, ledgerSound⟩ := sound.exists_shows isOpen
        obtain ⟨next, performed⟩ := showing.perform ledgerSound occasion onTables
        have frame := performed.frame
        cases isWrite : call.place? occasion with
        | none =>
            rw [isWrite] at frame
            rw [frame]
            exact .inl (.refl _)
        | some place =>
            rw [isWrite] at frame
            generalize store.perform occasion call = result at frame
            obtain ⟨_ | _, after⟩ := result
            · obtain rfl : after = store := frame
              exact .inl (.refl _)
            · cases frame with
              | memory tables => exact .inr ⟨onTables, rfl, rfl, rfl⟩
              | @database opened before after _ _ _ _ files tables =>
                  by_cases same : path = opened
                  · subst same
                    exact .inr ⟨onTables, rfl, rfl, rfl⟩
                  · refine .inl (within_of_content fun tables found => .inl ?_)
                    rw [Disk.database?, ← files path same]
                    exact found
  · cases call with
    | dial dialing => exact .inl (within_dial store dialing path)
    | close => exact .inl (within_close store path)
    | _ => exact (onTables trivial).elim

/-- An account in tables after a call was in them before it, or the call has saved it. -/
theorem Shows.storedAccount?_of_perform
    {ledger : Ledger}
    (showing : store.Shows ledger)
    (ledgerSound : ledger.Sound)
    {occasion : Occasion}
    {call : Call}
    (onTables : call.IsOnTables)
    {uid : String}
    {reading : Except Error Account}
    (stored : (store.perform occasion call).2.storedAccount? uid = some reading) :
    store.storedAccount? uid = some reading ∨
      ∃ account record, call = .saveAccount account ∧
        (store.perform occasion call).1 = .ok (.account record) ∧
        ledger.SavesAccount occasion account uid record ∧
        reading = .ok (store.backend.kept record) := by
  obtain ⟨after, performed⟩ := showing.perform ledgerSound occasion onTables
  rw [performed.shows.storedAccount?_eq] at stored
  obtain ⟨account, present, rfl⟩ := Option.map_eq_some_iff.mp stored
  have step := Ledger.accountStep_of_performs performed.performs uid
  rw [present] at step
  rw [showing.storedAccount?_eq]
  generalize isPresent : some account = result at step
  generalize (store.perform occasion call).1 = outcome at step
  cases step with
  | kept =>
      rw [← isPresent]
      exact .inl rfl
  | removed => cases isPresent
  | saved saves =>
      cases isPresent
      exact .inr ⟨_, _, rfl, rfl, saves, rfl⟩

/-- A key pair in tables after a call was in them before it, or the call has saved it. -/
theorem Shows.storedKey?_of_perform
    {ledger : Ledger}
    (showing : store.Shows ledger)
    (ledgerSound : ledger.Sound)
    {occasion : Occasion}
    {call : Call}
    (onTables : call.IsOnTables)
    {kid : String}
    {reading : Except Error KeyPair}
    (stored : (store.perform occasion call).2.storedKey? kid = some reading) :
    store.storedKey? kid = some reading ∨
      ∃ key record, call = .saveKey key ∧ (store.perform occasion call).1 = .ok (.key record) ∧
        ledger.SavesKey occasion key kid record ∧ reading = .ok record := by
  obtain ⟨after, performed⟩ := showing.perform ledgerSound occasion onTables
  rw [performed.shows.storedKey?_eq] at stored
  obtain ⟨key, present, rfl⟩ := Option.map_eq_some_iff.mp stored
  have step := Ledger.keyStep_of_performs performed.performs kid
  rw [present] at step
  rw [showing.storedKey?_eq]
  generalize isPresent : some key = result at step
  generalize (store.perform occasion call).1 = outcome at step
  cases step with
  | kept =>
      rw [← isPresent]
      exact .inl rfl
  | removed => cases isPresent
  | saved saves =>
      cases isPresent
      exact .inr ⟨_, _, rfl, rfl, saves, rfl⟩

/-- An account that is stored after a call was stored before it, or the call has saved it. -/
theorem storedAccount?_of_perform
    (sound : store.IsSound)
    {occasion : Occasion}
    {call : Call}
    {path uid : String}
    {reading : Except Error Account}
    (stored : ((store.perform occasion call).2.withFile path).storedAccount? uid = some reading) :
    (store.withFile path).storedAccount? uid = some reading ∨
      ∃ ledger account record, store.Shows ledger ∧ ledger.Sound ∧ store.withFile path = store ∧
        call = .saveAccount account ∧ (store.perform occasion call).1 = .ok (.account record) ∧
        ledger.SavesAccount occasion account uid record ∧
        reading = .ok (store.backend.kept record) := by
  rcases within_perform sound occasion call path with within | ⟨onTables, isOpen, same, sameAfter⟩
  · exact .inl (within.accounts stored)
  · obtain ⟨ledger, showing, ledgerSound⟩ := sound.exists_shows isOpen
    rw [sameAfter] at stored
    rw [same]
    rcases showing.storedAccount?_of_perform ledgerSound onTables stored with
      before | ⟨account, record, isSave, outcome, saves, isRecord⟩
    · exact .inl before
    · exact .inr
        ⟨ledger, account, record, showing, ledgerSound, rfl, isSave, outcome, saves, isRecord⟩

/-- A key pair that is stored after a call was stored before it, or the call has saved it. -/
theorem storedKey?_of_perform
    (sound : store.IsSound)
    {occasion : Occasion}
    {call : Call}
    {path kid : String}
    {reading : Except Error KeyPair}
    (stored : ((store.perform occasion call).2.withFile path).storedKey? kid = some reading) :
    (store.withFile path).storedKey? kid = some reading ∨
      ∃ ledger key record, store.Shows ledger ∧ ledger.Sound ∧ store.withFile path = store ∧
        call = .saveKey key ∧ (store.perform occasion call).1 = .ok (.key record) ∧
        ledger.SavesKey occasion key kid record ∧ reading = .ok record := by
  rcases within_perform sound occasion call path with within | ⟨onTables, isOpen, same, sameAfter⟩
  · exact .inl (within.keys stored)
  · obtain ⟨ledger, showing, ledgerSound⟩ := sound.exists_shows isOpen
    rw [sameAfter] at stored
    rw [same]
    rcases showing.storedKey?_of_perform ledgerSound onTables stored with
      before | ⟨key, record, isSave, outcome, saves, isRecord⟩
    · exact .inl before
    · exact .inr
        ⟨ledger, key, record, showing, ledgerSound, rfl, isSave, outcome, saves, isRecord⟩

end Credential.Store
