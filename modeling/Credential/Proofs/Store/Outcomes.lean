import Credential.Proofs.Store.Atomicity
import Credential.Proofs.Store.KeysAndTokens
import Credential.Proofs.Store.Updates

/-!
# How calls come out

A call that fails leaves the store as it was, and if the store is open callers
outside may be told the reason.  An account that is saved stands under its uid,
a key pair under its key id, and everything else is as it was.
-/

namespace Credential

/-! ## Errors that are told -/

/-- Whether callers outside are told what went wrong, and not just that something did. -/
def Error.IsTold (error : Error) : Prop :=
  error.report.status ≠ 500

instance (error : Error) : Decidable error.IsTold :=
  inferInstanceAs (Decidable (_ ≠ _))

/-- Whether an operation that fails does so with an error that is told. -/
def Tells {α : Type} (outcome : Except Error α) : Prop :=
  ∀ error, outcome = .error error → error.IsTold

namespace Tells

variable {α β : Type} {outcome : Except Error α}

theorem ok (result : α) : Tells (.ok result : Except Error α) := by
  rintro error ⟨⟩

theorem error {error : Error} (told : error.IsTold) : Tells (.error error : Except Error α) := by
  rintro _ ⟨⟩
  exact told

theorem map (tells : Tells outcome) (next : α → β) : Tells (outcome.map next) := by
  cases outcome with
  | error failure => exact .error (tells failure rfl)
  | ok result => exact .ok (next result)

theorem of_map {next : α → β} (tells : Tells (outcome.map next)) : Tells outcome := by
  rintro failure rfl
  exact tells failure rfl

theorem bind
    {next : α → Except Error β}
    (tells : Tells outcome)
    (goesOn : ∀ result, Tells (next result)) :
    Tells (outcome >>= next) := by
  cases outcome with
  | error failure => exact .error (tells failure rfl)
  | ok result => exact goesOn result

theorem require (argument what : String) : Tells (Store.require argument what) := by
  unfold Store.require
  split
  · exact .error (show Error.IsTold (.nilArgument what) by simp [Error.IsTold, Error.report,
      Error.isSecurity, Error.isNotFound, Error.isConflict, Error.isInvalid])
  · exact .ok ()

theorem found {missing : Error} (told : missing.IsTold) (record : Option α) :
    Tells (Store.found missing record) := by
  cases record with
  | none => exact .error told
  | some record => exact .ok record

theorem finds
    {view : String → Option α}
    {accepts : α → Prop}
    {missing : Error}
    (told : missing.IsTold)
    (finds : Store.Table.Finds view accepts missing outcome) :
    Tells outcome := by
  rcases finds with ⟨key, record, present, accepted, rfl⟩ | ⟨none, rfl⟩
  · exact .ok record
  · exact .error told

end Tells

namespace Store

/-! ## Failures on ledgers -/

namespace Ledger

variable {ledger after : Ledger} {backend : Backend} {occasion : Occasion} {error : Error}

/-- What saving an account can fail with. -/
theorem mem_of_saveAccount_eq_error
    {account : Account}
    (fails : (ledger.saveAccount backend occasion account).1 = .error error) :
    error ∈ [.nilArgument "email", .accountNotFound, .duplicateEmail] := by
  unfold saveAccount at fails
  split at fails
  case h_1 =>
    split at fails
    case h_1 =>
      cases fails
      decide
    case h_2 =>
      dsimp only at fails
      split at fails <;> cases fails
      decide
  case h_2 =>
    split at fails
    case h_1 =>
      cases fails
      decide
    case h_2 =>
      dsimp only at fails
      split at fails <;> cases fails
      decide

theorem mem_of_requireKey_eq_error {key : KeyPair} (fails : requireKey key = .error error) :
    error ∈
      [.nilArgument "account id", .nilArgument "public key", .nilArgument "private key"] := by
  unfold requireKey require at fails
  split_ifs at fails <;> cases fails <;> decide

/-- What saving a key pair can fail with. -/
theorem mem_of_saveKey_eq_error
    {now : Time.Instant}
    {key : KeyPair}
    (fails : (ledger.saveKey now key).1 = .error error) :
    error ∈
      [.nilArgument "account id", .nilArgument "public key", .nilArgument "private key",
        .accountNotFound, .keyAlreadyExists, .keyNotFound] := by
  unfold saveKey at fails
  split at fails
  case h_1 =>
    split at fails
    case h_1 refusal refused =>
      cases fails
      exact List.mem_append_left _ (mem_of_requireKey_eq_error refused)
    case h_2 =>
      split_ifs at fails <;> cases fails <;> decide
  case h_2 =>
    split at fails <;> cases fails
    decide

theorem tells_saveAccount (account : Account) :
    Tells (ledger.saveAccount backend occasion account).1 := by
  have told : ∀ cause ∈ [Error.nilArgument "email", .accountNotFound, .duplicateEmail],
      cause.IsTold := by
    decide
  exact fun error fails => told error (mem_of_saveAccount_eq_error fails)

theorem tells_saveKey (now : Time.Instant) (key : KeyPair) :
    Tells (ledger.saveKey now key).1 := by
  have told : ∀ cause ∈
      [Error.nilArgument "account id", .nilArgument "public key", .nilArgument "private key",
        .accountNotFound, .keyAlreadyExists, .keyNotFound],
      cause.IsTold := by
    decide
  exact fun error fails => told error (mem_of_saveKey_eq_error fails)

theorem tells_putToken (uid token : String) : Tells (ledger.putToken uid token).1 := by
  have required : Tells (requireToken uid token) :=
    (Tells.require _ _).bind fun _ => Tells.require _ _
  unfold putToken
  split
  case h_1 error refused => exact .error (required error refused)
  case h_2 => exact .ok ()

/-- A call on a ledger that fails does so with an error that is told. -/
theorem Performs.tells
    {call : Call}
    {outcome : Except Error Answer}
    (performs : ledger.Performs backend occasion call outcome after) :
    Tells outcome := by
  cases call with
  | dial dialing => exact performs.elim
  | close => exact performs.elim
  | loadAllAccounts =>
      obtain ⟨-, records, -, rfl⟩ := performs
      exact .ok _
  | loadAccount uid =>
      obtain ⟨-, rfl⟩ := performs
      exact (Tells.found (by decide) _).map _
  | accountByEmail email =>
      obtain ⟨-, result, finds, rfl⟩ := performs
      exact (Tells.finds (by decide) finds).map _
  | saveAccount account =>
      obtain ⟨rfl, -⟩ := Prod.mk.inj performs
      exact (tells_saveAccount account).map _
  | deleteAccount uid =>
      obtain ⟨rfl, -⟩ := Prod.mk.inj performs
      rw [deleteAccount]
      split
      case isTrue => exact .ok _
      case isFalse => exact .error (by decide)
  | existsAccount query =>
      obtain ⟨-, flag, -, rfl⟩ := performs
      exact .ok _
  | loadAllKeys =>
      obtain ⟨-, records, -, rfl⟩ := performs
      exact .ok _
  | loadKey kid =>
      obtain ⟨-, rfl⟩ := performs
      exact (Tells.found (by decide) _).map _
  | keyByAccount accountId =>
      obtain ⟨-, rfl⟩ := performs
      exact (Tells.found (by decide) _).map _
  | keyByPublic octets =>
      obtain ⟨-, result, finds, rfl⟩ := performs
      exact (Tells.finds (by decide) finds).map _
  | saveKey key =>
      obtain ⟨rfl, -⟩ := Prod.mk.inj performs
      exact (tells_saveKey occasion.now key).map _
  | deleteKey kid =>
      obtain ⟨rfl, -⟩ := Prod.mk.inj performs
      rw [deleteKey]
      split
      case isTrue => exact .ok _
      case isFalse => exact .error (by decide)
  | existsKey kid =>
      obtain ⟨-, rfl⟩ := performs
      exact .ok _
  | loadToken uid =>
      obtain ⟨-, rfl⟩ := performs
      exact (Tells.found (by decide) _).map _
  | saveToken uid token =>
      obtain ⟨rfl, -⟩ := Prod.mk.inj performs
      exact (tells_putToken uid token).map _
  | deleteToken uid =>
      obtain ⟨rfl, -⟩ := Prod.mk.inj performs
      rw [deleteToken]
      split
      case isTrue => exact .ok _
      case isFalse => exact .error (by decide)
  | existsToken uid =>
      obtain ⟨-, rfl⟩ := performs
      exact .ok _

end Ledger

/-! ## Failures of stores -/

variable {store after : Store} {uid : String}

/-- A call on the tables of an open store that fails does so with an error that is told. -/
theorem IsSound.tells
    (sound : store.IsSound)
    (isOpen : store.isOpen = true)
    (occasion : Occasion)
    {call : Call}
    (onTables : call.IsOnTables) :
    Tells (store.perform occasion call).1 := by
  obtain ⟨ledger, showing, ledgerSound⟩ := sound.exists_shows isOpen
  obtain ⟨next, performed⟩ := showing.perform ledgerSound occasion onTables
  exact performed.performs.tells

/-- A call on the tables of a store that fails leaves the store as it was. -/
theorem IsSound.eq_of_error
    (sound : store.IsSound)
    {occasion : Occasion}
    {call : Call}
    {error : Error}
    (onTables : call.IsOnTables)
    (fails : store.perform occasion call = (.error error, after)) :
    after = store := by
  have frame := sound.writesAt occasion onTables
  rw [fails] at frame
  cases isWrite : call.place? occasion with
  | none =>
      rw [isWrite] at frame
      exact frame
  | some place =>
      rw [isWrite] at frame
      exact frame

namespace IsSound

variable {occasion : Occasion} {error : Error}

theorem mem_of_saveAccount_eq_error
    {account : Account}
    (sound : store.IsSound)
    (fails : (store.saveAccount occasion account).1 = .error error) :
    error ∈ [.notConnected, .nilArgument "email", .accountNotFound, .duplicateEmail] := by
  cases isOpen : store.isOpen with
  | false =>
      rw [saveAccount, saveLentAccount, saved_withLent, run_write_of_closed isOpen] at fails
      cases fails
      decide
  | true =>
      obtain ⟨ledger, showing, ledgerSound⟩ := sound.exists_shows isOpen
      rw [(showing.saveAccount ledgerSound occasion account).outcome] at fails
      exact List.mem_cons_of_mem _ (Ledger.mem_of_saveAccount_eq_error fails)

theorem mem_of_saveKey_eq_error
    {key : KeyPair}
    (sound : store.IsSound)
    (fails : (store.saveKey occasion key).1 = .error error) :
    error ∈
      [.notConnected, .nilArgument "account id", .nilArgument "public key",
        .nilArgument "private key", .accountNotFound, .keyAlreadyExists, .keyNotFound] := by
  cases isOpen : store.isOpen with
  | false =>
      rw [saveKey, saveLentKey, saved_withLent, run_write_of_closed isOpen] at fails
      cases fails
      decide
  | true =>
      obtain ⟨ledger, showing, ledgerSound⟩ := sound.exists_shows isOpen
      rw [(showing.saveKey ledgerSound occasion key).outcome] at fails
      exact List.mem_cons_of_mem _ (Ledger.mem_of_saveKey_eq_error fails)

theorem mem_of_keyByAccount_eq_error
    (sound : store.IsSound)
    (fails : store.keyByAccount uid = .error error) :
    error ∈ [.notConnected, .keyNotFound] := by
  cases isOpen : store.isOpen with
  | false =>
      rw [keyByAccount, read_of_closed isOpen] at fails
      cases fails
      decide
  | true =>
      obtain ⟨ledger, showing, ledgerSound⟩ := sound.exists_shows isOpen
      rw [showing.keyByAccount_eq ledgerSound] at fails
      cases held : ledger.keys uid <;> rw [held] at fails <;> cases fails
      decide

theorem mem_of_loadToken_eq_error
    (sound : store.IsSound)
    (fails : store.loadToken uid = .error error) :
    error ∈ [.notConnected, .tokenNotFound] := by
  cases isOpen : store.isOpen with
  | false =>
      rw [loadToken, read_of_closed isOpen] at fails
      cases fails
      decide
  | true =>
      obtain ⟨ledger, showing, -⟩ := sound.exists_shows isOpen
      rw [showing.loadToken_eq] at fails
      cases held : ledger.tokens uid <;> rw [held] at fails <;> cases fails
      decide

/-- An account that is stored bears its uid. -/
theorem uid_of_storedAccount?
    {account : Account}
    (sound : store.IsSound)
    (stored : store.storedAccount? uid = some (.ok account)) :
    account.uid = some uid := by
  obtain ⟨ledger, showing, ledgerSound⟩ := sound.exists_shows (isOpen_of_storedAccount? stored)
  exact (ledgerSound.accounts (showing.storedAccount?_eq_some_iff.mp stored)).uid_eq

end IsSound

/-! ## What a change in one place leaves alone -/

namespace SameBut

variable {place : Place}

theorem isOpen (sameBut : store.SameBut place after) : after.isOpen = true := by
  cases sameBut with
  | memory tables => rfl
  | database beforeContent afterContent files tables =>
      exact Option.isSome_iff_exists.mpr ⟨_, afterContent⟩

/-- Accounts stay as they are in a change that is not about them. -/
theorem storedAccount?_eq
    (sameBut : store.SameBut place after)
    (differs : place ≠ .account uid) :
    after.storedAccount? uid = store.storedAccount? uid := by
  have alike {AccountRow KeyRow TokenRow : Type}
      {first second : Tables AccountRow KeyRow TokenRow}
      (tables : first.SameBut place second) :
      second.accounts.get? uid = first.accounts.get? uid := by
    cases place with
    | account other => exact tables.1 uid fun same => differs (congrArg Place.account same.symm)
    | key kid => rw [tables.1]
    | token other => rw [tables.1]
  cases sameBut with
  | memory tables => simp only [storedAccount?, Option.bind_some, alike tables]
  | database beforeContent afterContent files tables =>
      simp only [storedAccount?, DatabaseStore.database?_mk, beforeContent, afterContent,
        Option.bind_some, alike tables]

/-- Key pairs stay as they are in a change that is not about them. -/
theorem storedKey?_eq
    {kid : String}
    (sameBut : store.SameBut place after)
    (differs : place ≠ .key kid) :
    after.storedKey? kid = store.storedKey? kid := by
  have alike {AccountRow KeyRow TokenRow : Type}
      {first second : Tables AccountRow KeyRow TokenRow}
      (tables : first.SameBut place second) :
      second.keys.get? kid = first.keys.get? kid := by
    cases place with
    | account uid => rw [tables.2.1]
    | key other => exact tables.2.1 kid fun same => differs (congrArg Place.key same.symm)
    | token uid => rw [tables.2.1]
  cases sameBut with
  | memory tables => simp only [storedKey?, Option.bind_some, alike tables]
  | database beforeContent afterContent files tables =>
      simp only [storedKey?, DatabaseStore.database?_mk, beforeContent, afterContent,
        Option.bind_some, alike tables]

/-- The file that is open stays open in a change of the tables. -/
theorem withFile_eq_self
    {path : String}
    (sameBut : store.SameBut place after)
    (inFile : store.withFile path = store) :
    after.withFile path = after := by
  cases sameBut with
  | memory tables => rfl
  | database beforeContent afterContent files tables =>
      have opened := congrArg DatabaseStore.opened (Store.database.inj inFile)
      exact congrArg (Store.database ⟨·, _⟩) opened

end SameBut

/-- A call on the tables leaves a store as it was, or changes it where the call writes. -/
theorem IsSound.eq_or_sameBut
    (sound : store.IsSound)
    (occasion : Occasion)
    {call : Call}
    (onTables : call.IsOnTables) :
    (store.perform occasion call).2 = store ∨
      ∃ place, call.place? occasion = some place ∧
        store.SameBut place (store.perform occasion call).2 := by
  have frame := sound.writesAt occasion onTables
  cases isWrite : call.place? occasion with
  | none =>
      rw [isWrite] at frame
      exact .inl frame
  | some place =>
      rw [isWrite] at frame
      generalize store.perform occasion call = result at frame
      obtain ⟨_ | _, after⟩ := result
      · exact .inl frame
      · exact .inr ⟨place, rfl, frame⟩

/-- A store that is open stays open in all calls but those about the connection. -/
theorem IsSound.isOpen_perform
    (sound : store.IsSound)
    (isOpen : store.isOpen = true)
    (occasion : Occasion)
    {call : Call}
    (onTables : call.IsOnTables) :
    (store.perform occasion call).2.isOpen = true := by
  rcases sound.eq_or_sameBut occasion onTables with unchanged | ⟨place, -, sameBut⟩
  · rw [unchanged]
    exact isOpen
  · exact sameBut.isOpen

/-- An account stays as it is in a call that writes elsewhere, or not at all. -/
theorem IsSound.storedAccount?_perform
    (sound : store.IsSound)
    (occasion : Occasion)
    {call : Call}
    (onTables : call.IsOnTables)
    (elsewhere : call.place? occasion ≠ some (.account uid)) :
    (store.perform occasion call).2.storedAccount? uid = store.storedAccount? uid := by
  rcases sound.eq_or_sameBut occasion onTables with unchanged | ⟨place, isPlace, sameBut⟩
  · rw [unchanged]
  · refine sameBut.storedAccount?_eq ?_
    rintro rfl
    exact elsewhere isPlace

/-- An account that is stored after a call was stored before, unless the call saves accounts. -/
theorem IsSound.storedAccount?_of_unsaved
    (sound : store.IsSound)
    (occasion : Occasion)
    {call : Call}
    (onTables : call.IsOnTables)
    (unsaved : ∀ account, call ≠ .saveAccount account)
    {reading : Except Error Account}
    (stored : (store.perform occasion call).2.storedAccount? uid = some reading) :
    store.storedAccount? uid = some reading := by
  cases isOpen : store.isOpen with
  | false =>
      rw [(perform_of_closed isOpen occasion onTables).1] at stored
      exact stored
  | true =>
      obtain ⟨ledger, showing, ledgerSound⟩ := sound.exists_shows isOpen
      rcases showing.storedAccount?_of_perform ledgerSound onTables stored with
        before | ⟨account, record, isSave, -⟩
      · exact before
      · exact (unsaved account isSave).elim

/-! ## Saved accounts -/

/-- What a store does that saves a record of an account under a uid. -/
structure SavesAccount
    (store : Store)
    (occasion : Occasion)
    (account : Account)
    (uid : String)
    (record : Account)
    (after : Store)
    (ledger : Ledger) :
    Prop where
  showing : store.Shows ledger
  sound : ledger.Sound
  saves : ledger.SavesAccount occasion account uid record
  saved : store.saveAccount occasion account = (.ok record, after)
  shows : after.Shows (ledger.setAccount uid (some (store.backend.kept record)))
  sameBut : store.SameBut (.account uid) after

/-- An account is saved under a uid, or nothing is changed. -/
theorem IsSound.saveAccount_cases
    (sound : store.IsSound)
    (occasion : Occasion)
    (account : Account) :
    (∃ error, store.saveAccount occasion account = (.error error, store)) ∨
      ∃ uid record after ledger, store.SavesAccount occasion account uid record after ledger := by
  have onTables : (Call.saveAccount account).IsOnTables := trivial
  rcases saved : store.saveAccount occasion account with ⟨error | record, after⟩
  · have performs : store.perform occasion (.saveAccount account) = (.error error, after) := by
      rw [Store.perform, saved]
      rfl
    obtain rfl := sound.eq_of_error onTables performs
    exact .inl ⟨error, rfl⟩
  · cases isOpen : store.isOpen with
    | false =>
        rw [saveAccount, saveLentAccount, saved_withLent, run_write_of_closed isOpen] at saved
        cases saved
    | true =>
        obtain ⟨ledger, showing, ledgerSound⟩ := sound.exists_shows isOpen
        have wrote := showing.saveAccount ledgerSound occasion account
        rw [saved] at wrote
        have outcome := wrote.outcome
        have shows := wrote.shows
        have frame := wrote.frame
        rcases ledger.saveAccount_cases store.backend occasion account with
          ⟨error, refused⟩ | ⟨uid, _, saves, kept⟩
        · rw [refused] at outcome
          cases outcome
        · rw [kept] at outcome shows
          obtain rfl := Except.ok.inj outcome
          rw [saves.getD_uid] at frame
          exact .inr
            ⟨uid, record, after, ledger, showing, ledgerSound, saves, saved, shows, frame⟩

namespace SavesAccount

variable {occasion : Occasion} {account record : Account} {ledger : Ledger}

/-- A record that is saved bears the uid that it is saved under. -/
theorem uid_eq (saves : store.SavesAccount occasion account uid record after ledger) :
    record.uid = some uid :=
  saves.saves.uid_eq saves.sound

theorem perform_eq (saves : store.SavesAccount occasion account uid record after ledger) :
    store.perform occasion (.saveAccount account) = (.ok (.account record), after) := by
  rw [Store.perform, saves.saved]
  rfl

theorem storedAccount?_eq (saves : store.SavesAccount occasion account uid record after ledger) :
    after.storedAccount? uid = some (.ok (store.backend.kept record)) := by
  rw [saves.shows.storedAccount?_eq, Ledger.accounts_setAccount, if_pos rfl]
  rfl

theorem loadAccount_eq (saves : store.SavesAccount occasion account uid record after ledger) :
    after.loadAccount uid = .ok (store.backend.kept record) := by
  rw [saves.shows.loadAccount_eq, Ledger.accounts_setAccount, if_pos rfl]
  rfl

/-- What is kept of a record that changes a stored one is the whole of it. -/
theorem kept_eq
    (saves : store.SavesAccount occasion account uid record after ledger)
    (named : account.uid ≠ none) :
    store.backend.kept record = record := by
  cases saves.saves with
  | added isNew => exact (named isNew).elim
  | changed _ present =>
      exact Backend.kept_prepareUpdate (saves.showing.kept_eq present) account occasion.now

end SavesAccount

/-! ## Saved key pairs -/

/-- What a store does that saves a record of a key pair under a key id. -/
structure SavesKey
    (store : Store)
    (occasion : Occasion)
    (key : KeyPair)
    (kid : String)
    (record : KeyPair)
    (after : Store)
    (ledger : Ledger) :
    Prop where
  showing : store.Shows ledger
  sound : ledger.Sound
  saves : ledger.SavesKey occasion key kid record
  saved : store.saveKey occasion key = (.ok record, after)
  shows : after.Shows (ledger.setKey kid (some record))
  sameBut : store.SameBut (.key kid) after

/-- A key pair is saved under a key id, or nothing is changed. -/
theorem IsSound.saveKey_cases
    (sound : store.IsSound)
    (occasion : Occasion)
    (key : KeyPair) :
    (∃ error, store.saveKey occasion key = (.error error, store)) ∨
      ∃ kid record after ledger, store.SavesKey occasion key kid record after ledger := by
  have onTables : (Call.saveKey key).IsOnTables := trivial
  rcases saved : store.saveKey occasion key with ⟨error | record, after⟩
  · have performs : store.perform occasion (.saveKey key) = (.error error, after) := by
      rw [Store.perform, saved]
      rfl
    obtain rfl := sound.eq_of_error onTables performs
    exact .inl ⟨error, rfl⟩
  · cases isOpen : store.isOpen with
    | false =>
        rw [saveKey, saveLentKey, saved_withLent, run_write_of_closed isOpen] at saved
        cases saved
    | true =>
        obtain ⟨ledger, showing, ledgerSound⟩ := sound.exists_shows isOpen
        have wrote := showing.saveKey ledgerSound occasion key
        rw [saved] at wrote
        have outcome := wrote.outcome
        have shows := wrote.shows
        have frame := wrote.frame
        rcases ledger.saveKey_cases occasion key with ⟨error, refused⟩ | ⟨kid, _, saves, kept⟩
        · rw [refused] at outcome
          cases outcome
        · rw [kept] at outcome shows
          obtain rfl := Except.ok.inj outcome
          rw [saves.getD_kid] at frame
          exact .inr
            ⟨kid, record, after, ledger, showing, ledgerSound, saves, saved, shows, frame⟩

namespace SavesKey

variable {occasion : Occasion} {key record : KeyPair} {kid : String} {ledger : Ledger}

/-- A record that is saved bears the key id that it is saved under, also as its account. -/
theorem kid_eq (saves : store.SavesKey occasion key kid record after ledger) :
    record.kid = some kid ∧ record.accountId = kid :=
  saves.saves.kid_eq saves.sound

theorem perform_eq (saves : store.SavesKey occasion key kid record after ledger) :
    store.perform occasion (.saveKey key) = (.ok (.key record), after) := by
  rw [Store.perform, saves.saved]
  rfl

theorem storedKey?_eq (saves : store.SavesKey occasion key kid record after ledger) :
    after.storedKey? kid = some (.ok record) := by
  rw [saves.shows.storedKey?_eq, Ledger.keys_setKey, if_pos rfl]
  rfl

end SavesKey

end Store

end Credential
