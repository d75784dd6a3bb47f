import Credential.Proofs.Store.Showing
import Credential.Proofs.Store.Sound

/-!
# The store in memory follows the ledger

Rows of the store in memory are the records themselves.
-/

namespace Credential.Store

open Credential.Time (Instant)

/-- Rows in memory are the records that they hold. -/
def memoryHolding : Holding Account KeyPair String :=
  ⟨Eq, Eq, Eq⟩

namespace MemoryTables

variable {Record : Type} {tables : MemoryTables} {ledger : Ledger}

/-! ## Accounts -/

/-- The check of an email looks for a live account other than the one that is left out. -/
theorem emailTaken_iff
    (showing : tables.Shows memoryHolding ledger)
    (sound : ledger.Sound)
    (email : String)
    (except : Option String) :
    tables.emailTaken email except = true ↔ ledger.EmailTaken email except := by
  have agrees : ∀ row record : Account, memoryHolding.account row record →
      ((row.isDeleted = false && row.email? = some email && row.uid ≠ except) = true ↔
        record.isDeleted = false ∧ record.email? = some email ∧ record.uid ≠ except) := by
    rintro row record ⟨⟩
    simp [and_assoc]
  rw [emailTaken, showing.accounts.any_rows_iff agrees]
  constructor
  · rintro ⟨uid, account, present, live, hasEmail, differs⟩
    rw [(sound.accounts present).uid_eq] at differs
    exact ⟨uid, account, present, live, hasEmail, differs⟩
  · rintro ⟨uid, account, present, live, hasEmail, differs⟩
    rw [← (sound.accounts present).uid_eq] at differs
    exact ⟨uid, account, present, live, hasEmail, differs⟩

/-- A new record is made unless its email is taken; nothing is written yet. -/
theorem run_newAccount
    {account : Account}
    {email : String}
    (hasEmail : account.email? = some email)
    (occasion : Occasion)
    (tables : MemoryTables) :
    (newAccount occasion account).run tables =
      (if tables.emailTaken email none then .error .duplicateEmail
        else .ok (account.prepareInsert occasion.uid occasion.now), tables) := by
  rw [newAccount, hasEmail]
  dsimp only
  rw [Step.run_look_bind]
  split <;> rfl

/-- Whether a changed record has an email that is taken. -/
def changeRefused (tables : MemoryTables) (uid : String) (record : Account) : Bool :=
  match record.isDeleted, record.email? with
  | false, some email => tables.emailTaken email (some uid)
  | _, _ => false

/-- A changed record is refused as the ledger has it. -/
theorem changeRefused_iff
    (showing : tables.Shows memoryHolding ledger)
    (sound : ledger.Sound)
    (uid : String)
    (record : Account) :
    tables.changeRefused uid record = true ↔ ledger.RefusesChange uid record := by
  rw [changeRefused, Ledger.RefusesChange]
  cases record.isDeleted with
  | true => simp
  | false =>
      cases record.email? with
      | none => simp
      | some email => simp [emailTaken_iff showing sound]

/-- A changed record is made of the stored one unless it is refused; nothing is written yet. -/
theorem run_changedAccount
    {tables : MemoryTables}
    {uid : String}
    {stored : Account}
    (present : tables.accounts.get? uid = some stored)
    (occasion : Occasion)
    (account : Account) :
    (changedAccount occasion uid account).run tables =
      (if tables.changeRefused uid (account.prepareUpdate stored occasion.now) then
          .error .duplicateEmail
        else .ok (account.prepareUpdate stored occasion.now), tables) := by
  rw [changedAccount, Step.run_ask_bind, present]
  dsimp only [found]
  generalize account.prepareUpdate stored occasion.now = record
  rw [changeRefused]
  cases record.isDeleted with
  | true => rfl
  | false =>
      cases record.email? with
      | none => rfl
      | some email =>
          dsimp only
          rw [Step.run_look_bind]
          split <;> rfl

/-- Storing a record with a uid puts it under that uid. -/
theorem run_storeAccount
    {record : Account}
    {uid : String}
    (hasUid : record.uid = some uid)
    (tables : MemoryTables) :
    (storeAccount record).run tables =
      (.ok record, { tables with accounts := tables.accounts.insert uid record }) := by
  rw [storeAccount, hasUid]
  rfl

/-- A changed account is put in the place of the stored one, unless it is refused. -/
theorem run_saveAccount_of_named
    (showing : tables.Shows memoryHolding ledger)
    (sound : ledger.Sound)
    {uid : String}
    {stored : Account}
    (present : ledger.accounts uid = some stored)
    (occasion : Occasion)
    {account record : Account}
    (named : account.uid = some uid)
    (prepared : account.prepareUpdate stored occasion.now = record)
    [Decidable (ledger.RefusesChange uid record)] :
    (saveAccount occasion account).run tables =
      if ledger.RefusesChange uid record then
        (.error .duplicateEmail, tables)
      else
        (.ok record, { tables with accounts := tables.accounts.insert uid record }) := by
  obtain ⟨row, found, ⟨⟩⟩ := showing.accounts.of_view present
  have made := run_changedAccount found occasion account
  rw [prepared] at made
  rw [saveAccount, named]
  dsimp only
  by_cases refused : ledger.RefusesChange uid record
  · rw [if_pos ((changeRefused_iff showing sound uid record).mpr refused)] at made
    rw [if_pos refused, Step.run_bind_of_error made]
  · rw [if_neg (mt (changeRefused_iff showing sound uid record).mp refused)] at made
    have hasUid : record.uid = some uid := by
      rw [← prepared]
      exact (sound.accounts present).uid_eq
    rw [if_neg refused, Step.run_bind_of_ok made, run_storeAccount hasUid]

/-- Saving an account does what the operation on ledgers does. -/
theorem saveAccount_follows
    (sound : ledger.Sound)
    (occasion : Occasion)
    (account : Account) :
    (saveAccount occasion account).Follows memoryHolding
      (.account (account.uid.getD occasion.uid)) ledger
      (ledger.saveAccount .memory occasion account) := by
  intro tables showing
  rw [saveAccount, Ledger.saveAccount]
  cases given : account.uid with
  | none =>
      dsimp only
      cases hasEmail : account.email? with
      | none =>
          rw [newAccount, hasEmail, Step.run_fail_bind]
          exact ⟨rfl, showing, rfl⟩
      | some email =>
          have made := run_newAccount hasEmail occasion tables
          dsimp only
          by_cases taken :
            ledger.RefusesNew .memory occasion.uid email
              (account.prepareInsert occasion.uid occasion.now)
          · rw [if_pos ((emailTaken_iff showing sound email none).mpr taken)] at made
            rw [if_pos taken, Step.run_bind_of_error made]
            exact ⟨rfl, showing, rfl⟩
          · rw [if_neg (mt (emailTaken_iff showing sound email none).mp taken)] at made
            rw [if_neg taken, Step.run_bind_of_ok made, run_storeAccount rfl]
            exact ⟨rfl, showing.putAccount occasion.uid rfl,
              tables.sameBut_putAccount occasion.uid _⟩
  | some uid =>
      dsimp only
      cases present : ledger.accounts uid with
      | none =>
          have absent := showing.accounts.get?_eq_none present
          have missing : (changedAccount occasion uid account).run tables =
              (.error .accountNotFound, tables) := by
            rw [changedAccount, Step.run_ask_bind, absent]
            rfl
          rw [Step.run_bind_of_error missing]
          exact ⟨rfl, showing, rfl⟩
      | some stored =>
          classical
          have changing := run_saveAccount_of_named showing sound present occasion given rfl
          rw [saveAccount, given] at changing
          dsimp only at changing ⊢
          rw [changing]
          by_cases refused : ledger.RefusesChange uid (account.prepareUpdate stored occasion.now)
          · rw [if_pos refused, if_pos refused]
            exact ⟨rfl, showing, rfl⟩
          · rw [if_neg refused, if_neg refused]
            exact ⟨rfl, showing.putAccount uid rfl, tables.sameBut_putAccount uid _⟩

/-! ## Key pairs -/

/-- An account has a key pair if there is one under its uid. -/
theorem any_accountId_eq
    (showing : tables.Shows memoryHolding ledger)
    (sound : ledger.Sound)
    (accountId : String) :
    tables.keys.rows.any (·.accountId = accountId) = (ledger.keys accountId).isSome := by
  have agrees : ∀ row record : KeyPair, memoryHolding.key row record →
      (decide (row.accountId = accountId) = true ↔ record.accountId = accountId) := by
    rintro row record ⟨⟩
    exact decide_eq_true_iff
  rw [Bool.eq_iff_iff, showing.keys.any_rows_iff agrees]
  exact sound.exists_key_iff accountId

/-- Storing a key pair with a key id puts it under that key id. -/
theorem run_storeKey
    {record : KeyPair}
    {kid : String}
    (hasKid : record.kid = some kid)
    (tables : MemoryTables) :
    (storeKey record).run tables =
      (.ok record, { tables with keys := tables.keys.insert kid record }) := by
  rw [storeKey, hasKid]
  rfl

/-- A new key pair is made if it is complete and its account has none; nothing is written yet. -/
theorem run_newKey
    (showing : tables.Shows memoryHolding ledger)
    (sound : ledger.Sound)
    (now : Instant)
    {key : KeyPair}
    (accepted : Ledger.requireKey key = .ok ()) :
    (newKey now key).run tables =
      (if (ledger.accounts key.accountId).isSome = false then .error .accountNotFound
        else if (ledger.keys key.accountId).isSome then .error .keyAlreadyExists
        else .ok (key.prepareInsert now), tables) := by
  rw [newKey, Step.run_requireKey, accepted]
  dsimp only
  rw [Step.run_look_bind, Step.run_look_bind, showing.accounts.contains_eq,
    any_accountId_eq showing sound]
  split
  case isTrue _ => rfl
  case isFalse _ => split <;> rfl

/-- A changed key pair is put in the place of the stored one. -/
theorem run_saveKey_of_named
    (showing : tables.Shows memoryHolding ledger)
    (sound : ledger.Sound)
    {kid : String}
    {stored : KeyPair}
    (present : ledger.keys kid = some stored)
    (now : Instant)
    {key record : KeyPair}
    (named : key.kid = some kid)
    (prepared : key.prepareUpdate stored now = record) :
    (saveKey now key).run tables =
      (.ok record, { tables with keys := tables.keys.insert kid record }) := by
  obtain ⟨row, found, ⟨⟩⟩ := showing.keys.of_view present
  have made : (changedKey now kid key).run tables = (.ok record, tables) := by
    rw [changedKey, Step.run_ask_bind, found, ← prepared]
    rfl
  have hasKid : record.kid = some kid := by
    rw [← prepared]
    exact (sound.keys present).kid_eq
  rw [saveKey, named]
  dsimp only
  rw [Step.run_bind_of_ok made, run_storeKey hasKid]

/-- Saving a key pair does what the operation on ledgers does. -/
theorem saveKey_follows
    (sound : ledger.Sound)
    (now : Instant)
    (key : KeyPair) :
    (saveKey now key).Follows memoryHolding (.key (key.kid.getD key.accountId)) ledger
      (ledger.saveKey now key) := by
  intro tables showing
  rw [saveKey, Ledger.saveKey]
  cases given : key.kid with
  | none =>
      dsimp only
      cases required : Ledger.requireKey key with
      | error error =>
          have refused : (newKey now key).run tables = (.error error, tables) := by
            rw [newKey, Step.run_requireKey, required]
          rw [Step.run_bind_of_error refused]
          exact ⟨rfl, showing, rfl⟩
      | ok _ =>
          have made := run_newKey showing sound now required
          dsimp only
          cases owner : ledger.accounts key.accountId with
          | none =>
              rw [owner] at made
              rw [Step.run_bind_of_error made]
              exact ⟨rfl, showing, rfl⟩
          | some account =>
              cases present : ledger.keys key.accountId with
              | some stored =>
                  rw [owner, present] at made
                  rw [Step.run_bind_of_error made]
                  exact ⟨rfl, showing, rfl⟩
              | none =>
                  rw [owner, present] at made
                  rw [Step.run_bind_of_ok made, run_storeKey rfl]
                  exact ⟨rfl, showing.putKey key.accountId rfl,
                    tables.sameBut_putKey key.accountId _⟩
  | some kid =>
      dsimp only
      cases present : ledger.keys kid with
      | none =>
          have absent := showing.keys.get?_eq_none present
          have missing : (changedKey now kid key).run tables = (.error .keyNotFound, tables) := by
            rw [changedKey, Step.run_ask_bind, absent]
            rfl
          rw [Step.run_bind_of_error missing]
          exact ⟨rfl, showing, rfl⟩
      | some stored =>
          have changing := run_saveKey_of_named showing sound present now given rfl
          rw [saveKey, given] at changing
          dsimp only at changing
          rw [changing]
          exact ⟨rfl, showing.putKey kid rfl, tables.sameBut_putKey kid _⟩

/-! ## Reading -/

/-- A table of records shows what it has. -/
theorem get?_of_shows
    {table : Table Record}
    {view : String → Option Record}
    (showing : table.Shows Eq view)
    (key : String) :
    table.get? key = view key := by
  cases present : view key with
  | none => exact showing.get?_eq_none present
  | some record =>
      obtain ⟨row, found, rfl⟩ := showing.of_view present
      exact found

/-- Times of creation can always be compared. -/
theorem createdInOrder_total (first second : Option Instant) :
    createdInOrder first second || createdInOrder second first := by
  cases first with
  | none => rfl
  | some first =>
      cases second with
      | none => rfl
      | some second =>
          simp only [createdInOrder, Instant.notAfter, Bool.or_eq_true, Bool.and_eq_true,
            decide_eq_true_eq]
          omega

/-- The order of creation goes on. -/
theorem createdInOrder_trans
    (first second third : Option Instant)
    (firstOrdered : createdInOrder first second = true)
    (secondOrdered : createdInOrder second third = true) :
    createdInOrder first third = true := by
  cases first with
  | none => rfl
  | some first =>
      cases second with
      | none => cases firstOrdered
      | some second =>
          cases third with
          | none => cases secondOrdered
          | some third =>
              simp only [createdInOrder, Instant.notAfter, Bool.or_eq_true, Bool.and_eq_true,
                decide_eq_true_eq] at *
              omega

/-- Records that are sorted by their creation are listed in that order. -/
theorem listsByCreation_mergeSort
    {table : Table Record}
    {view : String → Option Record}
    (showing : table.Shows Eq view)
    (created : Record → Option Instant) :
    Ledger.ListsByCreation .memory created view
      (table.rows.mergeSort fun first second =>
        createdInOrder (created first) (created second)) := by
  obtain ⟨records, related, lists⟩ :=
    showing.lists fun first second => createdInOrder (created first) (created second)
  rw [List.forall₂_eq_eq_eq] at related
  rw [← related] at lists
  refine ⟨lists, fun _ => ?_⟩
  exact List.pairwise_mergeSort
    (fun first second third =>
      createdInOrder_trans (created first) (created second) (created third))
    (fun first second => createdInOrder_total (created first) (created second)) table.rows

/-- Looking for a record that passes a test finds one of the view. -/
theorem finds_found
    {table : Table Record}
    {view : String → Option Record}
    (showing : table.Shows Eq view)
    {test : Record → Bool}
    {accepts : Record → Prop}
    (agrees : ∀ record, test record = true ↔ accepts record)
    (missing : Error) :
    Table.Finds view accepts missing (found missing (table.rows.find? test)) := by
  have reads : ∀ row record : Record, row = record →
      Except.ok row = (.ok record : Except Error _) :=
    fun _ _ => congrArg Except.ok
  have tests : ∀ row record, row = record → (test row = true ↔ accepts record) := by
    rintro row record rfl
    exact agrees row
  have finds := showing.finds reads tests missing
  cases result : table.rows.find? test with
  | none =>
      rw [result] at finds
      exact finds
  | some record =>
      rw [result] at finds
      exact finds

/-- The live account of an email is found. -/
theorem finds_accountByEmail?
    (showing : tables.Shows memoryHolding ledger)
    (email : String) :
    Table.Finds ledger.accounts (Account.IsLiveWith email) .emailNotFound
      (found .emailNotFound (tables.accountByEmail? email)) := by
  apply finds_found showing.accounts
  intro record
  simp [Account.IsLiveWith]

/-- A live account has a text if the ledger has one. -/
theorem existsAccount_iff
    (showing : tables.Shows memoryHolding ledger)
    (query : String) :
    tables.existsAccount query = true ↔
      ∃ uid account, ledger.accounts uid = some account ∧ account.IsLiveFor query := by
  have agrees : ∀ row record : Account, memoryHolding.account row record →
      ((row.isDeleted = false &&
          (row.uid = some query || row.email? = some query || row.name.value? = some query)) =
            true ↔
        record.IsLiveFor query) := by
    rintro row record ⟨⟩
    simp [Account.IsLiveFor, or_assoc]
  exact showing.accounts.any_rows_iff agrees

/-- The key pair of an account is the one under its uid. -/
theorem found_keyByAccount?
    (showing : tables.Shows memoryHolding ledger)
    (sound : ledger.Sound)
    (accountId : String) :
    found .keyNotFound (tables.keyByAccount? accountId) =
      found .keyNotFound (ledger.keys accountId) := by
  apply sound.eq_found_of_finds
  apply finds_found showing.keys
  exact fun record => decide_eq_true_iff

/-- A key pair whose public half is written by some octets is found. -/
theorem finds_keyByPublic?
    (showing : tables.Shows memoryHolding ledger)
    (octets : Text.Octets) :
    Table.Finds ledger.keys (fun key => Text.Utf8.encode key.pubKey = octets) .keyNotFound
      (found .keyNotFound (tables.keyByPublic? octets)) := by
  apply finds_found showing.keys
  exact fun record => decide_eq_true_iff

end MemoryTables

end Credential.Store
