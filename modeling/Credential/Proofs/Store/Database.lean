import Credential.Proofs.Store.Showing
import Credential.Proofs.Store.Sound
import Credential.Proofs.Text.Utf8
import Credential.Proofs.Time.Order

/-!
# The store in a database follows the ledger

A row of a database holds the record that it reads as.  Times are texts; the one
of a record's creation is the text that the time is written as, so that sorting
by it can be compared with sorting by time.
-/

namespace Credential.Store

open Credential.Time (Instant)

/-- A time that has been written into a column is read back. -/
@[simp] theorem columnInstant_columnText (instant : Instant) :
    columnInstant (columnText instant) = .ok instant := by
  rw [columnInstant, columnText, Instant.read?_render]

/-! ## Rows -/

/-- What is made of the two times of a row is there if both can be read. -/
theorem bind_columnInstant_eq_ok_iff
    {Record : Type}
    {created updated : String}
    {record : Record}
    (make : Instant → Instant → Record) :
    (do
        let created ← columnInstant created
        let updated ← columnInstant updated
        return make created updated) = Except.ok record ↔
      ∃ first second,
        columnInstant created = .ok first ∧ columnInstant updated = .ok second ∧
          record = make first second := by
  cases columnInstant created with
  | error error => simp [bind, Except.bind]
  | ok first =>
      cases columnInstant updated with
      | error error => simp [bind, Except.bind]
      | ok second => simp [bind, Except.bind, pure, Except.pure, eq_comm]

/-- Whether a row reads as an account, and has the time of creation as it is written. -/
structure AccountRow.Holds (row : AccountRow) (account : Account) : Prop where
  reads : row.toAccount = .ok account
  written : ∀ instant ∈ account.created, row.created = columnText instant

/-- Whether a row reads as a key pair, and has the time of creation as it is written. -/
structure KeyRow.Holds (row : KeyRow) (key : KeyPair) : Prop where
  reads : row.toKey = .ok key
  written : ∀ instant ∈ key.created, row.created = columnText instant

/-- Rows of a database hold the records that they read as. -/
def databaseHolding : Holding AccountRow KeyRow TokenRow :=
  ⟨AccountRow.Holds, KeyRow.Holds, fun row token => row.token = token⟩

namespace AccountRow

/-- A row reads as its columns, with the times of two of them. -/
theorem toAccount_eq_ok_iff
    {row : AccountRow}
    {account : Account} :
    row.toAccount = .ok account ↔
      ∃ created updated,
        columnInstant row.created = .ok created ∧ columnInstant row.updated = .ok updated ∧
          account =
            { uid := some row.uid
              email := .ofOption row.email
              name := .ofOption row.name
              password := .ofOption row.password
              active := .ofOption row.active
              created := some created
              updated := some updated
              deleted := .ofOption row.deleted } := by
  rw [toAccount]
  exact bind_columnInstant_eq_ok_iff _

namespace Holds

variable {row : AccountRow} {account : Account}

/-- A row is under the uid of its account. -/
theorem uid_eq (held : row.Holds account) : account.uid = some row.uid := by
  obtain ⟨created, updated, _, _, rfl⟩ := Iff.mp toAccount_eq_ok_iff held.reads
  rfl

/-- A row is live if its account is. -/
theorem isLive_iff (held : row.Holds account) :
    row.isLive = true ↔ account.isDeleted = false := by
  obtain ⟨created, updated, _, _, rfl⟩ := Iff.mp toAccount_eq_ok_iff held.reads
  rw [Account.isDeleted_eq_false_iff, Field.value?_ofOption, isLive]
  exact decide_eq_true_iff

/-- A row has the email of its account. -/
theorem email_eq (held : row.Holds account) : account.email? = row.email := by
  obtain ⟨created, updated, _, _, rfl⟩ := Iff.mp toAccount_eq_ok_iff held.reads
  exact Field.value?_ofOption row.email

/-- A row has the name of its account. -/
theorem name_eq (held : row.Holds account) : account.name.value? = row.name := by
  obtain ⟨created, updated, _, _, rfl⟩ := Iff.mp toAccount_eq_ok_iff held.reads
  exact Field.value?_ofOption row.name

/-- A row with another time of change holds the account with that time. -/
theorem touch
    (held : row.Holds account)
    (now : Instant) :
    Holds { row with updated := columnText now } { account with updated := some now } where
  reads := by
    obtain ⟨created, updated, createdReads, _, rfl⟩ := Iff.mp toAccount_eq_ok_iff held.reads
    exact Iff.mpr toAccount_eq_ok_iff
      ⟨created, now, createdReads, columnInstant_columnText now, rfl⟩
  written := held.written

end Holds

@[simp] theorem uid_ofAccount (account : Account) (uid created updated : String) :
    (ofAccount account uid created updated).uid = uid :=
  rfl

/-- The row that is made of an account holds it, with absent fields cleared. -/
theorem ofAccount_holds
    {record : Account}
    {uid createdText : String}
    {created now : Instant}
    (hasUid : record.uid = some uid)
    (hasCreated : record.created = some created)
    (hasUpdated : record.updated = some now)
    (written : createdText = columnText created) :
    (ofAccount record uid createdText (columnText now)).Holds record.cleared where
  reads := by
    rw [written]
    refine Iff.mpr toAccount_eq_ok_iff
      ⟨created, now, columnInstant_columnText created, columnInstant_columnText now, ?_⟩
    rw [Account.cleared, hasUid, hasCreated, hasUpdated]
    rfl
  written := by
    intro instant member
    rw [Account.created_cleared, hasCreated, Option.mem_some_iff] at member
    rw [← member]
    exact written

end AccountRow

namespace KeyRow

/-- A row reads as its columns, with the times of two of them. -/
theorem toKey_eq_ok_iff
    {row : KeyRow}
    {key : KeyPair} :
    row.toKey = .ok key ↔
      ∃ created updated,
        columnInstant row.created = .ok created ∧ columnInstant row.updated = .ok updated ∧
          key =
            { kid := some row.kid
              pubKey := row.pubKey
              privKey := row.privKey
              accountId := row.accountId
              active := row.active
              created := some created
              updated := some updated } := by
  rw [toKey]
  exact bind_columnInstant_eq_ok_iff _

/-- The row that is made of a new key pair holds its record. -/
theorem ofKey_holds (key : KeyPair) (now : Instant) :
    (ofKey (key.prepareInsert now) (columnText now)).Holds (key.prepareInsert now) where
  reads :=
    Iff.mpr toKey_eq_ok_iff
      ⟨now, now, columnInstant_columnText now, columnInstant_columnText now, rfl⟩
  written := by
    rintro instant ⟨⟩
    rfl

namespace Holds

variable {row : KeyRow} {key : KeyPair}

/-- A row has the account of its key pair. -/
theorem accountId_eq (held : row.Holds key) : key.accountId = row.accountId := by
  obtain ⟨created, updated, _, _, rfl⟩ := Iff.mp toKey_eq_ok_iff held.reads
  rfl

/-- A row has the public half of its key pair. -/
theorem pubKey_eq (held : row.Holds key) : key.pubKey = row.pubKey := by
  obtain ⟨created, updated, _, _, rfl⟩ := Iff.mp toKey_eq_ok_iff held.reads
  rfl

/-- A row with another time of change holds the key pair with that time. -/
theorem touch
    (held : row.Holds key)
    (now : Instant) :
    Holds { row with updated := columnText now } { key with updated := some now } where
  reads := by
    obtain ⟨created, updated, createdReads, _, rfl⟩ := Iff.mp toKey_eq_ok_iff held.reads
    exact Iff.mpr toKey_eq_ok_iff ⟨created, now, createdReads, columnInstant_columnText now, rfl⟩
  written := held.written

/-- A row with other halves, and another time of change, holds the changed key pair. -/
theorem change
    {stored : KeyPair}
    (held : row.Holds stored)
    (key : KeyPair)
    (now : Instant) :
    Holds
      { row with
        pubKey := (key.prepareUpdate stored now).pubKey
        privKey := (key.prepareUpdate stored now).privKey
        active := (key.prepareUpdate stored now).active
        updated := columnText now }
      (key.prepareUpdate stored now) where
  reads := by
    obtain ⟨created, updated, createdReads, _, rfl⟩ := Iff.mp toKey_eq_ok_iff held.reads
    exact Iff.mpr toKey_eq_ok_iff ⟨created, now, createdReads, columnInstant_columnText now, rfl⟩
  written := held.written

end Holds

end KeyRow

namespace Database

variable {database : Database} {ledger : Ledger}

/-! ## Accounts -/

/-- The index of live emails refuses a row whose email another live account has. -/
theorem emailRefused_iff
    (showing : database.Shows databaseHolding ledger)
    (ownUids : ∀ {uid account}, ledger.accounts uid = some account → account.uid = some uid)
    (uid : String)
    (row : AccountRow) :
    database.emailRefused uid row = true ↔
      row.isLive = true ∧ ∃ email, row.email = some email ∧ ledger.EmailTaken email (some uid) := by
  have agrees : ∀ other account, databaseHolding.account other account →
      ((other.uid ≠ uid && other.isLive && other.email = row.email) = true ↔
        account.uid ≠ some uid ∧ account.isDeleted = false ∧ account.email? = row.email) := by
    intro other account held
    have live := AccountRow.Holds.isLive_iff held
    rw [AccountRow.Holds.uid_eq held, AccountRow.Holds.email_eq held, ← live]
    simp [and_assoc]
  rw [emailRefused]
  cases hasEmail : row.email with
  | none => simp
  | some email =>
      rw [hasEmail] at agrees
      simp only [Option.isSome_some, Bool.and_true, Bool.and_eq_true, Option.some.injEq,
        exists_eq_left']
      refine and_congr_right fun _ => ?_
      refine (showing.accounts.any_rows_iff agrees).trans ?_
      constructor
      · rintro ⟨other, account, present, differs, live, sameEmail⟩
        rw [ownUids present] at differs
        exact ⟨other, account, present, live, sameEmail, differs⟩
      · rintro ⟨other, account, present, live, sameEmail, differs⟩
        rw [← ownUids present] at differs
        exact ⟨other, account, present, differs, live, sameEmail⟩

/-- A row is added unless its key or its email is taken. -/
theorem run_insertAccountRow (row : AccountRow) (database : Database) :
    (insertAccountRow row).run database =
      if database.accounts.contains row.uid || database.emailRefused row.uid row then
        (.error .duplicateEmail, database)
      else
        (.ok (), { database with accounts := database.accounts.insert row.uid row }) := by
  rw [insertAccountRow, Step.run_look_bind, Step.run_look_bind]
  split <;> rfl

/-- A new row is refused as the ledger refuses its account. -/
theorem insertRefused_iff
    (showing : database.Shows databaseHolding ledger)
    (sound : ledger.Sound)
    {record : Account}
    {email : String}
    (hasEmail : record.email? = some email)
    (uid created updated : String) :
    (database.accounts.contains uid ||
        database.emailRefused uid (.ofAccount record uid created updated)) = true ↔
      ledger.RefusesNew .database uid email record := by
  have live : (AccountRow.ofAccount record uid created updated).isLive = true ↔
      record.isDeleted = false := by
    rw [Account.isDeleted_eq_false_iff]
    exact decide_eq_true_iff
  have rowEmail : (AccountRow.ofAccount record uid created updated).email = some email := hasEmail
  rw [Bool.or_eq_true, showing.accounts.contains_eq,
    emailRefused_iff showing (fun present => (sound.accounts present).uid_eq), live, rowEmail]
  simp only [Option.some.injEq, exists_eq_left', Ledger.RefusesNew, Option.isSome_iff_ne_none]
  constructor
  · rintro (known | ⟨isLive, taken⟩)
    · exact Or.inl known
    · exact Or.inr ⟨isLive, taken.of_except⟩
  · rintro (known | ⟨isLive, other, account, present, otherLive, sameEmail, _⟩)
    · exact Or.inl known
    · by_cases same : other = uid
      · refine Or.inl ?_
        rw [← same, present]
        exact Option.some_ne_none account
      · exact Or.inr ⟨isLive, other, account, present, otherLive, sameEmail, by simpa using same⟩

/-- Adding an account does what the operation on ledgers does. -/
theorem insertAccount_follows
    (sound : ledger.Sound)
    (occasion : Occasion)
    {account : Account}
    (isNew : account.uid = none) :
    (insertAccount occasion account).Follows databaseHolding (.account occasion.uid) ledger
      (ledger.saveAccount .database occasion account) := by
  intro database showing
  rw [insertAccount, Ledger.saveAccount, isNew]
  dsimp only
  cases hasEmail : account.email? with
  | none => exact ⟨rfl, showing, rfl⟩
  | some email =>
      dsimp only
      have inserted :=
        run_insertAccountRow
          (.ofAccount (account.prepareInsert occasion.uid occasion.now) occasion.uid
            (columnText occasion.now) (columnText occasion.now))
          database
      rw [AccountRow.uid_ofAccount] at inserted
      have recordEmail :
          (account.prepareInsert occasion.uid occasion.now).email? = some email := hasEmail
      have refused_iff :=
        insertRefused_iff showing sound recordEmail occasion.uid (columnText occasion.now)
          (columnText occasion.now)
      by_cases refused :
        ledger.RefusesNew .database occasion.uid email
          (account.prepareInsert occasion.uid occasion.now)
      · rw [if_pos (refused_iff.mpr refused)] at inserted
        rw [if_pos refused, Step.run_bind_of_error inserted]
        exact ⟨rfl, showing, rfl⟩
      · rw [if_neg (mt refused_iff.mp refused)] at inserted
        rw [if_neg refused, Step.run_bind_of_ok inserted]
        exact ⟨rfl, showing.putAccount occasion.uid (AccountRow.ofAccount_holds rfl rfl rfl rfl),
          database.sameBut_putAccount occasion.uid _⟩

/-- The tables with another time of change in the row of a uid. -/
def touched (database : Database) (uid : String) (row : AccountRow) (now : Instant) : Database :=
  { database with
    accounts := database.accounts.insert uid { row with updated := columnText now } }

/-- The row of a uid gets another time of change. -/
theorem run_touchAccount
    {database : Database}
    {uid : String}
    {row : AccountRow}
    (present : database.accounts.get? uid = some row)
    (now : Instant) :
    (touchAccount uid (columnText now)).run database =
      (.ok true, touched database uid row now) := by
  rw [touchAccount, Step.run_look_bind, present]
  rfl

/-- A uid without a row is not touched. -/
theorem run_touchAccount_of_none
    {database : Database}
    {uid : String}
    (absent : database.accounts.get? uid = none)
    (updated : String) :
    (touchAccount uid updated).run database = (.ok false, database) := by
  rw [touchAccount, Step.run_look_bind, absent]
  rfl

/-- The columns of a row are set unless the email is taken. -/
theorem run_setAccountRow
    {database : Database}
    {uid : String}
    {row : AccountRow}
    (present : database.accounts.get? uid = some row)
    (account : Account)
    (updated : String) :
    (setAccountRow uid account updated).run database =
      if database.emailRefused uid (.ofAccount account row.uid row.created updated) then
        (.error .duplicateEmail, database)
      else
        (.ok (),
          { database with
            accounts :=
              database.accounts.insert uid (.ofAccount account row.uid row.created updated) }) := by
  rw [setAccountRow, Step.run_look_bind, present]
  dsimp only
  rw [Step.run_look_bind]
  split <;> rfl

/-- The touched tables show the stored account with another time of change. -/
theorem shows_touched
    (showing : database.Shows databaseHolding ledger)
    (uid : String)
    {row : AccountRow}
    {stored : Account}
    (held : row.Holds stored)
    (now : Instant) :
    (touched database uid row now).Shows databaseHolding
      (ledger.setAccount uid (some { stored with updated := some now })) :=
  showing.putAccount uid (held.touch now)

/-- A changed row is refused as the ledger refuses its account, also after the row was touched. -/
theorem changeRefused_iff
    (showing : database.Shows databaseHolding ledger)
    (sound : ledger.Sound)
    {uid : String}
    {row : AccountRow}
    {stored : Account}
    (present : ledger.accounts uid = some stored)
    (held : row.Holds stored)
    (record : Account)
    (now : Instant)
    (created updated : String) :
    emailRefused (touched database uid row now) uid
        (.ofAccount record row.uid created updated) = true ↔
      ledger.RefusesChange uid record := by
  have ownUids : ∀ {other account},
      (ledger.setAccount uid (some { stored with updated := some now })).accounts other =
        some account → account.uid = some other := by
    intro other account found
    rw [Ledger.accounts_setAccount] at found
    split at found
    case isTrue same =>
      obtain rfl := Option.some.inj found
      rw [same]
      exact (sound.accounts present).uid_eq
    case isFalse _ => exact (sound.accounts found).uid_eq
  have live : (AccountRow.ofAccount record row.uid created updated).isLive = true ↔
      record.isDeleted = false := by
    rw [Account.isDeleted_eq_false_iff]
    exact decide_eq_true_iff
  have rowEmail : (AccountRow.ofAccount record row.uid created updated).email = record.email? := rfl
  rw [emailRefused_iff (shows_touched showing uid held now) ownUids, live, rowEmail,
    Ledger.RefusesChange]
  refine and_congr_right fun _ => exists_congr fun email => and_congr_right fun _ => ?_
  -- The touched account is the one that is left out.
  constructor
  · rintro ⟨other, account, found, isLive, sameEmail, differs⟩
    rw [Ledger.accounts_setAccount, if_neg (by simpa using differs)] at found
    exact ⟨other, account, found, isLive, sameEmail, differs⟩
  · rintro ⟨other, account, found, isLive, sameEmail, differs⟩
    refine ⟨other, account, ?_, isLive, sameEmail, differs⟩
    rw [Ledger.accounts_setAccount, if_neg (by simpa using differs)]
    exact found

/-- A changed account is put in the place of the stored one, unless it is refused. -/
theorem run_updateAccount
    (showing : database.Shows databaseHolding ledger)
    (sound : ledger.Sound)
    {uid : String}
    {row : AccountRow}
    {stored : Account}
    (present : ledger.accounts uid = some stored)
    (found : database.accounts.get? uid = some row)
    (held : row.Holds stored)
    (occasion : Occasion)
    {account record : Account}
    (prepared : account.prepareUpdate stored occasion.now = record)
    [Decidable (ledger.RefusesChange uid record)] :
    (updateAccount occasion uid account).run database =
      if ledger.RefusesChange uid record then
        (.error .duplicateEmail, database)
      else
        (.ok record,
          { database with
            accounts :=
              database.accounts.insert uid
                (.ofAccount record row.uid row.created (columnText occasion.now)) }) := by
  have touching := run_touchAccount found occasion.now
  have inside : (touched database uid row occasion.now).accounts.get? uid =
      some { row with updated := columnText occasion.now } :=
    Table.get?_insert_self _ _ _
  have reading : account? (touched database uid row occasion.now) uid =
      .ok { stored with updated := some occasion.now } := by
    rw [account?, inside]
    exact (held.touch occasion.now).reads
  -- What is merged is the touched record, which has the stored fields.
  have merged : account.prepareUpdate { stored with updated := some occasion.now } occasion.now =
      record := prepared
  have setting := run_setAccountRow inside record (columnText occasion.now)
  have refused_iff :=
    changeRefused_iff showing sound present held record occasion.now row.created
      (columnText occasion.now)
  rw [updateAccount]
  by_cases refused : ledger.RefusesChange uid record
  · rw [if_pos (refused_iff.mpr refused)] at setting
    rw [if_pos refused, Step.run_atomically_of_error (by
      rw [Step.run_bind_of_ok touching, if_pos rfl, Step.run_ask_bind, reading]
      dsimp only
      rw [merged]
      exact Step.run_bind_of_error setting)]
  · rw [if_neg (mt refused_iff.mp refused)] at setting
    rw [if_neg refused, Step.run_atomically_of_ok (by
      rw [Step.run_bind_of_ok touching, if_pos rfl, Step.run_ask_bind, reading]
      dsimp only
      rw [merged]
      exact Step.run_bind_of_ok setting)]
    dsimp only [touched]
    rw [Table.insert_insert]

/-- Changing an account does what the operation on ledgers does. -/
theorem updateAccount_follows
    (sound : ledger.Sound)
    (occasion : Occasion)
    {account : Account}
    {uid : String}
    (isOld : account.uid = some uid) :
    (updateAccount occasion uid account).Follows databaseHolding (.account uid) ledger
      (ledger.saveAccount .database occasion account) := by
  intro database showing
  rw [Ledger.saveAccount, isOld]
  dsimp only
  cases present : ledger.accounts uid with
  | none =>
      have touching := run_touchAccount_of_none (showing.accounts.get?_eq_none present)
        (columnText occasion.now)
      rw [updateAccount,
        Step.run_atomically_of_error (by rw [Step.run_bind_of_ok touching]; rfl)]
      exact ⟨rfl, showing, rfl⟩
  | some stored =>
      classical
      obtain ⟨row, found, held⟩ := showing.accounts.of_view present
      rw [run_updateAccount showing sound present found held occasion rfl]
      dsimp only
      by_cases refused : ledger.RefusesChange uid (account.prepareUpdate stored occasion.now)
      · rw [if_pos refused, if_pos refused]
        exact ⟨rfl, showing, rfl⟩
      · rw [if_neg refused, if_neg refused]
        obtain ⟨created, hasCreated⟩ :=
          Option.isSome_iff_exists.mp (sound.accounts present).created
        have storedUid : stored.uid = some row.uid := AccountRow.Holds.uid_eq held
        have recordHeld :
            (AccountRow.ofAccount (account.prepareUpdate stored occasion.now) row.uid row.created
              (columnText occasion.now)).Holds
              (account.prepareUpdate stored occasion.now).cleared :=
          AccountRow.ofAccount_holds storedUid hasCreated rfl (held.written created hasCreated)
        exact ⟨rfl, showing.putAccount uid recordHeld, database.sameBut_putAccount uid _⟩

/-- Saving an account does what the operation on ledgers does. -/
theorem saveAccount_follows
    (sound : ledger.Sound)
    (occasion : Occasion)
    (account : Account) :
    (saveAccount occasion account).Follows databaseHolding
      (.account (account.uid.getD occasion.uid)) ledger
      (ledger.saveAccount .database occasion account) := by
  rw [saveAccount]
  cases given : account.uid with
  | none => exact insertAccount_follows sound occasion given
  | some uid => exact updateAccount_follows sound occasion given

/-! ## Key pairs -/

/-- An account has a row of a key pair if the ledger has its key pair. -/
theorem any_accountId_eq
    (showing : database.Shows databaseHolding ledger)
    (sound : ledger.Sound)
    (accountId : String) :
    database.keys.rows.any (·.accountId = accountId) = (ledger.keys accountId).isSome := by
  have agrees : ∀ row key, databaseHolding.key row key →
      (decide (row.accountId = accountId) = true ↔ key.accountId = accountId) := by
    intro row key held
    rw [KeyRow.Holds.accountId_eq held]
    exact decide_eq_true_iff
  rw [Bool.eq_iff_iff, showing.keys.any_rows_iff agrees]
  exact sound.exists_key_iff accountId

/-- A row of a key pair is added if its account is there and has none. -/
theorem run_insertKeyRow (row : KeyRow) (database : Database) :
    (insertKeyRow row).run database =
      if database.accounts.contains row.accountId = false then
        (.ok false, database)
      else if database.keys.contains row.kid || database.keys.rows.any (·.accountId = row.accountId)
      then
        (.error .keyAlreadyExists, database)
      else
        (.ok true, { database with keys := database.keys.insert row.kid row }) := by
  rw [insertKeyRow, Step.run_look_bind, Step.run_look_bind, Step.run_look_bind]
  split
  case isTrue _ => rfl
  case isFalse _ => split <;> rfl

/-- A row of a new key pair is added as the ledger has it. -/
theorem run_insertKeyRow_ofKey
    (showing : database.Shows databaseHolding ledger)
    (sound : ledger.Sound)
    (key : KeyPair)
    (time : String) :
    (insertKeyRow (.ofKey key time)).run database =
      if (ledger.accounts key.accountId).isSome = false then
        (.ok false, database)
      else if (ledger.keys key.accountId).isSome then
        (.error .keyAlreadyExists, database)
      else
        (.ok true,
          { database with keys := database.keys.insert key.accountId (.ofKey key time) }) := by
  have kid : (KeyRow.ofKey key time).kid = key.accountId := rfl
  have accountId : (KeyRow.ofKey key time).accountId = key.accountId := rfl
  rw [run_insertKeyRow, kid, accountId, showing.accounts.contains_eq, showing.keys.contains_eq,
    any_accountId_eq showing sound, Bool.or_self]

/-- Adding a key pair does what the operation on ledgers does. -/
theorem insertKey_follows
    (sound : ledger.Sound)
    (now : Instant)
    {key : KeyPair}
    (isNew : key.kid = none) :
    (insertKey now key).Follows databaseHolding (.key key.accountId) ledger
      (ledger.saveKey now key) := by
  intro database showing
  rw [insertKey, Ledger.saveKey, isNew, Step.run_requireKey]
  dsimp only
  cases required : Ledger.requireKey key with
  | error error => exact ⟨rfl, showing, rfl⟩
  | ok _ =>
      have inserted :=
        run_insertKeyRow_ofKey showing sound (key.prepareInsert now) (columnText now)
      have accountId : (key.prepareInsert now).accountId = key.accountId := rfl
      rw [accountId] at inserted
      dsimp only
      cases owner : ledger.accounts key.accountId with
      | none =>
          rw [owner] at inserted
          rw [Step.run_bind_of_ok inserted]
          exact ⟨rfl, showing, rfl⟩
      | some account =>
          cases present : ledger.keys key.accountId with
          | some stored =>
              rw [owner, present] at inserted
              rw [Step.run_bind_of_error inserted]
              exact ⟨rfl, showing, rfl⟩
          | none =>
              rw [owner, present] at inserted
              rw [Step.run_bind_of_ok inserted]
              exact ⟨rfl, showing.putKey key.accountId (KeyRow.ofKey_holds key now),
                database.sameBut_putKey key.accountId _⟩

/-- A changed key pair is put in the place of the stored one. -/
theorem run_updateKey
    {database : Database}
    {kid : String}
    {row : KeyRow}
    {stored : KeyPair}
    (found : database.keys.get? kid = some row)
    (held : row.Holds stored)
    (now : Instant)
    {key record : KeyPair}
    (prepared : key.prepareUpdate stored now = record) :
    (updateKey now kid key).run database =
      (.ok record,
        { database with
          keys :=
            database.keys.insert kid
              { row with
                pubKey := record.pubKey
                privKey := record.privKey
                active := record.active
                updated := columnText now } }) := by
  let touchedRow : KeyRow := { row with updated := columnText now }
  let touchedTables : Database :=
    { database with keys := database.keys.insert kid touchedRow }
  have touching : (touchKey kid (columnText now)).run database = (.ok true, touchedTables) := by
    rw [touchKey, Step.run_look_bind, found]
    rfl
  have inside : touchedTables.keys.get? kid = some touchedRow := Table.get?_insert_self _ _ _
  have reading : key? touchedTables kid = .ok { stored with updated := some now } := by
    rw [key?, inside]
    exact (KeyRow.Holds.touch held now).reads
  have merged : key.prepareUpdate { stored with updated := some now } now = record := prepared
  have setting : (setKeyRow kid record (columnText now)).run touchedTables =
      (.ok (),
        { touchedTables with
          keys :=
            touchedTables.keys.insert kid
              { touchedRow with
                pubKey := record.pubKey
                privKey := record.privKey
                active := record.active
                updated := columnText now } }) := by
    rw [setKeyRow, Step.run_look_bind, inside]
    rfl
  rw [updateKey, Step.run_atomically_of_ok (by
    rw [Step.run_bind_of_ok touching, if_pos rfl, Step.run_ask_bind, reading]
    dsimp only
    rw [merged]
    exact Step.run_bind_of_ok setting)]
  dsimp only [touchedTables, touchedRow]
  rw [Table.insert_insert]

/-- Changing a key pair does what the operation on ledgers does. -/
theorem updateKey_follows
    (now : Instant)
    {key : KeyPair}
    {kid : String}
    (isOld : key.kid = some kid) :
    (updateKey now kid key).Follows databaseHolding (.key kid) ledger (ledger.saveKey now key) := by
  intro database showing
  rw [Ledger.saveKey, isOld]
  dsimp only
  cases present : ledger.keys kid with
  | none =>
      have touching : (touchKey kid (columnText now)).run database = (.ok false, database) := by
        rw [touchKey, Step.run_look_bind, showing.keys.get?_eq_none present]
        rfl
      rw [updateKey,
        Step.run_atomically_of_error (by rw [Step.run_bind_of_ok touching]; rfl)]
      exact ⟨rfl, showing, rfl⟩
  | some stored =>
      obtain ⟨row, found, held⟩ := showing.keys.of_view present
      rw [run_updateKey found held now rfl]
      exact ⟨rfl, showing.putKey kid (KeyRow.Holds.change held key now),
        database.sameBut_putKey kid _⟩

/-- Saving a key pair does what the operation on ledgers does. -/
theorem saveKey_follows
    (sound : ledger.Sound)
    (now : Instant)
    (key : KeyPair) :
    (saveKey now key).Follows databaseHolding (.key (key.kid.getD key.accountId)) ledger
      (ledger.saveKey now key) := by
  rw [saveKey]
  cases given : key.kid with
  | none => exact insertKey_follows sound now given
  | some kid => exact updateKey_follows now given

/-! ## Reading -/

/-- The row of a uid is read as the account of the ledger. -/
theorem account?_eq
    (showing : database.Shows databaseHolding ledger)
    (uid : String) :
    database.account? uid = found .accountNotFound (ledger.accounts uid) := by
  rw [account?]
  cases present : ledger.accounts uid with
  | none =>
      rw [showing.accounts.get?_eq_none present]
      rfl
  | some account =>
      obtain ⟨row, inTable, held⟩ := showing.accounts.of_view present
      rw [inTable]
      exact held.reads

/-- The row of a key id is read as the key pair of the ledger. -/
theorem key?_eq
    (showing : database.Shows databaseHolding ledger)
    (kid : String) :
    database.key? kid = found .keyNotFound (ledger.keys kid) := by
  rw [key?]
  cases present : ledger.keys kid with
  | none =>
      rw [showing.keys.get?_eq_none present]
      rfl
  | some key =>
      obtain ⟨row, inTable, held⟩ := showing.keys.of_view present
      rw [inTable]
      exact held.reads

/-- The row of a uid among the tokens has the token of the ledger. -/
theorem token_eq
    (showing : database.Shows databaseHolding ledger)
    (uid : String) :
    database.token uid = found .tokenNotFound (ledger.tokens uid) := by
  rw [token]
  cases present : ledger.tokens uid with
  | none =>
      rw [showing.tokens.get?_eq_none present]
      rfl
  | some token =>
      obtain ⟨row, inTable, held⟩ := showing.tokens.of_view present
      rw [inTable]
      exact congrArg Except.ok held

/-- The live account of an email is found. -/
theorem finds_accountByEmail
    (showing : database.Shows databaseHolding ledger)
    (email : String) :
    Table.Finds ledger.accounts (Account.IsLiveWith email) .emailNotFound
      (database.accountByEmail email) := by
  have agrees : ∀ row account, databaseHolding.account row account →
      ((row.isLive && row.email = some email) = true ↔ account.IsLiveWith email) := by
    intro row account held
    rw [Account.IsLiveWith, AccountRow.Holds.email_eq held, ← AccountRow.Holds.isLive_iff held,
      Bool.and_eq_true, decide_eq_true_eq]
  have finds :=
    showing.accounts.finds (fun _ _ held => AccountRow.Holds.reads held) agrees .emailNotFound
  rw [accountByEmail]
  cases result : database.accounts.rows.find? fun row => row.isLive && row.email = some email with
  | none =>
      rw [result] at finds
      exact finds
  | some row =>
      rw [result] at finds
      exact finds

/-- A live account has a text if the ledger has one. -/
theorem existsAccount_iff
    (showing : database.Shows databaseHolding ledger)
    (query : String) :
    database.existsAccount query = true ↔
      ∃ uid account, ledger.accounts uid = some account ∧ account.IsLiveFor query := by
  apply showing.accounts.any_rows_iff
  intro row account held
  rw [Account.IsLiveFor, AccountRow.Holds.uid_eq held, AccountRow.Holds.email_eq held,
    AccountRow.Holds.name_eq held, ← AccountRow.Holds.isLive_iff held]
  simp [or_assoc]

/-- Looking for a key pair finds one whose row passes the test. -/
theorem finds_findKey
    (showing : database.Shows databaseHolding ledger)
    {test : KeyRow → Bool}
    {accepts : KeyPair → Prop}
    (agrees : ∀ row key, row.Holds key → (test row = true ↔ accepts key)) :
    Table.Finds ledger.keys accepts .keyNotFound (database.findKey test) := by
  have finds := showing.keys.finds (fun _ _ held => KeyRow.Holds.reads held) agrees .keyNotFound
  rw [findKey]
  cases result : database.keys.rows.find? test with
  | none =>
      rw [result] at finds
      exact finds
  | some row =>
      rw [result] at finds
      exact finds

/-- The key pair of an account is the one under its uid. -/
theorem findKey_accountId_eq
    (showing : database.Shows databaseHolding ledger)
    (sound : ledger.Sound)
    (accountId : String) :
    database.findKey (·.accountId = accountId) = found .keyNotFound (ledger.keys accountId) := by
  apply sound.eq_found_of_finds
  apply finds_findKey showing
  intro row key held
  rw [KeyRow.Holds.accountId_eq held]
  exact decide_eq_true_iff

/-- A key pair whose public half is a text is found by the octets of that text. -/
theorem finds_findKey_pubKey
    (showing : database.Shows databaseHolding ledger)
    (text : String) :
    Table.Finds ledger.keys
      (fun key => Text.Utf8.encode key.pubKey = Text.Utf8.encode text) .keyNotFound
      (database.findKey (·.pubKey = text)) := by
  apply finds_findKey showing
  intro row key held
  rw [KeyRow.Holds.pubKey_eq held, decide_eq_true_eq]
  constructor
  · rintro rfl
    rfl
  · intro same
    have decoded := Text.Utf8.decode?_encode row.pubKey
    rw [same, Text.Utf8.decode?_encode] at decoded
    exact (Option.some.inj decoded).symm

/-- Rows that are sorted by the text of their creation are listed in the order of creation. -/
theorem listsByCreation_mergeSort
    {Row Record : Type}
    {table : Table Row}
    {holds : Row → Record → Prop}
    {view : String → Option Record}
    {read : Row → Except Error Record}
    {text : Row → String}
    {created : Record → Option Instant}
    (showing : table.Shows holds view)
    (reads : ∀ row record, holds row record → read row = .ok record)
    (written : ∀ row record, holds row record →
      ∃ instant, created record = some instant ∧ text row = columnText instant) :
    ∃ records,
      (table.rows.mergeSort fun first second => decide (text first ≤ text second)).mapM read =
        .ok records ∧
      Ledger.ListsByCreation .database created view records := by
  obtain ⟨records, related, lists⟩ :=
    showing.lists fun first second => decide (text first ≤ text second)
  refine ⟨records, Table.mapM_eq_ok reads related, lists, ?_⟩
  rintro (⟨⟨⟩⟩ | plain)
  have sorted :
      (table.rows.mergeSort fun first second => decide (text first ≤ text second)).Pairwise
        fun first second => decide (text first ≤ text second) = true :=
    List.pairwise_mergeSort
      (fun first second third => by
        simp only [decide_eq_true_eq]
        exact String.le_trans)
      (fun first second => by
        simp only [Bool.or_eq_true, decide_eq_true_eq]
        exact String.le_total _ _)
      table.rows
  refine (Table.pairwise_of_forall₂ related sorted).imp_of_mem ?_
  rintro first second firstMember secondMember ⟨firstRow, secondRow, firstHeld, secondHeld, ordered⟩
  obtain ⟨firstInstant, firstCreated, firstText⟩ := written firstRow first firstHeld
  obtain ⟨secondInstant, secondCreated, secondText⟩ := written secondRow second secondHeld
  have firstYear : firstInstant.FourDigitYear := plain first firstMember firstInstant firstCreated
  have secondYear : secondInstant.FourDigitYear :=
    plain second secondMember secondInstant secondCreated
  rw [decide_eq_true_eq, firstText, secondText, columnText, columnText,
    Instant.render_offset_le_iff firstYear secondYear] at ordered
  rw [firstCreated, secondCreated]
  exact ordered

end Database

end Credential.Store
