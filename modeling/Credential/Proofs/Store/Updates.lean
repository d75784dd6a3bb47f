import Credential.Proofs.Store.Reachable

/-!
# Partial updates compose

Two partial records that are saved one after the other under one key leave the
tables that the later one, laid over the earlier one, leaves at once.
-/

namespace Credential

open Credential.Time (Instant)

/-! ## Records laid over each other -/

/-- A partial record over an earlier one: a field that it does not give is taken from there. -/
def Account.laidOver (later earlier : Account) : Account :=
  { later with
    email := later.email.orStored earlier.email
    name := later.name.orStored earlier.name
    password := later.password.orStored earlier.password
    active := later.active.orStored earlier.active
    deleted := later.deleted.orStored earlier.deleted }

/-- A key pair over an earlier one: an empty half, and a missing activity, are taken from there. -/
def KeyPair.laidOver (later earlier : KeyPair) : KeyPair :=
  { later with
    pubKey := textOr later.pubKey earlier.pubKey
    privKey := textOr later.privKey earlier.privKey
    active := later.active.or earlier.active }

/-- Whether each field is given by one of two partial records at most. -/
structure Account.GiveApart (first second : Account) : Prop where
  email : first.email = .unset ∨ second.email = .unset
  name : first.name = .unset ∨ second.name = .unset
  password : first.password = .unset ∨ second.password = .unset
  active : first.active = .unset ∨ second.active = .unset
  deleted : first.deleted = .unset ∨ second.deleted = .unset

theorem Field.orStored_self (field : Field α) : field.orStored field = field := by
  cases field <;> rfl

/-- Of two fields of which one is not given, it does not matter which is laid over the other. -/
theorem Field.orStored_comm
    {first second : Field α}
    (apart : first = .unset ∨ second = .unset) :
    first.orStored second = second.orStored first := by
  rcases apart with rfl | rfl
  · cases second <;> rfl
  · cases first <;> rfl

/-- A field filled from one that is cleared where it is absent is so itself. -/
theorem Field.cleared_orStored
    {stored : Field α}
    (same : stored.cleared = stored)
    (field : Field α) :
    (field.orStored stored).cleared = field.orStored stored := by
  cases field with
  | unset => exact same
  | null => rfl
  | value content => rfl

theorem KeyPair.textOr_assoc (text middle stored : String) :
    textOr (textOr text middle) stored = textOr text (textOr middle stored) := by
  unfold textOr
  split_ifs <;> rfl

namespace Account

/-- A default that has been taken for a stored flag need not be taken there. -/
theorem flagOr_orStored_flagOr (default : Bool) (field stored : Field Bool) :
    flagOr default (field.orStored (flagOr default stored)) =
      flagOr default (field.orStored stored) := by
  cases field with
  | unset => cases stored <;> rfl
  | null => rfl
  | value content => rfl

theorem cleared_flagOr (default : Bool) (field : Field Bool) :
    (flagOr default field).cleared = flagOr default field := by
  cases field <;> rfl

theorem laidOver_self (account : Account) : account.laidOver account = account := by
  simp only [laidOver, Field.orStored_self]

/-- Changing a record twice is changing it once, by the later record over the earlier one. -/
theorem prepareUpdate_prepareUpdate
    (first second stored : Account)
    (earlier later : Instant) :
    second.prepareUpdate (first.prepareUpdate stored earlier) later =
      (second.laidOver first).prepareUpdate stored later := by
  simp only [prepareUpdate, laidOver, Field.orStored_assoc, flagOr_orStored_flagOr]

/-- Records that give different fields change a record alike in either order. -/
theorem prepareUpdate_laidOver_comm
    {first second : Account}
    (apart : first.GiveApart second)
    (stored : Account)
    (now other : Instant) :
    (first.laidOver second).prepareUpdate stored other =
      { (second.laidOver first).prepareUpdate stored now with updated := some other } := by
  simp only [prepareUpdate, laidOver, Field.orStored_comm apart.email,
    Field.orStored_comm apart.name, Field.orStored_comm apart.password,
    Field.orStored_comm apart.active, Field.orStored_comm apart.deleted]

end Account

/-- Changing a key pair twice is changing it once, by the later one over the earlier one. -/
theorem KeyPair.prepareUpdate_prepareUpdate
    (first second stored : KeyPair)
    (earlier later : Instant) :
    second.prepareUpdate (first.prepareUpdate stored earlier) later =
      (second.laidOver first).prepareUpdate stored later := by
  have active : second.active.getD (first.active.getD (stored.active.getD true)) =
      (second.active.or first.active).getD (stored.active.getD true) := by
    cases second.active <;> rfl
  simp only [prepareUpdate, laidOver, textOr_assoc, Option.getD_some, active]

namespace Store

/-- What a backend keeps of a record that changes one that it keeps is that record. -/
theorem Backend.kept_prepareUpdate
    {backend : Backend}
    {stored : Account}
    (same : backend.kept stored = stored)
    (account : Account)
    (now : Instant) :
    backend.kept (account.prepareUpdate stored now) = account.prepareUpdate stored now := by
  cases backend with
  | memory => rfl
  | database =>
      have email : stored.email.cleared = stored.email := congrArg Account.email same
      have name : stored.name.cleared = stored.name := congrArg Account.name same
      have password : stored.password.cleared = stored.password := congrArg Account.password same
      have deleted : stored.deleted.cleared = stored.deleted := congrArg Account.deleted same
      simp only [kept, Account.cleared, Account.prepareUpdate, Field.cleared_orStored email,
        Field.cleared_orStored name, Field.cleared_orStored password,
        Field.cleared_orStored deleted, Account.cleared_flagOr]

/-! ## Rows in the place of others -/

/-- A store after a change of its tables; one that is not connected stays as it is. -/
def edited
    (store : Store)
    (memory : MemoryTables → MemoryTables)
    (database : Database → Database) :
    Store :=
  ((write (.change memory) (.change database)).run store).2

/-- A change of an open database is a change of its file. -/
theorem edited_database
    {path : String}
    {disk : Disk}
    {tables : Database}
    (content : disk.database? path = some tables)
    (memory : MemoryTables → MemoryTables)
    (database : Database → Database) :
    (Store.database ⟨some path, disk⟩).edited memory database =
      .database ⟨some path, disk.put path (database tables)⟩ := by
  rw [edited, run_write_database, DatabaseStore.run_write content, Step.run_change]

/-- A change of a store after another one is one change. -/
theorem edited_edited
    (store : Store)
    (firstMemory secondMemory : MemoryTables → MemoryTables)
    (firstDatabase secondDatabase : Database → Database) :
    (store.edited firstMemory firstDatabase).edited secondMemory secondDatabase =
      store.edited (secondMemory ∘ firstMemory) (secondDatabase ∘ firstDatabase) := by
  cases isOpen : store.isOpen with
  | false =>
      have closed (memory : MemoryTables → MemoryTables) (database : Database → Database) :
          store.edited memory database = store :=
        congrArg Prod.snd (run_write_of_closed isOpen (.change memory) (.change database))
      rw [closed, closed, closed]
  | true =>
      rcases store with ⟨_ | tables⟩ | ⟨opened, disk⟩
      · cases isOpen
      · rfl
      · obtain ⟨tables, found⟩ := Option.isSome_iff_exists.mp isOpen
        obtain ⟨path, rfl, content⟩ := DatabaseStore.database?_eq_some_iff.mp found
        have inside := disk.database?_put_self path (firstDatabase tables)
        rw [edited_database content, edited_database inside, edited_database content,
          Disk.put_put, Function.comp_apply]

/-- The text of a time that a record may lack. -/
def timeText (time : Option Instant) : String :=
  time.elim "" columnText

/-- The row of a record, under its own uid and times. -/
def AccountRow.ofRecord (record : Account) : AccountRow :=
  .ofAccount record (record.uid.getD "") (timeText record.created) (timeText record.updated)

/-- The row of a record, under its own key id and times. -/
def KeyRow.ofRecord (record : KeyPair) : KeyRow :=
  { kid := record.kid.getD ""
    accountId := record.accountId
    pubKey := record.pubKey
    privKey := record.privKey
    active := record.active
    created := timeText record.created
    updated := timeText record.updated }

/-- A store with a record in the row of a uid. -/
def withAccount (store : Store) (uid : String) (record : Account) : Store :=
  store.edited
    (fun tables => { tables with accounts := tables.accounts.insert uid record })
    (fun tables => { tables with accounts := tables.accounts.insert uid (.ofRecord record) })

/-- A store with a record in the row of a key id. -/
def withKey (store : Store) (kid : String) (record : KeyPair) : Store :=
  store.edited
    (fun tables => { tables with keys := tables.keys.insert kid record })
    (fun tables => { tables with keys := tables.keys.insert kid (.ofRecord record) })

theorem withAccount_withAccount (store : Store) (uid : String) (first second : Account) :
    (store.withAccount uid first).withAccount uid second = store.withAccount uid second := by
  simp only [withAccount, edited_edited, Function.comp_def, Table.insert_insert]

theorem withKey_withKey (store : Store) (kid : String) (first second : KeyPair) :
    (store.withKey kid first).withKey kid second = store.withKey kid second := by
  simp only [withKey, edited_edited, Function.comp_def, Table.insert_insert]

variable {store : Store} {ledger : Ledger}

/-- A record is put in the row of a uid, and nowhere else. -/
theorem Shows.sameBut_withAccount
    (showing : store.Shows ledger)
    (uid : String)
    (record : Account) :
    store.SameBut (.account uid) (store.withAccount uid record) := by
  cases showing with
  | @memory tables _ _ => exact .memory (tables.sameBut_putAccount uid record)
  | @database path disk tables _ content _ =>
      rw [withAccount, edited_database content]
      exact .database content (disk.database?_put_self path _) (disk.sameBut_put path _)
        (tables.sameBut_putAccount uid _)

/-! ## Changes of stored records -/

namespace Shows

/-- A store keeps the whole of each record that it has. -/
theorem kept_eq
    (showing : store.Shows ledger)
    {uid : String}
    {account : Account}
    (present : ledger.accounts uid = some account) :
    store.backend.kept account = account := by
  cases showing with
  | memory _ => rfl
  | database _ tablesShow =>
      obtain ⟨row, _, held⟩ := tablesShow.accounts.of_view present
      obtain ⟨created, updated, _, _, rfl⟩ := AccountRow.toAccount_eq_ok_iff.mp held.reads
      simp only [backend, Backend.kept, Account.cleared, Field.cleared_ofOption]

/-- A record of a uid that is not refused is merged with the stored one, and put in its place. -/
theorem saveAccount_eq_ok
    (showing : store.Shows ledger)
    (sound : ledger.Sound)
    {uid : String}
    {stored : Account}
    (present : ledger.accounts uid = some stored)
    (occasion : Occasion)
    {account record : Account}
    (named : account.uid = some uid)
    (prepared : account.prepareUpdate stored occasion.now = record)
    (accepted : ¬ ledger.RefusesChange uid record) :
    store.saveAccount occasion account = (.ok record, store.withAccount uid record) := by
  classical
  rw [Store.saveAccount, saveLentAccount, saved_withLent]
  cases showing with
  | @memory tables _ tablesShow =>
      have ran := MemoryTables.run_saveAccount_of_named tablesShow sound present occasion named
        prepared
      rw [if_neg accepted] at ran
      have written : (write (MemoryTables.saveAccount occasion account)
          (Database.saveAccount occasion account)).run (.memory ⟨some tables⟩) =
          (((MemoryTables.saveAccount occasion account).run tables).1,
            .memory ⟨some ((MemoryTables.saveAccount occasion account).run tables).2⟩) := rfl
      rw [written, ran]
      rfl
  | @database path disk tables _ content tablesShow =>
      obtain ⟨row, found, held⟩ := tablesShow.accounts.of_view present
      have ran := Database.run_updateAccount tablesShow sound present found held occasion prepared
      rw [if_neg accepted] at ran
      obtain ⟨created, hasCreated⟩ := Option.isSome_iff_exists.mp (sound.accounts present).created
      have isRow : AccountRow.ofAccount record row.uid row.created (columnText occasion.now) =
          .ofRecord record := by
        rw [AccountRow.ofRecord, ← prepared]
        simp only [Account.prepareUpdate, hasCreated, AccountRow.Holds.uid_eq held, timeText,
          Option.getD_some, Option.elim_some, held.written created hasCreated]
      rw [isRow] at ran
      rw [Database.saveAccount, named]
      dsimp only
      rw [run_write_database, DatabaseStore.run_write content, ran, withAccount,
        edited_database content]

/-- A key pair of a key id is merged with the stored one, and put in its place. -/
theorem saveKey_eq_ok
    (showing : store.Shows ledger)
    (sound : ledger.Sound)
    {kid : String}
    {stored : KeyPair}
    (present : ledger.keys kid = some stored)
    (occasion : Occasion)
    {key record : KeyPair}
    (named : key.kid = some kid)
    (prepared : key.prepareUpdate stored occasion.now = record) :
    store.saveKey occasion key = (.ok record, store.withKey kid record) := by
  rw [Store.saveKey, saveLentKey, saved_withLent]
  cases showing with
  | @memory tables _ tablesShow =>
      have ran := MemoryTables.run_saveKey_of_named tablesShow sound present occasion.now named
        prepared
      have written : (write (MemoryTables.saveKey occasion.now key)
          (Database.saveKey occasion.now key)).run (.memory ⟨some tables⟩) =
          (((MemoryTables.saveKey occasion.now key).run tables).1,
            .memory ⟨some ((MemoryTables.saveKey occasion.now key).run tables).2⟩) := rfl
      rw [written, ran]
      rfl
  | @database path disk tables _ content tablesShow =>
      obtain ⟨row, found, held⟩ := tablesShow.keys.of_view present
      have ran := Database.run_updateKey found held occasion.now prepared
      obtain ⟨created, hasCreated⟩ := Option.isSome_iff_exists.mp (sound.keys present).created
      obtain ⟨_, _, _, _, isStored⟩ := KeyRow.toKey_eq_ok_iff.mp held.reads
      have isRow :
          { row with
            pubKey := record.pubKey
            privKey := record.privKey
            active := record.active
            updated := columnText occasion.now } = KeyRow.ofRecord record := by
        rw [KeyRow.ofRecord, ← prepared]
        simp only [KeyPair.prepareUpdate, hasCreated, timeText, Option.elim_some,
          held.written created hasCreated]
        simp only [isStored, Option.getD_some]
      rw [isRow] at ran
      rw [Database.saveKey, named]
      dsimp only
      rw [run_write_database, DatabaseStore.run_write content, ran, withKey,
        edited_database content]

/-- A record of a uid that has been saved stands in the place of the one it was merged with. -/
theorem of_saveAccount
    (showing : store.Shows ledger)
    (sound : ledger.Sound)
    {uid : String}
    {occasion : Occasion}
    {account record : Account}
    {after : Store}
    (named : account.uid = some uid)
    (saves : store.saveAccount occasion account = (.ok record, after)) :
    ∃ stored, ledger.accounts uid = some stored ∧
      account.prepareUpdate stored occasion.now = record ∧
      ¬ ledger.RefusesChange uid record ∧
      after = store.withAccount uid record ∧
      after.Shows (ledger.setAccount uid (some record)) ∧
      (ledger.setAccount uid (some record)).Sound := by
  have wrote := showing.saveAccount sound occasion account
  have afterSound := sound.saveAccount store.backend occasion account
  rw [saves] at wrote
  have outcome := wrote.outcome
  have shows := wrote.shows
  cases present : ledger.accounts uid with
  | none =>
      simp only [Ledger.saveAccount, named, present] at outcome
      cases outcome
  | some stored =>
      classical
      simp only [Ledger.saveAccount, named, present] at outcome shows afterSound
      by_cases refused : ledger.RefusesChange uid (account.prepareUpdate stored occasion.now)
      · rw [if_pos refused] at outcome
        cases outcome
      · rw [if_neg refused] at outcome shows afterSound
        obtain rfl := Except.ok.inj outcome
        dsimp only at shows afterSound
        rw [Backend.kept_prepareUpdate (showing.kept_eq present)] at shows afterSound
        have saved := showing.saveAccount_eq_ok sound present occasion named rfl refused
        exact ⟨stored, rfl, rfl, refused, (Prod.mk.inj (saves.symm.trans saved)).2, shows,
          afterSound⟩

end Shows

/-! ## Updates compose -/

/-- Whether two records are saved one after the other, with the last one and the store then. -/
def SavesInTurn
    (store : Store)
    (first second : Occasion × Account)
    (record : Account)
    (after : Store) :
    Prop :=
  ∃ middle between, store.saveAccount first.1 first.2 = (.ok middle, between) ∧
    between.saveAccount second.1 second.2 = (.ok record, after)

/-- Whether stores have the same rows, but for the time of change of one account. -/
def SameButUpdated (uid : String) (before after : Store) : Prop :=
  before.SameBut (.account uid) after ∧
    ∃ record now, before.storedAccount? uid = some (.ok record) ∧
      after.storedAccount? uid = some (.ok { record with updated := some now })

/-- Whether changes of accounts of a store compose. -/
structure ComposesAccounts (store : Store) : Prop where
  /-- The later record over the earlier one does at once what both do in turn. -/
  composes :
    ∀ {uid first second earlier later record after},
      first.uid = some uid → second.uid = some uid →
        store.SavesInTurn (earlier, first) (later, second) record after →
          ∀ occasion : Occasion, occasion.now = later.now →
            store.saveAccount occasion (second.laidOver first) = (.ok record, after)
  /-- Records that give different fields may be saved in either order. -/
  commutes :
    ∀ {uid first second record after other otherAfter} {one two three four : Occasion},
      first.uid = some uid → second.uid = some uid → first.GiveApart second →
        store.SavesInTurn (one, first) (two, second) record after →
          store.SavesInTurn (three, second) (four, first) other otherAfter →
            after.SameButUpdated uid otherAfter
  /-- A record that has been saved can be saved again, to no effect but on the time. -/
  repeats :
    ∀ {uid account record between} {earlier : Occasion},
      account.uid = some uid → store.saveAccount earlier account = (.ok record, between) →
        ∀ later : Occasion, ∃ repeated after,
          between.saveAccount later account = (.ok repeated, after) ∧
            between.SameButUpdated uid after

/-- Whether changes of key pairs of a store compose. -/
def ComposesKeys (store : Store) : Prop :=
  ∀ {kid first second middle between record after} {earlier later : Occasion},
    first.kid = some kid → second.kid = some kid →
      store.saveKey earlier first = (.ok middle, between) →
        between.saveKey later second = (.ok record, after) →
          ∀ occasion : Occasion, occasion.now = later.now →
            store.saveKey occasion (second.laidOver first) = (.ok record, after)

namespace Ledger

/-- Whether a changed record is refused does not depend on the account that it changes. -/
theorem refusesChange_setAccount_iff
    (ledger : Ledger)
    (uid : String)
    (account : Option Account)
    (record : Account) :
    (ledger.setAccount uid account).RefusesChange uid record ↔ ledger.RefusesChange uid record := by
  have others (other : String) (differs : some other ≠ some uid) :
      (ledger.setAccount uid account).accounts other = ledger.accounts other := by
    rw [accounts_setAccount, if_neg (by simpa using differs)]
  refine and_congr_right fun _ => exists_congr fun email => and_congr_right fun _ => ?_
  constructor
  · rintro ⟨other, found, present, live, hasEmail, differs⟩
    exact ⟨other, found, others other differs ▸ present, live, hasEmail, differs⟩
  · rintro ⟨other, found, present, live, hasEmail, differs⟩
    exact ⟨other, found, (others other differs).symm ▸ present, live, hasEmail, differs⟩

end Ledger

namespace Shows

/-- Two records saved in turn are merged with the stored one at once. -/
theorem of_savesInTurn
    (showing : store.Shows ledger)
    (sound : ledger.Sound)
    {uid : String}
    {first second record : Account}
    {earlier later : Occasion}
    {after : Store}
    (firstNamed : first.uid = some uid)
    (secondNamed : second.uid = some uid)
    (saves : store.SavesInTurn (earlier, first) (later, second) record after) :
    ∃ stored, ledger.accounts uid = some stored ∧
      (second.laidOver first).prepareUpdate stored later.now = record ∧
      ¬ ledger.RefusesChange uid record ∧
      after = store.withAccount uid record ∧
      after.Shows (ledger.setAccount uid (some record)) := by
  obtain ⟨middle, between, firstSaves, secondSaves⟩ := saves
  obtain ⟨stored, present, rfl, _, rfl, betweenShows, betweenSound⟩ :=
    showing.of_saveAccount sound firstNamed firstSaves
  obtain ⟨_, middlePresent, rfl, accepted, rfl, afterShows, _⟩ :=
    betweenShows.of_saveAccount betweenSound secondNamed secondSaves
  rw [Ledger.accounts_setAccount, if_pos rfl] at middlePresent
  obtain rfl := Option.some.inj middlePresent
  rw [Ledger.refusesChange_setAccount_iff] at accepted
  rw [Ledger.setAccount_setAccount] at afterShows
  rw [Account.prepareUpdate_prepareUpdate] at accepted afterShows ⊢
  exact ⟨stored, present, rfl, accepted, withAccount_withAccount store uid _ _, afterShows⟩

/-- Stores with two records in the row of a uid, alike but for their times, differ in that time. -/
theorem sameButUpdated
    {first second : Store}
    {uid : String}
    {record other : Account}
    {now : Instant}
    (firstShows : first.Shows (ledger.setAccount uid (some record)))
    (secondShows : second.Shows (ledger.setAccount uid (some other)))
    (isSecond : second = first.withAccount uid other)
    (alike : other = { record with updated := some now }) :
    first.SameButUpdated uid second := by
  refine ⟨?_, record, now, ?_, ?_⟩
  · rw [isSecond]
    exact firstShows.sameBut_withAccount uid other
  · rw [firstShows.storedAccount?_eq, Ledger.accounts_setAccount, if_pos rfl]
    rfl
  · rw [secondShows.storedAccount?_eq, Ledger.accounts_setAccount, if_pos rfl, alike]
    rfl

end Shows

/-- A store that has saved an account is open. -/
theorem isOpen_of_saveAccount
    {occasion : Occasion}
    {account record : Account}
    {after : Store}
    (saves : store.saveAccount occasion account = (.ok record, after)) :
    store.isOpen = true := by
  by_contra closed
  rw [saveAccount, saveLentAccount, saved_withLent,
    run_write_of_closed (Bool.eq_false_iff.mpr closed)] at saves
  cases saves

theorem SavesInTurn.isOpen
    {first second : Occasion × Account}
    {record : Account}
    {after : Store}
    (saves : store.SavesInTurn first second record after) :
    store.isOpen = true := by
  obtain ⟨_, _, firstSaves, _⟩ := saves
  exact isOpen_of_saveAccount firstSaves

/-- A store that has saved a key pair is open. -/
theorem isOpen_of_saveKey
    {occasion : Occasion}
    {key record : KeyPair}
    {after : Store}
    (saves : store.saveKey occasion key = (.ok record, after)) :
    store.isOpen = true := by
  by_contra closed
  rw [saveKey, saveLentKey, saved_withLent,
    run_write_of_closed (Bool.eq_false_iff.mpr closed)] at saves
  cases saves

/-- Changes of accounts of a sound store compose. -/
theorem IsSound.composesAccounts (sound : store.IsSound) : store.ComposesAccounts where
  composes := by
    intro uid first second earlier later record after firstNamed secondNamed saves occasion sameTime
    obtain ⟨ledger, showing, ledgerSound⟩ := sound.exists_shows saves.isOpen
    obtain ⟨stored, present, rfl, accepted, rfl, _⟩ :=
      showing.of_savesInTurn ledgerSound firstNamed secondNamed saves
    have named : (second.laidOver first).uid = some uid := secondNamed
    rw [← sameTime] at accepted ⊢
    exact showing.saveAccount_eq_ok ledgerSound present occasion named rfl accepted
  commutes := by
    intro uid first second record after other otherAfter one two three four firstNamed secondNamed
      apart saves otherSaves
    obtain ⟨ledger, showing, ledgerSound⟩ := sound.exists_shows saves.isOpen
    obtain ⟨stored, present, isRecord, _, rfl, afterShows⟩ :=
      showing.of_savesInTurn ledgerSound firstNamed secondNamed saves
    obtain ⟨_, samePresent, isOther, _, isOtherAfter, otherShows⟩ :=
      showing.of_savesInTurn ledgerSound secondNamed firstNamed otherSaves
    obtain rfl := Option.some.inj (present.symm.trans samePresent)
    rw [Account.prepareUpdate_laidOver_comm apart stored two.now four.now, isRecord] at isOther
    rw [← withAccount_withAccount store uid record other] at isOtherAfter
    exact afterShows.sameButUpdated otherShows isOtherAfter isOther.symm
  repeats := by
    intro uid account record between earlier named saves later
    obtain ⟨ledger, showing, ledgerSound⟩ := sound.exists_shows (isOpen_of_saveAccount saves)
    obtain ⟨stored, present, isRecord, accepted, -, betweenShows, betweenSound⟩ :=
      showing.of_saveAccount ledgerSound named saves
    have middlePresent : (ledger.setAccount uid (some record)).accounts uid = some record := by
      rw [Ledger.accounts_setAccount, if_pos rfl]
    have prepared : account.prepareUpdate record later.now =
        { record with updated := some later.now } := by
      rw [← isRecord, Account.prepareUpdate_prepareUpdate, Account.laidOver_self]
      rfl
    have stillAccepted : ¬ (ledger.setAccount uid (some record)).RefusesChange uid
        { record with updated := some later.now } :=
      mt (Ledger.refusesChange_setAccount_iff ledger uid (some record) _).mp accepted
    have repeats :=
      betweenShows.saveAccount_eq_ok betweenSound middlePresent later named prepared stillAccepted
    obtain ⟨_, _, _, _, isAfter, afterShows, _⟩ :=
      betweenShows.of_saveAccount betweenSound named repeats
    rw [Ledger.setAccount_setAccount] at afterShows
    exact ⟨_, _, repeats, betweenShows.sameButUpdated afterShows rfl rfl⟩

/-- Changes of key pairs of a sound store compose. -/
theorem IsSound.composesKeys (sound : store.IsSound) : store.ComposesKeys := by
  intro kid first second middle between record after earlier later firstNamed secondNamed
    firstSaves secondSaves occasion sameTime
  obtain ⟨ledger, showing, ledgerSound⟩ := sound.exists_shows (isOpen_of_saveKey firstSaves)
  have wrote := showing.saveKey ledgerSound earlier first
  rw [firstSaves, Ledger.saveKey, firstNamed] at wrote
  dsimp only at wrote
  cases present : ledger.keys kid with
  | none =>
      rw [present] at wrote
      cases wrote.outcome
  | some stored =>
      rw [present] at wrote
      have betweenShows := wrote.shows
      have betweenSound := ledgerSound.saveKey earlier.now first
      rw [Ledger.saveKey, firstNamed] at betweenSound
      dsimp only at betweenSound betweenShows
      rw [present] at betweenSound
      have middlePresent :
          (ledger.setKey kid (some (first.prepareUpdate stored earlier.now))).keys kid =
            some (first.prepareUpdate stored earlier.now) := by
        rw [Ledger.keys_setKey, if_pos rfl]
      have firstSaved := showing.saveKey_eq_ok ledgerSound present earlier firstNamed rfl
      obtain ⟨-, rfl⟩ := Prod.mk.inj (firstSaves.symm.trans firstSaved)
      have secondSaved :=
        betweenShows.saveKey_eq_ok betweenSound middlePresent later secondNamed
          (KeyPair.prepareUpdate_prepareUpdate first second stored earlier.now later.now)
      rw [withKey_withKey] at secondSaved
      have named : (second.laidOver first).kid = some kid := secondNamed
      have atOnce := showing.saveKey_eq_ok ledgerSound present occasion named rfl
      rw [sameTime] at atOnce
      exact atOnce.trans (secondSaved.symm.trans secondSaves)

/--
Changes of stored records compose, in every store that runs reach.

What two of them do in turn, one does at once, and leaves the very same tables.
-/
theorem updates_compose
    (rowless : store.Rowless)
    (calls : List (Occasion × Call)) :
    (store.run calls).ComposesAccounts ∧ (store.run calls).ComposesKeys :=
  have sound : (store.run calls).IsSound := rowless.isSound.run calls
  ⟨sound.composesAccounts, sound.composesKeys⟩

/-- An account that is renamed and then given another email might have been changed at once. -/
theorem updates_compose_renamed :
    let drawing (uid : String) : Occasion := ⟨.start, uid, [], .mk fun _ => none⟩
    let ada := { Account.blank with email := .value "ada@example.org" }
    let calls : List (Occasion × Call) :=
      [(drawing "", .dial ⟨none, 0⟩), (drawing "first", .saveAccount ada)]
    let store := (Store.memory .initial).run calls
    let renamed := { Account.blank with uid := some "first", name := .value "Ada", active := .null }
    let moved := { Account.blank with uid := some "first", email := .value "ada@example.com" }
    (Store.memory .initial).Rowless ∧
      ∃ record after,
        store.SavesInTurn (drawing "", renamed) (drawing "", moved) record after ∧
          store.saveAccount (drawing "") (moved.laidOver renamed) = (.ok record, after) := by
  intro drawing ada calls store renamed moved
  have rowless : (Store.memory .initial).Rowless := by
    rintro tables ⟨⟩
  have saves : store.SavesInTurn (drawing "", renamed) (drawing "", moved) _ _ :=
    ⟨_, _, rfl, rfl⟩
  exact ⟨rowless, _, _, saves,
    (updates_compose rowless calls).1.composes rfl rfl saves (drawing "") rfl⟩

end Store

end Credential
