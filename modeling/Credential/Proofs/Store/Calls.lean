import Credential.Proofs.Store.Database
import Credential.Proofs.Store.Memory
import Credential.Store.Call

/-!
# Calls follow the ledger

What one call does is said on ledgers, and every call on a connected store of
either backend does it.
-/

namespace Credential.Store

open Credential.Time (Instant)

variable {Result : Type}

/-! ## Calls on ledgers -/

/-- Whether a call is about the tables, and not about the connection. -/
def Call.IsOnTables : Call → Prop
  | .dial _ | .close => False
  | _ => True

/-- The place that a call writes at, if it writes. -/
def Call.place? (occasion : Occasion) : Call → Option Place
  | .saveAccount account => some (.account (account.uid.getD occasion.uid))
  | .deleteAccount uid => some (.account uid)
  | .saveKey key => some (.key (key.kid.getD key.accountId))
  | .deleteKey kid => some (.key kid)
  | .saveToken uid _ => some (.token uid)
  | .deleteToken uid => some (.token uid)
  | _ => none

namespace Ledger

/-- Whether a live account of a ledger has a text for its uid, email or name. -/
def HasLiveFor (ledger : Ledger) (query : String) : Prop :=
  ∃ uid account, ledger.accounts uid = some account ∧ account.IsLiveFor query

/-- The answer to an operation, and the ledger that it leaves. -/
def answered
    (answer : Result → Answer)
    (operation : Except Error Result × Ledger) :
    Except Error Answer × Ledger :=
  (operation.1.map answer, operation.2)

/-- Whether a call on a ledger may be answered by an outcome and leave another ledger. -/
def Performs
    (ledger : Ledger)
    (backend : Backend)
    (occasion : Occasion)
    (call : Call)
    (outcome : Except Error Answer)
    (after : Ledger) :
    Prop :=
  match call with
  | .dial _ | .close => False
  | .loadAllAccounts =>
      after = ledger ∧ ∃ records,
        ListsByCreation backend Account.created ledger.accounts records ∧
          outcome = .ok (.accounts records)
  | .loadAccount uid =>
      after = ledger ∧ outcome = (found .accountNotFound (ledger.accounts uid)).map .account
  | .accountByEmail email =>
      after = ledger ∧ ∃ result,
        Table.Finds ledger.accounts (Account.IsLiveWith email) .emailNotFound result ∧
          outcome = result.map .account
  | .saveAccount account =>
      (outcome, after) = answered .account (ledger.saveAccount backend occasion account)
  | .deleteAccount uid => (outcome, after) = answered (fun _ => .done) (ledger.deleteAccount uid)
  | .existsAccount query =>
      after = ledger ∧ ∃ flag,
        (flag = true ↔ ledger.HasLiveFor query) ∧ outcome = .ok (.flag flag)
  | .loadAllKeys =>
      after = ledger ∧ ∃ records,
        ListsByCreation backend KeyPair.created ledger.keys records ∧ outcome = .ok (.keys records)
  | .loadKey kid => after = ledger ∧ outcome = (found .keyNotFound (ledger.keys kid)).map .key
  | .keyByAccount accountId =>
      after = ledger ∧ outcome = (found .keyNotFound (ledger.keys accountId)).map .key
  | .keyByPublic octets =>
      after = ledger ∧ ∃ result,
        Table.Finds ledger.keys (fun key => Text.Utf8.encode key.pubKey = octets) .keyNotFound
            result ∧
          outcome = result.map .key
  | .saveKey key => (outcome, after) = answered .key (ledger.saveKey occasion.now key)
  | .deleteKey kid => (outcome, after) = answered (fun _ => .done) (ledger.deleteKey kid)
  | .existsKey kid => after = ledger ∧ outcome = .ok (.flag (ledger.keys kid).isSome)
  | .loadToken uid =>
      after = ledger ∧ outcome = (found .tokenNotFound (ledger.tokens uid)).map .token
  | .saveToken uid token => (outcome, after) = answered (fun _ => .done) (ledger.putToken uid token)
  | .deleteToken uid => (outcome, after) = answered (fun _ => .done) (ledger.deleteToken uid)
  | .existsToken uid => after = ledger ∧ outcome = .ok (.flag (ledger.tokens uid).isSome)

/-- Every call keeps a ledger sound. -/
theorem Sound.performs
    {ledger after : Ledger}
    {backend : Backend}
    {occasion : Occasion}
    {call : Call}
    {outcome : Except Error Answer}
    (sound : ledger.Sound)
    (performs : ledger.Performs backend occasion call outcome after) :
    after.Sound := by
  cases call with
  | dial dialing => exact performs.elim
  | close => exact performs.elim
  | saveAccount account =>
      rw [(Prod.mk.inj performs).2]
      exact sound.saveAccount backend occasion account
  | deleteAccount uid =>
      rw [(Prod.mk.inj performs).2]
      exact sound.deleteAccount uid
  | saveKey key =>
      rw [(Prod.mk.inj performs).2]
      exact sound.saveKey occasion.now key
  | deleteKey kid =>
      rw [(Prod.mk.inj performs).2]
      exact sound.deleteKey kid
  | saveToken uid token =>
      rw [(Prod.mk.inj performs).2]
      exact sound.putToken uid token
  | deleteToken uid =>
      rw [(Prod.mk.inj performs).2]
      exact sound.deleteToken uid
  | _ =>
      rw [performs.1]
      exact sound

end Ledger

/-! ## Databases on a disk -/

namespace Disk

variable {disk : Disk} {path : String} {tables : Database}

/-- The database that is kept is found. -/
@[simp] theorem database?_put_self (disk : Disk) (path : String) (tables : Database) :
    (disk.put path tables).database? path = some tables := by
  rw [database?, put, Table.get?_insert_self]
  rcases disk.files.get? path with _ | _ | _ | _ <;> rfl

/-- Keeping the database that is there changes nothing. -/
theorem put_eq_self (content : disk.database? path = some tables) :
    disk.put path tables = disk := by
  obtain ⟨found, isFound, holds⟩ := Option.bind_eq_some_iff.mp content
  refine congrArg Disk.mk (Table.insert_eq_self ?_)
  rw [isFound]
  cases found with
  | database tables =>
      cases holds
      rfl
  | foreign => cases holds
  | passing tables =>
      cases holds
      rfl

/-- Of two databases that are kept for a path, the later one stays. -/
theorem put_put (disk : Disk) (path : String) (first second : Database) :
    (disk.put path first).put path second = disk.put path second := by
  rw [put, put, Table.get?_insert_self, Table.insert_insert, put]
  rcases disk.files.get? path with _ | _ | _ | _ <;> rfl

/-- Keeping a database leaves the other paths alone. -/
theorem sameBut_put (disk : Disk) (path : String) (tables : Database) :
    disk.files.SameBut path (disk.put path tables).files :=
  .insert disk.files _

end Disk

/-! ## Connected stores -/

/-- The kind of a store. -/
def backend : Store → Backend
  | .memory _ => .memory
  | .database _ => .database

/-- Whether a store is connected, and its tables hold the records of a ledger. -/
inductive Shows : Store → Ledger → Prop where
  | memory
      {tables : MemoryTables}
      {ledger : Ledger}
      (showing : tables.Shows memoryHolding ledger) :
      Shows (.memory ⟨some tables⟩) ledger
  | database
      {path : String}
      {disk : Disk}
      {tables : Database}
      {ledger : Ledger}
      (content : disk.database? path = some tables)
      (showing : tables.Shows databaseHolding ledger) :
      Shows (.database ⟨some path, disk⟩) ledger

/-- Whether stores are of one kind and connected alike, and differ in one place at most. -/
inductive SameBut (place : Place) : Store → Store → Prop where
  | memory
      {before after : MemoryTables}
      (tables : before.SameBut place after) :
      SameBut place (.memory ⟨some before⟩) (.memory ⟨some after⟩)
  | database
      {path : String}
      {before after : Disk}
      {beforeTables afterTables : Database}
      (beforeContent : before.database? path = some beforeTables)
      (afterContent : after.database? path = some afterTables)
      (files : before.files.SameBut path after.files)
      (tables : beforeTables.SameBut place afterTables) :
      SameBut place (.database ⟨some path, before⟩) (.database ⟨some path, after⟩)

/-- Whether a write at a place, if it fails, changed nothing, and else nothing elsewhere. -/
def WritesAt (place : Place) (before : Store) (result : Except Error Result × Store) : Prop :=
  match result with
  | (.error _, after) => after = before
  | (.ok _, after) => before.SameBut place after

/-- What the row of a uid among the accounts of a store reads as, if there is one. -/
def storedAccount? (store : Store) (uid : String) : Option (Except Error Account) :=
  match store with
  | .memory store => (store.tables.bind (·.accounts.get? uid)).map .ok
  | .database store => (store.database?.bind (·.accounts.get? uid)).map AccountRow.toAccount

/-- What the row of a key id among the key pairs of a store reads as, if there is one. -/
def storedKey? (store : Store) (kid : String) : Option (Except Error KeyPair) :=
  match store with
  | .memory store => (store.tables.bind (·.keys.get? kid)).map .ok
  | .database store => (store.database?.bind (·.keys.get? kid)).map KeyRow.toKey

/-- The token in the row of a uid among the tokens of a store, if there is one. -/
def storedToken? (store : Store) (uid : String) : Option String :=
  match store with
  | .memory store => store.tables.bind (·.tokens.get? uid)
  | .database store => (store.database?.bind (·.tokens.get? uid)).map TokenRow.token

/-- What a write on a connected store does, given what it does to the ledger. -/
structure Wrote
    (place : Place)
    (before : Store)
    (operation : Except Error Result × Ledger)
    (result : Except Error Result × Store) :
    Prop where
  outcome : result.1 = operation.1
  shows : result.2.Shows operation.2
  backend : result.2.backend = before.backend
  frame : before.WritesAt place result

/-- What a call on a connected store does, given what it does to the ledger. -/
structure Performed
    (before : Store)
    (occasion : Occasion)
    (call : Call)
    (ledger after : Ledger)
    (result : Except Error Answer × Store) :
    Prop where
  performs : ledger.Performs before.backend occasion call result.1 after
  shows : result.2.Shows after
  backend : result.2.backend = before.backend
  frame :
    match call.place? occasion with
    | none => result.2 = before
    | some place => before.WritesAt place result

variable {store : Store} {ledger : Ledger}

/-- A lent record gets what the work comes to, and fails as the work fails. -/
theorem saved_withLent
    {Record : Type}
    (work : Record → Step Store Record)
    (store : Store)
    (record : Record) :
    saved (.withLent work) store record = (work record).run store := by
  rw [saved]
  rcases ran : (work record).run store with ⟨error | result, after⟩
  · rw [Step.run_withLent_of_error ran]
    rfl
  · rw [Step.run_withLent_of_ok ran]
    rfl

/-- A store that has a path open has the database of the path. -/
@[simp] theorem DatabaseStore.database?_mk (path : String) (disk : Disk) :
    (DatabaseStore.mk (some path) disk).database? = disk.database? path :=
  rfl

/-- The open database is the one of the open path. -/
theorem DatabaseStore.database?_eq_some_iff
    {store : DatabaseStore}
    {tables : Database} :
    store.database? = some tables ↔
      ∃ path, store.opened = some path ∧ store.disk.database? path = some tables :=
  Option.bind_eq_some_iff

/-- A step on a database keeps what the step leaves. -/
theorem DatabaseStore.run_write
    {path : String}
    {disk : Disk}
    {tables : Database}
    (content : disk.database? path = some tables)
    (step : Step Database Result) :
    (DatabaseStore.write step).run ⟨some path, disk⟩ =
      ((step.run tables).1, ⟨some path, disk.put path (step.run tables).2⟩) := by
  simp only [Step.run, DatabaseStore.write, DatabaseStore.database?_mk, content]

/-- A write on a store in a database is carried out there. -/
theorem run_write_database
    (memory : Step MemoryTables Result)
    (database : Step Database Result)
    (store : DatabaseStore) :
    (write memory database).run (.database store) =
      (((DatabaseStore.write database).run store).1,
        .database ((DatabaseStore.write database).run store).2) :=
  rfl

/-- A write does to a store what both of its steps do to the ledger. -/
theorem Shows.wrote
    {memory : Step MemoryTables Result}
    {database : Step Database Result}
    {place : Place}
    {operation : Except Error Result × Ledger}
    (showing : store.Shows ledger)
    (memoryFollows : store.backend = .memory →
      memory.Follows memoryHolding place ledger operation)
    (databaseFollows : store.backend = .database →
      database.Follows databaseHolding place ledger operation) :
    Wrote place store operation ((write memory database).run store) := by
  cases showing with
  | @memory tables ledger tablesShow =>
      obtain ⟨outcome, shows, frame⟩ := memoryFollows rfl tables tablesShow
      have ran : (write memory database).run (.memory ⟨some tables⟩) =
          ((memory.run tables).1, .memory ⟨some (memory.run tables).2⟩) := rfl
      rw [ran]
      generalize memory.run tables = result at outcome shows frame
      obtain ⟨_ | _, after⟩ := result
      · obtain rfl : after = tables := frame
        exact ⟨outcome, .memory shows, rfl, rfl⟩
      · exact ⟨outcome, .memory shows, rfl, .memory frame⟩
  | @database path disk tables ledger content tablesShow =>
      obtain ⟨outcome, shows, frame⟩ := databaseFollows rfl tables tablesShow
      have ran : (write memory database).run (.database ⟨some path, disk⟩) =
          ((database.run tables).1,
            .database ⟨some path, disk.put path (database.run tables).2⟩) := by
        have inFile := DatabaseStore.run_write content database
        rw [run_write_database, inFile]
      rw [ran]
      generalize database.run tables = result at outcome shows frame
      have inside := disk.database?_put_self path result.2
      obtain ⟨_ | _, after⟩ := result
      · obtain rfl : after = tables := frame
        exact ⟨outcome, .database inside shows, rfl, by rw [Disk.put_eq_self content]; rfl⟩
      · exact ⟨outcome, .database inside shows, rfl,
          .database content inside (disk.sameBut_put path after) frame⟩

/-- A write with its result as an answer is a call. -/
theorem Wrote.performed
    {place : Place}
    {operation : Except Error Result × Ledger}
    {result : Except Error Result × Store}
    {occasion : Occasion}
    {call : Call}
    {answer : Result → Answer}
    (wrote : Wrote place store operation result)
    (isWrite : call.place? occasion = some place)
    (performs : ∀ outcome after, (outcome, after) = Ledger.answered answer operation →
      ledger.Performs store.backend occasion call outcome after) :
    Performed store occasion call ledger operation.2 (changed answer result) where
  performs := performs _ _ (by rw [changed, Ledger.answered, wrote.outcome])
  shows := wrote.shows
  backend := wrote.backend
  frame := by
    rw [isWrite]
    obtain ⟨_ | _, after⟩ := result
    · exact wrote.frame
    · exact wrote.frame

namespace Shows

/-! ## Reading -/

/-- A store reads from the tables of its backend, and they show the ledger. -/
theorem read_eq (showing : store.Shows ledger) :
    (∃ tables : MemoryTables, store.backend = .memory ∧ tables.Shows memoryHolding ledger ∧
      ∀ {Result : Type} (memory : MemoryTables → Except Error Result) database,
        store.read memory database = memory tables) ∨
    (∃ tables : Database, store.backend = .database ∧ tables.Shows databaseHolding ledger ∧
      ∀ {Result : Type} memory (database : Database → Except Error Result),
        store.read memory database = database tables) := by
  cases showing with
  | @memory tables ledger tablesShow =>
      exact Or.inl ⟨tables, rfl, tablesShow, fun _ _ => rfl⟩
  | @database path disk tables ledger content tablesShow =>
      refine Or.inr ⟨tables, rfl, tablesShow, fun _ database => ?_⟩
      rw [Store.read, DatabaseStore.read, DatabaseStore.database?_mk, content]

/-- All accounts are listed in the order of their creation. -/
theorem lists_loadAllAccounts (showing : store.Shows ledger) :
    ∃ records,
      Ledger.ListsByCreation store.backend Account.created ledger.accounts records ∧
        store.loadAllAccounts = .ok records := by
  rw [loadAllAccounts]
  rcases showing.read_eq with ⟨tables, kind, tablesShow, reads⟩ | ⟨tables, kind, tablesShow, reads⟩
  · rw [kind, reads]
    exact ⟨_, MemoryTables.listsByCreation_mergeSort tablesShow.accounts Account.created, rfl⟩
  · rw [kind, reads]
    have written : ∀ (row : AccountRow) (account : Account), row.Holds account →
        ∃ instant, account.created = some instant ∧ row.created = columnText instant := by
      intro row account held
      obtain ⟨created, updated, _, _, rfl⟩ := AccountRow.toAccount_eq_ok_iff.mp held.reads
      exact ⟨created, rfl, held.written created rfl⟩
    obtain ⟨records, read, lists⟩ :=
      Database.listsByCreation_mergeSort tablesShow.accounts
        (fun _ _ held => AccountRow.Holds.reads held) written
    exact ⟨records, lists, read⟩

/-- All key pairs are listed in the order of their creation. -/
theorem lists_loadAllKeys (showing : store.Shows ledger) :
    ∃ records,
      Ledger.ListsByCreation store.backend KeyPair.created ledger.keys records ∧
        store.loadAllKeys = .ok records := by
  rw [loadAllKeys]
  rcases showing.read_eq with ⟨tables, kind, tablesShow, reads⟩ | ⟨tables, kind, tablesShow, reads⟩
  · rw [kind, reads]
    exact ⟨_, MemoryTables.listsByCreation_mergeSort tablesShow.keys KeyPair.created, rfl⟩
  · rw [kind, reads]
    have written : ∀ (row : KeyRow) (key : KeyPair), row.Holds key →
        ∃ instant, key.created = some instant ∧ row.created = columnText instant := by
      intro row key held
      obtain ⟨created, updated, _, _, rfl⟩ := KeyRow.toKey_eq_ok_iff.mp held.reads
      exact ⟨created, rfl, held.written created rfl⟩
    obtain ⟨records, read, lists⟩ :=
      Database.listsByCreation_mergeSort tablesShow.keys
        (fun _ _ held => KeyRow.Holds.reads held) written
    exact ⟨records, lists, read⟩

/-- The account of a uid is the one of the ledger. -/
theorem loadAccount_eq (showing : store.Shows ledger) (uid : String) :
    store.loadAccount uid = found .accountNotFound (ledger.accounts uid) := by
  rw [loadAccount]
  rcases showing.read_eq with ⟨tables, _, tablesShow, reads⟩ | ⟨tables, _, tablesShow, reads⟩
  · rw [reads, MemoryTables.get?_of_shows tablesShow.accounts]
  · rw [reads]
    exact Database.account?_eq tablesShow uid

/-- The live account of an email is found. -/
theorem finds_accountByEmail (showing : store.Shows ledger) (email : String) :
    Table.Finds ledger.accounts (Account.IsLiveWith email) .emailNotFound
      (store.accountByEmail email) := by
  rw [accountByEmail]
  rcases showing.read_eq with ⟨tables, _, tablesShow, reads⟩ | ⟨tables, _, tablesShow, reads⟩
  · rw [reads]
    exact MemoryTables.finds_accountByEmail? tablesShow email
  · rw [reads]
    exact Database.finds_accountByEmail tablesShow email

/-- The test for a live account with a text always has an answer. -/
theorem decides_existsAccount (showing : store.Shows ledger) (query : String) :
    ∃ flag, (flag = true ↔ ledger.HasLiveFor query) ∧ store.existsAccount query = .ok flag := by
  rw [existsAccount]
  rcases showing.read_eq with ⟨tables, _, tablesShow, reads⟩ | ⟨tables, _, tablesShow, reads⟩
  · rw [reads]
    exact ⟨_, MemoryTables.existsAccount_iff tablesShow query, rfl⟩
  · rw [reads]
    exact ⟨_, Database.existsAccount_iff tablesShow query, rfl⟩

/-- The key pair of a key id is the one of the ledger. -/
theorem loadKey_eq (showing : store.Shows ledger) (kid : String) :
    store.loadKey kid = found .keyNotFound (ledger.keys kid) := by
  rw [loadKey]
  rcases showing.read_eq with ⟨tables, _, tablesShow, reads⟩ | ⟨tables, _, tablesShow, reads⟩
  · rw [reads, MemoryTables.get?_of_shows tablesShow.keys]
  · rw [reads]
    exact Database.key?_eq tablesShow kid

/-- The key pair of an account is the one under its uid. -/
theorem keyByAccount_eq
    (showing : store.Shows ledger)
    (sound : ledger.Sound)
    (accountId : String) :
    store.keyByAccount accountId = found .keyNotFound (ledger.keys accountId) := by
  rw [keyByAccount]
  rcases showing.read_eq with ⟨tables, _, tablesShow, reads⟩ | ⟨tables, _, tablesShow, reads⟩
  · rw [reads]
    exact MemoryTables.found_keyByAccount? tablesShow sound accountId
  · rw [reads]
    exact Database.findKey_accountId_eq tablesShow sound accountId

/-- A key pair whose public half is written by some octets is found. -/
theorem finds_keyByPublic (showing : store.Shows ledger) (octets : Text.Octets) :
    Table.Finds ledger.keys (fun key => Text.Utf8.encode key.pubKey = octets) .keyNotFound
      (store.keyByPublic octets) := by
  cases showing with
  | @memory tables ledger tablesShow => exact MemoryTables.finds_keyByPublic? tablesShow octets
  | @database path disk tables ledger content tablesShow =>
      rw [keyByPublic]
      cases decoded : Text.Utf8.decode? octets with
      | none =>
          -- Octets that spell no text are not those of any public half.
          refine Or.inr ⟨fun kid key _ same => ?_, rfl⟩
          rw [← same, Text.Utf8.decode?_encode] at decoded
          cases decoded
      | some text =>
          dsimp only
          rw [DatabaseStore.read, DatabaseStore.database?_mk, content,
            ← Text.Utf8.encode_of_decode? decoded]
          exact Database.finds_findKey_pubKey tablesShow text

/-- There is a key pair of a key id if the ledger has one. -/
theorem existsKey_eq (showing : store.Shows ledger) (kid : String) :
    store.existsKey kid = .ok (ledger.keys kid).isSome := by
  rw [existsKey]
  rcases showing.read_eq with ⟨tables, _, tablesShow, reads⟩ | ⟨tables, _, tablesShow, reads⟩
  · rw [reads, tablesShow.keys.contains_eq]
  · rw [reads, tablesShow.keys.contains_eq]

/-- The token of an account is the one of the ledger. -/
theorem loadToken_eq (showing : store.Shows ledger) (uid : String) :
    store.loadToken uid = found .tokenNotFound (ledger.tokens uid) := by
  rw [loadToken]
  rcases showing.read_eq with ⟨tables, _, tablesShow, reads⟩ | ⟨tables, _, tablesShow, reads⟩
  · rw [reads, MemoryTables.get?_of_shows tablesShow.tokens]
  · rw [reads]
    exact Database.token_eq tablesShow uid

/-- There is a token for an account if the ledger has one. -/
theorem existsToken_eq (showing : store.Shows ledger) (uid : String) :
    store.existsToken uid = .ok (ledger.tokens uid).isSome := by
  rw [existsToken]
  rcases showing.read_eq with ⟨tables, _, tablesShow, reads⟩ | ⟨tables, _, tablesShow, reads⟩
  · rw [reads, tablesShow.tokens.contains_eq]
  · rw [reads, tablesShow.tokens.contains_eq]

/-! ## Stored records -/

/-- The account that is stored under a uid is the one of the ledger. -/
theorem storedAccount?_eq (showing : store.Shows ledger) (uid : String) :
    store.storedAccount? uid = (ledger.accounts uid).map .ok := by
  cases showing with
  | memory tablesShow =>
      rw [storedAccount?, Option.bind_some, MemoryTables.get?_of_shows tablesShow.accounts]
  | database content tablesShow =>
      rw [storedAccount?, DatabaseStore.database?_mk, content, Option.bind_some]
      cases present : ledger.accounts uid with
      | none =>
          rw [tablesShow.accounts.get?_eq_none present]
          rfl
      | some account =>
          obtain ⟨row, found, held⟩ := tablesShow.accounts.of_view present
          rw [found]
          exact congrArg some held.reads

theorem storedAccount?_eq_some_iff
    (showing : store.Shows ledger)
    {uid : String}
    {account : Account} :
    store.storedAccount? uid = some (.ok account) ↔ ledger.accounts uid = some account := by
  rw [showing.storedAccount?_eq, Option.map_eq_some_iff]
  simp

/-- The key pair that is stored under a key id is the one of the ledger. -/
theorem storedKey?_eq (showing : store.Shows ledger) (kid : String) :
    store.storedKey? kid = (ledger.keys kid).map .ok := by
  cases showing with
  | memory tablesShow =>
      rw [storedKey?, Option.bind_some, MemoryTables.get?_of_shows tablesShow.keys]
  | database content tablesShow =>
      rw [storedKey?, DatabaseStore.database?_mk, content, Option.bind_some]
      cases present : ledger.keys kid with
      | none =>
          rw [tablesShow.keys.get?_eq_none present]
          rfl
      | some key =>
          obtain ⟨row, found, held⟩ := tablesShow.keys.of_view present
          rw [found]
          exact congrArg some held.reads

theorem storedKey?_eq_some_iff
    (showing : store.Shows ledger)
    {kid : String}
    {key : KeyPair} :
    store.storedKey? kid = some (.ok key) ↔ ledger.keys kid = some key := by
  rw [showing.storedKey?_eq, Option.map_eq_some_iff]
  simp

/-- The token that is stored under a uid is the one of the ledger. -/
theorem storedToken?_eq (showing : store.Shows ledger) (uid : String) :
    store.storedToken? uid = ledger.tokens uid := by
  cases showing with
  | memory tablesShow =>
      rw [storedToken?, Option.bind_some, MemoryTables.get?_of_shows tablesShow.tokens]
  | database content tablesShow =>
      rw [storedToken?, DatabaseStore.database?_mk, content, Option.bind_some]
      cases present : ledger.tokens uid with
      | none =>
          rw [tablesShow.tokens.get?_eq_none present]
          rfl
      | some token =>
          obtain ⟨row, found, held⟩ := tablesShow.tokens.of_view present
          rw [found]
          exact congrArg some held

/-! ## Writing -/

/-- Saving an account does what the operation on ledgers does. -/
theorem saveAccount
    (showing : store.Shows ledger)
    (sound : ledger.Sound)
    (occasion : Occasion)
    (account : Account) :
    Wrote (.account (account.uid.getD occasion.uid)) store
      (ledger.saveAccount store.backend occasion account)
      (store.saveAccount occasion account) := by
  rw [Store.saveAccount, saveLentAccount, saved_withLent]
  apply showing.wrote
  · intro kind
    rw [kind]
    exact MemoryTables.saveAccount_follows sound occasion account
  · intro kind
    rw [kind]
    exact Database.saveAccount_follows sound occasion account

/-- Saving a key pair does what the operation on ledgers does. -/
theorem saveKey
    (showing : store.Shows ledger)
    (sound : ledger.Sound)
    (occasion : Occasion)
    (key : KeyPair) :
    Wrote (.key (key.kid.getD key.accountId)) store (ledger.saveKey occasion.now key)
      (store.saveKey occasion key) := by
  rw [Store.saveKey, saveLentKey, saved_withLent]
  exact showing.wrote (fun _ => MemoryTables.saveKey_follows sound occasion.now key)
    (fun _ => Database.saveKey_follows sound occasion.now key)

/-- Removing an account does what the operation on ledgers does. -/
theorem deleteAccount (showing : store.Shows ledger) (uid : String) :
    Wrote (.account uid) store (ledger.deleteAccount uid) (store.deleteAccount uid) :=
  showing.wrote (fun _ => Tables.deleteAccount_follows uid) fun _ =>
    Tables.deleteAccount_follows uid

/-- Removing a key pair does what the operation on ledgers does. -/
theorem deleteKey (showing : store.Shows ledger) (kid : String) :
    Wrote (.key kid) store (ledger.deleteKey kid) (store.deleteKey kid) :=
  showing.wrote (fun _ => Tables.deleteKey_follows kid) fun _ => Tables.deleteKey_follows kid

/-- Removing a token does what the operation on ledgers does. -/
theorem deleteToken (showing : store.Shows ledger) (uid : String) :
    Wrote (.token uid) store (ledger.deleteToken uid) (store.deleteToken uid) :=
  showing.wrote (fun _ => Tables.deleteToken_follows uid) fun _ => Tables.deleteToken_follows uid

/-- Recording a token does what the operation on ledgers does. -/
theorem saveToken
    (showing : store.Shows ledger)
    (occasion : Occasion)
    (uid token : String) :
    Wrote (.token uid) store (ledger.putToken uid token)
      (store.saveToken occasion uid token) := by
  rw [Store.saveToken, Store.putToken, Ledger.putToken, Ledger.requireToken]
  rw [Step.run_ask_bind]
  cases require uid "uid" with
  | error error => exact ⟨rfl, showing, rfl, rfl⟩
  | ok _ =>
      dsimp only
      rw [Step.run_ask_bind]
      cases require token "token" with
      | error error => exact ⟨rfl, showing, rfl, rfl⟩
      | ok _ =>
          apply showing.wrote
          · intro _ tables tablesShow
            exact ⟨rfl, tablesShow.putToken uid rfl, tables.sameBut_putToken uid _⟩
          · intro _ tables tablesShow
            exact ⟨rfl, tablesShow.putToken uid rfl, tables.sameBut_putToken uid _⟩

/-! ## Calls -/

/-- Every call on the tables of a connected store does what it does to the ledger. -/
theorem perform
    (showing : store.Shows ledger)
    (sound : ledger.Sound)
    (occasion : Occasion)
    {call : Call}
    (onTables : call.IsOnTables) :
    ∃ after, Performed store occasion call ledger after (store.perform occasion call) := by
  cases call with
  | dial dialing => exact onTables.elim
  | close => exact onTables.elim
  | saveAccount account =>
      exact ⟨_, (showing.saveAccount sound occasion account).performed rfl fun _ _ same => same⟩
  | deleteAccount uid =>
      exact ⟨_, (showing.deleteAccount uid).performed rfl fun _ _ same => same⟩
  | saveKey key =>
      exact ⟨_, (showing.saveKey sound occasion key).performed rfl fun _ _ same => same⟩
  | deleteKey kid => exact ⟨_, (showing.deleteKey kid).performed rfl fun _ _ same => same⟩
  | saveToken uid token =>
      exact ⟨_, (showing.saveToken occasion uid token).performed rfl fun _ _ same => same⟩
  | deleteToken uid => exact ⟨_, (showing.deleteToken uid).performed rfl fun _ _ same => same⟩
  | loadAllAccounts =>
      obtain ⟨records, lists, read⟩ := showing.lists_loadAllAccounts
      refine ⟨ledger, ⟨rfl, records, lists, ?_⟩, showing, rfl, rfl⟩
      rw [Store.perform, read]
      rfl
  | loadAllKeys =>
      obtain ⟨records, lists, read⟩ := showing.lists_loadAllKeys
      refine ⟨ledger, ⟨rfl, records, lists, ?_⟩, showing, rfl, rfl⟩
      rw [Store.perform, read]
      rfl
  | existsAccount query =>
      obtain ⟨flag, decides, read⟩ := showing.decides_existsAccount query
      refine ⟨ledger, ⟨rfl, flag, decides, ?_⟩, showing, rfl, rfl⟩
      rw [Store.perform, read]
      rfl
  | loadAccount uid =>
      refine ⟨ledger, ⟨rfl, ?_⟩, showing, rfl, rfl⟩
      rw [Store.perform, showing.loadAccount_eq]
  | accountByEmail email =>
      exact ⟨ledger, ⟨rfl, _, showing.finds_accountByEmail email, rfl⟩, showing, rfl, rfl⟩
  | loadKey kid =>
      refine ⟨ledger, ⟨rfl, ?_⟩, showing, rfl, rfl⟩
      rw [Store.perform, showing.loadKey_eq]
  | keyByAccount accountId =>
      refine ⟨ledger, ⟨rfl, ?_⟩, showing, rfl, rfl⟩
      rw [Store.perform, showing.keyByAccount_eq sound]
  | keyByPublic octets =>
      exact ⟨ledger, ⟨rfl, _, showing.finds_keyByPublic octets, rfl⟩, showing, rfl, rfl⟩
  | existsKey kid =>
      refine ⟨ledger, ⟨rfl, ?_⟩, showing, rfl, rfl⟩
      rw [Store.perform, showing.existsKey_eq]
      rfl
  | loadToken uid =>
      refine ⟨ledger, ⟨rfl, ?_⟩, showing, rfl, rfl⟩
      rw [Store.perform, showing.loadToken_eq]
  | existsToken uid =>
      refine ⟨ledger, ⟨rfl, ?_⟩, showing, rfl, rfl⟩
      rw [Store.perform, showing.existsToken_eq]
      rfl

end Shows

end Credential.Store
