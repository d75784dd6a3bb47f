import Credential.Store.Call

/-!
# Stores without their secrets

The secrets of a store are the password hashes of its accounts and the private
halves of its key pairs.  A mask puts the same text in the place of all of them.
What is read from a store is masked as the store is: a mask and a look-up may be
exchanged.
-/

namespace Credential

open Credential.Text (Octets)

namespace KeyPair

/-- A key pair with its private half cleared. -/
def withoutPrivate (key : KeyPair) : KeyPair :=
  { key with privKey := "" }

@[simp] theorem kid_withoutPrivate (key : KeyPair) : key.withoutPrivate.kid = key.kid :=
  rfl

@[simp] theorem pubKey_withoutPrivate (key : KeyPair) : key.withoutPrivate.pubKey = key.pubKey :=
  rfl

@[simp] theorem active_withoutPrivate (key : KeyPair) : key.withoutPrivate.active = key.active :=
  rfl

@[simp] theorem toValue_withoutPrivate (key : KeyPair) : key.withoutPrivate.toValue = key.toValue :=
  rfl

end KeyPair

namespace Account

@[simp] theorem uid_withoutPassword (account : Account) :
    account.withoutPassword.uid = account.uid :=
  rfl

@[simp] theorem toValue_withoutPassword (account : Account) :
    account.withoutPassword.toValue = account.toValue :=
  rfl

@[simp] theorem validate_withoutPassword (account : Account) :
    account.withoutPassword.validate = account.validate :=
  rfl

@[simp] theorem isDeleted_withoutPassword (account : Account) :
    account.withoutPassword.isDeleted = account.isDeleted :=
  rfl

@[simp] theorem email?_withoutPassword (account : Account) :
    account.withoutPassword.email? = account.email? :=
  rfl

end Account

namespace Store

/-! ## Tables -/

namespace Table

variable {Row Other : Type}

/-- A table with every row changed. -/
def map (mask : Row → Other) (table : Table Row) : Table Other where
  entries := table.entries.map (Prod.map id mask)
  distinct := by simpa [Function.comp_def] using table.distinct

variable {mask : Row → Other}

@[simp] theorem get?_map (table : Table Row) (key : String) :
    (table.map mask).get? key = (table.get? key).map mask := by
  simp only [get?, map]
  induction table.entries with
  | nil => rfl
  | cons entry rest inductionHypothesis =>
      obtain ⟨name, row⟩ := entry
      simp only [List.map_cons, Prod.map_apply, id_eq, List.lookup_cons, inductionHypothesis]
      split <;> rfl

@[simp] theorem contains_map (table : Table Row) (key : String) :
    (table.map mask).contains key = table.contains key := by
  simp [contains]

@[simp] theorem rows_map (table : Table Row) : (table.map mask).rows = table.rows.map mask := by
  simp [rows, map]

theorem put_map (key : String) (row : Row) (entries : List (String × Row)) :
    (put key row entries).map (Prod.map id mask) =
      put key (mask row) (entries.map (Prod.map id mask)) := by
  induction entries with
  | nil => rfl
  | cons entry rest inductionHypothesis =>
      by_cases same : entry.1 = key
      · simp [put, same]
      · simp [put, same, inductionHypothesis]

@[simp] theorem map_insert (table : Table Row) (key : String) (row : Row) :
    (table.insert key row).map mask = (table.map mask).insert key (mask row) := by
  simp [map, insert, put_map]

@[simp] theorem map_erase (table : Table Row) (key : String) :
    (table.erase key).map mask = (table.map mask).erase key := by
  simp [map, erase, List.filter_map, Function.comp_def]

end Table

namespace AccountRow

/-- A row of the accounts with its password column cleared. -/
def withoutPassword (row : AccountRow) : AccountRow :=
  { row with password := none }

theorem toAccount_withoutPassword (row : AccountRow) :
    row.withoutPassword.toAccount = row.toAccount.map Account.withoutPassword := by
  simp only [toAccount, withoutPassword]
  cases columnInstant row.created with
  | error error => rfl
  | ok created => cases columnInstant row.updated <;> rfl

end AccountRow

namespace KeyRow

/-- A row of the key pairs with its private half cleared. -/
def withoutPrivate (row : KeyRow) : KeyRow :=
  { row with privKey := "" }

theorem toKey_withoutPrivate (row : KeyRow) :
    row.withoutPrivate.toKey = row.toKey.map KeyPair.withoutPrivate := by
  simp only [toKey, withoutPrivate]
  cases columnInstant row.created with
  | error error => rfl
  | ok created => cases columnInstant row.updated <;> rfl

end KeyRow

/-! ## Stores -/

/-- Tables without the secrets of their rows. -/
def Tables.masked
    {AccountRow KeyRow TokenRow : Type}
    (account : AccountRow → AccountRow)
    (key : KeyRow → KeyRow)
    (tables : Tables AccountRow KeyRow TokenRow) :
    Tables AccountRow KeyRow TokenRow :=
  ⟨tables.accounts.map account, tables.keys.map key, tables.tokens⟩

/-- The tables in memory without secrets. -/
def MemoryTables.masked : MemoryTables → MemoryTables :=
  Tables.masked Account.withoutPassword KeyPair.withoutPrivate

/-- A database without secrets. -/
def Database.masked : Database → Database :=
  Tables.masked AccountRow.withoutPassword KeyRow.withoutPrivate

/-- What is found under a path, without secrets. -/
def FileContent.masked : FileContent → FileContent
  | .database content => .database (Database.masked content)
  | .foreign => .foreign
  | .passing content => .passing (Database.masked content)

/-- A disk with all databases without secrets. -/
def Disk.masked (disk : Disk) : Disk :=
  ⟨disk.files.map FileContent.masked⟩

/-- The store in a database, with all databases without secrets. -/
def DatabaseStore.masked (store : DatabaseStore) : DatabaseStore :=
  { store with disk := store.disk.masked }

/-- A store without secrets: neither password hashes nor private halves. -/
def masked : Store → Store
  | .memory store => .memory ⟨store.tables.map MemoryTables.masked⟩
  | .database store => .database store.masked

@[simp] theorem status_masked (store : Store) : store.masked.status = store.status := by
  cases store with
  | memory store => simp [masked, status, MemoryStore.status]
  | database store => rfl

theorem Disk.database?_masked (disk : Disk) (path : String) :
    disk.masked.database? path = (disk.database? path).map Database.masked := by
  rw [database?, masked, Table.get?_map, database?]
  rcases disk.files.get? path with _ | _ | _ | _ <;> rfl

theorem Disk.masked_put (disk : Disk) (path : String) (tables : Database) :
    (disk.put path tables).masked = disk.masked.put path (Database.masked tables) := by
  rw [put, masked, Table.map_insert, put, masked, Table.get?_map]
  rcases disk.files.get? path with _ | _ | _ | _ <;> rfl

@[simp] theorem DatabaseStore.database?_masked (store : DatabaseStore) :
    store.masked.database? = store.database?.map Database.masked := by
  rcases store with ⟨_ | path, disk⟩
  · rfl
  · exact disk.database?_masked path

/-! ## Reading from a store -/

variable {Result : Type} {tell : Result → Result}

theorem DatabaseStore.read_masked
    {view : Database → Except Error Result}
    (reads : ∀ tables, view (Database.masked tables) = (view tables).map tell)
    (store : DatabaseStore) :
    store.masked.read view = (store.read view).map tell := by
  rw [DatabaseStore.read, DatabaseStore.read, DatabaseStore.database?_masked]
  cases store.database? with
  | none => rfl
  | some tables => exact reads tables

/-- What is read from a masked store is what is read from the store, masked. -/
theorem read_masked
    {memory : MemoryTables → Except Error Result}
    {database : Database → Except Error Result}
    (inMemory : ∀ tables, memory (MemoryTables.masked tables) = (memory tables).map tell)
    (inDatabase : ∀ tables, database (Database.masked tables) = (database tables).map tell)
    (store : Store) :
    store.masked.read memory database = (store.read memory database).map tell := by
  rcases store with ⟨_ | tables⟩ | store
  · rfl
  · exact inMemory tables
  · exact DatabaseStore.read_masked inDatabase store

theorem found_map (missing : Error) (row : Option Result) :
    found missing (row.map tell) = (found missing row).map tell := by
  cases row <;> rfl

/-- Rows are sorted alike if what is masked does not count. -/
theorem mergeSort_masked
    {Row : Type}
    {mask : Row → Row}
    {before : Row → Row → Bool}
    (blind : ∀ first second, before first second = before (mask first) (mask second))
    (rows : List Row) :
    (rows.map mask).mergeSort before = (rows.mergeSort before).map mask :=
  (List.map_mergeSort fun first _ second _ => blind first second).symm

/-- Reading rows one by one that are masked gives the masked records. -/
theorem mapM_masked
    {Row : Type}
    {mask : Row → Row}
    {read : Row → Except Error Result}
    (reads : ∀ row, read (mask row) = (read row).map tell)
    (rows : List Row) :
    (rows.map mask).mapM read = (rows.mapM read).map (List.map tell) := by
  induction rows with
  | nil => rfl
  | cons row rest inductionHypothesis =>
      rw [List.map_cons, List.mapM_cons, List.mapM_cons, reads, inductionHypothesis]
      cases read row with
      | error error => rfl
      | ok record => cases rest.mapM read <;> rfl

namespace Database

theorem account?_masked (tables : Database) (uid : String) :
    account? (masked tables) uid = (account? tables uid).map Account.withoutPassword := by
  simp only [account?, masked, Tables.masked, Table.get?_map]
  cases tables.accounts.get? uid with
  | none => rfl
  | some row => exact row.toAccount_withoutPassword

theorem key?_masked (tables : Database) (kid : String) :
    key? (masked tables) kid = (key? tables kid).map KeyPair.withoutPrivate := by
  simp only [key?, masked, Tables.masked, Table.get?_map]
  cases tables.keys.get? kid with
  | none => rfl
  | some row => exact row.toKey_withoutPrivate

theorem findKey_masked
    {accepts : KeyRow → Bool}
    (blind : ∀ row, accepts row.withoutPrivate = accepts row)
    (tables : Database) :
    findKey (masked tables) accepts = (findKey tables accepts).map KeyPair.withoutPrivate := by
  simp only [findKey, masked, Tables.masked, Table.rows_map, List.find?_map, Function.comp_def,
    blind]
  cases tables.keys.rows.find? accepts with
  | none => rfl
  | some row => exact row.toKey_withoutPrivate

@[simp] theorem emailRefused_masked (tables : Database) (uid : String) (row : AccountRow) :
    emailRefused (masked tables) uid row = emailRefused tables uid row := by
  simp only [emailRefused, masked, Tables.masked, Table.rows_map, List.any_map]
  rfl

end Database

/-- All accounts are the same without secrets. -/
theorem loadAllAccounts_masked (store : Store) :
    store.masked.loadAllAccounts =
      store.loadAllAccounts.map (List.map Account.withoutPassword) := by
  apply read_masked
  · intro tables
    simp only [MemoryTables.allAccounts, MemoryTables.masked, Tables.masked, Table.rows_map]
    rw [mergeSort_masked]
    · rfl
    · intro first second
      rfl
  · intro tables
    simp only [Database.allAccounts, Database.masked, Tables.masked, Table.rows_map]
    rw [mergeSort_masked]
    · exact mapM_masked AccountRow.toAccount_withoutPassword _
    · intro first second
      rfl

theorem loadAccount_masked (store : Store) (uid : String) :
    store.masked.loadAccount uid = (store.loadAccount uid).map Account.withoutPassword := by
  apply read_masked
  · intro tables
    simp only [MemoryTables.masked, Tables.masked, Table.get?_map, found_map]
  · intro tables
    exact Database.account?_masked tables uid

theorem accountByEmail_masked (store : Store) (email : String) :
    store.masked.accountByEmail email =
      (store.accountByEmail email).map Account.withoutPassword := by
  apply read_masked
  · intro tables
    simp only [MemoryTables.accountByEmail?, MemoryTables.masked, Tables.masked, Table.rows_map,
      List.find?_map, found_map]
    rfl
  · intro tables
    have blind :
        (fun row : AccountRow => row.isLive && row.email = some email) ∘
            AccountRow.withoutPassword =
          fun row => row.isLive && row.email = some email :=
      rfl
    simp only [Database.accountByEmail, Database.masked, Tables.masked, Table.rows_map,
      List.find?_map, blind]
    cases tables.accounts.rows.find? fun row => row.isLive && row.email = some email with
    | none => rfl
    | some row => exact row.toAccount_withoutPassword

/-- All key pairs are the same without secrets. -/
theorem loadAllKeys_masked (store : Store) :
    store.masked.loadAllKeys = store.loadAllKeys.map (List.map KeyPair.withoutPrivate) := by
  apply read_masked
  · intro tables
    simp only [MemoryTables.allKeys, MemoryTables.masked, Tables.masked, Table.rows_map]
    rw [mergeSort_masked]
    · rfl
    · intro first second
      rfl
  · intro tables
    simp only [Database.allKeys, Database.masked, Tables.masked, Table.rows_map]
    rw [mergeSort_masked]
    · exact mapM_masked KeyRow.toKey_withoutPrivate _
    · intro first second
      rfl

theorem loadKey_masked (store : Store) (kid : String) :
    store.masked.loadKey kid = (store.loadKey kid).map KeyPair.withoutPrivate := by
  apply read_masked
  · intro tables
    simp only [MemoryTables.masked, Tables.masked, Table.get?_map, found_map]
  · intro tables
    exact Database.key?_masked tables kid

theorem keyByAccount_masked (store : Store) (accountId : String) :
    store.masked.keyByAccount accountId =
      (store.keyByAccount accountId).map KeyPair.withoutPrivate := by
  apply read_masked
  · intro tables
    simp only [MemoryTables.keyByAccount?, MemoryTables.masked, Tables.masked, Table.rows_map,
      List.find?_map, found_map]
    rfl
  · exact Database.findKey_masked fun _ => rfl

theorem keyByPublic_masked (store : Store) (octets : Octets) :
    store.masked.keyByPublic octets =
      (store.keyByPublic octets).map KeyPair.withoutPrivate := by
  have inMemory (tables : MemoryTables) :
      found .keyNotFound (MemoryTables.keyByPublic? (MemoryTables.masked tables) octets) =
        (found .keyNotFound (tables.keyByPublic? octets)).map KeyPair.withoutPrivate := by
    simp only [MemoryTables.keyByPublic?, MemoryTables.masked, Tables.masked, Table.rows_map,
      List.find?_map, found_map]
    rfl
  cases store with
  | memory store =>
      rcases store with ⟨_ | tables⟩
      · rfl
      · exact inMemory tables
  | database store =>
      simp only [masked, keyByPublic]
      cases Text.Utf8.decode? octets with
      | none => rfl
      | some text =>
          exact DatabaseStore.read_masked (Database.findKey_masked fun _ => rfl) store

theorem loadToken_masked (store : Store) (uid : String) :
    store.masked.loadToken uid = store.loadToken uid := by
  refine (read_masked ?_ ?_ store).trans (congrFun Except.map_id (store.loadToken uid))
  · intro tables
    exact (congrFun Except.map_id _).symm
  · intro tables
    exact (congrFun Except.map_id _).symm

theorem existsToken_masked (store : Store) (uid : String) :
    store.masked.existsToken uid = store.existsToken uid :=
  (read_masked (fun _ => rfl) (fun _ => rfl) store).trans
    (congrFun Except.map_id (store.existsToken uid))

end Store

end Credential
