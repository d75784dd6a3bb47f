import Credential.Account.Basic
import Credential.Account.Rules
import Credential.KeyPair
import Credential.Occasion
import Credential.Store.Settings
import Credential.Store.Tables

/-!
# The store in a database

A database of three tables of plain rows: columns are texts and flags that may be
missing, and times are texts.  Unique indexes refuse a second live account with
an email and a second key pair for an account.  A change of several statements
runs in a transaction, which takes all of them back if one fails.

A database is found under a path.  It is a file as a rule: closing the store leaves
the file, and dialing it again finds the rows that were there.  Some paths name no
file.  Dialing one makes a database without rows, and closing the store loses it.
-/

namespace Credential.Store

open Credential.Time (Instant)

/-- A row of the accounts. -/
structure AccountRow where
  uid : String
  email : Option String
  name : Option String
  password : Option String
  active : Option Bool
  created : String
  updated : String
  deleted : Option Bool
  deriving Repr, DecidableEq

/-- A row of the key pairs. -/
structure KeyRow where
  kid : String
  accountId : String
  pubKey : String
  privKey : String
  active : Option Bool
  created : String
  updated : String
  deriving Repr, DecidableEq

/-- A row of the tokens. -/
structure TokenRow where
  uid : String
  token : String
  updated : String
  deriving Repr, DecidableEq

/-- The tables of a database. -/
abbrev Database :=
  Tables AccountRow KeyRow TokenRow

/-- The text that a time has in a column. -/
def columnText (instant : Instant) : String :=
  instant.render .offset

/-- The time of a column. -/
def columnInstant (text : String) : Except Error Instant :=
  match Instant.read? text with
  | some instant => .ok instant
  | none => .error (.database ("unreadable time: " ++ text))

namespace AccountRow

/-- The row of a record that has its uid and times. -/
def ofAccount (account : Account) (uid created updated : String) : AccountRow :=
  { uid
    email := account.email.value?
    name := account.name.value?
    password := account.password.value?
    active := account.active.value?
    created
    updated
    deleted := account.deleted.value? }

/-- The record of a row; a column that is missing is a cleared field. -/
def toAccount (row : AccountRow) : Except Error Account := do
  let created ← columnInstant row.created
  let updated ← columnInstant row.updated
  return {
    uid := some row.uid
    email := .ofOption row.email
    name := .ofOption row.name
    password := .ofOption row.password
    active := .ofOption row.active
    created := some created
    updated := some updated
    deleted := .ofOption row.deleted }

/-- Whether a row is not marked as deleted. -/
def isLive (row : AccountRow) : Bool :=
  row.deleted ≠ some true

end AccountRow

namespace KeyRow

/-- The row of a new record, under the uid of its account. -/
def ofKey (key : KeyPair) (time : String) : KeyRow :=
  { kid := key.accountId
    accountId := key.accountId
    pubKey := key.pubKey
    privKey := key.privKey
    active := key.active
    created := time
    updated := time }

/-- The record of a row. -/
def toKey (row : KeyRow) : Except Error KeyPair := do
  let created ← columnInstant row.created
  let updated ← columnInstant row.updated
  return {
    kid := some row.kid
    pubKey := row.pubKey
    privKey := row.privKey
    accountId := row.accountId
    active := row.active
    created := some created
    updated := some updated }

end KeyRow

namespace Database

/-! ## Statements on accounts -/

/-- Whether the index of live emails refuses a row under a uid. -/
def emailRefused (database : Database) (uid : String) (row : AccountRow) : Bool :=
  row.isLive && row.email.isSome &&
    database.accounts.rows.any fun other =>
      other.uid ≠ uid && other.isLive && other.email = row.email

/-- Add a row; a key or an email that is taken makes a conflict. -/
def insertAccountRow (row : AccountRow) : Step Database Unit := do
  let known ← .look (·.accounts.contains row.uid)
  let refused ← .look (emailRefused · row.uid row)
  if known || refused then .fail .duplicateEmail else Tables.putAccount row.uid row

/-- Set the time of change of the row of a uid; whether there is one. -/
def touchAccount (uid updated : String) : Step Database Bool := do
  match ← .look (·.accounts.get? uid) with
  | none => return false
  | some row =>
      Tables.putAccount uid { row with updated }
      return true

/-- Set the columns of the row of a uid; an email that is taken makes a conflict. -/
def setAccountRow (uid : String) (account : Account) (updated : String) : Step Database Unit := do
  match ← .look (·.accounts.get? uid) with
  | none => return ()
  | some row =>
      let changed := AccountRow.ofAccount account row.uid row.created updated
      let refused ← .look (emailRefused · uid changed)
      if refused then .fail .duplicateEmail else Tables.putAccount uid changed

/-- The account of a uid. -/
def account? (database : Database) (uid : String) : Except Error Account :=
  match database.accounts.get? uid with
  | none => .error .accountNotFound
  | some row => row.toAccount

/-- All accounts, ordered by the text of their creation. -/
def allAccounts (database : Database) : Except Error (List Account) :=
  (database.accounts.rows.mergeSort fun first second => first.created ≤ second.created).mapM
    AccountRow.toAccount

/-- The live account of an email. -/
def accountByEmail (database : Database) (email : String) : Except Error Account :=
  match database.accounts.rows.find? fun row => row.isLive && row.email = some email with
  | none => .error .emailNotFound
  | some row => row.toAccount

/-- Whether a live account has a text for its uid, email or name. -/
def existsAccount (database : Database) (query : String) : Bool :=
  database.accounts.rows.any fun row =>
    row.isLive && (row.uid = query || row.email = some query || row.name = some query)

/-! ## Statements on key pairs -/

/--
Add a row if there is an account for it; whether there is one.

A second row for the account makes a conflict.
-/
def insertKeyRow (row : KeyRow) : Step Database Bool := do
  let owned ← .look (·.accounts.contains row.accountId)
  let known ← .look (·.keys.contains row.kid)
  let taken ← .look (·.keys.rows.any (·.accountId = row.accountId))
  if owned = false then
    return false
  else if known || taken then
    .fail .keyAlreadyExists
  else
    Tables.putKey row.kid row
    return true

/-- Set the time of change of the row of a key id; whether there is one. -/
def touchKey (kid updated : String) : Step Database Bool := do
  match ← .look (·.keys.get? kid) with
  | none => return false
  | some row =>
      Tables.putKey kid { row with updated }
      return true

/-- Set the columns of the row of a key id. -/
def setKeyRow (kid : String) (key : KeyPair) (updated : String) : Step Database Unit := do
  match ← .look (·.keys.get? kid) with
  | none => return ()
  | some row =>
      Tables.putKey kid
        { row with
          pubKey := key.pubKey
          privKey := key.privKey
          active := key.active
          updated }

/-- The first key pair that passes a test. -/
def findKey (database : Database) (accepts : KeyRow → Bool) : Except Error KeyPair :=
  match database.keys.rows.find? accepts with
  | none => .error .keyNotFound
  | some row => row.toKey

/-- The key pair of a key id. -/
def key? (database : Database) (kid : String) : Except Error KeyPair :=
  match database.keys.get? kid with
  | none => .error .keyNotFound
  | some row => row.toKey

/-- All key pairs, ordered by the text of their creation. -/
def allKeys (database : Database) : Except Error (List KeyPair) :=
  (database.keys.rows.mergeSort fun first second => first.created ≤ second.created).mapM
    KeyRow.toKey

/-! ## Statements on tokens -/

/-- The token of an account. -/
def token (database : Database) (uid : String) : Except Error String :=
  match database.tokens.get? uid with
  | none => .error .tokenNotFound
  | some row => .ok row.token

/-! ## Transactions -/

/-- Add an account. -/
def insertAccount (occasion : Occasion) (account : Account) : Step Database Account :=
  match account.email? with
  | none => .fail (.nilArgument "email")
  | some _ => do
      let record := account.prepareInsert occasion.uid occasion.now
      let time := columnText occasion.now
      insertAccountRow (.ofAccount record occasion.uid time time)
      return record

/--
Change the account of a uid.

The time of change is set first, and the row is read and merged after that.
-/
def updateAccount (occasion : Occasion) (uid : String) (account : Account) :
    Step Database Account :=
  .atomically do
    let time := columnText occasion.now
    let touched ← touchAccount uid time
    if touched then
      let stored ← .ask (account? · uid)
      let record := account.prepareUpdate stored occasion.now
      setAccountRow uid record time
      return record
    else
      .fail .accountNotFound

/-- Add an account without a uid, or change the one of the uid; the record then. -/
def saveAccount (occasion : Occasion) (account : Account) : Step Database Account :=
  match account.uid with
  | none => insertAccount occasion account
  | some uid => updateAccount occasion uid account

/-- Add a key pair to an account that has none. -/
def insertKey (now : Instant) (key : KeyPair) : Step Database KeyPair := do
  .ask fun _ => require key.accountId "account id"
  .ask fun _ => require key.pubKey "public key"
  .ask fun _ => require key.privKey "private key"
  let record := key.prepareInsert now
  let inserted ← insertKeyRow (.ofKey record (columnText now))
  if inserted then return record else .fail .accountNotFound

/-- Change the key pair of a key id. -/
def updateKey (now : Instant) (kid : String) (key : KeyPair) : Step Database KeyPair :=
  .atomically do
    let time := columnText now
    let touched ← touchKey kid time
    if touched then
      let stored ← .ask (key? · kid)
      let record := key.prepareUpdate stored now
      setKeyRow kid record time
      return record
    else
      .fail .keyNotFound

/-- Add a key pair without a key id, or change the one of the key id; the record then. -/
def saveKey (now : Instant) (key : KeyPair) : Step Database KeyPair :=
  match key.kid with
  | none => insertKey now key
  | some kid => updateKey now kid key

end Database

/-! ## Files -/

/-- What is found under a path. -/
inductive FileContent where
  /-- A file that holds a database. -/
  | database (content : Database)
  /-- A file that holds something else. -/
  | foreign
  /-- No file, but a database that is made when it is opened and lost when it is closed. -/
  | passing (content : Database)
  deriving Repr

namespace FileContent

/-- Whether there is a file. -/
def isFile : FileContent → Bool
  | .database _ => true
  | .foreign => true
  | .passing _ => false

/-- The database that there is. -/
def database? : FileContent → Option Database
  | .database content => some content
  | .foreign => none
  | .passing content => some content

/-- A database of the same kind that holds other tables. -/
def holding (tables : Database) : FileContent → FileContent
  | .passing _ => .passing tables
  | _ => .database tables

end FileContent

/-- What a store can reach, under its paths. -/
structure Disk where
  files : Table FileContent
  deriving Repr

namespace Disk

/-- The disk without files. -/
def empty : Disk :=
  ⟨Table.empty⟩

/-- The database of a path. -/
def database? (disk : Disk) (path : String) : Option Database :=
  (disk.files.get? path).bind FileContent.database?

/-- Keep tables as the database of a path. -/
def put (disk : Disk) (path : String) (tables : Database) : Disk :=
  ⟨disk.files.insert path
    (((disk.files.get? path).map (FileContent.holding tables)).getD (.database tables))⟩

/-- The paths of the directories that a path leads through. -/
def ancestors (path : String) : List String :=
  let parts := path.toList.splitOn '/'
  ((List.range (parts.length - 1)).map fun count =>
    String.ofList (List.intercalate ['/'] (parts.take (count + 1)))).filter (· ≠ "")

/-- Whether there is a file of a path. -/
def isFile (disk : Disk) (path : String) : Bool :=
  (disk.files.get? path).any FileContent.isFile

/-- Whether a file stands where a directory is needed. -/
def isBlocked (disk : Disk) (path : String) : Bool :=
  (ancestors path).any disk.isFile

/--
Whether a path names no file.

The empty one asks for a temporary database, and `:memory:` for one in memory.  Of
other paths, such as one that is read as a URI, it is for the disk to tell.
-/
def isPassing (disk : Disk) (path : String) : Bool :=
  path = "" || path = ":memory:" ||
    (disk.files.get? path).any fun content => !content.isFile

/-- Whether a path is that of a directory. -/
def isDirectory (disk : Disk) (path : String) : Bool :=
  path.toList.getLast? = some '/' ||
    disk.files.keys.any fun file => (ancestors file).contains path

/--
Open the database of a path, and make an empty one if there is none.

A path that names no file always gets an empty one, as an earlier one is lost.
-/
def openDatabase (disk : Disk) (path : String) : Except Error Disk :=
  if disk.isBlocked path then
    .error (.io "not a directory")
  else if disk.isPassing path then
    .ok ⟨disk.files.insert path (.passing Tables.empty)⟩
  else if disk.isDirectory path then
    .error (.database "unable to open database file")
  else
    match disk.files.get? path with
    | none => .ok ⟨disk.files.insert path (.database Tables.empty)⟩
    | some .foreign => .error (.database "file is not a database")
    | some _ => .ok disk

end Disk

/-- The store in a database: the path of the open one, and the disk. -/
structure DatabaseStore where
  opened : Option String
  disk : Disk
  deriving Repr

namespace DatabaseStore

/-- The store before it has been dialed. -/
def initial (disk : Disk) : DatabaseStore :=
  ⟨none, disk⟩

/-- Open the database of the path, unless the store is connected. -/
def dial (store : DatabaseStore) (dialing : Dialing) : Except Error Unit × DatabaseStore :=
  match store.opened with
  | some _ => (.ok (), store)
  | none =>
      match dialing.path with
      | none => (.error (.nilArgument "store path"), store)
      | some path =>
          match store.disk.openDatabase path with
          | .error error => (.error error, store)
          | .ok disk => (.ok (), ⟨some path, disk⟩)

/--
Close the database; its file stays.

One without a file is lost.  What it held is never looked at again, as only a dial
connects the store and that makes an empty one.
-/
def close (store : DatabaseStore) : DatabaseStore :=
  { store with opened := none }

/-- Whether the store is connected. -/
def status (store : DatabaseStore) : Status :=
  if store.opened.isSome then .connected else .disconnected

/-- The open database. -/
def database? (store : DatabaseStore) : Option Database :=
  store.opened.bind store.disk.database?

/-- Read from the open database. -/
def read (store : DatabaseStore) (view : Database → Except Error α) : Except Error α :=
  match store.database? with
  | none => .error .notConnected
  | some database => view database

/-- Carry out a step on the open database. -/
def write (step : Step Database α) : Step DatabaseStore α := fun store =>
  match store.opened, store.database? with
  | some path, some database =>
      let (outcome, changed) := step.run database
      (outcome, { store with disk := store.disk.put path changed })
  | _, _ => (.error .notConnected, store)

end DatabaseStore

end Credential.Store
