import Credential.Proofs.Store.Calls

/-!
# Stores that runs of calls reach

Whatever calls are made of a store that began without rows, all the tables that
it can open show sound ledgers.
-/

namespace Credential.Store

variable {store : Store}

/-! ## Stores that are not connected -/

/-- Whether a store has tables to work on. -/
def isOpen : Store → Bool
  | .memory store => store.tables.isSome
  | .database store => store.database?.isSome

/-- A write on a store without tables leaves it alone. -/
theorem run_write_of_closed
    {Result : Type}
    (closed : store.isOpen = false)
    (memory : Step MemoryTables Result)
    (database : Step Database Result) :
    (write memory database).run store = (.error .notConnected, store) := by
  rcases store with ⟨_ | tables⟩ | store
  · rfl
  · cases closed
  · have missing : store.database? = none :=
      Option.isNone_iff_eq_none.mp (Option.isSome_eq_false_iff.mp closed)
    have ran : (DatabaseStore.write database).run store = (.error .notConnected, store) := by
      cases opened : store.opened <;> simp only [Step.run, DatabaseStore.write, missing, opened]
    rw [run_write_database, ran]

/-- A read of a store that has no tables is refused. -/
theorem read_of_closed
    {Result : Type}
    (closed : store.isOpen = false)
    (memory : MemoryTables → Except Error Result)
    (database : Database → Except Error Result) :
    store.read memory database = .error .notConnected := by
  rcases store with ⟨_ | tables⟩ | store
  · rfl
  · cases closed
  · have missing : store.database? = none :=
      Option.isNone_iff_eq_none.mp (Option.isSome_eq_false_iff.mp closed)
    rw [read, DatabaseStore.read, missing]

/-- A call on the tables of a store that has none leaves it alone, and fails if it is a write. -/
theorem perform_of_closed
    (closed : store.isOpen = false)
    (occasion : Occasion)
    {call : Call}
    (onTables : call.IsOnTables) :
    (store.perform occasion call).2 = store ∧
      ∀ place, call.place? occasion = some place →
        ∃ error, (store.perform occasion call).1 = .error error := by
  cases call with
  | dial dialing => exact onTables.elim
  | close => exact onTables.elim
  | saveAccount account =>
      rw [Store.perform, changed, saveAccount, saveLentAccount, saved_withLent,
        run_write_of_closed closed]
      exact ⟨rfl, fun _ _ => ⟨_, rfl⟩⟩
  | deleteAccount uid =>
      rw [Store.perform, changed, deleteAccount, run_write_of_closed closed]
      exact ⟨rfl, fun _ _ => ⟨_, rfl⟩⟩
  | saveKey key =>
      rw [Store.perform, changed, saveKey, saveLentKey, saved_withLent,
        run_write_of_closed closed]
      exact ⟨rfl, fun _ _ => ⟨_, rfl⟩⟩
  | deleteKey kid =>
      rw [Store.perform, changed, deleteKey, run_write_of_closed closed]
      exact ⟨rfl, fun _ _ => ⟨_, rfl⟩⟩
  | saveToken uid token =>
      rw [Store.perform, changed, saveToken, putToken, Step.run_ask_bind]
      cases require uid "uid" with
      | error error => exact ⟨rfl, fun _ _ => ⟨_, rfl⟩⟩
      | ok _ =>
          dsimp only
          rw [Step.run_ask_bind]
          cases require token "token" with
          | error error => exact ⟨rfl, fun _ _ => ⟨_, rfl⟩⟩
          | ok _ =>
              dsimp only
              rw [run_write_of_closed closed]
              exact ⟨rfl, fun _ _ => ⟨_, rfl⟩⟩
  | deleteToken uid =>
      rw [Store.perform, changed, deleteToken, run_write_of_closed closed]
      exact ⟨rfl, fun _ _ => ⟨_, rfl⟩⟩
  | _ => exact ⟨rfl, fun place isWrite => absurd isWrite.symm (Option.some_ne_none place)⟩

/-! ## Sound stores -/

/-- Whether no table that a store has, or can open, has a row. -/
def Rowless : Store → Prop
  | .memory store => ∀ tables ∈ store.tables, tables = Tables.empty
  | .database store =>
      ∀ path tables, store.disk.database? path = some tables → tables = Tables.empty

/-- Whether all tables that a store has, or can open, show sound ledgers. -/
def IsSound : Store → Prop
  | .memory store =>
      ∀ tables ∈ store.tables, ∃ ledger : Ledger,
        tables.Shows memoryHolding ledger ∧ ledger.Sound
  | .database store =>
      ∀ path tables, store.disk.database? path = some tables →
        ∃ ledger : Ledger, tables.Shows databaseHolding ledger ∧ ledger.Sound

/-- A store without rows is sound. -/
theorem Rowless.isSound (rowless : store.Rowless) : store.IsSound := by
  cases store with
  | memory store =>
      intro tables member
      rw [rowless tables member]
      exact ⟨.empty, Tables.shows_empty, Ledger.Sound.empty⟩
  | database store =>
      intro path tables content
      rw [rowless path tables content]
      exact ⟨.empty, Tables.shows_empty, Ledger.Sound.empty⟩

/-- How the database of a path is opened, and what that makes of the disk. -/
inductive Disk.Opens (disk : Disk) (path : String) : Disk → Prop where
  | passing (isPassing : disk.isPassing path = true) :
      Opens disk path ⟨disk.files.insert path (.passing Tables.empty)⟩
  | made
      (notPassing : disk.isPassing path = false)
      (notDirectory : disk.isDirectory path = false) :
      Opens disk path ⟨disk.files.insert path (.database Tables.empty)⟩
  | found
      {tables : Database}
      (notPassing : disk.isPassing path = false)
      (notDirectory : disk.isDirectory path = false)
      (content : disk.files.get? path = some (.database tables)) :
      Opens disk path disk

/-- A database is opened unless a file stands where its path needs a directory. -/
theorem Disk.opens_of_openDatabase
    {disk opened : Disk}
    {path : String}
    (accepted : disk.openDatabase path = .ok opened) :
    disk.isBlocked path = false ∧ disk.Opens path opened := by
  rw [openDatabase] at accepted
  split at accepted
  case isTrue => cases accepted
  case isFalse notBlocked =>
    refine ⟨Bool.eq_false_of_not_eq_true notBlocked, ?_⟩
    split at accepted
    case isTrue isPassing =>
      cases accepted
      exact .passing isPassing
    case isFalse notPassing =>
      rw [Bool.not_eq_true] at notPassing
      split at accepted
      case isTrue => cases accepted
      case isFalse notDirectory =>
        rw [Bool.not_eq_true] at notDirectory
        split at accepted
        case h_1 =>
          cases accepted
          exact .made notPassing notDirectory
        case h_2 => cases accepted
        case h_3 content notForeign found =>
          cases accepted
          cases content with
          | database tables => exact .found notPassing notDirectory found
          | foreign => exact (notForeign rfl).elim
          | passing tables => simp [isPassing, found, FileContent.isFile] at notPassing

/-- What is found after a path has been opened was there, or is an empty database. -/
theorem Disk.Opens.content
    {disk opened : Disk}
    {path other : String}
    {tables : Database}
    (opens : disk.Opens path opened)
    (found : opened.database? other = some tables) :
    disk.database? other = some tables ∨ tables = Tables.empty := by
  have unlessMade {content : FileContent}
      (isEmpty : content.database? = some Tables.empty)
      (found : database? ⟨disk.files.insert path content⟩ other = some tables) :
      disk.database? other = some tables ∨ tables = Tables.empty := by
    rw [database?, Table.get?_insert] at found
    split at found
    · exact .inr (Option.some.inj (found.symm.trans isEmpty))
    · exact .inl found
  cases opens with
  | passing _ => exact unlessMade rfl found
  | made _ _ => exact unlessMade rfl found
  | found _ _ _ => exact .inl found

/-- Dialing leaves every database as it was, or makes an empty one. -/
theorem DatabaseStore.content_of_dial
    {store : DatabaseStore}
    {dialing : Dialing}
    {path : String}
    {tables : Database}
    (found : (store.dial dialing).2.disk.database? path = some tables) :
    store.disk.database? path = some tables ∨ tables = Tables.empty := by
  rcases store with ⟨_ | opened, disk⟩
  · rw [dial] at found
    cases named : dialing.path with
    | none =>
        rw [named] at found
        exact .inl found
    | some file =>
        rw [named] at found
        dsimp only at found
        cases accepted : disk.openDatabase file with
        | error error =>
            rw [accepted] at found
            exact .inl found
        | ok opened =>
            rw [accepted] at found
            exact (Disk.opens_of_openDatabase accepted).2.content found
  · exact .inl found

namespace IsSound

/-- A sound store that has tables shows a sound ledger. -/
theorem exists_shows
    (sound : store.IsSound)
    (isOpen : store.isOpen = true) :
    ∃ ledger, store.Shows ledger ∧ ledger.Sound := by
  rcases store with ⟨_ | tables⟩ | ⟨opened, disk⟩
  · cases isOpen
  · obtain ⟨ledger, tablesShow, ledgerSound⟩ := sound tables rfl
    exact ⟨ledger, .memory tablesShow, ledgerSound⟩
  · obtain ⟨tables, found⟩ := Option.isSome_iff_exists.mp isOpen
    obtain ⟨path, rfl, content⟩ := DatabaseStore.database?_eq_some_iff.mp found
    obtain ⟨ledger, tablesShow, ledgerSound⟩ := sound path tables content
    exact ⟨ledger, .database content tablesShow, ledgerSound⟩

/-- A change in one place, after which the open tables show a sound ledger, keeps a store sound. -/
theorem of_sameBut
    {place : Place}
    {after : Store}
    {ledger : Ledger}
    (sound : store.IsSound)
    (sameBut : store.SameBut place after)
    (shows : after.Shows ledger)
    (ledgerSound : ledger.Sound) :
    after.IsSound := by
  cases sameBut with
  | memory tables =>
      cases shows with
      | memory showing =>
          rintro tables ⟨⟩
          exact ⟨ledger, showing, ledgerSound⟩
  | @database path _ _ _ _ beforeContent afterContent files tables =>
      cases shows with
      | database content showing =>
          intro other tables found
          by_cases same : other = path
          · rw [same, content] at found
            cases found
            exact ⟨ledger, showing, ledgerSound⟩
          · rw [Disk.database?, files other same] at found
            exact sound other tables found

/-- Connecting keeps a store sound. -/
theorem dial (sound : store.IsSound) (dialing : Dialing) : (store.dial dialing).2.IsSound := by
  rcases store with ⟨_ | tables⟩ | store
  · rintro tables ⟨⟩
    exact ⟨.empty, Tables.shows_empty, Ledger.Sound.empty⟩
  · exact sound
  · intro path tables found
    rcases DatabaseStore.content_of_dial found with same | rfl
    · exact sound path tables same
    · exact ⟨.empty, Tables.shows_empty, Ledger.Sound.empty⟩

/-- Disconnecting keeps a store sound. -/
theorem close (sound : store.IsSound) : store.close.IsSound := by
  cases store with
  | memory store =>
      intro tables member
      cases member
  | database store => exact sound

/-- Every call keeps a store sound. -/
theorem perform
    (sound : store.IsSound)
    (occasion : Occasion)
    (call : Call) :
    (store.perform occasion call).2.IsSound := by
  by_cases onTables : call.IsOnTables
  · cases isOpen : store.isOpen with
    | false =>
        rw [(perform_of_closed isOpen occasion onTables).1]
        exact sound
    | true =>
        obtain ⟨ledger, showing, ledgerSound⟩ := sound.exists_shows isOpen
        obtain ⟨after, performed⟩ := showing.perform ledgerSound occasion onTables
        have afterSound := ledgerSound.performs performed.performs
        have frame := performed.frame
        cases isWrite : call.place? occasion with
        | none =>
            rw [isWrite] at frame
            rw [frame]
            exact sound
        | some place =>
            rw [isWrite] at frame
            have shows := performed.shows
            generalize store.perform occasion call = result at frame shows
            obtain ⟨_ | _, changed⟩ := result
            · rw [show changed = store from frame]
              exact sound
            · exact sound.of_sameBut frame shows afterSound
  · cases call with
    | dial dialing => exact sound.dial dialing
    | close => exact sound.close
    | _ => exact (onTables trivial).elim

/-- Every run of calls keeps a store sound. -/
theorem run
    (sound : store.IsSound)
    (calls : List (Occasion × Call)) :
    (store.run calls).IsSound := by
  induction calls generalizing store with
  | nil => exact sound
  | cons call rest inductionHypothesis =>
      exact inductionHypothesis (sound.perform call.1 call.2)

end IsSound

end Credential.Store
