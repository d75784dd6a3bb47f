import Credential.Proofs.Store.OwnedKeys

/-!
# The connection of a store

A store is connected from a dial that succeeds to the next close.  While it is not,
every call on its tables is refused and changes nothing.  What is there when it is
dialed again depends on the backend: tables in memory are gone, and a database that
has a file is as it was left.  One that has none is gone as well.
-/

namespace Credential.Store

variable {store : Store}

/-! ## Files -/

namespace Disk

variable {disk opened : Disk} {path : String}

/-- Parts that are joined are shorter than with more parts after them. -/
theorem length_intercalate_lt
    {Symbol : Type}
    (separator : Symbol)
    {parts rest : List (List Symbol)}
    (nonempty : parts ≠ [])
    (more : rest ≠ []) :
    ([separator].intercalate parts).length < ([separator].intercalate (parts ++ rest)).length := by
  obtain ⟨next, rest, rfl⟩ := List.exists_cons_of_ne_nil more
  induction parts with
  | nil => exact (nonempty rfl).elim
  | cons part others inductionHypothesis =>
      cases others with
      | nil => simp [List.intercalate]
      | cons second others =>
          have shorter := inductionHypothesis (List.cons_ne_nil second others)
          simpa [List.intercalate] using shorter

/-- A path does not lead through itself. -/
theorem not_mem_ancestors_self (path : String) : path ∉ ancestors path := by
  intro member
  obtain ⟨isAncestor, -⟩ := List.mem_filter.mp member
  obtain ⟨count, isCount, same⟩ := List.mem_map.mp isAncestor
  rw [List.mem_range] at isCount
  generalize parts : path.toList.splitOn '/' = names at isCount same
  have whole : ['/'].intercalate names = path.toList := by
    rw [← parts, List.intercalate_splitOn]
  have characters : ['/'].intercalate (names.take (count + 1)) = path.toList := by
    rw [← same, String.toList_ofList]
  have some : names.take (count + 1) ≠ [] := by
    rw [ne_eq, List.take_eq_nil_iff, not_or]
    exact ⟨Nat.succ_ne_zero count, List.ne_nil_of_length_pos (by omega)⟩
  have more : names.drop (count + 1) ≠ [] := by
    rw [ne_eq, List.drop_eq_nil_iff]
    omega
  have shorter := length_intercalate_lt '/' some more
  rw [List.take_append_drop, whole, characters] at shorter
  exact Nat.lt_irrefl _ shorter

/-- What is found under a path does not block the path. -/
theorem isBlocked_insert (disk : Disk) (path : String) (content : FileContent) :
    isBlocked ⟨disk.files.insert path content⟩ path = disk.isBlocked path := by
  rw [isBlocked, isBlocked, Bool.eq_iff_iff, List.any_eq_true, List.any_eq_true]
  refine exists_congr fun ancestor => and_congr_right fun member => ?_
  have differs : ancestor ≠ path := by
    rintro rfl
    exact not_mem_ancestors_self ancestor member
  rw [isFile, isFile, Table.get?_insert_of_ne differs]

/-- What is found under a path does not make a directory of the path. -/
theorem isDirectory_insert (disk : Disk) (path : String) (content : FileContent) :
    isDirectory ⟨disk.files.insert path content⟩ path = disk.isDirectory path := by
  rw [isDirectory, isDirectory, Bool.eq_iff_iff, Bool.or_eq_true, Bool.or_eq_true,
    List.any_eq_true, List.any_eq_true]
  refine or_congr_right (exists_congr fun file => and_congr_left fun leads => ?_)
  have differs : file ≠ path := by
    rintro rfl
    exact not_mem_ancestors_self file (List.contains_iff_mem.mp leads)
  rw [Table.mem_keys_iff, Table.mem_keys_iff, Table.get?_insert_of_ne differs]

/-- The paths that name no file stay the same when a database is kept. -/
@[simp] theorem isPassing_put (disk : Disk) (path other : String) (tables : Database) :
    (disk.put path tables).isPassing other = disk.isPassing other := by
  rw [isPassing, isPassing, put, Table.get?_insert]
  split
  case isTrue same =>
    subst same
    rcases disk.files.get? other with _ | _ | _ | _ <;> rfl
  case isFalse => rfl

/-- They stay the same with a content that is a file if its path names one, and else is none. -/
theorem isPassing_insert
    (content : FileContent)
    (asNamed : (!content.isFile) = disk.isPassing path)
    (other : String) :
    isPassing ⟨disk.files.insert path content⟩ other = disk.isPassing other := by
  rw [isPassing, Table.get?_insert]
  split
  case isTrue same =>
    subst same
    rw [Option.any_some, asNamed, isPassing, ← Bool.or_assoc, Bool.or_self]
  case isFalse => rfl

/-- They stay the same when a database is opened. -/
theorem Opens.isPassing_eq (opens : disk.Opens path opened) (other : String) :
    opened.isPassing other = disk.isPassing other := by
  cases opens with
  | passing isPassing => exact isPassing_insert (.passing Tables.empty) isPassing.symm other
  | made notPassing notDirectory =>
      exact isPassing_insert (.database Tables.empty) notPassing.symm other
  | found _ _ _ => rfl

/-- Whether a path has a database that a store can have open. -/
inductive HasOpened (disk : Disk) (path : String) : Prop where
  | file
      {tables : Database}
      (notBlocked : disk.isBlocked path = false)
      (notPassing : disk.isPassing path = false)
      (notDirectory : disk.isDirectory path = false)
      (content : disk.files.get? path = some (.database tables))
  | passing
      {tables : Database}
      (notBlocked : disk.isBlocked path = false)
      (content : disk.files.get? path = some (.passing tables))

/-- A path has a database once it has been opened. -/
theorem hasOpened_of_openDatabase (accepted : disk.openDatabase path = .ok opened) :
    opened.HasOpened path := by
  obtain ⟨notBlocked, opens⟩ := opens_of_openDatabase accepted
  have samePassing := opens.isPassing_eq path
  cases opens with
  | passing isPassing =>
      exact .passing ((disk.isBlocked_insert path _).trans notBlocked)
        (Table.get?_insert_self disk.files path _)
  | made notPassing notDirectory =>
      exact .file ((disk.isBlocked_insert path _).trans notBlocked)
        (samePassing.trans notPassing) ((disk.isDirectory_insert path _).trans notDirectory)
        (Table.get?_insert_self disk.files path _)
  | found notPassing notDirectory content =>
      exact .file notBlocked notPassing notDirectory content

namespace HasOpened

/-- An open database can hold other tables. -/
theorem put (hasOpened : disk.HasOpened path) (tables : Database) :
    (disk.put path tables).HasOpened path := by
  cases hasOpened with
  | file notBlocked notPassing notDirectory content =>
      have kept : (disk.put path tables).files.get? path = some (.database tables) := by
        rw [Disk.put, Table.get?_insert_self, content]
        rfl
      exact .file ((disk.isBlocked_insert path _).trans notBlocked)
        ((disk.isPassing_put path path tables).trans notPassing)
        ((disk.isDirectory_insert path _).trans notDirectory) kept
  | passing notBlocked content =>
      have kept : (disk.put path tables).files.get? path = some (.passing tables) := by
        rw [Disk.put, Table.get?_insert_self, content]
        rfl
      exact .passing ((disk.isBlocked_insert path _).trans notBlocked) kept

theorem exists_database? (hasOpened : disk.HasOpened path) :
    ∃ tables, disk.database? path = some tables := by
  cases hasOpened with
  | file _ _ _ content => exact ⟨_, Option.bind_eq_some_iff.mpr ⟨_, content, rfl⟩⟩
  | passing _ content => exact ⟨_, Option.bind_eq_some_iff.mpr ⟨_, content, rfl⟩⟩

end HasOpened

end Disk

/-! ## Connecting and disconnecting -/

/-- A store that is not connected has no tables to work on. -/
theorem isOpen_of_disconnected (disconnected : store.status = .disconnected) :
    store.isOpen = false := by
  rcases store with ⟨_ | tables⟩ | ⟨_ | path, disk⟩
  · rfl
  · cases disconnected
  · rfl
  · cases disconnected

theorem status_of_isOpen (isOpen : store.isOpen = true) : store.status = .connected := by
  rcases store with ⟨_ | tables⟩ | ⟨_ | path, disk⟩
  · cases isOpen
  · rfl
  · cases isOpen
  · rfl

/-- Connecting a store that is connected changes nothing. -/
theorem dial_of_connected (connected : store.status = .connected) (dialing : Dialing) :
    store.dial dialing = (.ok (), store) := by
  rcases store with ⟨_ | tables⟩ | ⟨_ | path, disk⟩
  · cases connected
  · rfl
  · cases connected
  · rfl

theorem status_close (store : Store) : store.close.status = .disconnected := by
  cases store <;> rfl

/-- Whether a store is as it was, but for what its open tables hold. -/
inductive Rewrites : Store → Store → Prop where
  | refl (store : Store) : Rewrites store store
  | memory (before after : MemoryTables) : Rewrites (.memory ⟨some before⟩) (.memory ⟨some after⟩)
  | database
      {path : String}
      {disk : Disk}
      (after : Database) :
      Rewrites (.database ⟨some path, disk⟩)
        (.database ⟨some path, disk.put path after⟩)

theorem Rewrites.status_eq {after : Store} (rewrites : store.Rewrites after) :
    after.status = store.status := by
  cases rewrites <;> rfl

/-- A write changes what the open tables hold, at most. -/
theorem rewrites_run_write
    {Result : Type}
    (memory : Step MemoryTables Result)
    (database : Step Database Result)
    (store : Store) :
    store.Rewrites ((write memory database).run store).2 := by
  cases isOpen : store.isOpen with
  | false =>
      rw [run_write_of_closed isOpen]
      exact .refl store
  | true =>
      rcases store with ⟨_ | tables⟩ | ⟨opened, disk⟩
      · cases isOpen
      · exact .memory tables _
      · obtain ⟨tables, found⟩ := Option.isSome_iff_exists.mp isOpen
        obtain ⟨path, rfl, content⟩ := DatabaseStore.database?_eq_some_iff.mp found
        rw [run_write_database, DatabaseStore.run_write content]
        exact .database _

/-- So does every call on the tables. -/
theorem rewrites_perform
    (store : Store)
    (occasion : Occasion)
    {call : Call}
    (onTables : call.IsOnTables) :
    store.Rewrites (store.perform occasion call).2 := by
  cases call with
  | dial dialing => exact onTables.elim
  | close => exact onTables.elim
  | saveAccount account =>
      rw [perform, changed, saveAccount, saveLentAccount, saved_withLent]
      exact rewrites_run_write _ _ store
  | deleteAccount uid =>
      rw [perform, changed, deleteAccount]
      exact rewrites_run_write _ _ store
  | saveKey key =>
      rw [perform, changed, saveKey, saveLentKey, saved_withLent]
      exact rewrites_run_write _ _ store
  | deleteKey kid =>
      rw [perform, changed, deleteKey]
      exact rewrites_run_write _ _ store
  | saveToken uid token =>
      rw [perform, changed, saveToken, putToken, Step.run_ask_bind]
      cases require uid "uid" with
      | error error => exact .refl store
      | ok _ =>
          dsimp only
          rw [Step.run_ask_bind]
          cases require token "token" with
          | error error => exact .refl store
          | ok _ => exact rewrites_run_write _ _ store
  | deleteToken uid =>
      rw [perform, changed, deleteToken]
      exact rewrites_run_write _ _ store
  | _ => exact .refl store

/--
Why a store that is not connected refuses a call on its tables.

It is because it is not connected, but for two checks that come first: those of the
arguments with which a token is recorded, and, in a database, that of the octets that a
key pair is looked up by.
-/
def Call.refusal (backend : Backend) : Call → Error
  | .saveToken uid token =>
      if uid = "" then .nilArgument "uid"
      else if token = "" then .nilArgument "token"
      else .notConnected
  | .keyByPublic octets =>
      if backend = .database ∧ Text.Utf8.decode? octets = none then .keyNotFound
      else .notConnected
  | _ => .notConnected

/-- Whether a path names no file for a store; one in memory has no files. -/
def isPassing (store : Store) (path : String) : Bool :=
  match store with
  | .memory _ => true
  | .database store => store.disk.isPassing path

/-- Whether the path that a store has open can be opened again. -/
def Reopens : Store → Prop
  | .memory _ => True
  | .database store => ∀ path, store.opened = some path → store.disk.HasOpened path

theorem reopens_of_disconnected (disconnected : store.status = .disconnected) :
    store.Reopens := by
  rcases store with store | ⟨_ | path, disk⟩
  · trivial
  · rintro path ⟨⟩
  · cases disconnected

namespace Reopens

theorem rewrites
    {after : Store}
    (reopens : store.Reopens)
    (rewrites : store.Rewrites after) :
    after.Reopens := by
  cases rewrites with
  | refl => exact reopens
  | memory => trivial
  | database tables =>
      rintro path ⟨⟩
      exact (reopens _ rfl).put tables

theorem dial (reopens : store.Reopens) (dialing : Dialing) : (store.dial dialing).2.Reopens := by
  rcases store with store | ⟨_ | path, disk⟩
  · trivial
  · rw [Store.dial, DatabaseStore.dial]
    dsimp only
    cases dialing.path with
    | none => exact reopens
    | some path =>
        dsimp only
        cases accepted : disk.openDatabase path with
        | error error => exact reopens
        | ok opened =>
            rintro _ ⟨⟩
            exact Disk.hasOpened_of_openDatabase accepted
  · exact reopens

theorem perform
    (reopens : store.Reopens)
    (occasion : Occasion)
    (call : Call) :
    (store.perform occasion call).2.Reopens := by
  by_cases onTables : call.IsOnTables
  · exact reopens.rewrites (rewrites_perform store occasion onTables)
  · cases call with
    | dial dialing => exact reopens.dial dialing
    | close => exact reopens_of_disconnected store.status_close
    | _ => exact (onTables trivial).elim

/-- What a store has open stays open to be opened again. -/
theorem run (reopens : store.Reopens) (calls : List (Occasion × Call)) :
    (store.run calls).Reopens := by
  induction calls generalizing store with
  | nil => exact reopens
  | cons call rest inductionHypothesis =>
      exact inductionHypothesis (reopens.perform call.1 call.2)

/-- A store that is connected has tables to work on. -/
theorem isOpen (reopens : store.Reopens) (connected : store.status = .connected) :
    store.isOpen = true := by
  rcases store with ⟨_ | tables⟩ | ⟨_ | path, disk⟩
  · cases connected
  · rfl
  · cases connected
  · exact Option.isSome_iff_exists.mpr (reopens path rfl).exists_database?

end Reopens

end Credential.Store
