import Credential.Proofs.Secrecy.Masks
import Credential.Proofs.Store.Calls

/-!
# Steps that are blind to secrets

A step is compared with another one on two states that are the same once they
are masked.  If both then have the same outcome and leave the same state, again
once masked, no secret has had a part in what they did.  This is said of each way
to build a step, and so it holds of the steps of both backends.
-/

namespace Credential.Store

/-- Whether two operations have the same outcome and leave the same state once both are masked. -/
structure SameMasked
    {Failure Result State : Type}
    (tell : Result → Result)
    (mask : State → State)
    (first second : Except Failure Result × State) : Prop where
  outcome : first.1.map tell = second.1.map tell
  state : mask first.2 = mask second.2

/-! ## Ways to build a step -/

/-- Whether two steps do the same, once masked, to states that are the same once masked. -/
def Step.Blind
    {State Result : Type}
    (mask : State → State)
    (tell : Result → Result)
    (first second : Step State Result) : Prop :=
  ∀ one other, mask one = mask other → SameMasked tell mask (first.run one) (second.run other)

namespace Step.Blind

variable {State Result Next : Type} {mask : State → State} {tell : Result → Result}
  {tellNext : Next → Next}

theorem pure {first second : Result} (same : tell first = tell second) :
    Blind mask tell (Pure.pure first : Step State Result) (Pure.pure second) :=
  fun _ _ alike => ⟨congrArg Except.ok same, alike⟩

theorem fail (error : Error) :
    Blind mask tell (fail error : Step State Result) (Step.fail error) :=
  fun _ _ alike => ⟨rfl, alike⟩

theorem look {view : State → Result} (tells : ∀ state, tell (view state) = view (mask state)) :
    Blind mask tell (Step.look view) (Step.look view) := by
  intro one other alike
  refine ⟨congrArg Except.ok ?_, alike⟩
  rw [tells, tells, alike]

theorem ask
    {view : State → Except Error Result}
    (tells : ∀ state, (view state).map tell = view (mask state)) :
    Blind mask tell (Step.ask view) (Step.ask view) := by
  intro one other alike
  refine ⟨?_, alike⟩
  rw [run_ask, run_ask, tells, tells, alike]

theorem change
    {first second : State → State}
    (same : ∀ one other, mask one = mask other → mask (first one) = mask (second other)) :
    Blind mask id (Step.change first) (Step.change second) :=
  fun one other alike => ⟨rfl, same one other alike⟩

/-- Two steps one after the other are blind if the second is blind to what the first hides. -/
theorem bind
    {first second : Step State Result}
    {firstNext secondNext : Result → Step State Next}
    (blind : Blind mask tell first second)
    (next : ∀ one other, tell one = tell other →
      Blind mask tellNext (firstNext one) (secondNext other)) :
    Blind mask tellNext (first >>= firstNext) (second >>= secondNext) := by
  intro one other alike
  have same := blind one other alike
  rcases firstRan : first.run one with ⟨error | result, after⟩ <;>
    rcases secondRan : second.run other with ⟨otherError | otherResult, otherAfter⟩ <;>
    rw [firstRan, secondRan] at same
  · cases same.outcome
    rw [run_bind_of_error firstRan, run_bind_of_error secondRan]
    exact ⟨rfl, same.state⟩
  · cases same.outcome
  · cases same.outcome
  · rw [run_bind_of_ok firstRan, run_bind_of_ok secondRan]
    exact next _ _ (Except.ok.inj same.outcome) after otherAfter same.state

/-- What is not masked can be looked at without harm. -/
theorem look_bind
    {view : State → Result}
    {firstNext secondNext : Result → Step State Next}
    (unmasked : ∀ state, view (mask state) = view state)
    (next : ∀ result, Blind mask tellNext (firstNext result) (secondNext result)) :
    Blind mask tellNext (Step.look view >>= firstNext) (Step.look view >>= secondNext) := by
  intro one other alike
  rw [run_look_bind, run_look_bind, ← unmasked one, ← unmasked other, alike]
  exact next _ one other alike

/-- What is masked when the state is can be asked for, if what follows does not depend on it. -/
theorem ask_bind
    (tell : Result → Result)
    {view : State → Except Error Result}
    {firstNext secondNext : Result → Step State Next}
    (tells : ∀ state, view (mask state) = (view state).map tell)
    (next : ∀ one other, tell one = tell other →
      Blind mask tellNext (firstNext one) (secondNext other)) :
    Blind mask tellNext (Step.ask view >>= firstNext) (Step.ask view >>= secondNext) :=
  bind (ask fun state => (tells state).symm) next

/-- After a change that is blind, what follows it has to be blind. -/
theorem change_bind
    {first second : State → State}
    {firstNext secondNext : Unit → Step State Next}
    (same : ∀ one other, mask one = mask other → mask (first one) = mask (second other))
    (next : Blind mask tellNext (firstNext ()) (secondNext ())) :
    Blind mask tellNext (Step.change first >>= firstNext) (Step.change second >>= secondNext) :=
  fun one other alike => next (first one) (second other) (same one other alike)

/-- Steps that are taken back if they fail are blind if they are without that. -/
theorem atomically {first second : Step State Result} (blind : Blind mask tell first second) :
    Blind mask tell (Step.atomically first) (Step.atomically second) := by
  intro one other alike
  have same := blind one other alike
  rcases firstRan : first.run one with ⟨error | result, after⟩ <;>
    rcases secondRan : second.run other with ⟨otherError | otherResult, otherAfter⟩ <;>
    rw [firstRan, secondRan] at same
  · rw [run_atomically_of_error firstRan, run_atomically_of_error secondRan]
    exact ⟨same.outcome, alike⟩
  · cases same.outcome
  · cases same.outcome
  · rw [run_atomically_of_ok firstRan, run_atomically_of_ok secondRan]
    exact same

/-- What a new key pair must have is known without a look at the state. -/
theorem require_key
    (key : KeyPair)
    {first second : Step State Next}
    (next : Blind mask tellNext first second) :
    Blind mask tellNext
      (do
        .ask fun _ => require key.accountId "account id"
        .ask fun _ => require key.pubKey "public key"
        .ask fun _ => require key.privKey "private key"
        first)
      (do
        .ask fun _ => require key.accountId "account id"
        .ask fun _ => require key.pubKey "public key"
        .ask fun _ => require key.privKey "private key"
        second) := by
  intro one other alike
  rw [run_requireKey, run_requireKey]
  cases Ledger.requireKey key with
  | error error => exact ⟨rfl, alike⟩
  | ok _ => exact next one other alike

end Step.Blind

/-- Options that are the same once masked are both empty, or hold what is the same once masked. -/
theorem cases_of_map_eq
    {Row : Type}
    {mask : Row → Row}
    {first second : Option Row}
    (same : first.map mask = second.map mask) :
    (first = none ∧ second = none) ∨
      ∃ one other, first = some one ∧ second = some other ∧ mask one = mask other := by
  cases first <;> cases second <;> simp_all

/-! ## Steps on tables -/

namespace Tables

variable {AccountRow KeyRow TokenRow : Type} {account : AccountRow → AccountRow}
  {key : KeyRow → KeyRow}

theorem masked_congr
    {one other : Tables AccountRow KeyRow TokenRow}
    (alike : one.masked account key = other.masked account key) :
    one.accounts.map account = other.accounts.map account ∧
      one.keys.map key = other.keys.map key ∧ one.tokens = other.tokens := by
  simpa [masked] using alike

theorem putAccount_blind
    (uid : String)
    {first second : AccountRow}
    (same : account first = account second) :
    Step.Blind (masked account key) id
      (putAccount uid first : Step (Tables AccountRow KeyRow TokenRow) Unit)
      (putAccount uid second) := by
  apply Step.Blind.change
  intro one other alike
  obtain ⟨accounts, keys, tokens⟩ := masked_congr alike
  simp only [masked, Table.map_insert, accounts, keys, tokens, same]

theorem putKey_blind
    (kid : String)
    {first second : KeyRow}
    (same : key first = key second) :
    Step.Blind (masked account key) id
      (putKey kid first : Step (Tables AccountRow KeyRow TokenRow) Unit) (putKey kid second) := by
  apply Step.Blind.change
  intro one other alike
  obtain ⟨accounts, keys, tokens⟩ := masked_congr alike
  simp only [masked, Table.map_insert, accounts, keys, tokens, same]

theorem deleteAccount_blind (uid : String) :
    Step.Blind (masked account key) id
      (deleteAccount uid : Step (Tables AccountRow KeyRow TokenRow) Unit) (deleteAccount uid) := by
  apply Step.Blind.look_bind
  · intro tables
    exact tables.accounts.contains_map uid
  · intro found
    apply Step.Blind.change_bind
    · intro one other alike
      obtain ⟨accounts, keys, tokens⟩ := masked_congr alike
      simp only [masked, Table.map_erase, accounts, keys, tokens]
    · split
      · exact .pure rfl
      · exact .fail _

theorem deleteKey_blind (kid : String) :
    Step.Blind (masked account key) id
      (deleteKey kid : Step (Tables AccountRow KeyRow TokenRow) Unit) (deleteKey kid) := by
  apply Step.Blind.look_bind
  · intro tables
    exact tables.keys.contains_map kid
  · intro found
    apply Step.Blind.change_bind
    · intro one other alike
      obtain ⟨accounts, keys, tokens⟩ := masked_congr alike
      simp only [masked, Table.map_erase, accounts, keys, tokens]
    · split
      · exact .pure rfl
      · exact .fail _

end Tables

/-! ## Records and rows that differ in their secrets -/

theorem masked_prepareUpdate
    (account : Account)
    {stored other : Account}
    (now : Time.Instant)
    (same : stored.withoutPassword = other.withoutPassword) :
    (account.prepareUpdate stored now).withoutPassword =
      (account.prepareUpdate other now).withoutPassword := by
  simp_all [Account.prepareUpdate, Account.withoutPassword]

theorem masked_prepareUpdateKey
    (key : KeyPair)
    {stored other : KeyPair}
    (now : Time.Instant)
    (same : stored.withoutPrivate = other.withoutPrivate) :
    (key.prepareUpdate stored now).withoutPrivate =
      (key.prepareUpdate other now).withoutPrivate := by
  simp_all [KeyPair.prepareUpdate, KeyPair.withoutPrivate]

/-! ## Steps of the store in memory -/

namespace MemoryTables

variable {occasion : Occasion}

theorem emailTaken_masked (tables : MemoryTables) (email : String) (except : Option String) :
    emailTaken (masked tables) email except = emailTaken tables email except := by
  simp only [emailTaken, masked, Tables.masked, Table.rows_map, List.any_map]
  rfl

theorem newAccount_blind (occasion : Occasion) (account : Account) :
    Step.Blind masked Account.withoutPassword (newAccount occasion account)
      (newAccount occasion account) := by
  unfold newAccount
  split
  · exact .fail _
  · apply Step.Blind.look_bind
    · intro tables
      exact emailTaken_masked tables _ none
    · intro taken
      split
      · exact .fail _
      · exact .pure rfl

theorem changedAccount_blind (occasion : Occasion) (uid : String) (account : Account) :
    Step.Blind masked Account.withoutPassword (changedAccount occasion uid account)
      (changedAccount occasion uid account) := by
  apply Step.Blind.ask_bind Account.withoutPassword
  · intro tables
    simp only [masked, Tables.masked, Table.get?_map, found_map]
  · intro stored other same
    have merged := masked_prepareUpdate account occasion.now same
    have isDeleted := congrArg Account.isDeleted merged
    have email := congrArg Account.email? merged
    rw [Account.isDeleted_withoutPassword, Account.isDeleted_withoutPassword] at isDeleted
    rw [Account.email?_withoutPassword, Account.email?_withoutPassword] at email
    dsimp only
    rw [isDeleted, email]
    split
    · apply Step.Blind.look_bind
      · intro tables
        exact emailTaken_masked tables _ (some uid)
      · intro taken
        split
        · exact .fail _
        · exact .pure merged
    · exact .pure merged

theorem storeAccount_blind
    {record other : Account}
    (same : record.withoutPassword = other.withoutPassword) :
    Step.Blind masked Account.withoutPassword (storeAccount record) (storeAccount other) := by
  unfold storeAccount
  have uid := congrArg Account.uid same
  rw [Account.uid_withoutPassword, Account.uid_withoutPassword] at uid
  rw [uid]
  split
  · exact .fail _
  · apply Step.Blind.bind (Tables.putAccount_blind _ same)
    intro _ _ _
    exact .pure same

/-- Saving an account does not depend on the password hashes that are stored. -/
theorem saveAccount_blind (occasion : Occasion) (account : Account) :
    Step.Blind masked Account.withoutPassword (saveAccount occasion account)
      (saveAccount occasion account) := by
  unfold saveAccount
  dsimp only
  split
  · exact (newAccount_blind occasion account).bind fun _ _ => storeAccount_blind
  · exact (changedAccount_blind occasion _ account).bind fun _ _ => storeAccount_blind

theorem newKey_blind (now : Time.Instant) (key : KeyPair) :
    Step.Blind masked KeyPair.withoutPrivate (newKey now key) (newKey now key) := by
  unfold newKey
  apply Step.Blind.require_key
  apply Step.Blind.look_bind
  · intro tables
    exact tables.accounts.contains_map key.accountId
  · intro known
    apply Step.Blind.look_bind
    · intro tables
      simp only [masked, Tables.masked, Table.rows_map, List.any_map]
      rfl
    · intro taken
      split
      · exact .fail _
      · split
        · exact .fail _
        · exact .pure rfl

theorem changedKey_blind (now : Time.Instant) (kid : String) (key : KeyPair) :
    Step.Blind masked KeyPair.withoutPrivate (changedKey now kid key) (changedKey now kid key) := by
  apply Step.Blind.ask_bind KeyPair.withoutPrivate
  · intro tables
    simp only [masked, Tables.masked, Table.get?_map, found_map]
  · intro stored other same
    exact .pure (masked_prepareUpdateKey key now same)

theorem storeKey_blind
    {record other : KeyPair}
    (same : record.withoutPrivate = other.withoutPrivate) :
    Step.Blind masked KeyPair.withoutPrivate (storeKey record) (storeKey other) := by
  unfold storeKey
  have kid := congrArg KeyPair.kid same
  rw [KeyPair.kid_withoutPrivate, KeyPair.kid_withoutPrivate] at kid
  rw [kid]
  split
  · exact .fail _
  · apply Step.Blind.bind (Tables.putKey_blind _ same)
    intro _ _ _
    exact .pure same

/-- Saving a key pair does not depend on the private halves that are stored. -/
theorem saveKey_blind (now : Time.Instant) (key : KeyPair) :
    Step.Blind masked KeyPair.withoutPrivate (saveKey now key) (saveKey now key) := by
  unfold saveKey
  dsimp only
  split
  · exact (newKey_blind now key).bind fun _ _ => storeKey_blind
  · exact (changedKey_blind now _ key).bind fun _ _ => storeKey_blind

end MemoryTables

/-! ## Steps of the store in a database -/

namespace Database

theorem insertAccountRow_blind (row : AccountRow) :
    Step.Blind masked id (insertAccountRow row) (insertAccountRow row) := by
  apply Step.Blind.look_bind
  · intro tables
    exact tables.accounts.contains_map row.uid
  · intro known
    apply Step.Blind.look_bind
    · intro tables
      exact emailRefused_masked tables row.uid row
    · intro refused
      split
      · exact .fail _
      · exact Tables.putAccount_blind row.uid rfl

theorem touchAccount_blind (uid updated : String) :
    Step.Blind masked id (touchAccount uid updated) (touchAccount uid updated) := by
  apply Step.Blind.bind
  · apply Step.Blind.look
    intro tables
    exact (tables.accounts.get?_map uid).symm
  · intro found other same
    rcases cases_of_map_eq same with ⟨rfl, rfl⟩ | ⟨row, otherRow, rfl, rfl, sameRow⟩
    · exact .pure rfl
    · apply Step.Blind.bind
      · apply Tables.putAccount_blind
        simp_all [AccountRow.withoutPassword]
      · intro _ _ _
        exact .pure rfl

theorem setAccountRow_blind
    (uid updated : String)
    {record other : Account}
    (same : record.withoutPassword = other.withoutPassword) :
    Step.Blind masked id (setAccountRow uid record updated) (setAccountRow uid other updated) := by
  apply Step.Blind.bind
  · apply Step.Blind.look
    intro tables
    exact (tables.accounts.get?_map uid).symm
  · intro found otherFound sameFound
    rcases cases_of_map_eq sameFound with ⟨rfl, rfl⟩ | ⟨row, otherRow, rfl, rfl, sameRow⟩
    · exact .pure rfl
    · have sameChanged :
          (AccountRow.ofAccount record row.uid row.created updated).withoutPassword =
            (AccountRow.ofAccount other otherRow.uid otherRow.created updated).withoutPassword := by
        simp_all [AccountRow.withoutPassword, AccountRow.ofAccount, Account.withoutPassword]
      -- Whether an email is refused does not depend on the password column of the row.
      have sameRefused :
          (fun tables : Database =>
              emailRefused tables uid
                (AccountRow.ofAccount record row.uid row.created updated)) =
            fun tables =>
              emailRefused tables uid
                (AccountRow.ofAccount other otherRow.uid otherRow.created updated) := by
        funext tables
        have refused := congrArg (emailRefused tables uid) sameChanged
        exact refused
      dsimp only
      rw [sameRefused]
      apply Step.Blind.look_bind
      · intro tables
        exact emailRefused_masked tables uid _
      · intro refused
        split
        · exact .fail _
        · exact Tables.putAccount_blind uid sameChanged

theorem insertAccount_blind (occasion : Occasion) (account : Account) :
    Step.Blind masked Account.withoutPassword (insertAccount occasion account)
      (insertAccount occasion account) := by
  unfold insertAccount
  split
  · exact .fail _
  · apply Step.Blind.bind (insertAccountRow_blind _)
    intro _ _ _
    exact .pure rfl

theorem updateAccount_blind (occasion : Occasion) (uid : String) (account : Account) :
    Step.Blind masked Account.withoutPassword (updateAccount occasion uid account)
      (updateAccount occasion uid account) := by
  apply Step.Blind.atomically
  apply Step.Blind.bind (touchAccount_blind uid _)
  intro touched other same
  obtain rfl : touched = other := same
  split
  · apply Step.Blind.ask_bind Account.withoutPassword
    · intro tables
      exact account?_masked tables uid
    · intro stored other same
      have merged := masked_prepareUpdate account occasion.now same
      apply Step.Blind.bind (setAccountRow_blind uid _ merged)
      intro _ _ _
      exact .pure merged
  · exact .fail _

/-- Saving an account does not depend on the password columns that are stored. -/
theorem saveAccount_blind (occasion : Occasion) (account : Account) :
    Step.Blind masked Account.withoutPassword (saveAccount occasion account)
      (saveAccount occasion account) := by
  unfold saveAccount
  split
  · exact insertAccount_blind occasion account
  · exact updateAccount_blind occasion _ account

theorem insertKeyRow_blind (row : KeyRow) :
    Step.Blind masked id (insertKeyRow row) (insertKeyRow row) := by
  apply Step.Blind.look_bind
  · intro tables
    exact tables.accounts.contains_map row.accountId
  · intro owned
    apply Step.Blind.look_bind
    · intro tables
      exact tables.keys.contains_map row.kid
    · intro known
      apply Step.Blind.look_bind
      · intro tables
        simp only [masked, Tables.masked, Table.rows_map, List.any_map]
        rfl
      · intro taken
        split
        · exact .pure rfl
        · split
          · exact .fail _
          · apply Step.Blind.bind (Tables.putKey_blind row.kid rfl)
            intro _ _ _
            exact .pure rfl

theorem insertKey_blind (now : Time.Instant) (key : KeyPair) :
    Step.Blind masked KeyPair.withoutPrivate (insertKey now key) (insertKey now key) := by
  unfold insertKey
  apply Step.Blind.require_key
  apply Step.Blind.bind (insertKeyRow_blind _)
  intro inserted other same
  obtain rfl : inserted = other := same
  split
  · exact .pure rfl
  · exact .fail _

theorem touchKey_blind (kid updated : String) :
    Step.Blind masked id (touchKey kid updated) (touchKey kid updated) := by
  apply Step.Blind.bind
  · apply Step.Blind.look
    intro tables
    exact (tables.keys.get?_map kid).symm
  · intro found other same
    rcases cases_of_map_eq same with ⟨rfl, rfl⟩ | ⟨row, otherRow, rfl, rfl, sameRow⟩
    · exact .pure rfl
    · apply Step.Blind.bind
      · apply Tables.putKey_blind
        simp_all [KeyRow.withoutPrivate]
      · intro _ _ _
        exact .pure rfl

theorem setKeyRow_blind
    (kid updated : String)
    {record other : KeyPair}
    (same : record.withoutPrivate = other.withoutPrivate) :
    Step.Blind masked id (setKeyRow kid record updated) (setKeyRow kid other updated) := by
  apply Step.Blind.bind
  · apply Step.Blind.look
    intro tables
    exact (tables.keys.get?_map kid).symm
  · intro found otherFound sameFound
    rcases cases_of_map_eq sameFound with ⟨rfl, rfl⟩ | ⟨row, otherRow, rfl, rfl, sameRow⟩
    · exact .pure rfl
    · apply Tables.putKey_blind
      simp_all [KeyRow.withoutPrivate, KeyPair.withoutPrivate]

theorem updateKey_blind (now : Time.Instant) (kid : String) (key : KeyPair) :
    Step.Blind masked KeyPair.withoutPrivate (updateKey now kid key) (updateKey now kid key) := by
  apply Step.Blind.atomically
  apply Step.Blind.bind (touchKey_blind kid _)
  intro touched other same
  obtain rfl : touched = other := same
  split
  · apply Step.Blind.ask_bind KeyPair.withoutPrivate
    · intro tables
      exact key?_masked tables kid
    · intro stored other same
      have merged := masked_prepareUpdateKey key now same
      apply Step.Blind.bind (setKeyRow_blind kid _ merged)
      intro _ _ _
      exact .pure merged
  · exact .fail _

/-- Saving a key pair does not depend on the private columns that are stored. -/
theorem saveKey_blind (now : Time.Instant) (key : KeyPair) :
    Step.Blind masked KeyPair.withoutPrivate (saveKey now key) (saveKey now key) := by
  unfold saveKey
  split
  · exact insertKey_blind now key
  · exact updateKey_blind now _ key

end Database

/-! ## Steps of a store -/

variable {Result : Type} {tell : Result → Result} {memory : Step MemoryTables Result}
  {database : Step Database Result}

theorem DatabaseStore.write_blind
    (blind : Step.Blind Database.masked tell database database) :
    Step.Blind DatabaseStore.masked tell (DatabaseStore.write database)
      (DatabaseStore.write database) := by
  rintro ⟨path, disk⟩ ⟨otherPath, otherDisk⟩ alike
  obtain rfl : path = otherPath := congrArg DatabaseStore.opened alike
  have disks : disk.masked = otherDisk.masked := congrArg DatabaseStore.disk alike
  have tables := congrArg DatabaseStore.database? alike
  rw [DatabaseStore.database?_masked, DatabaseStore.database?_masked] at tables
  rcases cases_of_map_eq tables with
    ⟨closed, otherClosed⟩ | ⟨held, otherHeld, isOpen, otherOpen, same⟩
  · simp only [Step.run, DatabaseStore.write, closed, otherClosed]
    exact ⟨rfl, alike⟩
  · obtain _ | path := path
    · cases isOpen
    · have ran := blind held otherHeld same
      simp only [Step.run, DatabaseStore.write, isOpen, otherOpen]
      refine ⟨ran.outcome, congrArg (DatabaseStore.mk (some path)) ?_⟩
      rw [Disk.masked_put, Disk.masked_put, disks]
      exact congrArg (otherDisk.masked.put path) ran.state

/-- A step on the tables of either backend is blind if the steps of both are. -/
theorem write_blind
    (inMemory : Step.Blind MemoryTables.masked tell memory memory)
    (inDatabase : Step.Blind Database.masked tell database database) :
    Step.Blind Store.masked tell (write memory database) (write memory database) := by
  rintro (⟨_ | tables⟩ | store) (⟨_ | otherTables⟩ | otherStore) alike
  · exact ⟨rfl, rfl⟩
  · cases alike
  · cases alike
  · cases alike
  · have ran := inMemory tables otherTables
      (Option.some.inj (congrArg MemoryStore.tables (Store.memory.inj alike)))
    exact ⟨ran.outcome, congrArg (fun tables => Store.memory ⟨some tables⟩) ran.state⟩
  · cases alike
  · cases alike
  · cases alike
  · have ran := DatabaseStore.write_blind inDatabase store otherStore (Store.database.inj alike)
    exact ⟨ran.outcome, congrArg Store.database ran.state⟩

/-- Saving an account is blind to the secrets of the store. -/
theorem saveAccount_blind
    {first second : Store}
    (alike : first.masked = second.masked)
    (occasion : Occasion)
    (account : Account) :
    SameMasked Account.withoutPassword masked (first.saveAccount occasion account)
      (second.saveAccount occasion account) := by
  rw [saveAccount, saveAccount, saveLentAccount, saved_withLent, saved_withLent]
  exact write_blind (MemoryTables.saveAccount_blind occasion account)
    (Database.saveAccount_blind occasion account) first second alike

/-- Saving a key pair is blind to the secrets of the store. -/
theorem saveKey_blind
    {first second : Store}
    (alike : first.masked = second.masked)
    (occasion : Occasion)
    (key : KeyPair) :
    SameMasked KeyPair.withoutPrivate masked (first.saveKey occasion key)
      (second.saveKey occasion key) := by
  rw [saveKey, saveKey, saveLentKey, saved_withLent, saved_withLent]
  exact write_blind (MemoryTables.saveKey_blind occasion.now key)
    (Database.saveKey_blind occasion.now key) first second alike

theorem deleteAccount_blind
    {first second : Store}
    (alike : first.masked = second.masked)
    (uid : String) :
    SameMasked id masked (first.deleteAccount uid) (second.deleteAccount uid) :=
  write_blind (Tables.deleteAccount_blind uid) (Tables.deleteAccount_blind uid) first second alike

theorem deleteKey_blind
    {first second : Store}
    (alike : first.masked = second.masked)
    (kid : String) :
    SameMasked id masked (first.deleteKey kid) (second.deleteKey kid) :=
  write_blind (Tables.deleteKey_blind kid) (Tables.deleteKey_blind kid) first second alike

end Credential.Store
