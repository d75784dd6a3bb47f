import Credential.Proofs.Store.Cleared
import Credential.Proofs.Store.Dated

/-!
# The backends agree

A store in memory and one in a database, both empty at first, answer a run of
calls alike and hold the same records after it.  A database reads absent fields
as cleared ones, so both sides are compared with their absent fields cleared.
-/

namespace Credential.Store

open Credential.Time (Instant)

/-! ## Runs and what they are compared by -/

/-- The answer of a call with the absent fields of its accounts cleared. -/
def Answer.cleared : Answer → Answer
  | .accounts records => .accounts (records.map Account.cleared)
  | .account record => .account record.cleared
  | answer => answer

/-- Whether outcomes are the same up to the order of a listing. -/
def SameUpToOrder : Except Error Answer → Except Error Answer → Prop
  | .ok (.accounts first), .ok (.accounts second) => first.Perm second
  | .ok (.keys first), .ok (.keys second) => first.Perm second
  | first, second => first = second

/-- The outcomes of a run of calls, each with its occasion. -/
def outcomes (store : Store) : List (Occasion × Call) → List (Except Error Answer)
  | [] => []
  | (occasion, call) :: rest =>
      (store.perform occasion call).1 :: outcomes (store.perform occasion call).2 rest

/--
Whether a call is one that both backends answer alike.

New accounts have fresh uids, and one that is given as deleted does not have the
email of a live account.  A public half that is asked for is that of one stored
key pair at most.
-/
def Admits (store : Store) (occasion : Occasion) : Call → Prop
  | .dial _ | .close => False
  | .saveAccount account =>
      account.uid = none →
        store.storedAccount? occasion.uid = none ∧
          (account.deleted = .value true → ∀ email uid owner,
            account.email = .value email → store.storedAccount? uid = some (.ok owner) →
              owner.deleted ≠ .value true → owner.email ≠ .value email)
  | .keyByPublic octets =>
      ∀ firstKid secondKid first second,
        store.storedKey? firstKid = some (.ok first) →
          store.storedKey? secondKid = some (.ok second) →
            Text.Utf8.encode first.pubKey = octets → Text.Utf8.encode second.pubKey = octets →
              firstKid = secondKid
  | _ => True

/-- Whether every call of a run is one that both backends answer alike when it comes. -/
def AdmitsRun (store : Store) : List (Occasion × Call) → Prop
  | [] => True
  | (occasion, call) :: rest =>
      store.Admits occasion call ∧ AdmitsRun (store.perform occasion call).2 rest

/-- Outcomes that are the same are so up to the order of a listing. -/
theorem SameUpToOrder.of_eq
    {first second : Except Error Answer}
    (same : first = second) :
    SameUpToOrder first second := by
  subst same
  rcases first with error | answer
  · rfl
  · cases answer with
    | accounts accounts => exact List.Perm.refl accounts
    | keys keys => exact List.Perm.refl keys
    | _ => rfl

/-! ## One call -/

namespace Ledger

/-- Whether a call on a ledger is one that both backends answer alike. -/
def Admits (ledger : Ledger) (occasion : Occasion) : Call → Prop
  | .dial _ | .close => False
  | .saveAccount account =>
      account.uid = none →
        ledger.accounts occasion.uid = none ∧
          (account.isDeleted = true → ∀ email,
            account.email? = some email → ¬ ledger.EmailTaken email none)
  | .keyByPublic octets =>
      ∀ firstKid secondKid first second,
        ledger.keys firstKid = some first → ledger.keys secondKid = some second →
          Text.Utf8.encode first.pubKey = octets → Text.Utf8.encode second.pubKey = octets →
            firstKid = secondKid
  | _ => True

/-- Whether the accounts and the key pairs of a ledger were created at different times. -/
structure IsDated
    (ledger : Ledger)
    (past : Instant → Prop)
    (readings : List Instant) :
    Prop where
  accounts : Dated Account.created past readings ledger.accounts
  keys : Dated KeyPair.created past readings ledger.keys

variable {ledger after : Ledger} {past : Instant → Prop} {readings : List Instant}
  {occasion : Occasion}

/-- A ledger stays dated as the clock goes on. -/
theorem IsDated.tail
    (dated : ledger.IsDated past (occasion.now :: readings)) :
    ledger.IsDated past readings :=
  ⟨dated.accounts.tail, dated.keys.tail⟩

/-- Saving an account leaves a ledger dated. -/
theorem IsDated.saveAccount
    (dated : ledger.IsDated past (occasion.now :: readings))
    (isPast : past occasion.now)
    (isFirst : ∀ reading ∈ readings, occasion.now < reading)
    (account : Account) :
    (ledger.saveAccount .memory occasion account).2.IsDated past readings := by
  rw [Ledger.saveAccount]
  split
  case h_1 _ =>
    split
    case h_1 _ => exact dated.tail
    case h_2 email _ =>
      dsimp only
      split_ifs
      · exact dated.tail
      · exact ⟨dated.accounts.insert isPast isFirst occasion.uid rfl, dated.keys.tail⟩
  case h_2 uid _ =>
    split
    case h_1 _ => exact dated.tail
    case h_2 stored present =>
      dsimp only
      split_ifs
      · exact dated.tail
      · exact ⟨dated.accounts.tail.replace present rfl, dated.keys.tail⟩

/-- Saving a key pair leaves a ledger dated. -/
theorem IsDated.saveKey
    (dated : ledger.IsDated past (occasion.now :: readings))
    (isPast : past occasion.now)
    (isFirst : ∀ reading ∈ readings, occasion.now < reading)
    (key : KeyPair) :
    (ledger.saveKey occasion.now key).2.IsDated past readings := by
  rw [Ledger.saveKey]
  split
  case h_1 _ =>
    split
    case h_1 _ => exact dated.tail
    case h_2 _ =>
      split_ifs
      · exact dated.tail
      · exact dated.tail
      · exact ⟨dated.accounts.tail, dated.keys.insert isPast isFirst key.accountId rfl⟩
  case h_2 kid _ =>
    split
    case h_1 _ => exact dated.tail
    case h_2 stored present =>
      exact ⟨dated.accounts.tail, dated.keys.tail.replace present rfl⟩

/-- Every call on the tables of a store in memory leaves its ledger dated. -/
theorem IsDated.performs
    {call : Call}
    {outcome : Except Error Answer}
    (dated : ledger.IsDated past (occasion.now :: readings))
    (isPast : past occasion.now)
    (isFirst : ∀ reading ∈ readings, occasion.now < reading)
    (performs : ledger.Performs .memory occasion call outcome after) :
    after.IsDated past readings := by
  cases call with
  | dial dialing => exact performs.elim
  | close => exact performs.elim
  | saveAccount account =>
      rw [(Prod.mk.inj performs).2]
      exact dated.saveAccount isPast isFirst account
  | deleteAccount uid =>
      rw [(Prod.mk.inj performs).2]
      rw [deleteAccount]
      split_ifs
      · exact ⟨dated.accounts.tail.remove uid, dated.keys.tail⟩
      · exact dated.tail
  | saveKey key =>
      rw [(Prod.mk.inj performs).2]
      exact dated.saveKey isPast isFirst key
  | deleteKey kid =>
      rw [(Prod.mk.inj performs).2]
      rw [deleteKey]
      split_ifs
      · exact ⟨dated.accounts.tail, dated.keys.tail.remove kid⟩
      · exact dated.tail
  | saveToken uid token =>
      rw [(Prod.mk.inj performs).2]
      rw [putToken]
      split
      · exact dated.tail
      · exact ⟨dated.accounts.tail, dated.keys.tail⟩
  | deleteToken uid =>
      rw [(Prod.mk.inj performs).2]
      rw [deleteToken]
      split_ifs
      · exact ⟨dated.accounts.tail, dated.keys.tail⟩
      · exact dated.tail
  | _ =>
      rw [performs.1]
      exact dated.tail

/-- The records that both backends list are the same, in the same order. -/
theorem ListsByCreation.agree
    {Record : Type}
    {created : Record → Option Instant}
    {change : Record → Record}
    {view : String → Option Record}
    {memory database : List Record}
    (dated : Dated created past readings view)
    (keepsCreated : ∀ record, created (change record) = created record)
    (inMemory : ListsByCreation .memory created view memory)
    (inDatabase : ListsByCreation .database created (fun key => (view key).map change) database) :
    (memory.map change).Perm database ∧
      ((∀ instant, past instant → instant.FourDigitYear) → memory.map change = database) := by
  have changedLists := inMemory.1.map change
  refine ⟨changedLists.perm inDatabase.1, fun plain => ?_⟩
  have changedDated : Dated created past readings fun key => (view key).map change := by
    constructor
    · intro key record present
      obtain ⟨stored, storedPresent, rfl⟩ := Option.map_eq_some_iff.mp present
      rw [keepsCreated]
      exact dated.before storedPresent
    · intro firstKey secondKey first second firstPresent secondPresent same
      obtain ⟨_, firstStored, rfl⟩ := Option.map_eq_some_iff.mp firstPresent
      obtain ⟨_, secondStored, rfl⟩ := Option.map_eq_some_iff.mp secondPresent
      rw [keepsCreated, keepsCreated] at same
      exact dated.distinct firstStored secondStored same
  have written : ∀ record ∈ database, WrittenPlainly (created record) := by
    intro record member instant isCreated
    obtain ⟨key, present⟩ := inDatabase.1.exists_key member
    obtain ⟨known, knownCreated, isPast, _⟩ := changedDated.before present
    obtain rfl : known = instant := Option.some.inj (knownCreated.symm.trans isCreated)
    exact plain known isPast
  have memorySorted := inMemory.2 (Or.inl rfl)
  have databaseSorted := inDatabase.2 (Or.inr written)
  refine changedDated.eq_of_lists changedLists inDatabase.1 ?_ databaseSorted
  rw [List.pairwise_map]
  simpa only [keepsCreated] using memorySorted

/-- The live account that is found for an email is the same one in the cleared ledger. -/
theorem Sound.eq_of_finds_cleared
    {email : String}
    {first second : Except Error Account}
    (sound : ledger.Sound)
    (firstFinds :
      Table.Finds ledger.accounts (Account.IsLiveWith email) .emailNotFound first)
    (secondFinds :
      Table.Finds ledger.cleared.accounts (Account.IsLiveWith email) .emailNotFound second) :
    second = first.map Account.cleared := by
  refine Table.Finds.eq_of_unique ?_ secondFinds
    (firstFinds.map (isLiveWith_cleared_iff email))
  intro oneUid otherUid one other onePresent otherPresent oneLive otherLive
  obtain ⟨_, oneStored, rfl⟩ := Option.map_eq_some_iff.mp onePresent
  obtain ⟨_, otherStored, rfl⟩ := Option.map_eq_some_iff.mp otherPresent
  rw [isLiveWith_cleared_iff] at oneLive otherLive
  exact sound.emails oneStored otherStored oneLive.1 otherLive.1 oneLive.2 otherLive.2

/-- A live account of a cleared ledger has a text if one of the ledger has it. -/
theorem hasLiveFor_cleared_iff (query : String) :
    ledger.cleared.HasLiveFor query ↔ ledger.HasLiveFor query := by
  have agrees : ∀ account : Account,
      account.cleared.IsLiveFor query ↔ account.IsLiveFor query := by
    intro account
    have sameName : account.cleared.name.value? = account.name.value? :=
      Field.value?_cleared account.name
    rw [Account.IsLiveFor, Account.IsLiveFor, Account.isDeleted_cleared, Account.uid_cleared,
      Account.email?_cleared, sameName]
  constructor
  · rintro ⟨uid, account, present, live⟩
    obtain ⟨stored, storedPresent, rfl⟩ := Option.map_eq_some_iff.mp present
    exact ⟨uid, stored, storedPresent, (agrees stored).mp live⟩
  · rintro ⟨uid, account, present, live⟩
    exact ⟨uid, account.cleared, congrArg (Option.map Account.cleared) present,
      (agrees account).mpr live⟩

/-- Whether outcomes agree once absent fields are cleared: up to order, and if times are plain. -/
structure Agree (plain : Prop) (memory database : Except Error Answer) : Prop where
  upToOrder : SameUpToOrder (memory.map Answer.cleared) (database.map Answer.cleared)
  exactly : plain → memory.map Answer.cleared = database.map Answer.cleared

/-- Outcomes that are the same with absent fields cleared agree. -/
theorem Agree.of_eq
    {plain : Prop}
    {memory database : Except Error Answer}
    (same : memory.map Answer.cleared = database.map Answer.cleared) :
    Agree plain memory database :=
  ⟨.of_eq same, fun _ => same⟩

/-- What both backends list of the same records agrees as an answer. -/
theorem Agree.of_lists
    {Record : Type}
    {created : Record → Option Instant}
    {change : Record → Record}
    {view : String → Option Record}
    {answer : List Record → Answer}
    {first second : List Record}
    (dated : Dated created past readings view)
    (keepsCreated : ∀ record, created (change record) = created record)
    (idempotent : ∀ record, change (change record) = change record)
    (cleared_answer : ∀ records, (answer records).cleared = answer (records.map change))
    (upToOrder : ∀ {one other : List Record}, one.Perm other →
      SameUpToOrder (.ok (answer one)) (.ok (answer other)))
    (inMemory : ListsByCreation .memory created view first)
    (inDatabase : ListsByCreation .database created (fun key => (view key).map change) second) :
    Agree (∀ instant, past instant → instant.FourDigitYear) (.ok (answer first))
      (.ok (answer second)) := by
  obtain ⟨permuted, same⟩ := ListsByCreation.agree dated keepsCreated inMemory inDatabase
  have twice : (first.map change).map change = first.map change := by
    rw [List.map_map]
    exact List.map_congr_left fun record _ => idempotent record
  constructor
  · rw [Except.map, Except.map, cleared_answer, cleared_answer, ← twice]
    exact upToOrder (permuted.map change)
  · intro plain
    rw [Except.map, Except.map, cleared_answer, cleared_answer, ← twice, same plain]

/-- Operations that come to the same in both ledgers agree as calls. -/
theorem Agree.of_answered
    {Result : Type}
    {plain : Prop}
    {answer : Result → Answer}
    {first second : Except Error Result × Ledger}
    {memory database : Except Error Answer}
    {cleared : Ledger}
    (outcomes : (second.1.map answer).map Answer.cleared = (first.1.map answer).map Answer.cleared)
    (ledgers : second.2 = first.2.cleared)
    (inMemory : (memory, after) = answered answer first)
    (inDatabase : (database, cleared) = answered answer second) :
    Agree plain memory database ∧ cleared = after.cleared := by
  obtain ⟨rfl, rfl⟩ := Prod.mk.inj inMemory
  obtain ⟨rfl, rfl⟩ := Prod.mk.inj inDatabase
  exact ⟨.of_eq outcomes.symm, ledgers⟩

/-- An operation that comes to the very same in both ledgers agrees as a call. -/
theorem Agree.of_cleared
    {Result : Type}
    {plain : Prop}
    {answer : Result → Answer}
    {operation : Except Error Result × Ledger}
    {memory database : Except Error Answer}
    {cleared : Ledger}
    (inMemory : (memory, after) = answered answer operation)
    (inDatabase : (database, cleared) = answered answer (operation.1, operation.2.cleared)) :
    Agree plain memory database ∧ cleared = after.cleared := by
  refine Agree.of_answered ?_ ?_ inMemory inDatabase
  · rfl
  · rfl

/--
A call that is answered alike is answered alike from a ledger and from the cleared one.

The ledgers that it leaves are again one and the cleared one.
-/
theorem Performs.agree
    {call : Call}
    {memory database : Except Error Answer}
    {cleared : Ledger}
    (sound : ledger.Sound)
    (dated : ledger.IsDated past readings)
    (admits : ledger.Admits occasion call)
    (inMemory : ledger.Performs .memory occasion call memory after)
    (inDatabase : ledger.cleared.Performs .database occasion call database cleared) :
    Agree (∀ instant, past instant → instant.FourDigitYear) memory database ∧
      cleared = after.cleared := by
  cases call with
  | dial dialing => exact inMemory.elim
  | close => exact inMemory.elim
  | loadAllAccounts =>
      obtain ⟨rfl, first, firstLists, rfl⟩ := inMemory
      obtain ⟨rfl, second, secondLists, rfl⟩ := inDatabase
      refine ⟨.of_lists dated.accounts Account.created_cleared Account.cleared_cleared
        (fun _ => rfl) ?_ firstLists secondLists, rfl⟩
      exact fun permuted => permuted
  | loadAllKeys =>
      obtain ⟨rfl, first, firstLists, rfl⟩ := inMemory
      obtain ⟨rfl, second, secondLists, rfl⟩ := inDatabase
      have unchanged : (fun kid => (after.keys kid).map id) = after.keys := by
        funext kid
        exact Option.map_id_apply
      rw [keys_cleared, ← unchanged] at secondLists
      refine ⟨.of_lists dated.keys (fun _ => rfl) (fun _ => rfl) (fun records => ?_) ?_
        firstLists secondLists, rfl⟩
      · exact congrArg Answer.keys (List.map_id records).symm
      · exact fun permuted => permuted
  | accountByEmail email =>
      obtain ⟨rfl, first, firstFinds, rfl⟩ := inMemory
      obtain ⟨rfl, second, secondFinds, rfl⟩ := inDatabase
      rw [sound.eq_of_finds_cleared firstFinds secondFinds]
      refine ⟨.of_eq ?_, rfl⟩
      cases first with
      | error error => rfl
      | ok account => simp [Except.map, Answer.cleared]
  | keyByPublic octets =>
      obtain ⟨rfl, first, firstFinds, rfl⟩ := inMemory
      obtain ⟨rfl, second, secondFinds, rfl⟩ := inDatabase
      obtain rfl := Table.Finds.eq_of_unique admits firstFinds secondFinds
      exact ⟨.of_eq rfl, rfl⟩
  | existsAccount query =>
      obtain ⟨rfl, first, firstDecides, rfl⟩ := inMemory
      obtain ⟨rfl, second, secondDecides, rfl⟩ := inDatabase
      have same : first = second := by
        rw [Bool.eq_iff_iff, firstDecides, secondDecides, hasLiveFor_cleared_iff]
      subst same
      exact ⟨.of_eq rfl, rfl⟩
  | loadAccount uid =>
      obtain ⟨rfl, rfl⟩ := inMemory
      obtain ⟨rfl, rfl⟩ := inDatabase
      refine ⟨.of_eq ?_, rfl⟩
      rw [accounts_cleared]
      cases after.accounts uid with
      | none => rfl
      | some account => simp [found, Except.map, Answer.cleared]
  | saveAccount account =>
      obtain ⟨outcomes, ledgers⟩ := saveAccount_cleared occasion (fun isNew => (admits isNew).1)
        fun isNew => (admits isNew).2
      refine Agree.of_answered ?_ ledgers inMemory inDatabase
      have answers : ∀ outcome : Except Error Account,
          (outcome.map Answer.account).map Answer.cleared =
            (outcome.map Account.cleared).map Answer.account := by
        intro outcome
        cases outcome <;> rfl
      rw [answers, answers, outcomes]
  | deleteAccount uid =>
      rw [Performs, deleteAccount_cleared] at inDatabase
      exact Agree.of_cleared inMemory inDatabase
  | saveKey key =>
      rw [Performs, saveKey_cleared] at inDatabase
      exact Agree.of_cleared inMemory inDatabase
  | deleteKey kid =>
      rw [Performs, deleteKey_cleared] at inDatabase
      exact Agree.of_cleared inMemory inDatabase
  | saveToken uid token =>
      rw [Performs, putToken_cleared] at inDatabase
      exact Agree.of_cleared inMemory inDatabase
  | deleteToken uid =>
      rw [Performs, deleteToken_cleared] at inDatabase
      exact Agree.of_cleared inMemory inDatabase
  | _ =>
      obtain ⟨rfl, rfl⟩ := inMemory
      obtain ⟨rfl, rfl⟩ := inDatabase
      exact ⟨.of_eq rfl, rfl⟩

end Ledger

/-! ## Runs -/

variable {memory database : Store} {ledger : Ledger} {past : Instant → Prop}

/-- A call that both backends answer alike is about the tables. -/
theorem Admits.isOnTables
    {store : Store}
    {occasion : Occasion}
    {call : Call}
    (admits : store.Admits occasion call) :
    call.IsOnTables := by
  cases call with
  | dial dialing => exact admits
  | close => exact admits
  | _ => trivial

/-- What a store admits its ledger does. -/
theorem Shows.admits
    (showing : memory.Shows ledger)
    {occasion : Occasion}
    {call : Call}
    (admits : memory.Admits occasion call) :
    ledger.Admits occasion call := by
  cases call with
  | saveAccount account =>
      intro isNew
      obtain ⟨fresh, free⟩ := admits isNew
      rw [showing.storedAccount?_eq, Option.map_eq_none_iff] at fresh
      refine ⟨fresh, fun deleted email hasEmail taken => ?_⟩
      obtain ⟨uid, owner, present, live, ownerEmail, _⟩ := taken
      have value_of : ∀ {field : Field String}, field.value? = some email →
          field = .value email := by
        intro field hasValue
        cases field with
        | value content => exact congrArg Field.value (Option.some.inj hasValue)
        | _ => cases hasValue
      refine free (of_decide_eq_true deleted) email uid owner (value_of hasEmail) ?_
        (of_decide_eq_false live) (value_of ownerEmail)
      rw [showing.storedAccount?_eq, present]
      rfl
  | keyByPublic octets =>
      intro firstKid secondKid first second firstPresent secondPresent
      refine admits firstKid secondKid first second ?_ ?_
      · rw [showing.storedKey?_eq, firstPresent]
        rfl
      · rw [showing.storedKey?_eq, secondPresent]
        rfl
  | _ => exact admits

/-- From ledgers that are one and the cleared one, a run is answered alike and leaves such again. -/
theorem Shows.outcomes_agree
    {calls : List (Occasion × Call)}
    (memoryKind : memory.backend = .memory)
    (databaseKind : database.backend = .database)
    (memoryShows : memory.Shows ledger)
    (databaseShows : database.Shows ledger.cleared)
    (sound : ledger.Sound)
    (dated : ledger.IsDated past (calls.map fun call => call.1.now))
    (isPast : ∀ call ∈ calls, past call.1.now)
    (increasing : (calls.map fun call => call.1.now).Pairwise (· < ·))
    (admits : memory.AdmitsRun calls) :
    List.Forall₂ (Ledger.Agree (∀ instant, past instant → instant.FourDigitYear))
        (memory.outcomes calls) (database.outcomes calls) ∧
      ∃ after : Ledger,
        (memory.run calls).Shows after ∧ (database.run calls).Shows after.cleared := by
  induction calls generalizing memory database ledger with
  | nil => exact ⟨List.Forall₂.nil, ledger, memoryShows, databaseShows⟩
  | cons next rest inductionHypothesis =>
      obtain ⟨occasion, call⟩ := next
      obtain ⟨admitsCall, admitsRest⟩ := admits
      rw [List.map_cons, List.pairwise_cons] at increasing
      obtain ⟨after, inMemory⟩ := memoryShows.perform sound occasion admitsCall.isOnTables
      obtain ⟨cleared, inDatabase⟩ :=
        databaseShows.perform sound.cleared occasion admitsCall.isOnTables
      have memoryPerforms := inMemory.performs
      have databasePerforms := inDatabase.performs
      rw [memoryKind] at memoryPerforms
      rw [databaseKind] at databasePerforms
      obtain ⟨agree, rfl⟩ :=
        memoryPerforms.agree sound dated (memoryShows.admits admitsCall) databasePerforms
      have datedAfter :=
        dated.performs (isPast _ List.mem_cons_self) increasing.1 memoryPerforms
      obtain ⟨outcomesAgree, shows⟩ :=
        inductionHypothesis (inMemory.backend.trans memoryKind)
          (inDatabase.backend.trans databaseKind) inMemory.shows inDatabase.shows
          (sound.performs memoryPerforms) datedAfter
          (fun call member => isPast call (List.mem_cons_of_mem _ member)) increasing.2 admitsRest
      exact ⟨List.Forall₂.cons agree outcomesAgree, shows⟩

/--
A store in memory and one in a database answer any run of calls on their tables alike.

Both begin without rows, and the clock goes on from call to call.  The tables are
then again the same.  A database lists records in the order of the texts of their
times, which is the order of time for years of four digits; a clock that leaves
those years changes nothing but the order of listings.
-/
theorem backends_agree
    {store : DatabaseStore}
    (dialed : store.database? = some Tables.empty)
    {calls : List (Occasion × Call)}
    (increasing : (calls.map fun call => call.1.now).Pairwise (· < ·))
    (admits : (Store.memory ⟨some Tables.empty⟩).AdmitsRun calls) :
    let memory := Store.memory ⟨some Tables.empty⟩
    let database := Store.database store
    List.Forall₂
        (fun first second =>
          SameUpToOrder (first.map Answer.cleared) (second.map Answer.cleared))
        (memory.outcomes calls) (database.outcomes calls) ∧
      ((∀ call ∈ calls, call.1.now.FourDigitYear) →
        (memory.outcomes calls).map (Except.map Answer.cleared) =
          (database.outcomes calls).map (Except.map Answer.cleared)) ∧
      (∀ uid, ((memory.run calls).storedAccount? uid).map (Except.map Account.cleared) =
        (database.run calls).storedAccount? uid) ∧
      (∀ kid, (memory.run calls).storedKey? kid = (database.run calls).storedKey? kid) ∧
      ∀ uid, (memory.run calls).storedToken? uid = (database.run calls).storedToken? uid := by
  intro memory database
  let plain : Prop := ∀ call ∈ calls, call.1.now.FourDigitYear
  have memoryShows : memory.Shows .empty := .memory Tables.shows_empty
  have databaseShows : database.Shows Ledger.empty.cleared := by
    obtain ⟨path, opened, content⟩ := DatabaseStore.database?_eq_some_iff.mp dialed
    obtain ⟨_, disk⟩ := store
    subst opened
    exact .database content Tables.shows_empty
  have dated : Ledger.empty.IsDated (fun instant => plain → instant.FourDigitYear)
      (calls.map fun call => call.1.now) :=
    ⟨Dated.empty, Dated.empty⟩
  obtain ⟨agree, after, memoryAfter, databaseAfter⟩ :=
    memoryShows.outcomes_agree rfl rfl databaseShows Ledger.Sound.empty dated
      (fun call member isPlain => isPlain call member) increasing admits
  refine ⟨agree.imp fun _ _ same => same.upToOrder, fun isPlain => ?_, fun uid => ?_,
    fun kid => ?_, fun uid => ?_⟩
  · have same := agree.imp fun _ _ same => same.exactly fun _ isPast => isPast isPlain
    rw [← List.forall₂_eq_eq_eq, List.forall₂_map_left_iff, List.forall₂_map_right_iff]
    exact same
  · rw [memoryAfter.storedAccount?_eq, databaseAfter.storedAccount?_eq, Ledger.accounts_cleared,
      Option.map_map, Option.map_map]
    rfl
  · rw [memoryAfter.storedKey?_eq, databaseAfter.storedKey?_eq, Ledger.keys_cleared]
  · rw [memoryAfter.storedToken?_eq, databaseAfter.storedToken?_eq, Ledger.tokens_cleared]

/-- An account that is added without a name, marked as deleted and listed is so in both backends. -/
theorem backends_agree_deleted :
    let first : Instant := ⟨1, 0, Or.inl (by decide), by decide⟩
    let second : Instant := ⟨1, 500, Or.inl (by decide), by decide⟩
    let third : Instant := ⟨2, 0, Or.inl (by decide), by decide⟩
    let drawing (now : Instant) : Occasion := ⟨now, "ada", [], .mk fun _ => none⟩
    let calls : List (Occasion × Call) :=
      [(drawing first, .saveAccount { Account.blank with email := .value "ada@example.org" }),
        (drawing second,
          .saveAccount { Account.blank with uid := some "ada", deleted := .value true }),
        (drawing third, .loadAllAccounts)]
    let store : DatabaseStore := ⟨some "store", ⟨Table.empty.insert "store" (.database .empty)⟩⟩
    store.database? = some Tables.empty ∧
      (calls.map fun call => call.1.now).Pairwise (· < ·) ∧
      (Store.memory ⟨some Tables.empty⟩).AdmitsRun calls ∧
      (∀ call ∈ calls, call.1.now.FourDigitYear) ∧
      ((Store.memory ⟨some Tables.empty⟩).outcomes calls).map (Except.map Answer.cleared) =
        ((Store.database store).outcomes calls).map (Except.map Answer.cleared) := by
  intro first second third drawing calls store
  have dialed : store.database? = some Tables.empty := rfl
  have increasing : (calls.map fun call => call.1.now).Pairwise (· < ·) := by
    simp [calls, drawing, first, second, third, Instant.lt_iff]
  have admits : (Store.memory ⟨some Tables.empty⟩).AdmitsRun calls := by
    refine ⟨fun _ => ⟨rfl, fun deleted => ?_⟩, fun isNew => ?_, trivial, trivial⟩
    · cases deleted
    · cases isNew
  have plain : ∀ call ∈ calls, call.1.now.FourDigitYear := by
    simp [calls, drawing]
    decide
  exact ⟨dialed, increasing, admits, plain, (backends_agree dialed increasing admits).2.1 plain⟩

/--
An account of the last second of the year 9999 and one of the next second are listed
in opposite orders, as the sign of the later year comes before every digit.
-/
theorem outcomes_differ_in_year_10000 :
    let occasion (seconds : Int) (uid : String) : Occasion :=
      ⟨.ofNanos (seconds * 1000000000), uid, [], .mk fun _ => none⟩
    let ada := { Account.blank with email := .value "ada@example.org" }
    let bob := { Account.blank with email := .value "bob@example.org" }
    let calls : List (Occasion × Call) :=
      [(occasion 253402300799 "ada", .saveAccount ada),
        (occasion 253402300800 "bob", .saveAccount bob),
        (occasion 253402300801 "", .loadAllAccounts)]
    let store : DatabaseStore := ⟨some "store", ⟨Table.empty.insert "store" (.database .empty)⟩⟩
    store.database? = some Tables.empty ∧
      (calls.map fun call => call.1.now).Pairwise (· < ·) ∧
      (Store.memory ⟨some Tables.empty⟩).AdmitsRun calls ∧
      ((Store.memory ⟨some Tables.empty⟩).outcomes calls).map (Except.map Answer.cleared) ≠
        ((Store.database store).outcomes calls).map (Except.map Answer.cleared) := by
  intro occasion ada bob calls store
  let last := occasion 253402300799 "ada"
  let next := occasion 253402300800 "bob"
  let tables : MemoryTables :=
    ((MemoryTables.saveAccount next bob).run ((MemoryTables.saveAccount last ada).run .empty).2).2
  let database : Database :=
    ((Database.saveAccount next bob).run ((Database.saveAccount last ada).run .empty).2).2
  let first := ada.prepareInsert "ada" last.now
  let second := bob.prepareInsert "bob" next.now
  have increasing : (calls.map fun call => call.1.now).Pairwise (· < ·) := by
    simp only [calls, List.map_cons, List.map_nil, List.pairwise_cons, Instant.lt_iff]
    decide +kernel
  have admits : (Store.memory ⟨some Tables.empty⟩).AdmitsRun calls := by
    refine ⟨fun _ => ⟨rfl, fun deleted => ?_⟩, fun _ => ⟨rfl, fun deleted => ?_⟩, trivial, trivial⟩
    · cases deleted
    · cases deleted
  have inMemory : tables.allAccounts = [first, second] := by
    have rows : tables.accounts.rows = [first, second] := rfl
    rw [MemoryTables.allAccounts, rows, Table.mergeSort_pair]
    decide +kernel
  have inDatabase : database.allAccounts = .ok [second.cleared, first.cleared] := by
    have rows : database.accounts.rows =
        [.ofAccount first "ada" "9999-12-31T23:59:59+00:00" "9999-12-31T23:59:59+00:00",
          .ofAccount second "bob" "+10000-01-01T00:00:00+00:00" "+10000-01-01T00:00:00+00:00"] := by
      decide +kernel
    rw [Database.allAccounts, rows, Table.mergeSort_pair]
    decide +kernel
  refine ⟨rfl, increasing, admits, fun same => ?_⟩
  simp only [calls, outcomes, List.map, List.cons.injEq] at same
  obtain ⟨-, -, listed, -⟩ := same
  change Except.map Answer.cleared (.ok (.accounts tables.allAccounts)) =
    Except.map Answer.cleared (database.allAccounts.map .accounts) at listed
  rw [inMemory, inDatabase] at listed
  exact absurd listed (by decide +kernel)

end Credential.Store
