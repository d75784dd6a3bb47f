import Credential.Proofs.Store.Outcomes
import Credential.Proofs.Store.OwnedKeys

/-!
# The lifetimes of rows

As long as a row is there, its record keeps the name of the row and the time of
its creation, whatever the callers write into the records they save.  The time of
its change is that of the last call that saved it, and if the clock is never set
back these times stand in order.

A row is one of the accounts or of the key pairs of a file.  What is shown of runs
is shown of both kinds at once, from what one call makes of a row.
-/

namespace Credential.Store

open Credential.Time (Instant)

variable {store : Store} {calls : List (Occasion × Call)} {call : Occasion × Call}

/-! ## Runs -/

/-- Whether something holds of every call of a run, on the store that the call is made on. -/
def Throughout
    (holds : Store → Occasion → Call → Prop)
    (store : Store) :
    List (Occasion × Call) → Prop
  | [] => True
  | (occasion, call) :: later =>
      holds store occasion call ∧ Throughout holds (store.perform occasion call).2 later

instance
    (holds : Store → Occasion → Call → Prop)
    [∀ store occasion call, Decidable (holds store occasion call)]
    (store : Store)
    (calls : List (Occasion × Call)) :
    Decidable (store.Throughout holds calls) :=
  match calls with
  | [] => .isTrue trivial
  | (occasion, call) :: later =>
      have := instDecidableThroughout holds (store.perform occasion call).2 later
      inferInstanceAs (Decidable (_ ∧ _))

theorem throughout_concat_iff {holds : Store → Occasion → Call → Prop} :
    store.Throughout holds (calls ++ [call]) ↔
      store.Throughout holds calls ∧ holds (store.run calls) call.1 call.2 := by
  induction calls generalizing store with
  | nil => simp [Throughout, run]
  | cons first later inductionHypothesis =>
      simp only [List.cons_append, Throughout, inductionHypothesis, and_assoc]
      rfl

/-- What holds throughout a run holds of every call on the way. -/
theorem Throughout.of_prefix
    {holds : Store → Occasion → Call → Prop}
    {later : List (Occasion × Call)}
    (throughout : store.Throughout holds (calls ++ later)) :
    store.Throughout holds calls := by
  induction calls generalizing store with
  | nil => trivial
  | cons first rest inductionHypothesis =>
      exact ⟨throughout.1, inductionHypothesis throughout.2⟩

/-- Whether a call would add an account. -/
def Call.addsAccount : Call → Bool
  | .saveAccount account => account.uid.isNone
  | _ => false

/-- Whether a call that would add an account draws a uid that no account has. -/
def DrawsFresh (store : Store) (occasion : Occasion) (call : Call) : Prop :=
  call.addsAccount = true → store.storedAccount? occasion.uid = none

instance (store : Store) (occasion : Occasion) (call : Call) :
    Decidable (store.DrawsFresh occasion call) :=
  inferInstanceAs (Decidable (_ → _))

/-! ## Rows -/

/-- Whether a file is the open one; a store in memory has no files. -/
def opens (store : Store) (path : String) : Bool :=
  match store with
  | .memory _ => true
  | .database store => store.opened = some path

theorem opens_iff {path : String} : store.opens path = true ↔ store.withFile path = store := by
  rcases store with store | ⟨opened, disk⟩
  · exact iff_of_true rfl rfl
  · simp [opens, withFile, eq_comm]

/-- The uid of the account that a call saves, if it succeeds. -/
def savedUid? (store : Store) (occasion : Occasion) (call : Call) : Option String :=
  match call, (store.perform occasion call).1 with
  | .saveAccount _, .ok (.account record) => record.uid
  | _, _ => none

/-- The key id of the key pair that a call saves, if it succeeds. -/
def savedKid? (store : Store) (occasion : Occasion) (call : Call) : Option String :=
  match call, (store.perform occasion call).1 with
  | .saveKey _, .ok (.key record) => record.kid
  | _, _ => none

/-- A row of a file: what is read of it, what its records say of it, and what saves it. -/
structure Row (Record : Type) where
  read? : Store → Option (Except Error Record)
  /-- Whether a record has the name of the row. -/
  IsNamed : Record → Prop
  created : Record → Option Instant
  updated : Record → Option Instant
  saves : Store → Occasion → Call → Bool

namespace Row

/-- The row of an account in a file. -/
def account (path uid : String) : Row Account where
  read? store := (store.withFile path).storedAccount? uid
  IsNamed account := account.uid = some uid
  created := Account.created
  updated := Account.updated
  saves store occasion call := store.opens path && store.savedUid? occasion call = some uid

/-- The row of a key pair in a file; it is also that of the key pair's account. -/
def key (path kid : String) : Row KeyPair where
  read? store := (store.withFile path).storedKey? kid
  IsNamed key := key.kid = some kid ∧ key.accountId = kid
  created := KeyPair.created
  updated := KeyPair.updated
  saves store occasion call := store.opens path && store.savedKid? occasion call = some kid

variable {Record : Type} {row : Row Record} {occasion : Occasion}

/-- What a call makes of a row that is there afterwards: it is as before, or the call saves it. -/
inductive Step
    (row : Row Record)
    (store : Store)
    (occasion : Occasion)
    (call : Call) :
    Except Error Record → Prop where
  | kept
      {reading : Except Error Record}
      (unsaved : row.saves store occasion call = false)
      (present : row.read? store = some reading) :
      Step row store occasion call reading
  | added
      {record : Record}
      (saved : row.saves store occasion call = true)
      (absent : row.read? store = none)
      (isNamed : row.IsNamed record)
      (created : row.created record = some occasion.now)
      (updated : row.updated record = some occasion.now) :
      Step row store occasion call (.ok record)
  | changed
      {stored record : Record}
      (saved : row.saves store occasion call = true)
      (present : row.read? store = some (.ok stored))
      (isNamed : row.IsNamed record)
      (created : row.created record = row.created stored)
      (updated : row.updated record = some occasion.now) :
      Step row store occasion call (.ok record)

/-- Whether a call on a store empties a row or makes a step of it. -/
def Evolves (row : Row Record) (store : Store) (occasion : Occasion) (call : Call) : Prop :=
  ∀ reading, row.read? (store.perform occasion call).2 = some reading →
    row.Step store occasion call reading

/-- The moments at which the calls of a run save a row. -/
def saveTimes (row : Row Record) (store : Store) : List (Occasion × Call) → List Instant
  | [] => []
  | (occasion, call) :: later =>
      (if row.saves store occasion call then [occasion.now] else []) ++
        row.saveTimes (store.perform occasion call).2 later

theorem saveTimes_concat :
    row.saveTimes store (calls ++ [call]) =
      row.saveTimes store calls ++
        if row.saves (store.run calls) call.1 call.2 then [call.1.now] else [] := by
  induction calls generalizing store with
  | nil => exact List.append_nil _
  | cons first later inductionHypothesis =>
      simp only [List.cons_append, saveTimes, inductionHypothesis, List.append_assoc]
      rfl

/--
Whether what is read of a row after a run is a record with the row's name, that
was changed when the row was last saved.

Where the clock of the run is never set back, the record was not changed before
it was created, and not after the last call.
-/
def IsDated
    (row : Row Record)
    (store : Store)
    (calls : List (Occasion × Call))
    (reading : Except Error Record) :
    Prop :=
  ∃ record created updated, reading = .ok record ∧ row.IsNamed record ∧
    row.created record = some created ∧ row.updated record = some updated ∧
      (row.saveTimes store calls).getLast? = some updated ∧
        (calls.Pairwise (·.1.now ≤ ·.1.now) →
          created ≤ updated ∧ ∃ last, calls.getLast? = some last ∧ updated ≤ last.1.now)

/--
Whether a row keeps its name and the time of its creation between any two moments
of a run, if it is there at both and all the time between.
-/
def IsLasting (row : Row Record) (store : Store) (calls : List (Occasion × Call)) : Prop :=
  ∀ earlier during later, calls = earlier ++ during ++ later →
    (∀ middle, middle <+: during → row.read? (store.run (earlier ++ middle)) ≠ none) →
      ∃ first last, row.read? (store.run earlier) = some (.ok first) ∧
        row.read? (store.run (earlier ++ during)) = some (.ok last) ∧
          row.IsNamed first ∧ row.IsNamed last ∧ row.created last = row.created first

/-! ## Runs of steps -/

/-- Times of a run are in order after a call more that is not made before them. -/
theorem le_now_of_concat
    {last : Occasion × Call}
    {updated : Instant}
    (inOrder : (calls ++ [call]).Pairwise (·.1.now ≤ ·.1.now))
    (isLast : calls.getLast? = some last)
    (before : updated ≤ last.1.now) :
    updated ≤ call.1.now :=
  before.trans
    ((List.pairwise_append.mp inOrder).2.2 last (List.mem_of_getLast? isLast) call
      (List.mem_singleton_self call))

/-- What is read of a row that was empty at first is dated, after any run of steps. -/
theorem isDated_run
    (absent : row.read? store = none)
    (evolves : store.Throughout row.Evolves calls)
    {reading : Except Error Record}
    (stored : row.read? (store.run calls) = some reading) :
    row.IsDated store calls reading := by
  induction calls using List.reverseRecOn generalizing reading with
  | nil => exact absurd stored (by simp [run, absent])
  | append_singleton calls call inductionHypothesis =>
      obtain ⟨evolvesBefore, evolvesLast⟩ := throughout_concat_iff.mp evolves
      rw [run_concat] at stored
      have isLast : (calls ++ [call]).getLast? = some call := List.getLast?_concat
      have inOrderBefore (inOrder : (calls ++ [call]).Pairwise (·.1.now ≤ ·.1.now)) :=
        (List.pairwise_append.mp inOrder).1
      cases evolvesLast reading stored with
      | kept unsaved present =>
          obtain ⟨record, created, updated, rfl, isNamed, isCreated, isUpdated, lastSave, ordered⟩ :=
            inductionHypothesis evolvesBefore present
          refine ⟨record, created, updated, rfl, isNamed, isCreated, isUpdated, ?_, ?_⟩
          · simpa [saveTimes_concat, unsaved] using lastSave
          · intro inOrder
            obtain ⟨createdFirst, last, isLastBefore, before⟩ := ordered (inOrderBefore inOrder)
            exact ⟨createdFirst, call, isLast, le_now_of_concat inOrder isLastBefore before⟩
      | @added record saved absentBefore isNamed isCreated isUpdated =>
          refine ⟨record, call.1.now, call.1.now, rfl, isNamed, isCreated, isUpdated, ?_, ?_⟩
          · simp [saveTimes_concat, saved]
          · exact fun _ => ⟨le_rfl, call, isLast, le_rfl⟩
      | @changed stored record saved present isNamed isCreated isUpdated =>
          obtain ⟨_, created, updated, ⟨⟩, -, wasCreated, -, -, ordered⟩ :=
            inductionHypothesis evolvesBefore present
          refine ⟨record, created, call.1.now, rfl, isNamed, isCreated.trans wasCreated,
            isUpdated, ?_, ?_⟩
          · simp [saveTimes_concat, saved]
          · intro inOrder
            obtain ⟨createdFirst, last, isLastBefore, before⟩ := ordered (inOrderBefore inOrder)
            exact ⟨createdFirst.trans (le_now_of_concat inOrder isLastBefore before), call, isLast,
              le_rfl⟩

/-- A row that was empty at first is lasting, in any run of steps. -/
theorem isLasting_run
    (absent : row.read? store = none)
    (evolves : store.Throughout row.Evolves calls) :
    row.IsLasting store calls := by
  rintro earlier during later rfl present
  replace evolves := evolves.of_prefix
  induction during using List.reverseRecOn with
  | nil =>
      obtain ⟨reading, stored⟩ := Option.ne_none_iff_exists'.mp (present [] (List.prefix_refl _))
      rw [List.append_nil] at stored evolves
      obtain ⟨record, -, -, rfl, isNamed, -⟩ := isDated_run absent evolves stored
      exact ⟨record, record, stored, by rwa [List.append_nil], isNamed, isNamed, rfl⟩
  | append_singleton during call inductionHypothesis =>
      rw [← List.append_assoc] at evolves
      obtain ⟨evolvesBefore, evolvesLast⟩ := throughout_concat_iff.mp evolves
      obtain ⟨first, middle, isFirst, isMiddle, firstNamed, middleNamed, sameBefore⟩ :=
        inductionHypothesis
          (fun middle within => present middle (within.trans (List.prefix_append _ _)))
          evolvesBefore
      obtain ⟨reading, stored⟩ := Option.ne_none_iff_exists'.mp (present _ (List.prefix_refl _))
      rw [← List.append_assoc, run_concat] at stored ⊢
      cases evolvesLast reading stored with
      | kept unsaved present =>
          rw [isMiddle] at present
          cases present
          exact ⟨first, middle, isFirst, stored, firstNamed, middleNamed, sameBefore⟩
      | added saved absentBefore =>
          rw [isMiddle] at absentBefore
          cases absentBefore
      | changed saved present isNamed isCreated isUpdated =>
          rw [isMiddle] at present
          cases present
          exact ⟨first, _, isFirst, stored, firstNamed, isNamed, isCreated.trans sameBefore⟩

end Row

/-! ## What calls make of rows -/

variable {path uid kid : String} {occasion : Occasion}

namespace Row

theorem saves_account_iff {call : Call} :
    (account path uid).saves store occasion call = true ↔
      store.withFile path = store ∧ store.savedUid? occasion call = some uid := by
  simp [account, opens_iff]

theorem saves_key_iff {call : Call} :
    (key path kid).saves store occasion call = true ↔
      store.withFile path = store ∧ store.savedKid? occasion call = some kid := by
  simp [key, opens_iff]

end Row

theorem savedUid?_eq
    {account record : Account}
    (succeeds : (store.perform occasion (.saveAccount account)).1 = .ok (.account record)) :
    store.savedUid? occasion (.saveAccount account) = record.uid := by
  simp only [savedUid?, succeeds]

theorem savedKid?_eq
    {key record : KeyPair}
    (succeeds : (store.perform occasion (.saveKey key)).1 = .ok (.key record)) :
    store.savedKid? occasion (.saveKey key) = record.kid := by
  simp only [savedKid?, succeeds]

/-- An account whose uid a call saves is saved by it. -/
theorem IsSound.savesAccount_of_savedUid?
    (sound : store.IsSound)
    {call : Call}
    (isUid : store.savedUid? occasion call = some uid) :
    ∃ account record after ledger, call = .saveAccount account ∧
      store.SavesAccount occasion account uid record after ledger := by
  cases call with
  | saveAccount account =>
      rcases sound.saveAccount_cases occasion account with
        ⟨error, refused⟩ | ⟨other, record, after, ledger, saves⟩
      · have performs : store.perform occasion (.saveAccount account) = (.error error, store) := by
          rw [Store.perform, refused]
          rfl
        simp [savedUid?, performs] at isUid
      · obtain rfl : other = uid := by
          simpa [savedUid?, saves.perform_eq, saves.uid_eq] using isUid
        exact ⟨account, record, after, ledger, rfl, saves⟩
  | _ => cases isUid

/-- A key pair whose key id a call saves is saved by it. -/
theorem IsSound.savesKey_of_savedKid?
    (sound : store.IsSound)
    {call : Call}
    (isKid : store.savedKid? occasion call = some kid) :
    ∃ key record after ledger, call = .saveKey key ∧
      store.SavesKey occasion key kid record after ledger := by
  cases call with
  | saveKey key =>
      rcases sound.saveKey_cases occasion key with
        ⟨error, refused⟩ | ⟨other, record, after, ledger, saves⟩
      · have performs : store.perform occasion (.saveKey key) = (.error error, store) := by
          rw [Store.perform, refused]
          rfl
        simp [savedKid?, performs] at isKid
      · obtain rfl : other = kid := by
          simpa [savedKid?, saves.perform_eq, saves.kid_eq.1] using isKid
        exact ⟨key, record, after, ledger, rfl, saves⟩
  | _ => cases isKid

/-- A call that draws fresh uids empties the row of an account or makes a step of it. -/
theorem IsSound.evolves_account
    (sound : store.IsSound)
    {call : Call}
    (fresh : store.DrawsFresh occasion call) :
    (Row.account path uid).Evolves store occasion call := by
  intro reading stored
  cases isSaved : (Row.account path uid).saves store occasion call with
  | false =>
      refine .kept isSaved ?_
      rcases storedAccount?_of_perform sound stored with
        before | ⟨ledger, account, record, -, ledgerSound, inFile, rfl, succeeds, saves, -⟩
      · exact before
      · rw [← Bool.not_eq_true, Row.saves_account_iff, savedUid?_eq succeeds] at isSaved
        exact (isSaved ⟨inFile, saves.uid_eq ledgerSound⟩).elim
  | true =>
      obtain ⟨inFile, isUid⟩ := Row.saves_account_iff.mp isSaved
      obtain ⟨account, record, after, ledger, rfl, saves⟩ := sound.savesAccount_of_savedUid? isUid
      have readBefore : (Row.account path uid).read? store = store.storedAccount? uid :=
        congrArg (storedAccount? · uid) inFile
      simp only [Row.account, saves.perform_eq, saves.sameBut.withFile_eq_self inFile,
        saves.storedAccount?_eq, Option.some.injEq] at stored
      subst stored
      have isNamed : (Row.account path uid).IsNamed (store.backend.kept record) := by
        simpa [Row.account] using saves.uid_eq
      cases saves.saves with
      | added isNew =>
          exact .added isSaved (readBefore.trans (fresh (by rw [Call.addsAccount, isNew]; rfl))) isNamed
            (by simp [Row.account, Account.prepareInsert])
            (by simp [Row.account, Account.prepareInsert])
      | @changed _ before named present =>
          have isBefore : store.storedAccount? uid = some (.ok before) := by
            rw [saves.showing.storedAccount?_eq, present]
            rfl
          exact .changed isSaved (readBefore.trans isBefore) isNamed
            (by simp [Row.account, Account.prepareUpdate])
            (by simp [Row.account, Account.prepareUpdate])

/-- A call empties the row of a key pair or makes a step of it. -/
theorem IsSound.evolves_key
    (sound : store.IsSound)
    (call : Call) :
    (Row.key path kid).Evolves store occasion call := by
  intro reading stored
  cases isSaved : (Row.key path kid).saves store occasion call with
  | false =>
      refine .kept isSaved ?_
      rcases storedKey?_of_perform sound stored with
        before | ⟨ledger, key, record, -, ledgerSound, inFile, rfl, succeeds, saves, -⟩
      · exact before
      · rw [← Bool.not_eq_true, Row.saves_key_iff, savedKid?_eq succeeds] at isSaved
        exact (isSaved ⟨inFile, (saves.kid_eq ledgerSound).1⟩).elim
  | true =>
      obtain ⟨inFile, isKid⟩ := Row.saves_key_iff.mp isSaved
      obtain ⟨key, record, after, ledger, rfl, saves⟩ := sound.savesKey_of_savedKid? isKid
      have readBefore : (Row.key path kid).read? store = store.storedKey? kid :=
        congrArg (storedKey? · kid) inFile
      simp only [Row.key, saves.perform_eq, saves.sameBut.withFile_eq_self inFile,
        saves.storedKey?_eq, Option.some.injEq] at stored
      subst stored
      cases saves.saves with
      | added isNew owned absent =>
          have isAbsent : store.storedKey? key.accountId = none := by
            rw [saves.showing.storedKey?_eq, absent]
            rfl
          exact .added isSaved (readBefore.trans isAbsent) saves.kid_eq rfl rfl
      | @changed _ before named present =>
          have isBefore : store.storedKey? kid = some (.ok before) := by
            rw [saves.showing.storedKey?_eq, present]
            rfl
          exact .changed isSaved (readBefore.trans isBefore) saves.kid_eq rfl rfl

/-! ## Runs of calls -/

/-- What a sound store makes of every call that meets a condition holds throughout a run. -/
theorem IsSound.throughout
    {assumed holds : Store → Occasion → Call → Prop}
    (shows : ∀ {store : Store} {occasion : Occasion} {call : Call},
      store.IsSound → assumed store occasion call → holds store occasion call)
    (sound : store.IsSound)
    (assumption : store.Throughout assumed calls) :
    store.Throughout holds calls := by
  induction calls generalizing store with
  | nil => trivial
  | cons call later inductionHypothesis =>
      exact ⟨shows sound assumption.1,
        inductionHypothesis (sound.perform call.1 call.2) assumption.2⟩

/--
In any run of calls from a store without rows that draws fresh uids, every row of
every file keeps its name and the time of its creation while it is there, and
what is read of it at the end is dated.
-/
theorem rows_last_and_are_dated
    (rowless : store.Rowless)
    (calls : List (Occasion × Call))
    (fresh : store.Throughout DrawsFresh calls)
    (path : String) :
    (∀ uid, (Row.account path uid).IsLasting store calls ∧
      ∀ reading, (Row.account path uid).read? (store.run calls) = some reading →
        (Row.account path uid).IsDated store calls reading) ∧
      ∀ kid, (Row.key path kid).IsLasting store calls ∧
        ∀ reading, (Row.key path kid).read? (store.run calls) = some reading →
          (Row.key path kid).IsDated store calls reading := by
  constructor
  · intro uid
    have absent : (Row.account path uid).read? store = none :=
      (rowless.withFile path).storedAccount?_eq_none uid
    have evolves : store.Throughout (Row.account path uid).Evolves calls :=
      rowless.isSound.throughout (fun sound fresh => sound.evolves_account fresh) fresh
    exact ⟨Row.isLasting_run absent evolves, fun _ => Row.isDated_run absent evolves⟩
  · intro kid
    have absent : (Row.key path kid).read? store = none :=
      (rowless.withFile path).storedKey?_eq_none kid
    have evolves : store.Throughout (Row.key path kid).Evolves calls :=
      rowless.isSound.throughout (fun sound _ => sound.evolves_key _) fresh
    exact ⟨Row.isLasting_run absent evolves, fun _ => Row.isDated_run absent evolves⟩

/--
An account that is renamed by a record with another time of creation keeps its
own, and a change of it that is refused leaves its times alone.
-/
theorem rows_last_and_are_dated_renamed :
    let moment (seconds : Int) : Instant := .ofNanos (seconds * 1000000000)
    let drawing (seconds : Int) (uid : String) : Occasion :=
      ⟨moment seconds, uid, [], .mk fun _ => none⟩
    let ada := { Account.blank with email := .value "ada@example.org", created := some (moment 9) }
    let bob := { Account.blank with email := .value "bob@example.org" }
    let renamed := { Account.blank with
      uid := some "first", name := .value "Ada", created := some (moment 7)
      updated := some (moment 1) }
    let calls : List (Occasion × Call) :=
      [(drawing 1 "", .dial ⟨some "store", 0⟩), (drawing 2 "first", .saveAccount ada),
        (drawing 3 "second", .saveAccount bob), (drawing 4 "", .saveAccount renamed),
        (drawing 5 "", .saveAccount { renamed with email := .value "bob@example.org" })]
    let store := Store.database (.initial .empty)
    let row := Row.account "store" "first"
    store.Rowless ∧ store.Throughout DrawsFresh calls ∧
      calls.Pairwise (·.1.now ≤ ·.1.now) ∧
      (∃ account, row.read? (store.run calls) = some (.ok account) ∧
        account.created = some (moment 2) ∧ account.updated = some (moment 4) ∧
        row.IsDated store calls (.ok account)) ∧
      row.IsLasting store calls := by
  intro moment drawing ada bob renamed calls store row
  have rowless : store.Rowless := by
    rintro path tables ⟨⟩
  have fresh : store.Throughout DrawsFresh calls := by decide +kernel
  obtain ⟨lasting, dated⟩ := (rows_last_and_are_dated rowless calls fresh "store").1 "first"
  have stored : row.read? (store.run calls) =
      some (.ok ⟨some "first", .value "ada@example.org", .value "Ada", .null, .value true,
        some (moment 2), some (moment 4), .value false⟩) := by
    decide +kernel
  exact ⟨rowless, fresh, by decide +kernel, ⟨_, stored, rfl, rfl, dated _ stored⟩, lasting⟩

end Credential.Store
