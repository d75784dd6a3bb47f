import Credential.Proofs.Store.Rows
import Mathlib.Data.List.Infix

/-!
# Key pairs belong to accounts

However a store has been used since it was empty, its key pairs are complete and
under the uids of their accounts, one for each.  The account may have gone since,
but it was there when the key pair was added.
-/

namespace Credential.Store

variable {store : Store}

/-- Whether the key pairs of a store are complete and under their accounts, one for each. -/
structure KeepsKeys (store : Store) : Prop where
  /-- Every row reads as a key pair that is complete, and whose account is the key of the row. -/
  complete : ∀ kid reading, store.storedKey? kid = some reading →
    ∃ key, reading = .ok key ∧ key.kid = some key.accountId ∧ key.accountId = kid ∧
      key.accountId ≠ "" ∧ key.pubKey ≠ "" ∧ key.privKey ≠ "" ∧
      key.active.isSome = true ∧ key.created.isSome = true ∧ key.updated.isSome = true
  /-- Key pairs of one account are one key pair. -/
  distinct : ∀ firstKid secondKid first second,
    store.storedKey? firstKid = some (.ok first) →
      store.storedKey? secondKid = some (.ok second) →
        first.accountId = second.accountId → firstKid = secondKid

/-- A store that shows a sound ledger keeps its key pairs. -/
theorem Shows.keepsKeys
    {ledger : Ledger}
    (showing : store.Shows ledger)
    (sound : ledger.Sound) :
    store.KeepsKeys where
  complete := by
    intro kid reading stored
    rw [showing.storedKey?_eq] at stored
    obtain ⟨key, present, rfl⟩ := Option.map_eq_some_iff.mp stored
    have wellKept := sound.keys present
    exact ⟨key, rfl, by rw [wellKept.kid_eq, wellKept.accountId_eq], wellKept.accountId_eq,
      wellKept.accountId, wellKept.pubKey, wellKept.privKey, wellKept.active, wellKept.created,
      wellKept.updated⟩
  distinct := by
    intro firstKid secondKid first second firstStored secondStored same
    have firstPresent := showing.storedKey?_eq_some_iff.mp firstStored
    have secondPresent := showing.storedKey?_eq_some_iff.mp secondStored
    rw [← (sound.keys firstPresent).accountId_eq, same, (sound.keys secondPresent).accountId_eq]

/-! ## Where key pairs come from -/

/-- Whether a call adds a key pair for an account that is there and has none. -/
structure AddsKey (store : Store) (occasion : Occasion) (key : KeyPair) (kid : String) : Prop where
  isNew : key.kid = none
  owner : key.accountId = kid
  account : ∃ account, store.storedAccount? kid = some (.ok account)
  absent : store.storedKey? kid = none
  succeeds :
    (store.perform occasion (.saveKey key)).1 = .ok (.key (key.prepareInsert occasion.now))

/--
Whether a run of calls added the key pair that is now under a key id in a file.

At that moment its account was there, and from then on there was always a key
pair under the key id.
-/
def HasAdded
    (store : Store)
    (calls : List (Occasion × Call))
    (path kid : String) :
    Prop :=
  ∃ before occasion key later,
    calls = before ++ (occasion, .saveKey key) :: later ∧
      (store.run before).withFile path = store.run before ∧
      (store.run before).AddsKey occasion key kid ∧
      ∀ middle, middle <+: later →
        ((store.run (before ++ (occasion, .saveKey key) :: middle)).withFile path).storedKey? kid ≠
          none

/-- A run with one call more leaves what the call leaves. -/
theorem run_concat (store : Store) (calls : List (Occasion × Call)) (call : Occasion × Call) :
    store.run (calls ++ [call]) = ((store.run calls).perform call.1 call.2).2 := by
  simp [run]

/-- A complete key pair can be added for an account that has none. -/
theorem storedKey?_of_added
    (sound : store.IsSound)
    (occasion : Occasion)
    {key : KeyPair}
    (isNew : key.kid = none)
    (complete : Ledger.requireKey key = .ok ())
    (owned : store.storedAccount? key.accountId ≠ none)
    (absent : store.storedKey? key.accountId = none) :
    (store.perform occasion (.saveKey key)).2.storedKey? key.accountId =
      some (.ok (key.prepareInsert occasion.now)) := by
  obtain ⟨reading, found⟩ := Option.ne_none_iff_exists'.mp owned
  obtain ⟨ledger, showing, ledgerSound⟩ := sound.exists_shows (isOpen_of_storedAccount? found)
  have onTables : (Call.saveKey key).IsOnTables := trivial
  obtain ⟨after, performed⟩ := showing.perform ledgerSound occasion onTables
  obtain ⟨-, rfl⟩ := Prod.mk.inj performed.performs
  rw [showing.storedAccount?_eq] at owned
  rw [showing.storedKey?_eq, Option.map_eq_none_iff] at absent
  have present : (ledger.accounts key.accountId).isNone = false := by
    simpa [Option.isNone_eq_false_iff, Option.isSome_iff_ne_none] using owned
  rw [performed.shows.storedKey?_eq, Ledger.saveKey, isNew]
  dsimp only
  rw [complete]
  simp [present, absent, Ledger.keys_setKey]

/-- What has been added stays added if the key pair is still there after one call more. -/
theorem HasAdded.concat
    {calls : List (Occasion × Call)}
    {call : Occasion × Call}
    {path kid : String}
    (added : store.HasAdded calls path kid)
    (stays : ((store.run (calls ++ [call])).withFile path).storedKey? kid ≠ none) :
    store.HasAdded (calls ++ [call]) path kid := by
  obtain ⟨before, occasion, key, later, rfl, inFile, adds, keeps⟩ := added
  refine ⟨before, occasion, key, later ++ [call], by simp, inFile, adds, ?_⟩
  intro middle within
  rcases List.prefix_concat_iff.mp within with rfl | within
  · simpa using stays
  · exact keeps middle within

/-- A key pair that is stored after a call was stored before it, or the call has added it. -/
theorem stored_or_adds
    (sound : store.IsSound)
    {occasion : Occasion}
    {call : Call}
    {path kid : String}
    (stored : ((store.perform occasion call).2.withFile path).storedKey? kid ≠ none) :
    (store.withFile path).storedKey? kid ≠ none ∨
      ∃ key, call = .saveKey key ∧ store.withFile path = store ∧
        store.AddsKey occasion key kid := by
  obtain ⟨reading, stored⟩ := Option.ne_none_iff_exists'.mp stored
  rcases storedKey?_of_perform sound stored with
    earlier | ⟨ledger, key, record, showing, ledgerSound, inFile, rfl, succeeds, saves, rfl⟩
  · exact .inl (by simp [earlier])
  · cases saves with
    | added isNew owned absent =>
        obtain ⟨account, present⟩ := Option.ne_none_iff_exists'.mp owned
        refine .inr ⟨key, rfl, inFile, isNew, rfl, ⟨account, ?_⟩, ?_, succeeds⟩
        · rw [showing.storedAccount?_eq, present]
          rfl
        · rw [showing.storedKey?_eq, absent]
          rfl
    | changed named present =>
        refine .inl ?_
        rw [inFile, showing.storedKey?_eq, present]
        exact Option.some_ne_none _

/-- Every key pair of a file that a run leaves was added in the run. -/
theorem Rowless.hasAdded
    (rowless : store.Rowless)
    (calls : List (Occasion × Call))
    {path kid : String}
    (stored : ((store.run calls).withFile path).storedKey? kid ≠ none) :
    store.HasAdded calls path kid := by
  -- From the last call to the first: the key pair was there before, or this call has added it.
  induction calls using List.reverseRecOn with
  | nil =>
      exact (stored ((rowless.withFile path).storedKey?_eq_none kid)).elim
  | append_singleton calls call inductionHypothesis =>
      have last := stored
      rw [run_concat] at last
      rcases stored_or_adds (rowless.isSound.run calls) last with
        earlier | ⟨key, isSave, inFile, adds⟩
      · exact (inductionHypothesis earlier).concat stored
      · obtain ⟨occasion, rfl⟩ : ∃ occasion, call = (occasion, .saveKey key) :=
          ⟨call.1, by rw [← isSave]⟩
        refine ⟨calls, occasion, key, [], rfl, inFile, adds, ?_⟩
        intro middle within
        rw [List.prefix_nil.mp within]
        exact stored

/--
Any run of calls from a store without rows keeps the key pairs, and every key
pair that it leaves was added for an account that was there at that moment.
-/
theorem keepsKeys_run
    (rowless : store.Rowless)
    (calls : List (Occasion × Call)) :
    (store.run calls).KeepsKeys ∧
      ∀ kid, (store.run calls).storedKey? kid ≠ none →
        ∃ path, (store.run calls).withFile path = store.run calls ∧
          store.HasAdded calls path kid := by
  constructor
  · cases isOpen : (store.run calls).isOpen with
    | true =>
        obtain ⟨ledger, showing, sound⟩ := (rowless.isSound.run calls).exists_shows isOpen
        exact showing.keepsKeys sound
    | false =>
        have absent : ∀ kid, (store.run calls).storedKey? kid = none := by
          intro kid
          by_contra present
          obtain ⟨reading, present⟩ := Option.ne_none_iff_exists'.mp present
          rw [isOpen_of_storedKey? present] at isOpen
          cases isOpen
        constructor
        · intro kid reading stored
          rw [absent] at stored
          cases stored
        · intro firstKid secondKid first second stored
          rw [absent] at stored
          cases stored
  · intro kid stored
    obtain ⟨reading, present⟩ := Option.ne_none_iff_exists'.mp stored
    obtain ⟨path, inFile⟩ := exists_withFile_eq_self (isOpen_of_storedKey? present)
    refine ⟨path, inFile, rowless.hasAdded calls ?_⟩
    rw [inFile]
    exact stored

/-- A key pair that is given blank parts keeps its own, also when its account has gone. -/
theorem keepsKeys_run_orphaned :
    let drawing (uid : String) : Occasion := ⟨.start, uid, [], .mk fun _ => none⟩
    let ada := { Account.blank with email := .value "ada@example.org" }
    let key : KeyPair := ⟨none, "public", "private", "first", none, none, none⟩
    let calls : List (Occasion × Call) :=
      [(drawing "", .dial ⟨some "store", 0⟩), (drawing "first", .saveAccount ada),
        (drawing "", .saveKey key), (drawing "", .deleteAccount "first"),
        (drawing "", .saveKey ⟨some "first", "", "", "", none, none, none⟩)]
    let store := Store.database (.initial .empty)
    store.Rowless ∧ (store.run calls).storedAccount? "first" = none ∧
      (store.run calls).storedKey? "first" =
        some (.ok (key.prepareInsert .start)) ∧
      (store.run calls).KeepsKeys ∧ ∃ path, store.HasAdded calls path "first" := by
  intro drawing ada key calls store
  have rowless : store.Rowless := by
    rintro path tables ⟨⟩
  have gone : (store.run calls).storedAccount? "first" = none := by decide +kernel
  have stored : (store.run calls).storedKey? "first" =
      some (.ok (key.prepareInsert .start)) := by
    decide +kernel
  obtain ⟨keeps, added⟩ := keepsKeys_run rowless calls
  obtain ⟨path, -, hasAdded⟩ := added "first" (by rw [stored]; exact Option.some_ne_none _)
  exact ⟨rowless, gone, stored, keeps, path, hasAdded⟩

end Credential.Store
