import Credential.Proofs.Store.Connection
import Credential.Proofs.Store.Reordered

/-!
# Listings

A store that is connected lists every record that it holds once and nothing else,
in the order in which the records were created.  The clock may stand still or be set
back, and the rows of a store in memory may come in any order.

A database orders its rows by the octets of written times, which have no fraction or
one of three, six or nine digits.  That is the order of time within the years that
have four digits, and so the clock is to stay within them.
-/

namespace Credential.Store

open Credential.Time (Instant)

variable {store : Store} {ledger : Ledger}

/-! ## Records with times of four digits -/

/-- Whether all records in the files of a store were created in years of four digits. -/
structure PlainlyDated (store : Store) : Prop where
  accounts : ∀ {path uid account},
    (store.withFile path).storedAccount? uid = some (.ok account) →
      Ledger.WrittenPlainly account.created
  keys : ∀ {path kid key},
    (store.withFile path).storedKey? kid = some (.ok key) → Ledger.WrittenPlainly key.created

theorem Rowless.plainlyDated (rowless : store.Rowless) : store.PlainlyDated where
  accounts := by
    intro path uid account stored
    rw [(rowless.withFile path).storedAccount?_eq_none] at stored
    cases stored
  keys := by
    intro path kid key stored
    rw [(rowless.withFile path).storedKey?_eq_none] at stored
    cases stored

namespace PlainlyDated

/-- A call at a moment of such a year leaves records of such years. -/
theorem perform
    (plainlyDated : store.PlainlyDated)
    (sound : store.IsSound)
    {occasion : Occasion}
    (plain : occasion.now.FourDigitYear)
    (call : Call) :
    (store.perform occasion call).2.PlainlyDated where
  accounts := by
    intro path uid account stored
    rcases storedAccount?_of_perform sound stored with
      before | ⟨ledger, given, record, showing, -, inFile, -, -, saves, isRecord⟩
    · exact plainlyDated.accounts before
    · obtain rfl := Except.ok.inj isRecord
      rw [Backend.created_kept]
      cases saves with
      | added isNew =>
          rintro instant ⟨⟩
          exact plain
      | @changed _ original named present =>
          -- A record that changes keeps its time of creation.
          rw [← showing.storedAccount?_eq_some_iff, ← inFile] at present
          exact show Ledger.WrittenPlainly original.created from plainlyDated.accounts present
  keys := by
    intro path kid key stored
    rcases storedKey?_of_perform sound stored with
      before | ⟨ledger, given, record, showing, -, inFile, -, -, saves, isRecord⟩
    · exact plainlyDated.keys before
    · obtain rfl := Except.ok.inj isRecord
      cases saves with
      | added isNew owned absent =>
          rintro instant ⟨⟩
          exact plain
      | @changed _ original named present =>
          rw [← showing.storedKey?_eq_some_iff, ← inFile] at present
          exact show Ledger.WrittenPlainly original.created from plainlyDated.keys present

/-- A run of calls at moments of such years leaves records of such years. -/
theorem run
    (plainlyDated : store.PlainlyDated)
    (sound : store.IsSound)
    {calls : List (Occasion × Call)}
    (plain : ∀ call ∈ calls, call.1.now.FourDigitYear) :
    (store.run calls).PlainlyDated := by
  induction calls generalizing store with
  | nil => exact plainlyDated
  | cons call rest inductionHypothesis =>
      have isPlain := plain call List.mem_cons_self
      exact inductionHypothesis (plainlyDated.perform sound isPlain call.2)
        (sound.perform call.1 call.2) fun later member =>
          plain later (List.mem_cons_of_mem call member)

end PlainlyDated

/-! ## Listings -/

/-- Whether a list holds all that is stored once and nothing else, in the order of creation. -/
structure IsListing
    {Record : Type}
    (stored? : String → Option (Except Error Record))
    (created : Record → Option Instant)
    (records : List Record) :
    Prop where
  complete : Table.Lists stored? (records.map .ok)
  inOrder : records.Pairwise fun first second =>
    ∃ earlier later,
      created first = some earlier ∧ created second = some later ∧ earlier ≤ later

/-- Records of a view that have times of four digits are listed in the order of those times. -/
theorem Ledger.ListsByCreation.isListing
    {Record : Type}
    {backend : Backend}
    {created : Record → Option Instant}
    {view : String → Option Record}
    {stored? : String → Option (Except Error Record)}
    {records : List Record}
    (lists : ListsByCreation backend created view records)
    (stored_eq : ∀ key, stored? key = (view key).map .ok)
    (isCreated : ∀ {key record}, view key = some record → (created record).isSome = true)
    (plain : ∀ {key record}, view key = some record → WrittenPlainly (created record)) :
    IsListing stored? created records where
  complete := by
    obtain ⟨keys, nodup, member, keyRecords⟩ := lists.1
    refine ⟨keys, nodup, fun key => ?_, ?_⟩
    · rw [member, stored_eq, ne_eq, ne_eq, Option.map_eq_none_iff]
    · calc
        keys.map stored? = (keys.map view).map (Option.map .ok) := by
          rw [List.map_map]
          exact List.map_congr_left fun key _ => stored_eq key
        _ = (records.map .ok).map some := by
          rw [keyRecords, List.map_map, List.map_map]
          rfl
  inOrder := by
    have isPlain : ∀ record ∈ records, WrittenPlainly (created record) := by
      intro record member
      obtain ⟨key, present⟩ := lists.1.exists_key member
      exact plain present
    refine (lists.2 (.inr isPlain)).imp_of_mem ?_
    intro first second firstMember secondMember ordered
    obtain ⟨firstKey, firstPresent⟩ := lists.1.exists_key firstMember
    obtain ⟨secondKey, secondPresent⟩ := lists.1.exists_key secondMember
    obtain ⟨earlier, isEarlier⟩ := Option.isSome_iff_exists.mp (isCreated firstPresent)
    obtain ⟨later, isLater⟩ := Option.isSome_iff_exists.mp (isCreated secondPresent)
    rw [isEarlier, isLater] at ordered
    exact ⟨earlier, later, isEarlier, isLater, ordered⟩

/-- Whether a store lists all that it holds in order, and lists nothing while it is closed. -/
structure ListsInOrder (store : Store) : Prop where
  accounts : store.status = .connected →
    ∃ accounts, store.loadAllAccounts = .ok accounts ∧
      IsListing store.storedAccount? Account.created accounts
  keys : store.status = .connected →
    ∃ keys, store.loadAllKeys = .ok keys ∧ IsListing store.storedKey? KeyPair.created keys
  refused : store.status = .disconnected →
    store.loadAllAccounts = .error .notConnected ∧ store.loadAllKeys = .error .notConnected

/-- A store that shows a sound ledger with times of four digits lists all of it in order. -/
theorem Shows.listsInOrder
    (showing : store.Shows ledger)
    (sound : ledger.Sound)
    (plainAccounts : ∀ {uid account}, ledger.accounts uid = some account →
      Ledger.WrittenPlainly account.created)
    (plainKeys : ∀ {kid key}, ledger.keys kid = some key → Ledger.WrittenPlainly key.created) :
    store.ListsInOrder where
  accounts := by
    intro _
    obtain ⟨accounts, lists, loaded⟩ := showing.lists_loadAllAccounts
    exact ⟨accounts, loaded, lists.isListing showing.storedAccount?_eq
      (fun present => (sound.accounts present).created) plainAccounts⟩
  keys := by
    intro _
    obtain ⟨keys, lists, loaded⟩ := showing.lists_loadAllKeys
    exact ⟨keys, loaded, lists.isListing showing.storedKey?_eq
      (fun present => (sound.keys present).created) plainKeys⟩
  refused := by
    intro disconnected
    cases showing <;> cases disconnected

/-- The order of rows does not decide whether a store is connected. -/
theorem Reorders.status_eq
    {first second : Store}
    (reorders : first.Reorders second) :
    first.status = second.status := by
  cases reorders <;> rfl

/--
Every store that a run of calls leads to lists its accounts and key pairs completely
and in the order of their creation, while it is connected.

The clock of the run is within the years of four digits, and else it may do as it
likes; the rows of a store in memory are in any order, before each of the calls.
-/
theorem listsInOrder_of_shuffles
    (rowless : store.Rowless)
    (disconnected : store.status = .disconnected)
    {calls : List (Occasion × Call)}
    (plain : ∀ call ∈ calls, call.1.now.FourDigitYear)
    {reached : Store}
    (shuffles : store.Shuffles calls reached) :
    reached.ListsInOrder := by
  have reorders := shuffles.reorders rowless.isSound (.refl store)
  cases status : reached.status with
  | disconnected =>
      have closed := isOpen_of_disconnected status
      exact
        { accounts := fun connected => by cases status.symm.trans connected
          keys := fun connected => by cases status.symm.trans connected
          refused := fun _ => ⟨read_of_closed closed _ _, read_of_closed closed _ _⟩ }
  | connected =>
      have reopens := (reopens_of_disconnected disconnected).run calls
      have isOpen := reopens.isOpen (reorders.status_eq.trans status)
      obtain ⟨ledger, showing, sound⟩ := (rowless.isSound.run calls).exists_shows isOpen
      obtain ⟨path, inFile⟩ := exists_withFile_eq_self isOpen
      have plainlyDated := rowless.plainlyDated.run rowless.isSound plain
      refine (reorders.shows showing).listsInOrder sound ?_ ?_
      · intro uid account present
        rw [← showing.storedAccount?_eq_some_iff, ← inFile] at present
        exact plainlyDated.accounts present
      · intro kid key present
        rw [← showing.storedKey?_eq_some_iff, ← inFile] at present
        exact plainlyDated.keys present

/-- Two accounts that are added while the clock is set back are listed in order. -/
theorem listsInOrder_setBack :
    let late : Instant := ⟨1, 500000000, Or.inl (by decide), by decide⟩
    let early : Instant := ⟨1, 0, Or.inl (by decide), by decide⟩
    let ada := { Account.blank with email := .value "ada@example.org" }
    let bob := { Account.blank with email := .value "bob@example.org" }
    let store := Store.database (.initial .empty)
    let calls : List (Occasion × Call) :=
      [(⟨late, "", [], .mk fun _ => none⟩, .dial ⟨some "store", 0⟩),
        (⟨late, "ada", [], .mk fun _ => none⟩, .saveAccount ada),
        (⟨early, "bob", [], .mk fun _ => none⟩, .saveAccount bob)]
    store.Rowless ∧ store.status = .disconnected ∧
      (∀ call ∈ calls, call.1.now.FourDigitYear) ∧ store.Shuffles calls (store.run calls) ∧
      (store.run calls).status = .connected ∧
      ((store.run calls).storedAccount? "ada").isSome = true ∧
      ((store.run calls).storedAccount? "bob").isSome = true ∧
      (store.run calls).ListsInOrder := by
  intro late early ada bob store calls
  have rowless : store.Rowless := by
    intro path tables content
    cases content
  have disconnected : store.status = .disconnected := rfl
  have plain : ∀ call ∈ calls, call.1.now.FourDigitYear := by
    simp [calls]
    decide
  have shuffles : store.Shuffles calls (store.run calls) := shuffles_of_reorders (.refl _)
  refine ⟨rowless, disconnected, plain, shuffles, ?_, ?_, ?_, ?_⟩
  · decide +kernel
  · decide +kernel
  · decide +kernel
  · exact listsInOrder_of_shuffles rowless disconnected plain shuffles

end Credential.Store
