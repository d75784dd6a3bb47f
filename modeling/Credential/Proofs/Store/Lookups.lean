import Credential.Proofs.Store.Connection
import Credential.Proofs.Store.Reordered

/-!
# Look-ups agree with each other

A store can be asked for its records in several ways.  Whatever calls it has
carried out, the answers fit together, since live emails are distinct and every key
pair is under the uid of its account, and they do not depend on the order of rows.
-/

namespace Credential.Store

variable {store : Store} {ledger : Ledger}

/-! ## Records and errors -/

theorem found_eq_ok_iff
    {Record : Type}
    {missing : Error}
    {result : Option Record}
    {record : Record} :
    found missing result = .ok record ↔ result = some record := by
  cases result <;> simp [found]

theorem Table.Finds.eq_ok_iff
    {Record : Type}
    {view : String → Option Record}
    {accepts : Record → Prop}
    {missing : Error}
    {result : Except Error Record}
    (unique : ∀ firstKey secondKey first second,
      view firstKey = some first → view secondKey = some second →
        accepts first → accepts second → firstKey = secondKey)
    (finds : Table.Finds view accepts missing result)
    (record : Record) :
    result = .ok record ↔
      ∃ key, view key = some record ∧ accepts record ∧
        ∀ otherKey other, view otherKey = some other → accepts other → otherKey = key := by
  constructor
  · rintro rfl
    rcases finds with ⟨key, _, present, accepted, ⟨⟩⟩ | ⟨-, ⟨⟩⟩
    exact ⟨key, present, accepted, fun otherKey other otherPresent otherAccepted =>
      unique otherKey key other record otherPresent present otherAccepted accepted⟩
  · rintro ⟨key, present, accepted, only⟩
    rcases finds with ⟨otherKey, other, otherPresent, otherAccepted, rfl⟩ | ⟨none, -⟩
    · obtain rfl := only otherKey other otherPresent otherAccepted
      rw [Option.some.inj (otherPresent.symm.trans present)]
    · exact (none key record present accepted).elim

/-! ## What is stored -/

/-- Whether an account is in the listing of all accounts. -/
def IsListed (store : Store) (account : Account) : Prop :=
  ∃ accounts, store.loadAllAccounts = .ok accounts ∧ account ∈ accounts

namespace Shows

/-- The accounts that are listed are those of the ledger. -/
theorem isListed_iff
    (showing : store.Shows ledger)
    {account : Account} :
    store.IsListed account ↔ ∃ uid, ledger.accounts uid = some account := by
  obtain ⟨records, lists, read⟩ := showing.lists_loadAllAccounts
  constructor
  · rintro ⟨accounts, listed, member⟩
    obtain rfl : records = accounts := Except.ok.inj (read.symm.trans listed)
    exact lists.1.exists_key member
  · rintro ⟨uid, present⟩
    obtain ⟨before, after, rfl, -⟩ := lists.1.exists_split present
    exact ⟨_, read, by simp⟩

/-- A text is known if it is that of a live account that is listed. -/
theorem existsAccount_iff
    (showing : store.Shows ledger)
    {query : String} :
    store.existsAccount query = .ok true ↔
      ∃ account, store.IsListed account ∧ account.IsLiveFor query := by
  obtain ⟨flag, decides, read⟩ := showing.decides_existsAccount query
  rw [read, Except.ok.injEq, decides, Ledger.HasLiveFor, exists_comm]
  simp only [showing.isListed_iff, exists_and_right]

end Shows

/-! ## Agreement -/

/-- Whether the look-ups of a store agree with each other. -/
structure LookupsAgree (store : Store) : Prop where
  /-- There is a key pair of a key id if it can be loaded, and it is that of the account. -/
  key : ∀ kid,
    (store.existsKey kid = .ok true ↔ ∃ key, store.loadKey kid = .ok key) ∧
      store.keyByAccount kid = store.loadKey kid
  token : ∀ uid, store.existsToken uid = .ok true ↔ ∃ token, store.loadToken uid = .ok token
  account : ∀ uid account,
    store.loadAccount uid = .ok account ↔ store.storedAccount? uid = some (.ok account)
  listed : ∀ account, store.IsListed account ↔ ∃ uid, store.storedAccount? uid = some (.ok account)
  /-- The account of an email is the one live account that has it. -/
  email : ∀ email account,
    store.accountByEmail email = .ok account ↔
      ∃ uid, store.storedAccount? uid = some (.ok account) ∧ account.IsLiveWith email ∧
        ∀ otherUid other, store.storedAccount? otherUid = some (.ok other) →
          other.IsLiveWith email → otherUid = uid
  query : ∀ query,
    store.existsAccount query = .ok true ↔
      ∃ account, store.IsListed account ∧ account.IsLiveFor query
  /-- An account that is marked as deleted is loaded and listed, and not found otherwise. -/
  deleted : ∀ uid account,
    store.storedAccount? uid = some (.ok account) → account.isDeleted = true →
      store.loadAccount uid = .ok account ∧ store.IsListed account ∧
        (∀ email, store.accountByEmail email ≠ .ok account) ∧
        ∀ query, store.existsAccount query = .ok true →
          ∃ other, store.IsListed other ∧ other.uid ≠ some uid ∧ other.IsLiveFor query
  /-- A key pair with a public half is found if there is one. -/
  publicHalf : store.isOpen = true → ∀ octets,
    (∃ kid key, store.storedKey? kid = some (.ok key) ∧
        Text.Utf8.encode key.pubKey = octets ∧ store.keyByPublic octets = .ok key) ∨
      (∀ kid key, store.storedKey? kid = some (.ok key) → Text.Utf8.encode key.pubKey ≠ octets) ∧
        store.keyByPublic octets = .error .keyNotFound

/-- The look-ups of a store that shows a sound ledger agree with each other. -/
theorem Shows.lookupsAgree (showing : store.Shows ledger) (sound : ledger.Sound) :
    store.LookupsAgree where
  key := by
    intro kid
    rw [showing.existsKey_eq, showing.loadKey_eq, showing.keyByAccount_eq sound]
    simp [found_eq_ok_iff, Option.isSome_iff_exists]
  token := by
    intro uid
    rw [showing.existsToken_eq, showing.loadToken_eq]
    simp [found_eq_ok_iff, Option.isSome_iff_exists]
  account := by
    intro uid account
    rw [showing.loadAccount_eq, found_eq_ok_iff, showing.storedAccount?_eq_some_iff]
  listed := by
    intro account
    simp only [showing.isListed_iff, showing.storedAccount?_eq_some_iff]
  email := by
    intro email account
    simp only [showing.storedAccount?_eq_some_iff]
    refine Table.Finds.eq_ok_iff ?_ (showing.finds_accountByEmail email) account
    intro firstUid secondUid first second firstPresent secondPresent firstLive secondLive
    exact sound.emails firstPresent secondPresent firstLive.1 secondLive.1 firstLive.2 secondLive.2
  query := fun _ => showing.existsAccount_iff
  deleted := by
    intro uid account stored isDeleted
    have present := showing.storedAccount?_eq_some_iff.mp stored
    refine ⟨?load, showing.isListed_iff.mpr ⟨uid, present⟩, ?email, ?query⟩
    case load => rw [showing.loadAccount_eq, found_eq_ok_iff, present]
    case email =>
      intro email isFound
      rcases showing.finds_accountByEmail email with ⟨otherUid, other, -, live, result⟩ | ⟨-, result⟩
      · obtain rfl : account = other := Except.ok.inj (isFound.symm.trans result)
        cases isDeleted.symm.trans live.1
      · cases isFound.symm.trans result
    case query =>
      intro query known
      obtain ⟨other, isListed, live⟩ := showing.existsAccount_iff.mp known
      refine ⟨other, isListed, fun same => ?_, live⟩
      obtain ⟨otherUid, otherPresent⟩ := showing.isListed_iff.mp isListed
      obtain rfl : otherUid = uid :=
        Option.some.inj ((sound.accounts otherPresent).uid_eq.symm.trans same)
      obtain rfl : account = other := Option.some.inj (present.symm.trans otherPresent)
      cases isDeleted.symm.trans live.1
  publicHalf := by
    intro _ octets
    simp only [showing.storedKey?_eq_some_iff]
    rcases showing.finds_keyByPublic octets with ⟨kid, key, present, same, result⟩ | ⟨none, result⟩
    · exact .inl ⟨kid, key, present, same, result⟩
    · exact .inr ⟨none, result⟩

/-- A store that has no tables finds nothing. -/
theorem lookupsAgree_of_closed (closed : store.isOpen = false) : store.LookupsAgree := by
  have noAccount : ∀ uid reading, store.storedAccount? uid ≠ some reading := by
    intro uid reading stored
    cases closed.symm.trans (isOpen_of_storedAccount? stored)
  have noListing : ∀ account, ¬ store.IsListed account := by
    rintro account ⟨accounts, listed, -⟩
    rw [loadAllAccounts, read_of_closed closed] at listed
    cases listed
  exact
    { key := by
        intro kid
        rw [existsKey, loadKey, keyByAccount, read_of_closed closed, read_of_closed closed,
          read_of_closed closed]
        simp
      token := by
        intro uid
        rw [existsToken, loadToken, read_of_closed closed, read_of_closed closed]
        simp
      account := by
        intro uid account
        rw [loadAccount, read_of_closed closed]
        simp [noAccount]
      listed := by
        intro account
        simp [noAccount, noListing]
      email := by
        intro email account
        rw [accountByEmail, read_of_closed closed]
        simp [noAccount]
      query := by
        intro query
        rw [existsAccount, read_of_closed closed]
        simp [noListing]
      deleted := fun uid account stored => (noAccount uid _ stored).elim
      publicHalf := fun isOpen => by cases closed.symm.trans isOpen }

theorem IsSound.lookupsAgree (sound : store.IsSound) : store.LookupsAgree := by
  cases isOpen : store.isOpen with
  | false => exact lookupsAgree_of_closed isOpen
  | true =>
      obtain ⟨ledger, showing, ledgerSound⟩ := sound.exists_shows isOpen
      exact showing.lookupsAgree ledgerSound

/--
The look-ups of every store that calls lead to agree with each other.

They do so in whatever order the rows of a store in memory come, and however that
order changes from call to call.  Its answers do not depend on it either, but for
the order of a listing, and for a public half that several stored key pairs share.
-/
theorem lookups_agree
    (rowless : store.Rowless)
    (calls : List (Occasion × Call)) :
    (store.run calls).LookupsAgree ∧
      ∀ shuffled, store.Shuffles calls shuffled →
        shuffled.LookupsAgree ∧
          ∀ occasion call, (store.run calls).Determines call →
            SameUpToOrder ((store.run calls).perform occasion call).1
              (shuffled.perform occasion call).1 := by
  have sound : (store.run calls).IsSound := rowless.isSound.run calls
  refine ⟨sound.lookupsAgree, fun shuffled shuffles => ?_⟩
  have reorders := shuffles.reorders rowless.isSound (.refl store)
  exact ⟨(reorders.isSound sound).lookupsAgree, fun occasion call =>
    (reorders.perform sound occasion call).2⟩

/-- Two accounts are found alike whichever of them comes first. -/
theorem lookups_agree_swapped :
    let drawing (uid : String) : Occasion := ⟨.start, uid, [], .mk fun _ => none⟩
    let ada := { Account.blank with email := .value "ada@example.org", deleted := .value true }
    let bob := { Account.blank with email := .value "bob@example.org" }
    let store := Store.memory .initial
    let calls : List (Occasion × Call) :=
      [(drawing "", .dial ⟨none, 0⟩), (drawing "ada", .saveAccount ada),
        (drawing "bob", .saveAccount bob)]
    let swapped := store.run
      [(drawing "", .dial ⟨none, 0⟩), (drawing "bob", .saveAccount bob),
        (drawing "ada", .saveAccount ada)]
    store.Rowless ∧ store.Shuffles calls swapped ∧ swapped.LookupsAgree ∧
      SameUpToOrder ((store.run calls).perform (drawing "") .loadAllAccounts).1
        (swapped.perform (drawing "") .loadAllAccounts).1 := by
  intro drawing ada bob store calls swapped
  have rowless : store.Rowless := by
    rintro tables ⟨⟩
  have shuffles : store.Shuffles calls swapped := by
    apply shuffles_of_reorders
    refine .memory ?_ ?_ ?_
    · decide +kernel
    · decide +kernel
    · decide +kernel
  obtain ⟨agree, alike⟩ := (lookups_agree rowless calls).2 swapped shuffles
  have determines : (store.run calls).Determines .loadAllAccounts := by
    rintro octets ⟨⟩
  exact ⟨rowless, shuffles, agree, alike (drawing "") .loadAllAccounts determines⟩

end Credential.Store
