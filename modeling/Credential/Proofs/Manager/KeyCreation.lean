import Credential.Proofs.Manager.Outcomes

/-!
# Which accounts can be given a key pair

The manager checks that an account can be given a key pair before it makes one,
and the store checks again when the key pair is added.  Both go by the same rows,
so a key pair that has been made is always added.
-/

namespace Credential

namespace Store

variable {store : Store} {ledger : Ledger} {uid : String}

/-- Whether a key pair that is stored, wherever it is, belongs to the account of a uid. -/
def HasKeyOf (store : Store) (uid : String) : Prop :=
  ∃ kid key, store.storedKey? kid = some (.ok key) ∧ key.accountId = uid

/--
Whether a new key pair for the account of a uid comes out as the rows of a store say.

Any row of an account counts, also that of one that is marked as deleted; a key
pair counts only if there is such a row.
-/
structure SettlesNewKey
    {Result : Type}
    (store : Store)
    (uid : String)
    (outcome : Except Error Result) :
    Prop where
  accountNotFound :
    outcome = .error .accountNotFound ↔ store.storedAccount? uid = none
  keyAlreadyExists :
    outcome = .error .keyAlreadyExists ↔
      store.storedAccount? uid ≠ none ∧ store.HasKeyOf uid
  succeeds :
    (∃ result, outcome = .ok result) ↔
      store.storedAccount? uid ≠ none ∧ ¬ store.HasKeyOf uid

theorem SettlesNewKey.ne_error
    {Result : Type}
    {outcome : Except Error Result}
    (settles : store.SettlesNewKey uid outcome)
    {error : Error}
    (other : error ≠ .accountNotFound ∧ error ≠ .keyAlreadyExists) :
    outcome ≠ .error error := by
  rintro rfl
  by_cases missing : store.storedAccount? uid = none
  · exact other.1 (Except.error.inj (settles.accountNotFound.mpr missing))
  · by_cases held : store.HasKeyOf uid
    · exact other.2 (Except.error.inj (settles.keyAlreadyExists.mpr ⟨missing, held⟩))
    · obtain ⟨result, succeeds⟩ := settles.succeeds.mpr ⟨missing, held⟩
      cases succeeds

namespace Ledger

/-- The outcome of a new key pair for the account of a uid. -/
def newKeyOutcome
    {Result : Type}
    (ledger : Ledger)
    (uid : String)
    (result : Result) :
    Except Error Result :=
  if (ledger.accounts uid).isNone then .error .accountNotFound
  else if (ledger.keys uid).isSome then .error .keyAlreadyExists
  else .ok result

theorem saveKey_eq_newKeyOutcome
    {key : KeyPair}
    (isNew : key.kid = none)
    (complete : requireKey key = .ok ())
    (ledger : Ledger)
    (now : Time.Instant) :
    (ledger.saveKey now key).1 =
      ledger.newKeyOutcome key.accountId (key.prepareInsert now) := by
  rw [saveKey, isNew, newKeyOutcome]
  dsimp only
  rw [complete]
  dsimp only
  split_ifs <;> rfl

end Ledger

namespace Shows

/-- The key pair of an account, if there is one, is under the uid of the account. -/
theorem hasKeyOf_iff
    (showing : store.Shows ledger)
    (sound : ledger.Sound) :
    store.HasKeyOf uid ↔ (store.storedKey? uid).isSome = true := by
  rw [HasKeyOf, showing.storedKey?_eq, Option.isSome_map, ← sound.exists_key_iff]
  simp only [showing.storedKey?_eq_some_iff]

theorem storedAccount?_eq_none_iff (showing : store.Shows ledger) :
    store.storedAccount? uid = none ↔ (ledger.accounts uid).isNone = true := by
  rw [showing.storedAccount?_eq, Option.map_eq_none_iff, Option.isNone_iff_eq_none]

theorem settlesNewKey
    {Result : Type}
    (showing : store.Shows ledger)
    (sound : ledger.Sound)
    (uid : String)
    (result : Result) :
    store.SettlesNewKey uid (ledger.newKeyOutcome uid result) := by
  have hasKey : store.HasKeyOf uid ↔ (ledger.keys uid).isSome = true := by
    rw [showing.hasKeyOf_iff sound, showing.storedKey?_eq, Option.isSome_map]
  rw [Ledger.newKeyOutcome]
  by_cases missing : store.storedAccount? uid = none
  · rw [if_pos (showing.storedAccount?_eq_none_iff.mp missing)]
    constructor <;> simp [missing]
  · rw [if_neg (mt showing.storedAccount?_eq_none_iff.mpr missing)]
    by_cases held : store.HasKeyOf uid
    · rw [if_pos (hasKey.mp held)]
      constructor <;> simp [missing, held]
    · rw [if_neg (mt hasKey.mpr held)]
      constructor <;> simp [missing, held]

end Shows

end Store

namespace Manager

variable {manager : Manager} {ledger : Store.Ledger} {uid : String} {occasion : Occasion}

theorem checkNewKey_eq_newKeyOutcome
    (showing : manager.store.Shows ledger)
    (sound : ledger.Sound)
    (named : uid ≠ "") :
    manager.checkNewKey uid = ledger.newKeyOutcome uid () := by
  rw [checkNewKey, if_neg named, loadAccount, showing.loadAccount_eq,
    showing.keyByAccount_eq sound, Store.Ledger.newKeyOutcome]
  cases ledger.accounts uid <;> cases ledger.keys uid <;> rfl

/-- A key pair that is made is added if the account of its uid can be given one. -/
theorem createKey_eq_newKeyOutcome
    (showing : manager.store.Shows ledger)
    (sound : ledger.Sound)
    {key : KeyPair}
    (generated : KeyPair.generate occasion.drawnKey uid = .ok key) :
    (manager.createKey occasion uid).1 =
      ledger.newKeyOutcome uid (key.prepareInsert occasion.now) := by
  obtain ⟨named, signer, -, made⟩ := KeyPair.generate_eq_ok_iff.mp generated
  have complete : Store.Ledger.requireKey key = .ok () := by
    rw [Store.Ledger.requireKey_eq_ok_iff, made]
    exact ⟨named, render_ne_empty _, render_ne_empty _⟩
  have owner : key.accountId = uid := by rw [made]
  have isNew : key.kid = none := by rw [made]
  have saved : (manager.saveKey occasion key).1 =
      ledger.newKeyOutcome uid (key.prepareInsert occasion.now) := by
    rw [saveKey, changed, (showing.saveKey sound occasion key).outcome,
      Store.Ledger.saveKey_eq_newKeyOutcome isNew complete, owner]
  rw [createKey, checkNewKey_eq_newKeyOutcome showing sound named]
  -- Where the check refuses, it does so with the error that the store would give.
  cases checks : ledger.newKeyOutcome uid () with
  | error error =>
      unfold Store.Ledger.newKeyOutcome at checks ⊢
      split_ifs at checks ⊢ <;> cases checks <;> rfl
  | ok _ =>
      dsimp only
      rw [generated]
      exact saved

/--
What a new key pair comes to is settled by the rows of the store, and so are the
check before it is made and the check when it is added.

Only the empty uid is refused beforehand.  Whatever is refused changes nothing, and
a key pair that is made is stored as it was drawn.
-/
theorem createKey_settled
    (reachable : manager.Reachable)
    (isOpen : manager.store.isOpen = true)
    {signer : Rsa.PrivateKey}
    (drawn : occasion.drawnKey.get = some signer)
    (uid : String) :
    ((manager.createKey occasion uid).1 = .error (.nilArgument "uid") ↔ uid = "") ∧
      (uid ≠ "" →
        manager.store.SettlesNewKey uid (manager.createKey occasion uid).1 ∧
        manager.store.SettlesNewKey uid (manager.checkNewKey uid) ∧
        ∀ key : KeyPair, key.kid = none → key.accountId = uid → key.pubKey ≠ "" →
          key.privKey ≠ "" →
            manager.store.SettlesNewKey uid (manager.store.saveKey occasion key).1) ∧
      (∀ error, (manager.createKey occasion uid).1 = .error error →
        (manager.createKey occasion uid).2 = manager) ∧
      ∀ key, (manager.createKey occasion uid).1 = .ok key →
        key = ⟨some uid, signer.publicKey.render, signer.render, uid, some true,
          some occasion.now, some occasion.now⟩ ∧
        (manager.createKey occasion uid).2.store.storedKey? uid = some (.ok key) := by
  have sound := reachable.isSound
  obtain ⟨ledger, showing, ledgerSound⟩ := sound.exists_shows isOpen
  have settles (named : uid ≠ "") :
      manager.store.SettlesNewKey uid (manager.createKey occasion uid).1 := by
    have generated := KeyPair.generate_eq_ok_iff.mpr ⟨named, signer, drawn, rfl⟩
    rw [createKey_eq_newKeyOutcome showing ledgerSound generated]
    exact showing.settlesNewKey ledgerSound uid _
  refine ⟨?unnamed, fun named => ⟨settles named, ?check, ?add⟩, ?refused, ?made⟩
  case unnamed =>
    constructor
    · intro refused
      by_contra named
      exact (settles named).ne_error (by decide) refused
    · rintro rfl
      rfl
  case check =>
    rw [checkNewKey_eq_newKeyOutcome showing ledgerSound named]
    exact showing.settlesNewKey ledgerSound uid ()
  case add =>
    rintro key isNew rfl pubKey privKey
    have complete := Store.Ledger.requireKey_eq_ok_iff.mpr ⟨named, pubKey, privKey⟩
    rw [(showing.saveKey ledgerSound occasion key).outcome,
      Store.Ledger.saveKey_eq_newKeyOutcome isNew complete]
    exact showing.settlesNewKey ledgerSound key.accountId _
  case refused =>
    intro error refused
    rcases createKey_cases sound occasion uid with
      ⟨other, unchanged, -⟩ | ⟨key, record, after, keyLedger, -, -, made⟩
    · rw [unchanged]
    · rw [made] at refused
      cases refused
  case made =>
    intro key made
    rcases createKey_cases sound occasion uid with
      ⟨error, refused, -⟩ | ⟨fresh, record, after, keyLedger, generated, saves, created⟩
    · rw [refused] at made
      cases made
    · rw [created] at made ⊢
      obtain rfl : record = key := Except.ok.inj made
      refine ⟨?_, saves.storedKey?_eq⟩
      obtain ⟨-, other, isDrawn, rfl⟩ := KeyPair.generate_eq_ok_iff.mp generated
      obtain rfl : signer = other := Option.some.inj (drawn.symm.trans isDrawn)
      cases saves.saves with
      | added isNew owned absent => rfl
      | changed named present => cases named

/-- An account that is gone is given no other key pair, and one that is only marked as gone is. -/
theorem createKey_settled_marked :
    let drawing (uid : String) : Occasion := ⟨.start, uid, [], .mk fun _ => some sampleSigner⟩
    let ada := { Account.blank with email := .value "ada@example.org", name := .value "Ada" }
    let bob := { ada with deleted := .value true }
    let first : Manager :=
      ⟨⟨.empty⟩, "sqlite", ⟨some "store", 0⟩, .database (.initial .empty)⟩
    let manager := first.run [(drawing "", .init), (drawing "ada", .saveAccount ada),
      (drawing "", .saveKey ⟨none, "public", "private", "ada", none, none, none⟩),
      (drawing "", .deleteAccount "ada"), (drawing "bob", .saveAccount bob)]
    manager.Reachable ∧ manager.store.isOpen = true ∧
      (manager.createKey (drawing "") "").1 = .error (.nilArgument "uid") ∧
      manager.store.HasKeyOf "ada" ∧
      (manager.createKey (drawing "") "ada").1 = .error .accountNotFound ∧
      (∃ key, (manager.createKey (drawing "") "bob").1 = .ok key ∧ key.accountId = "bob") := by
  intro drawing ada bob first manager
  have reachable : manager.Reachable := by
    refine .perform (.perform (.perform (.perform (.perform (.start ?_) _ _) _ _) _ _) _ _) _ _
    rintro path tables ⟨⟩
  have isOpen : manager.store.isOpen = true := by decide +kernel
  have orphaned : manager.store.HasKeyOf "ada" := by
    have stored : manager.store.storedKey? "ada" = some (.ok
        ⟨some "ada", "public", "private", "ada", some true, some .start, some .start⟩) := by
      decide +kernel
    exact ⟨"ada", _, stored, rfl⟩
  have gone : manager.store.storedAccount? "ada" = none := by decide +kernel
  have marked : manager.store.storedAccount? "bob" ≠ none := by decide +kernel
  have drawn : (drawing "").drawnKey.get = some sampleSigner := rfl
  have unkeyed : ¬ manager.store.HasKeyOf "bob" := by
    obtain ⟨ledger, showing, sound⟩ := reachable.isSound.exists_shows isOpen
    rw [showing.hasKeyOf_iff sound]
    decide +kernel
  have nameless := (createKey_settled reachable isOpen drawn "").1.mpr rfl
  have refused := ((createKey_settled reachable isOpen drawn "ada").2.1 (by decide)).1
  obtain ⟨-, settles, -, made⟩ := createKey_settled reachable isOpen drawn "bob"
  obtain ⟨key, succeeds⟩ := (settles (by decide)).1.succeeds.mpr ⟨marked, unkeyed⟩
  have owner : key.accountId = "bob" := by rw [(made key succeeds).1]
  have missing := refused.accountNotFound.mpr gone
  exact ⟨reachable, isOpen, nameless, orphaned, missing, key, succeeds, owner⟩

end Manager

end Credential
