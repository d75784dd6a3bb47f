import Credential.Proofs.Manager.KeyCreation

/-!
# Accounts that come with a key pair

An account and its key pair are added one after the other, and nothing is undone.
If the key pair cannot be made, the account stays without one, and a key pair that
is made for it later leads to where the first attempt would have led.
-/

namespace Credential

/-- The record that is stored of a new account. -/
def Account.asCreated (occasion : Occasion) (email name password : String) : Account :=
  { uid := some occasion.uid
    email := .value email
    name := .value name
    password := .value (Password.hash occasion.salt password)
    active := .value true
    created := some occasion.now
    updated := some occasion.now
    deleted := .value false }

namespace Manager

variable {manager created after : Manager} {occasion : Occasion} {uid : String}

/-- Whether a uid has not been used: neither an account nor a key pair is under it. -/
structure IsUnused (manager : Manager) (uid : String) : Prop where
  ne_empty : uid ≠ ""
  account : manager.store.storedAccount? uid = none
  key : manager.store.storedKey? uid = none

/-- Whether all that a manager has gained is the account of a uid that had none. -/
structure GainsAccount (before after : Manager) (uid : String) (account : Account) : Prop where
  absent : before.store.storedAccount? uid = none
  stored : after.store.storedAccount? uid = some (.ok account)
  elsewhere : before.store.SameBut (.account uid) after.store
  settings : after = { before with store := after.store }

/-- Whether all that a manager has gained is the key pair of an account that had none. -/
structure GainsKey (before after : Manager) (uid : String) (key : KeyPair) : Prop where
  absent : before.store.storedKey? uid = none
  stored : after.store.storedKey? uid = some (.ok key)
  named : key.kid = some uid ∧ key.accountId = uid
  /-- The account has no other key pair. -/
  only : ∀ kid other, after.store.storedKey? kid = some (.ok other) → other.accountId = uid →
    kid = uid ∧ other = key
  elsewhere : before.store.SameBut (.key uid) after.store
  settings : after = { before with store := after.store }

/-- Gaining an account leaves the key pairs as they are. -/
theorem GainsAccount.storedKey?_eq
    {account : Account}
    (gains : manager.GainsAccount after uid account)
    (kid : String) :
    after.store.storedKey? kid = manager.store.storedKey? kid :=
  gains.elsewhere.storedKey?_eq (by simp)

/-- Gaining a key pair leaves the accounts as they are. -/
theorem GainsKey.storedAccount?_eq
    {key : KeyPair}
    (gains : manager.GainsKey after uid key)
    (other : String) :
    after.store.storedAccount? other = manager.store.storedAccount? other :=
  gains.elsewhere.storedAccount?_eq (by simp)

/-! ## The two steps -/

/-- All that is new when an account has been created is the account. -/
theorem gainsAccount_of_createAccount
    (sound : manager.store.IsSound)
    (unused : manager.IsUnused occasion.uid)
    {email name password : String}
    (added : manager.createAccount occasion email name password = (.ok uid, created)) :
    uid = occasion.uid ∧
      manager.GainsAccount created uid (.asCreated occasion email name password) := by
  rcases createAccount_cases sound occasion email name password with
    ⟨error, refused, -⟩ | ⟨account, record, store, ledger, made, saves, succeeds⟩
  · cases added.symm.trans refused
  · obtain ⟨isUid, rfl⟩ := Prod.mk.inj (added.symm.trans succeeds)
    obtain rfl := Except.ok.inj isUid
    have isRecord : record = .asCreated occasion email name password := by
      unfold Account.create Account.setPassword at made
      split at made <;> cases made
      cases saves.saves with
      | added isNew => rfl
      | changed named present => cases named
    have kept : manager.store.backend.kept record = record := by
      rw [isRecord]
      cases manager.store.backend <;> rfl
    have stored := saves.storedAccount?_eq
    rw [kept, isRecord] at stored
    exact ⟨rfl, unused.account, stored, saves.sameBut, rfl⟩

/-- The store is sound still when a key pair has been created. -/
theorem isSound_of_createKey
    (sound : manager.store.IsSound)
    {key : KeyPair}
    (added : manager.createKey occasion uid = (.ok key, after)) :
    after.store.IsSound := by
  have stays := isSound_perform sound occasion (.createKey uid)
  rw [perform, added] at stays
  exact stays

/-- All that is new when a key pair has been created is the key pair. -/
theorem gainsKey_of_createKey
    (sound : manager.store.IsSound)
    {key : KeyPair}
    (added : manager.createKey occasion uid = (.ok key, after)) :
    manager.GainsKey after uid key := by
  have afterSound := isSound_of_createKey sound added
  rcases createKey_cases sound occasion uid with
    ⟨error, refused, -⟩ | ⟨fresh, record, store, ledger, generated, saves, succeeds⟩
  · cases added.symm.trans refused
  · obtain ⟨isKey, rfl⟩ := Prod.mk.inj (added.symm.trans succeeds)
    obtain rfl := Except.ok.inj isKey
    have absent : manager.store.storedKey? uid = none := by
      obtain ⟨-, signer, -, rfl⟩ := KeyPair.generate_eq_ok_iff.mp generated
      cases saves.saves with
      | added isNew owned absent =>
          rw [saves.showing.storedKey?_eq, Option.map_eq_none_iff]
          exact absent
      | changed named present => cases named
    refine ⟨absent, saves.storedKey?_eq, saves.kid_eq, ?_, saves.sameBut, rfl⟩
    intro kid other stored owner
    obtain ⟨last, showing, lastSound⟩ := afterSound.exists_shows saves.sameBut.isOpen
    have same := (showing.keepsKeys lastSound).distinct kid uid other key stored
      saves.storedKey?_eq (owner.trans saves.kid_eq.2.symm)
    subst same
    exact ⟨rfl, Except.ok.inj (Option.some.inj (stored.symm.trans saves.storedKey?_eq))⟩

/-- An account that has just been created has no key pair. -/
theorem newKeyOutcome_of_gainsAccount
    {Result : Type}
    {ledger : Store.Ledger}
    {account : Account}
    (unused : manager.IsUnused uid)
    (gains : manager.GainsAccount created uid account)
    (showing : created.store.Shows ledger)
    (result : Result) :
    ledger.newKeyOutcome uid result = .ok result := by
  have owned := showing.storedAccount?_eq_some_iff.mp gains.stored
  have absent := gains.storedKey?_eq uid
  rw [unused.key, showing.storedKey?_eq, Option.map_eq_none_iff] at absent
  rw [Store.Ledger.newKeyOutcome, owned, absent]
  rfl

/-- The key pair of an account that has just been created fails only if it cannot be made. -/
theorem createKey_of_gainsAccount
    {account : Account}
    (sound : created.store.IsSound)
    (unused : manager.IsUnused uid)
    (gains : manager.GainsAccount created uid account)
    (occasion : Occasion) :
    (∀ error, KeyPair.generate occasion.drawnKey uid = .error error →
      created.createKey occasion uid = (.error error, created)) ∧
    ∀ key, KeyPair.generate occasion.drawnKey uid = .ok key →
      ∃ after, created.createKey occasion uid = (.ok (key.prepareInsert occasion.now), after) := by
  obtain ⟨ledger, showing, ledgerSound⟩ := sound.exists_shows gains.elsewhere.isOpen
  constructor
  · intro error fails
    have checks : created.checkNewKey uid = .ok () := by
      rw [checkNewKey_eq_newKeyOutcome showing ledgerSound unused.ne_empty]
      exact newKeyOutcome_of_gainsAccount unused gains showing ()
    rw [createKey, checks]
    dsimp only
    rw [fails]
  · intro key generated
    have outcome := createKey_eq_newKeyOutcome showing ledgerSound generated
    rw [newKeyOutcome_of_gainsAccount unused gains showing] at outcome
    exact ⟨_, Prod.ext outcome rfl⟩

/-- Of its occasion, a new key pair takes only the time and the private key that is drawn. -/
theorem createKey_congr
    (manager : Manager)
    (occasion other : Occasion)
    (uid : String)
    (sameTime : occasion.now = other.now)
    (sameDraw : occasion.drawnKey = other.drawnKey) :
    manager.createKey occasion uid = manager.createKey other uid := by
  simp only [createKey, saveKey, Store.saveKey, Store.saveLentKey, sameTime, sameDraw]

/-! ## Both steps -/

/-- An account with a key pair comes out as its account, if that is refused. -/
theorem createAccountWithKey_of_refused
    (sound : manager.store.IsSound)
    {email name password : String}
    {error : Error}
    (refused : (manager.createAccount occasion email name password).1 = .error error) :
    manager.createAccountWithKey occasion email name password = (.error error, manager) := by
  rcases createAccount_cases sound occasion email name password with
    ⟨other, unchanged, -⟩ | ⟨account, record, store, ledger, -, -, succeeds⟩
  · rw [unchanged] at refused
    obtain rfl := Except.error.inj refused
    rw [createAccountWithKey, unchanged]
    rfl
  · rw [succeeds] at refused
    cases refused

/-- An account with a key pair comes out as its key pair, if its account is added. -/
theorem createAccountWithKey_of_added
    (sound : created.store.IsSound)
    {email name password : String}
    {account : Account}
    (added : manager.createAccount occasion email name password = (.ok uid, created))
    (stored : created.store.storedAccount? uid = some (.ok account)) :
    (∀ error after, created.createKey occasion uid = (.error error, after) →
      manager.createAccountWithKey occasion email name password = (.error error, after)) ∧
    ∀ key after, created.createKey occasion uid = (.ok key, after) →
      manager.createAccountWithKey occasion email name password =
        (.ok (account.withoutPassword, key), after) := by
  rw [createAccountWithKey, added, andThen]
  constructor
  · intro error after fails
    rw [fails]
    rfl
  · intro key after keyed
    have remains : after.store.storedAccount? uid = some (.ok account) := by
      rw [(gainsKey_of_createKey sound keyed).storedAccount?_eq, stored]
    rw [keyed, andThen, loadAccount_of_storedAccount? (isSound_of_createKey sound keyed) remains]

/-- Whether an account comes with a key pair, and both are returned as they are stored. -/
structure Completes
    (manager : Manager)
    (occasion : Occasion)
    (email name password : String)
    (created : Manager)
    (key : KeyPair)
    (after : Manager) :
    Prop where
  /-- What is returned has no password. -/
  outcome : manager.createAccountWithKey occasion email name password =
    (.ok ((Account.asCreated occasion email name password).withoutPassword, key), after)
  gains : created.GainsKey after occasion.uid key
  stored : after.store.storedAccount? occasion.uid =
    some (.ok (.asCreated occasion email name password))

/-- Whether an account stays without a key pair, which can be made for it later. -/
structure StaysAlone
    (manager : Manager)
    (occasion : Occasion)
    (email name password : String)
    (created : Manager)
    (error : Error) :
    Prop where
  outcome : manager.createAccountWithKey occasion email name password = (.error error, created)
  /-- Whatever is done in between, a key pair that is made later is the only one. -/
  later : ∀ calls retry key after,
    (created.run calls).createKey retry occasion.uid = (.ok key, after) →
      (created.run calls).GainsKey after occasion.uid key
  /-- The next attempt leads to where the first would have led with its key pair. -/
  next : ∀ retry made, KeyPair.generate retry.drawnKey occasion.uid = .ok made →
    ∃ after unfailed,
      created.createKey retry occasion.uid = (.ok (made.prepareInsert retry.now), after) ∧
        created.GainsKey after occasion.uid (made.prepareInsert retry.now) ∧
        manager.Completes { occasion with drawnKey := retry.drawnKey } email name password created
          (made.prepareInsert occasion.now) unfailed ∧
        (retry.now = occasion.now → after = unfailed)

variable {email name password : String}

/-- An account that has been added comes with its key pair, if one can be made. -/
theorem exists_completes
    (occasion : Occasion)
    (sound : manager.store.IsSound)
    (unused : manager.IsUnused occasion.uid)
    (added : manager.createAccount occasion email name password = (.ok occasion.uid, created))
    {made : KeyPair}
    (generated : KeyPair.generate occasion.drawnKey occasion.uid = .ok made) :
    ∃ after, created.createKey occasion occasion.uid =
        (.ok (made.prepareInsert occasion.now), after) ∧
      manager.Completes occasion email name password created (made.prepareInsert occasion.now)
        after := by
  have createdSound := isSound_of_createAccount sound added
  obtain ⟨-, gains⟩ := gainsAccount_of_createAccount sound unused added
  obtain ⟨after, keyed⟩ :=
    (createKey_of_gainsAccount createdSound unused gains occasion).2 made generated
  have gainsKey := gainsKey_of_createKey createdSound keyed
  refine ⟨after, keyed, ?_, gainsKey, ?_⟩
  · exact (createAccountWithKey_of_added createdSound added gains.stored).2 _ after keyed
  · rw [gainsKey.storedAccount?_eq, gains.stored]

/-- An account that has been added stays alone, if no key pair can be made. -/
theorem staysAlone
    (sound : manager.store.IsSound)
    (unused : manager.IsUnused occasion.uid)
    (added : manager.createAccount occasion email name password = (.ok occasion.uid, created))
    {error : Error}
    (fails : KeyPair.generate occasion.drawnKey occasion.uid = .error error) :
    manager.StaysAlone occasion email name password created error := by
  have createdSound := isSound_of_createAccount sound added
  obtain ⟨-, gains⟩ := gainsAccount_of_createAccount sound unused added
  refine ⟨?outcome, ?later, ?next⟩
  case outcome =>
    have unkeyed := (createKey_of_gainsAccount createdSound unused gains occasion).1 error fails
    exact (createAccountWithKey_of_added createdSound added gains.stored).1 error created unkeyed
  case later =>
    intro calls retry key after keyed
    exact gainsKey_of_createKey (isSound_run createdSound calls) keyed
  case next =>
    intro retry made generated
    obtain ⟨after, keyed⟩ :=
      (createKey_of_gainsAccount createdSound unused gains retry).2 made generated
    -- The account does not depend on the private key that is drawn.
    have first : manager.createAccount { occasion with drawnKey := retry.drawnKey } email name
        password = (.ok occasion.uid, created) := added
    obtain ⟨unfailed, attempted, completes⟩ :=
      exists_completes { occasion with drawnKey := retry.drawnKey } sound unused first generated
    refine ⟨after, unfailed, keyed, gainsKey_of_createKey createdSound keyed, completes, ?_⟩
    intro sameTime
    rw [created.createKey_congr retry { occasion with drawnKey := retry.drawnKey } occasion.uid
      sameTime rfl, attempted] at keyed
    exact (congrArg Prod.snd keyed).symm

/--
An account with a key pair is refused as its account is, and changes nothing then.

Otherwise the account is added.  If no key pair can be made for it, the error says
so and the account is all that is new; a later attempt makes up for it.  If one can
be made, it is all that is new besides the account.
-/
theorem createAccountWithKey_steps
    (reachable : manager.Reachable)
    (unused : manager.IsUnused occasion.uid)
    (email name password : String) :
    (∀ error, (manager.createAccount occasion email name password).1 = .error error →
      manager.createAccountWithKey occasion email name password = (.error error, manager)) ∧
    ∀ uid created, manager.createAccount occasion email name password = (.ok uid, created) →
      uid = occasion.uid ∧
      manager.GainsAccount created uid (.asCreated occasion email name password) ∧
      (∀ error, KeyPair.generate occasion.drawnKey uid = .error error →
        manager.StaysAlone occasion email name password created error) ∧
      ∀ made, KeyPair.generate occasion.drawnKey uid = .ok made →
        ∃ after, manager.Completes occasion email name password created
          (made.prepareInsert occasion.now) after := by
  have sound := reachable.isSound
  refine ⟨fun error => createAccountWithKey_of_refused sound, ?_⟩
  intro uid created added
  obtain ⟨rfl, gains⟩ := gainsAccount_of_createAccount sound unused added
  refine ⟨rfl, gains, fun error => staysAlone sound unused added, fun made generated => ?_⟩
  obtain ⟨after, -, completes⟩ := exists_completes occasion sound unused added generated
  exact ⟨after, completes⟩

/-- An account that stays alone in an empty store is given its key pair by the next attempt. -/
theorem createAccountWithKey_steps_retried :
    let occasion : Occasion := ⟨.start, "first", List.replicate 16 0x73, .mk fun _ => none⟩
    let retry := { occasion with drawnKey := .mk fun _ => some sampleSigner }
    let manager : Manager := ⟨⟨.empty⟩, "memory", ⟨none, 0⟩, .memory ⟨some .empty⟩⟩
    manager.Reachable ∧ manager.IsUnused "first" ∧
      ∃ created key after,
        manager.createAccountWithKey occasion "ada@example.org" "Ada" "analytical" =
          (.error (.keyGeneration "too few primes"), created) ∧
        manager.GainsAccount created "first"
          (.asCreated occasion "ada@example.org" "Ada" "analytical") ∧
        created.createKey retry "first" = (.ok key, after) ∧
        created.GainsKey after "first" key ∧
        (manager.createAccountWithKey retry "ada@example.org" "Ada" "analytical").2 = after := by
  intro occasion retry manager
  have reachable : manager.Reachable := by
    apply Reachable.start
    rintro tables ⟨⟩
    rfl
  have unused : manager.IsUnused occasion.uid := ⟨by decide, by decide +kernel, by decide +kernel⟩
  have accepted :
      (manager.createAccount occasion "ada@example.org" "Ada" "analytical").1.toOption =
        some "first" := by
    decide +kernel
  obtain ⟨-, steps⟩ :=
    createAccountWithKey_steps reachable unused "ada@example.org" "Ada" "analytical"
  rcases added : manager.createAccount occasion "ada@example.org" "Ada" "analytical" with
    ⟨error | uid, created⟩
  · rw [added] at accepted
    cases accepted
  · obtain ⟨rfl, gains, alone, -⟩ := steps uid created added
    have fails : KeyPair.generate occasion.drawnKey "first" =
        .error (.keyGeneration "too few primes") := by
      rfl
    have stays := alone _ fails
    have generated := KeyPair.generate_eq_ok_iff.mpr
      ⟨unused.ne_empty, sampleSigner, show retry.drawnKey.get = _ from rfl, rfl⟩
    obtain ⟨after, unfailed, keyed, gainsKey, completes, same⟩ := stays.next retry _ generated
    have outcome := congrArg Prod.snd completes.outcome
    exact ⟨reachable, unused, created, _, after, stays.outcome, gains, keyed, gainsKey,
      outcome.trans (same rfl).symm⟩

end Manager

end Credential
