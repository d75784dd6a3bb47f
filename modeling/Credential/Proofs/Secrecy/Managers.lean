import Credential.Manager.Call
import Credential.Proofs.Secrecy.Steps

/-!
# Managers that are blind to secrets

Two managers whose stores differ in secrets only answer a call alike, and stay
alike.  The exceptions are the calls that are about a secret: a password is
checked against its hash, and a token is signed with a private half.
-/

namespace Credential.Manager

open Credential.Store (SameMasked)
open Credential.Text (Octets)

/-- A manager of the store without its secrets. -/
def masked (manager : Manager) : Manager :=
  { manager with store := manager.store.masked }

variable {first second : Manager} {occasion : Occasion} {Result Other : Type}
  {tell : Result → Result} {tellOther : Other → Other}

theorem store_of_masked (alike : first.masked = second.masked) :
    first.store.masked = second.store.masked :=
  congrArg store alike

/-! ## What is read -/

/-- What is masked as the store is reads alike in stores that differ in secrets only. -/
theorem reads_alike
    (read : Store → Except Error Result)
    (masks : ∀ store : Store, read store.masked = (read store).map tell)
    (alike : first.masked = second.masked) :
    (read first.store).map tell = (read second.store).map tell := by
  rw [← masks, ← masks, store_of_masked alike]

/-- What is not masked reads the same in stores that differ in secrets only. -/
theorem reads_same
    (read : Store → Result)
    (unmasked : ∀ store : Store, read store.masked = read store)
    (alike : first.masked = second.masked) :
    read first.store = read second.store := by
  rw [← unmasked first.store, store_of_masked alike, unmasked]

/-- Results that are alike are the same error, or values that are the same once masked. -/
theorem cases_of_alike
    {one other : Except Error Result}
    (alike : one.map tell = other.map tell) :
    (∃ error, one = .error error ∧ other = .error error) ∨
      ∃ value otherValue, one = .ok value ∧ other = .ok otherValue ∧
        tell value = tell otherValue := by
  rcases one with error | value <;> rcases other with otherError | otherValue
  · cases alike
    exact .inl ⟨error, rfl, rfl⟩
  · cases alike
  · cases alike
  · exact .inr ⟨value, otherValue, rfl, rfl, Except.ok.inj alike⟩

theorem loadAccount_alike (alike : first.masked = second.masked) (uid : String) :
    (first.loadAccount uid).map Account.withoutPassword =
      (second.loadAccount uid).map Account.withoutPassword :=
  reads_alike (Store.loadAccount · uid) (Store.loadAccount_masked · uid) alike

theorem accountByEmail_alike (alike : first.masked = second.masked) (email : String) :
    (first.accountByEmail email).map Account.withoutPassword =
      (second.accountByEmail email).map Account.withoutPassword :=
  reads_alike (Store.accountByEmail · email) (Store.accountByEmail_masked · email) alike

theorem keyByAccount_alike (alike : first.masked = second.masked) (uid : String) :
    (first.keyByAccount uid).map KeyPair.withoutPrivate =
      (second.keyByAccount uid).map KeyPair.withoutPrivate :=
  reads_alike (Store.keyByAccount · uid) (Store.keyByAccount_masked · uid) alike

theorem loadToken_alike (alike : first.masked = second.masked) (uid : String) :
    first.loadToken uid = second.loadToken uid :=
  reads_same (Store.loadToken · uid) (Store.loadToken_masked · uid) alike

theorem existsToken_alike (alike : first.masked = second.masked) (uid : String) :
    first.existsToken uid = second.existsToken uid :=
  reads_same (Store.existsToken · uid) (Store.existsToken_masked · uid) alike

theorem tokenByEmail_alike (alike : first.masked = second.masked) (email : String) :
    first.tokenByEmail email = second.tokenByEmail email := by
  unfold tokenByEmail
  rcases cases_of_alike (accountByEmail_alike alike email) with
    ⟨error, failed, otherFailed⟩ | ⟨account, other, found, otherFound, same⟩
  · rw [failed, otherFailed]
  · have uid := congrArg Account.uid same
    rw [Account.uid_withoutPassword, Account.uid_withoutPassword] at uid
    rw [found, otherFound]
    dsimp only
    rw [uid]
    split
    · rfl
    · exact loadToken_alike alike _

theorem activeKey_alike (alike : first.masked = second.masked) (uid : String) :
    (first.activeKey uid).map KeyPair.withoutPrivate =
      (second.activeKey uid).map KeyPair.withoutPrivate := by
  unfold activeKey
  rcases cases_of_alike (keyByAccount_alike alike uid) with
    ⟨error, failed, otherFailed⟩ | ⟨key, other, found, otherFound, same⟩
  · rw [failed, otherFailed]
  · have active := congrArg KeyPair.active same
    rw [KeyPair.active_withoutPrivate, KeyPair.active_withoutPrivate] at active
    rw [found, otherFound]
    dsimp only
    rw [active]
    split
    · rfl
    · exact congrArg Except.ok same

/-- A token is judged by public halves alone. -/
theorem validateToken_alike
    (alike : first.masked = second.masked)
    (token : String)
    (now : Time.Instant) :
    first.validateToken token now = second.validateToken token now := by
  unfold validateToken
  split
  · rfl
  · rename_i kid signed
    rcases cases_of_alike (activeKey_alike alike kid) with
      ⟨error, failed, otherFailed⟩ | ⟨key, other, found, otherFound, same⟩
    · rw [failed, otherFailed]
    · have pubKey := congrArg KeyPair.pubKey same
      rw [KeyPair.pubKey_withoutPrivate, KeyPair.pubKey_withoutPrivate] at pubKey
      rw [found, otherFound]
      dsimp only
      rw [pubKey]

/-- Whether a password is the one of the live account of an email. -/
def Accepts (manager : Manager) (email password : String) : Prop :=
  ∃ account, manager.accountByEmail email = .ok account ∧ account.matchPassword password = .ok ()

/-- A password that is accepted by both managers or by neither gives the same answer. -/
theorem authenticate_alike
    (alike : first.masked = second.masked)
    (email password : String)
    (accepts : first.Accepts email password ↔ second.Accepts email password) :
    first.authenticate email password = second.authenticate email password := by
  have matched (account : Account) :
      account.matchPassword password = .ok () ∨
        account.matchPassword password = .error .passwordMismatch := by
    unfold Account.matchPassword
    split
    · split
      · exact .inl rfl
      · exact .inr rfl
    · exact .inr rfl
  unfold authenticate
  unfold Accepts at accepts
  rcases cases_of_alike (accountByEmail_alike alike email) with
    ⟨error, failed, otherFailed⟩ | ⟨account, other, found, otherFound, same⟩
  · rw [failed, otherFailed]
  · rw [found, otherFound] at accepts ⊢
    dsimp only
    rcases matched account with accepted | mismatch <;>
      rcases matched other with otherAccepted | otherMismatch
    · rw [accepted, otherAccepted, same]
    · simp_all
    · simp_all
    · rw [mismatch, otherMismatch]

/-! ## What is changed -/

theorem changed_alike
    (alike : first.masked = second.masked)
    {one other : Except Error Result × Store}
    (same : SameMasked tell Store.masked one other) :
    SameMasked tell masked (first.changed one) (second.changed other) where
  outcome := same.outcome
  state := by
    simp only [masked, mk.injEq] at alike
    simp only [masked, changed, alike, same.state]

/-- Two operations one after the other are blind if the second is blind to what the first hides. -/
theorem andThen_alike
    {one other : Except Error Result × Manager}
    {next otherNext : Result → Manager → Except Error Other × Manager}
    (same : SameMasked tell masked one other)
    (goesOn : ∀ value otherValue first second, tell value = tell otherValue →
      first.masked = second.masked →
        SameMasked tellOther masked (next value first) (otherNext otherValue second)) :
    SameMasked tellOther masked (andThen one next) (andThen other otherNext) := by
  obtain ⟨outcome, manager⟩ := one
  obtain ⟨otherOutcome, otherManager⟩ := other
  rcases cases_of_alike same.outcome with
    ⟨error, rfl, rfl⟩ | ⟨value, otherValue, rfl, rfl, sameValue⟩
  · exact ⟨rfl, same.state⟩
  · exact goesOn value otherValue manager otherManager sameValue same.state

theorem checkAccount_alike
    (alike : first.masked = second.masked)
    (occasion : Occasion)
    (account : Account) :
    first.checkAccount occasion account = second.checkAccount occasion account := by
  unfold checkAccount
  split
  · rfl
  · rename_i uid named
    rcases cases_of_alike (loadAccount_alike alike uid) with
      ⟨error, failed, otherFailed⟩ | ⟨stored, other, found, otherFound, same⟩
    · rw [failed, otherFailed]
    · rw [found, otherFound]
      have merged := Store.masked_prepareUpdate account occasion.now same
      have validate := congrArg Account.validate merged
      rwa [Account.validate_withoutPassword, Account.validate_withoutPassword] at validate

theorem saveAccount_alike
    (alike : first.masked = second.masked)
    (occasion : Occasion)
    (account : Account) :
    SameMasked Account.withoutPassword masked (first.saveAccount occasion account)
      (second.saveAccount occasion account) := by
  unfold saveAccount
  rw [checkAccount_alike alike]
  split
  · exact ⟨rfl, alike⟩
  · exact changed_alike alike (Store.saveAccount_blind (store_of_masked alike) occasion account)

theorem createAccount_alike
    (alike : first.masked = second.masked)
    (occasion : Occasion)
    (email name password : String) :
    SameMasked id masked (first.createAccount occasion email name password)
      (second.createAccount occasion email name password) := by
  unfold createAccount
  split
  · exact ⟨rfl, alike⟩
  · apply andThen_alike (saveAccount_alike alike occasion _)
    intro record other first second same alike
    have uid := congrArg Account.uid same
    rw [Account.uid_withoutPassword, Account.uid_withoutPassword] at uid
    rw [uid]
    split
    · exact ⟨rfl, alike⟩
    · exact ⟨rfl, alike⟩

theorem updateAccount_alike
    (alike : first.masked = second.masked)
    (occasion : Occasion)
    (uid : String)
    (patch : AccountPatch) :
    SameMasked id masked (first.updateAccount occasion uid patch)
      (second.updateAccount occasion uid patch) := by
  unfold updateAccount
  split
  · exact ⟨rfl, alike⟩
  · split
    · exact ⟨rfl, alike⟩
    · apply andThen_alike (saveAccount_alike alike occasion _)
      intro record other first second same alike
      exact ⟨congrArg Except.ok same, alike⟩

theorem checkNewKey_alike (alike : first.masked = second.masked) (uid : String) :
    first.checkNewKey uid = second.checkNewKey uid := by
  unfold checkNewKey
  split
  · rfl
  · rcases cases_of_alike (loadAccount_alike alike uid) with
      ⟨error, failed, otherFailed⟩ | ⟨account, other, found, otherFound, -⟩
    · rw [failed, otherFailed]
    · rw [found, otherFound]
      rcases cases_of_alike (keyByAccount_alike alike uid) with
        ⟨error, failed, otherFailed⟩ | ⟨key, other, found, otherFound, -⟩
      · rw [keyByAccount] at failed otherFailed
        rw [failed, otherFailed]
      · rw [keyByAccount] at found otherFound
        rw [found, otherFound]

theorem createKey_alike
    (alike : first.masked = second.masked)
    (occasion : Occasion)
    (uid : String) :
    SameMasked KeyPair.withoutPrivate masked (first.createKey occasion uid)
      (second.createKey occasion uid) := by
  unfold createKey
  rw [checkNewKey_alike alike]
  split
  · exact ⟨rfl, alike⟩
  · split
    · exact ⟨rfl, alike⟩
    · exact changed_alike alike (Store.saveKey_blind (store_of_masked alike) occasion _)

theorem createAccountWithKey_alike
    (alike : first.masked = second.masked)
    (occasion : Occasion)
    (email name password : String) :
    SameMasked (Prod.map id KeyPair.withoutPrivate) masked
      (first.createAccountWithKey occasion email name password)
      (second.createAccountWithKey occasion email name password) := by
  unfold createAccountWithKey
  apply andThen_alike (createAccount_alike alike occasion email name password)
  intro uid other first second same alike
  obtain rfl : uid = other := same
  apply andThen_alike (createKey_alike alike occasion uid)
  intro key otherKey first second sameKey alike
  rcases cases_of_alike (loadAccount_alike alike uid) with
    ⟨error, failed, otherFailed⟩ | ⟨account, other, found, otherFound, sameAccount⟩
  · rw [failed, otherFailed]
    exact ⟨rfl, alike⟩
  · rw [found, otherFound]
    exact ⟨congrArg Except.ok (Prod.ext sameAccount sameKey), alike⟩

theorem deleteAccount_alike (alike : first.masked = second.masked) (uid : String) :
    SameMasked id masked (first.deleteAccount uid) (second.deleteAccount uid) :=
  changed_alike alike (Store.deleteAccount_blind (store_of_masked alike) uid)

theorem deleteKey_alike (alike : first.masked = second.masked) (kid : String) :
    SameMasked id masked (first.deleteKey kid) (second.deleteKey kid) :=
  changed_alike alike (Store.deleteKey_blind (store_of_masked alike) kid)

end Credential.Manager
