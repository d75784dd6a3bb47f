import Credential.Manager.Call
import Credential.Proofs.Store.OwnedKeys

/-!
# Managers work by calls of their stores

Whatever a manager does to its store is done by calls of the store, one after
another.  Of these calls it is said which the manager may make, and what it has
checked before: an account is only saved if it will be valid as it is stored.
-/

namespace Credential

open Credential.Text (Octets)

/-! ## Calls of a store, one after another -/

namespace Store

/-- Whether calls that are admitted lead from one store to another, all on one occasion. -/
inductive Leads (admits : Store → Call → Prop) (occasion : Occasion) : Store → Store → Prop where
  | refl (store : Store) : Leads admits occasion store store
  | step
      {store after : Store}
      {call : Call}
      (admitted : admits store call)
      (rest : Leads admits occasion (store.perform occasion call).2 after) :
      Leads admits occasion store after

namespace Leads

variable {admits : Store → Call → Prop} {occasion : Occasion} {first second third : Store}

/-- One call that is admitted leads to what it leaves. -/
theorem single (call : Call) (admitted : admits first call) :
    Leads admits occasion first (first.perform occasion call).2 :=
  .step admitted (.refl _)

theorem trans
    (earlier : Leads admits occasion first second)
    (later : Leads admits occasion second third) :
    Leads admits occasion first third := by
  induction earlier with
  | refl => exact later
  | step admitted _ inductionHypothesis => exact .step admitted (inductionHypothesis later)

/-- What every admitted call preserves holds wherever such calls lead. -/
theorem preserves
    {invariant : Store → Prop}
    (leads : Leads admits occasion first second)
    (step : ∀ store call, invariant store → admits store call →
      invariant (store.perform occasion call).2)
    (start : invariant first) :
    invariant second := by
  induction leads with
  | refl => exact start
  | step admitted _ inductionHypothesis =>
      exact inductionHypothesis (step _ _ start admitted)

end Leads

end Store

/-- A key pair is made for an account that is named, of the private key that is drawn. -/
theorem KeyPair.generate_eq_ok_iff
    {drawn : Thunk (Option Rsa.PrivateKey)}
    {uid : String}
    {key : KeyPair} :
    generate drawn uid = .ok key ↔
      uid ≠ "" ∧ ∃ signer, drawn.get = some signer ∧
        key = ⟨none, signer.publicKey.render, signer.render, uid, none, none, none⟩ := by
  unfold generate
  by_cases unnamed : uid = ""
  · simp [unnamed]
  · cases drawn.get with
    | none => simp [unnamed]
    | some signer => simp [unnamed, eq_comm]

namespace Manager

/-! ## Which calls a manager makes -/

/-- Whether the record that will be stored of an account is valid. -/
def Approves (store : Store) (occasion : Occasion) (account : Account) : Prop :=
  match account.uid with
  | none => account.validate = .ok ()
  | some uid =>
      ∃ stored, store.loadAccount uid = .ok stored ∧
        (account.prepareUpdate stored occasion.now).validate = .ok ()

/-- Whether a record brings the hash of an acceptable password, or is to keep the stored one. -/
def BringsHash (occasion : Occasion) (account : Account) : Prop :=
  (account.uid ≠ none ∧ account.password = .unset) ∨
    ∃ password, Account.passwordOk password = true ∧
      account.password = .value (Password.hash occasion.salt password)

/-- Whether a manager that carries out a call may make a call of its store. -/
def Makes (call : Call) (occasion : Occasion) (store : Store) : Store.Call → Prop
  | .dial _ => call = .init
  | .close => call = .close
  | .saveAccount account =>
      Approves store occasion account ∧ (call = .saveAccount account ∨ BringsHash occasion account)
  | .saveKey key =>
      call = .saveKey key ∨ KeyPair.generate occasion.drawnKey key.accountId = .ok key
  | .deleteKey kid => call = .deleteKey kid
  | _ => True

variable {call : Call} {occasion : Occasion}

/-- A manager only connects or disconnects its store if it is told to. -/
theorem Makes.isOnTables
    {store : Store}
    {storeCall : Store.Call}
    (makes : Makes call occasion store storeCall)
    (stays : call ≠ .init ∧ call ≠ .close) :
    storeCall.IsOnTables := by
  cases storeCall with
  | dial dialing => exact (stays.1 makes).elim
  | close => exact (stays.2 makes).elim
  | _ => trivial

/-- A record that passes the check is approved. -/
theorem approves_of_checkAccount
    {manager : Manager}
    {account : Account}
    (passes : manager.checkAccount occasion account = .ok ()) :
    Approves manager.store occasion account := by
  unfold checkAccount at passes
  unfold Approves
  cases named : account.uid with
  | none =>
      rw [named] at passes
      exact passes
  | some uid =>
      rw [named] at passes
      dsimp only at passes
      split at passes
      case h_1 stored loaded => exact ⟨stored, loaded, passes⟩
      case h_2 => cases passes

/-- Going on with an operation leads on from where the operation leads. -/
theorem leads_andThen
    {α β : Type}
    {admits : Store → Store.Call → Prop}
    {store : Store}
    {step : Except Error α × Manager}
    {next : α → Manager → Except Error β × Manager}
    (leads : Store.Leads admits occasion store step.2.store)
    (goesOn : ∀ result, Store.Leads admits occasion step.2.store (next result step.2).2.store) :
    Store.Leads admits occasion store (andThen step next).2.store := by
  rcases step with ⟨error | result, manager⟩
  · exact leads
  · exact leads.trans (goesOn result)

theorem leads_saveAccount
    (manager : Manager)
    {account : Account}
    (allowed : call = .saveAccount account ∨ BringsHash occasion account) :
    Store.Leads (Makes call occasion) occasion manager.store
      (manager.saveAccount occasion account).2.store := by
  unfold saveAccount
  split
  case h_1 => exact .refl _
  case h_2 passes =>
    exact Store.Leads.single (.saveAccount account)
      ⟨approves_of_checkAccount passes, allowed⟩

theorem leads_createAccount (manager : Manager) (email name password : String) :
    Store.Leads (Makes call occasion) occasion manager.store
      (manager.createAccount occasion email name password).2.store := by
  unfold createAccount Account.create Account.setPassword
  by_cases accepted : Account.passwordOk password = true
  · rw [if_pos accepted]
    apply leads_andThen
    · exact leads_saveAccount manager (.inr (.inr ⟨password, accepted, rfl⟩))
    · intro record
      split <;> exact .refl _
  · rw [if_neg accepted]
    exact .refl _

theorem leads_updateAccount (manager : Manager) (uid : String) (patch : AccountPatch) :
    Store.Leads (Makes call occasion) occasion manager.store
      (manager.updateAccount occasion uid patch).2.store := by
  unfold updateAccount
  split
  case isTrue => exact .refl _
  case isFalse =>
    split
    case h_1 => exact .refl _
    case h_2 account made =>
      apply leads_andThen
      · apply leads_saveAccount
        refine .inr ?_
        unfold AccountPatch.toAccount Account.setPassword at made
        dsimp only at made
        split at made
        case h_1 password given =>
          split at made
          case isTrue accepted =>
            cases made
            exact .inr ⟨password, accepted, rfl⟩
          case isFalse => cases made
        case h_2 =>
          cases made
          exact .inl ⟨Option.some_ne_none uid, rfl⟩
      · intro record
        exact .refl _

theorem leads_createKey (manager : Manager) (uid : String) :
    Store.Leads (Makes call occasion) occasion manager.store
      (manager.createKey occasion uid).2.store := by
  unfold createKey
  split
  case h_1 => exact .refl _
  case h_2 =>
    split
    case h_1 => exact .refl _
    case h_2 key generated =>
      refine Store.Leads.single (.saveKey key) (.inr ?_)
      obtain ⟨-, signer, -, rfl⟩ := KeyPair.generate_eq_ok_iff.mp generated
      exact generated

theorem leads_createAccountWithKey (manager : Manager) (email name password : String) :
    Store.Leads (Makes call occasion) occasion manager.store
      (manager.createAccountWithKey occasion email name password).2.store := by
  unfold createAccountWithKey
  apply leads_andThen
  · exact leads_createAccount manager email name password
  · intro uid
    apply leads_andThen
    · exact leads_createKey _ uid
    · intro key
      split <;> exact .refl _

theorem leads_createToken (manager : Manager) (uid : String) :
    Store.Leads (Makes call occasion) occasion manager.store
      (manager.createToken occasion uid).2.store := by
  unfold createToken
  split
  case h_1 => exact .refl _
  case h_2 =>
    split
    case h_1 => exact .refl _
    case h_2 token signed =>
      apply leads_andThen
      · exact Store.Leads.single (.saveToken uid token) trivial
      · intro _
        exact .refl _

/-- Whatever a call does to the store is done by calls of the store that the manager may make. -/
theorem leads_perform (manager : Manager) (occasion : Occasion) (call : Call) :
    Store.Leads (Makes call occasion) occasion manager.store
      (manager.perform occasion call).2.store := by
  cases call with
  | init => exact Store.Leads.single (.dial manager.dialing) rfl
  | close => exact Store.Leads.single .close rfl
  | unregister name =>
      rw [perform, answered, unregister]
      split <;> exact .refl _
  | createAccount email name password => exact leads_createAccount manager email name password
  | createAccountWithKey email name password =>
      exact leads_createAccountWithKey manager email name password
  | saveAccount account => exact leads_saveAccount manager (.inl rfl)
  | updateAccount uid patch => exact leads_updateAccount manager uid patch
  | deleteAccount uid => exact Store.Leads.single (.deleteAccount uid) trivial
  | createKey uid => exact leads_createKey manager uid
  | saveKey key => exact Store.Leads.single (.saveKey key) (.inl rfl)
  | deleteKey kid => exact Store.Leads.single (.deleteKey kid) rfl
  | createToken uid => exact leads_createToken manager uid
  | saveToken uid token => exact Store.Leads.single (.saveToken uid token) trivial
  | deleteToken uid => exact Store.Leads.single (.deleteToken uid) trivial
  | _ => exact .refl _

end Manager

end Credential
