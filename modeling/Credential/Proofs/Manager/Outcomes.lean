import Credential.Proofs.Manager.TokenLifecycle
import Credential.Proofs.Store.Outcomes

/-!
# How operations of a manager come out

An operation that fails leaves the manager as it was.  Only the creation of an
account with a key pair can fail half way: the account is there, and the key pair
is not.
-/

namespace Credential.Manager

variable {α β : Type} {manager : Manager} {given : Prop}

/-- Whether an operation fails with nothing changed, and tells why in case something is given. -/
def Refuses (manager : Manager) (given : Prop) (result : Except Error α × Manager) : Prop :=
  ∃ error, result = (.error error, manager) ∧ (given → error.IsTold)

namespace Refuses

theorem of_error {error : Error} (told : given → error.IsTold) :
    manager.Refuses given ((.error error, manager) : Except Error α × Manager) :=
  ⟨error, rfl, told⟩

theorem andThen
    {step : Except Error α × Manager}
    (refuses : manager.Refuses given step)
    (next : α → Manager → Except Error β × Manager) :
    manager.Refuses given (andThen step next) := by
  obtain ⟨error, rfl, told⟩ := refuses
  exact ⟨error, rfl, told⟩

theorem weaken
    {stronger : Prop}
    {result : Except Error α × Manager}
    (refuses : manager.Refuses given result)
    (implies : stronger → given) :
    manager.Refuses stronger result := by
  obtain ⟨error, fails, told⟩ := refuses
  exact ⟨error, fails, told ∘ implies⟩

end Refuses

/-! ## Calls of the store -/

/-- An operation that is one call of the store succeeds, or is refused. -/
theorem refuses_of_call
    (sound : manager.store.IsSound)
    {occasion : Occasion}
    {call : Store.Call}
    (onTables : call.IsOnTables)
    {answer : α → Store.Answer}
    {result : Except Error α × Store}
    (performs : manager.store.perform occasion call = Store.changed answer result) :
    manager.Refuses (manager.store.isOpen = true) (manager.changed result) ∨
      ∃ value, manager.changed result =
        (.ok value, { manager with store := (manager.store.perform occasion call).2 }) := by
  obtain ⟨error | value, after⟩ := result
  · obtain rfl : after = manager.store := sound.eq_of_error onTables performs
    refine .inl ⟨error, rfl, fun isOpen => ?_⟩
    have tells : Tells (manager.store.perform occasion call).1 :=
      sound.tells isOpen occasion onTables
    rw [performs] at tells
    exact Tells.of_map (show Tells ((Except.error error : Except Error α).map answer) from tells)
      error rfl
  · rw [performs]
    exact .inr ⟨value, rfl⟩

/-- Reading from an open store fails only with errors that are told. -/
theorem tells_of_call
    (sound : manager.store.IsSound)
    (isOpen : manager.store.isOpen = true)
    {occasion : Occasion}
    {call : Store.Call}
    (onTables : call.IsOnTables)
    {answer : α → Store.Answer}
    {outcome : Except Error α}
    (performs : manager.store.perform occasion call = (outcome.map answer, manager.store)) :
    Tells outcome := by
  have tells := sound.tells isOpen occasion onTables
  rw [performs] at tells
  exact tells.of_map

/-- A store that is open stays open, unless the manager is told to disconnect it. -/
theorem isOpen_perform
    (sound : manager.store.IsSound)
    (isOpen : manager.store.isOpen = true)
    (occasion : Occasion)
    {call : Call}
    (stays : call ≠ .init ∧ call ≠ .close) :
    (manager.perform occasion call).2.store.isOpen = true := by
  have both : ∀ store storeCall, store.IsSound ∧ store.isOpen = true →
      Makes call occasion store storeCall →
        (store.perform occasion storeCall).2.IsSound ∧
          (store.perform occasion storeCall).2.isOpen = true := by
    intro store storeCall before makes
    exact ⟨before.1.perform occasion storeCall,
      before.1.isOpen_perform before.2 occasion (makes.isOnTables stays)⟩
  exact ((manager.leads_perform occasion call).preserves both ⟨sound, isOpen⟩).2

/-- The account that is stored under a uid is loaded. -/
theorem loadAccount_of_storedAccount?
    (sound : manager.store.IsSound)
    {uid : String}
    {account : Account}
    (stored : manager.store.storedAccount? uid = some (.ok account)) :
    manager.loadAccount uid = .ok account := by
  obtain ⟨ledger, showing, -⟩ := sound.exists_shows (Store.isOpen_of_storedAccount? stored)
  have present := showing.storedAccount?_eq_some_iff.mp stored
  rw [loadAccount, showing.loadAccount_eq, present]
  rfl

/-! ## Accounts -/

theorem tells_validate (account : Account) : Tells account.validate := by
  unfold Account.validate
  split
  case h_1 =>
    split
    case h_1 =>
      split_ifs
      · exact .error (by decide)
      · exact .ok ()
      · exact .error (by decide)
    case h_2 => exact .error (by decide)
  case h_2 => exact .error (by decide)

theorem tells_setPassword (account : Account) (salt : Text.Octets) (password : String) :
    Tells (account.setPassword salt password) := by
  unfold Account.setPassword
  split
  case isTrue => exact .ok _
  case isFalse => exact .error (by decide)

theorem tells_loadAccount
    (sound : manager.store.IsSound)
    (isOpen : manager.store.isOpen = true)
    (occasion : Occasion)
    (uid : String) :
    Tells (manager.loadAccount uid) :=
  have onTables : (Store.Call.loadAccount uid).IsOnTables := trivial
  tells_of_call sound isOpen onTables (show manager.store.perform occasion _ = _ from rfl)

theorem tells_checkAccount
    (sound : manager.store.IsSound)
    (isOpen : manager.store.isOpen = true)
    (occasion : Occasion)
    (account : Account) :
    Tells (manager.checkAccount occasion account) := by
  unfold checkAccount
  cases named : account.uid with
  | none => exact tells_validate account
  | some uid =>
      dsimp only
      have loads := tells_loadAccount sound isOpen occasion uid
      cases loaded : manager.loadAccount uid with
      | error error => exact .error (loads error loaded)
      | ok stored => exact tells_validate _

/-- An account is refused, or saved under a uid. -/
theorem saveAccount_cases
    (sound : manager.store.IsSound)
    (occasion : Occasion)
    (account : Account) :
    manager.Refuses (manager.store.isOpen = true) (manager.saveAccount occasion account) ∨
      ∃ uid record after ledger,
        manager.store.SavesAccount occasion account uid record after ledger ∧
          manager.saveAccount occasion account = (.ok record, { manager with store := after }) := by
  rw [saveAccount]
  cases checks : manager.checkAccount occasion account with
  | error error =>
      exact .inl (.of_error fun isOpen =>
        tells_checkAccount sound isOpen occasion account error checks)
  | ok _ =>
      dsimp only
      have onTables : (Store.Call.saveAccount account).IsOnTables := trivial
      have performs : manager.store.perform occasion (.saveAccount account) =
          Store.changed .account (manager.store.saveAccount occasion account) := rfl
      rcases sound.saveAccount_cases occasion account with
        ⟨error, refused⟩ | ⟨uid, record, after, ledger, saves⟩
      · rcases refuses_of_call sound onTables performs with refuses | ⟨record, succeeds⟩
        · exact .inl refuses
        · rw [refused] at succeeds
          cases succeeds
      · refine .inr ⟨uid, record, after, ledger, saves, ?_⟩
        rw [saves.saved]
        rfl

/-- A new account has no uid before it is saved. -/
theorem uid_of_create
    {salt : Text.Octets}
    {email name password : String}
    {account : Account}
    (made : Account.create salt email name password = .ok account) :
    account.uid = none := by
  unfold Account.create Account.setPassword at made
  split at made <;> cases made
  rfl

/-- A new account is refused, or added under the uid that is drawn for it. -/
theorem createAccount_cases
    (sound : manager.store.IsSound)
    (occasion : Occasion)
    (email name password : String) :
    manager.Refuses (manager.store.isOpen = true)
        (manager.createAccount occasion email name password) ∨
      ∃ account record after ledger,
        Account.create occasion.salt email name password = .ok account ∧
          manager.store.SavesAccount occasion account occasion.uid record after ledger ∧
          manager.createAccount occasion email name password =
            (.ok occasion.uid, { manager with store := after }) := by
  rw [createAccount]
  cases made : Account.create occasion.salt email name password with
  | error error =>
      exact .inl (.of_error fun _ => tells_setPassword _ _ _ error made)
  | ok account =>
      dsimp only
      rcases saveAccount_cases sound occasion account with
        refuses | ⟨uid, record, after, ledger, saves, saved⟩
      · exact .inl (refuses.andThen _)
      · obtain rfl : occasion.uid = uid := by
          rw [← saves.saves.getD_uid, uid_of_create made, Option.getD_none]
        refine .inr ⟨account, record, after, ledger, rfl, saves, ?_⟩
        simp only [andThen, saved, saves.uid_eq]

/-- The store is sound still when an account has been created. -/
theorem isSound_of_createAccount
    {created : Manager}
    {occasion : Occasion}
    {email name password uid : String}
    (sound : manager.store.IsSound)
    (added : manager.createAccount occasion email name password = (.ok uid, created)) :
    created.store.IsSound := by
  have stays := isSound_perform sound occasion (.createAccount email name password)
  rw [perform, added] at stays
  exact stays

/-- A change of an account is refused, or saved under the uid of the account. -/
theorem updateAccount_cases
    (sound : manager.store.IsSound)
    (occasion : Occasion)
    (uid : String)
    (patch : AccountPatch) :
    manager.Refuses (manager.store.isOpen = true) (manager.updateAccount occasion uid patch) ∨
      ∃ account record after ledger,
        patch.toAccount occasion.salt = .ok account ∧
          manager.store.SavesAccount occasion { account with uid := some uid } uid record after
            ledger ∧
          manager.updateAccount occasion uid patch =
            (.ok record.withoutPassword, { manager with store := after }) := by
  rw [updateAccount]
  split
  case isTrue => exact .inl (.of_error fun _ => by decide)
  case isFalse =>
    cases made : patch.toAccount occasion.salt with
    | error error =>
        refine .inl (.of_error fun _ => ?_)
        unfold AccountPatch.toAccount at made
        split at made
        case h_1 password given => exact tells_setPassword _ _ _ error made
        case h_2 => cases made
    | ok account =>
        dsimp only
        rcases saveAccount_cases sound occasion { account with uid := some uid } with
          refuses | ⟨other, record, after, ledger, saves, saved⟩
        · exact .inl (refuses.andThen _)
        · obtain rfl : uid = other := saves.saves.getD_uid
          refine .inr ⟨account, record, after, ledger, rfl, saves, ?_⟩
          rw [saved]
          rfl

/-! ## Key pairs -/

theorem tells_checkNewKey
    (sound : manager.store.IsSound)
    (isOpen : manager.store.isOpen = true)
    (occasion : Occasion)
    (uid : String) :
    Tells (manager.checkNewKey uid) := by
  unfold checkNewKey
  split
  case isTrue => exact .error (by decide)
  case isFalse =>
    have loads := tells_loadAccount sound isOpen occasion uid
    cases loaded : manager.loadAccount uid with
    | error error => exact .error (loads error loaded)
    | ok account =>
        have onTables : (Store.Call.keyByAccount uid).IsOnTables := trivial
        have looks : Tells (manager.store.keyByAccount uid) :=
          tells_of_call sound isOpen onTables (show manager.store.perform occasion _ = _ from rfl)
        dsimp only
        split
        case h_1 => exact .error (by decide)
        case h_2 => exact .ok ()
        case h_3 error _ fails => exact .error (looks error fails)

/-- A new key pair is refused, or the one that is drawn is saved under the uid of its account. -/
theorem createKey_cases
    (sound : manager.store.IsSound)
    (occasion : Occasion)
    (uid : String) :
    manager.Refuses (manager.store.isOpen = true ∧ occasion.drawnKey.get ≠ none)
        (manager.createKey occasion uid) ∨
      ∃ key record after ledger,
        KeyPair.generate occasion.drawnKey uid = .ok key ∧
          manager.store.SavesKey occasion key uid record after ledger ∧
          manager.createKey occasion uid = (.ok record, { manager with store := after }) := by
  rw [createKey]
  cases checks : manager.checkNewKey uid with
  | error error =>
      exact .inl (.of_error fun both => tells_checkNewKey sound both.1 occasion uid error checks)
  | ok _ =>
      dsimp only
      cases generated : KeyPair.generate occasion.drawnKey uid with
      | error error =>
          refine .inl (.of_error fun both => ?_)
          unfold KeyPair.generate at generated
          split at generated
          case isTrue =>
            cases generated
            decide
          case isFalse =>
            split at generated
            case h_1 missing => exact (both.2 missing).elim
            case h_2 => cases generated
      | ok key =>
          have onTables : (Store.Call.saveKey key).IsOnTables := trivial
          have performs : manager.store.perform occasion (.saveKey key) =
              Store.changed .key (manager.store.saveKey occasion key) := rfl
          rcases sound.saveKey_cases occasion key with
            ⟨error, refused⟩ | ⟨kid, record, after, ledger, saves⟩
          · rcases refuses_of_call sound onTables performs with refuses | ⟨record, succeeds⟩
            · exact .inl (refuses.weaken And.left)
            · rw [refused] at succeeds
              cases succeeds
          · obtain rfl : uid = kid := by
              obtain ⟨-, signer, -, rfl⟩ := KeyPair.generate_eq_ok_iff.mp generated
              exact saves.saves.getD_kid
            refine .inr ⟨key, record, after, ledger, rfl, saves, ?_⟩
            change manager.changed (manager.store.saveKey occasion key) = _
            rw [saves.saved]
            rfl

/-- An account with a key pair ends up where its account and then its key pair leads. -/
theorem snd_createAccountWithKey
    (manager : Manager)
    (occasion : Occasion)
    (email name password : String) :
    (manager.createAccountWithKey occasion email name password).2 =
      match manager.createAccount occasion email name password with
      | (.ok uid, created) => (created.createKey occasion uid).2
      | (.error _, created) => created := by
  rw [createAccountWithKey]
  rcases manager.createAccount occasion email name password with ⟨error | uid, created⟩
  · rfl
  · rw [andThen]
    dsimp only
    rcases created.createKey occasion uid with ⟨error | key, after⟩
    · rfl
    · rw [andThen]
      split <;> rfl

/--
An account with a key pair is refused, or added.

If the account can be added and the key pair cannot, the account stays alone.
-/
theorem createAccountWithKey_cases
    (sound : manager.store.IsSound)
    (occasion : Occasion)
    (email name password : String) :
    manager.Refuses (manager.store.isOpen = true)
        (manager.createAccountWithKey occasion email name password) ∨
      ∃ created,
        manager.createAccount occasion email name password = (.ok occasion.uid, created) ∧
          ((∃ error, created.createKey occasion occasion.uid = (.error error, created) ∧
              (created.store.isOpen = true ∧ occasion.drawnKey.get ≠ none → error.IsTold) ∧
              manager.createAccountWithKey occasion email name password =
                (.error error, created)) ∨
            ∃ account key after,
              after.store.storedAccount? occasion.uid = some (.ok account) ∧
                after.store.storedKey? occasion.uid = some (.ok key) ∧
                manager.createAccountWithKey occasion email name password =
                  (.ok (account.withoutPassword, key), after)) := by
  rw [createAccountWithKey]
  rcases createAccount_cases sound occasion email name password with
    refuses | ⟨account, record, after, ledger, -, saves, created⟩
  · exact .inl (refuses.andThen _)
  · obtain ⟨next, isNext⟩ : ∃ next, next = { manager with store := after } := ⟨_, rfl⟩
    have isStore : next.store = after := congrArg store isNext
    rw [← isNext] at created
    have nextSound := isSound_of_createAccount sound created
    refine .inr ⟨next, created, ?_⟩
    rw [created]
    rcases createKey_cases nextSound occasion occasion.uid with
      ⟨error, fails, told⟩ | ⟨key, keyRecord, last, keyLedger, -, savesKey, keyed⟩
    · refine .inl ⟨error, fails, told, ?_⟩
      rw [andThen, fails]
      rfl
    · have lastSound := nextSound.perform occasion (.saveKey key)
      rw [savesKey.perform_eq] at lastSound
      have stored : last.storedAccount? occasion.uid =
          some (.ok (manager.store.backend.kept record)) := by
        rw [savesKey.sameBut.storedAccount?_eq nofun, isStore, saves.storedAccount?_eq]
      have loaded : loadAccount { next with store := last } occasion.uid =
          .ok (manager.store.backend.kept record) :=
        loadAccount_of_storedAccount? lastSound stored
      refine .inr ⟨manager.store.backend.kept record, keyRecord, { next with store := last },
        stored, savesKey.storedKey?_eq, ?_⟩
      simp only [andThen, keyed, loaded]

/-! ## Tokens -/

/-- A token is refused, or recorded. -/
theorem createToken_cases
    (sound : manager.store.IsSound)
    (occasion : Occasion)
    (uid : String) :
    manager.Refuses
        (manager.store.isOpen = true ∧
          ∀ key, manager.store.storedKey? uid = some (.ok key) →
            ∃ token, Token.generate uid key.privKey occasion.now = .ok token)
        (manager.createToken occasion uid) ∨
      ∃ token,
        manager.createToken occasion uid =
          (.ok token,
            { manager with
              store := (manager.store.perform occasion (.saveToken uid token)).2 }) := by
  rw [createToken]
  cases found : manager.activeKey uid with
  | error error =>
      refine .inl (.of_error fun both => ?_)
      unfold activeKey at found
      have onTables : (Store.Call.keyByAccount uid).IsOnTables := trivial
      have looks : Tells (manager.keyByAccount uid) :=
        tells_of_call sound both.1 onTables (show manager.store.perform occasion _ = _ from rfl)
      split at found
      case h_1 failure fails =>
        cases found
        exact looks error fails
      case h_2 =>
        split at found <;> cases found
        decide
  | ok key =>
      dsimp only
      have stored := ((activeKey_eq_ok_iff sound).mp found).1
      cases signed : Token.generate uid key.privKey occasion.now with
      | error error =>
          refine .inl (.of_error fun both => ?_)
          obtain ⟨token, generated⟩ := both.2 key stored
          cases generated.symm.trans signed
      | ok token =>
          have onTables : (Store.Call.saveToken uid token).IsOnTables := trivial
          have performs : manager.store.perform occasion (.saveToken uid token) =
              Store.changed (fun _ => .done) (manager.store.saveToken occasion uid token) := rfl
          rcases refuses_of_call sound onTables performs with refuses | ⟨_, succeeds⟩
          · exact .inl ((refuses.weaken And.left).andThen _)
          · refine .inr ⟨token, ?_⟩
            dsimp only
            rw [saveToken, succeeds, andThen]

end Credential.Manager
