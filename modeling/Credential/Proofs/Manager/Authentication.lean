import Credential.Proofs.Manager.Outcomes
import Credential.Proofs.Password.HashText

/-!
# Who can authenticate

The password of an account is the one that was accepted for it last: when the
account was created, or in a change that brought a password and succeeded.  What
else happens to the account, or to its email, makes no difference.
-/

namespace Credential

open Credential.Text (Octets)

/-- Whether the hash of a password accepts a candidate exactly if it is that password. -/
def Password.Recognizes (salt : Octets) (password candidate : String) : Prop :=
  accepts (hash salt password) candidate = true ↔ candidate = password

namespace Manager

variable {manager : Manager} {occasion : Occasion}

/-! ## Accepted passwords -/

/-- Whether a call hands the manager no record of an account, and leaves the connection alone. -/
def Call.IsOrdinary : Call → Prop
  | .init => False
  | .close => False
  | .saveAccount _ => False
  | _ => True

theorem Call.IsOrdinary.stays {call : Call} (ordinary : call.IsOrdinary) :
    call ≠ .init ∧ call ≠ .close := by
  constructor
  · rintro rfl
    exact ordinary
  · rintro rfl
    exact ordinary

/-- The password that a call brings for an account. -/
def Call.password? : Call → Option String
  | .createAccount _ _ password => some password
  | .createAccountWithKey _ _ password => some password
  | .updateAccount _ patch => patch.password
  | _ => none

/--
The account that a call gives a password, and the password.

An account that is created with a key pair has its password even if the key pair
cannot be made.
-/
def acceptance? (manager : Manager) (occasion : Occasion) : Call → Option (String × String)
  | .createAccount email name password =>
      (manager.createAccount occasion email name password).1.toOption.map (·, password)
  | .createAccountWithKey email name password =>
      (manager.createAccount occasion email name password).1.toOption.map (·, password)
  | .updateAccount uid patch =>
      (manager.updateAccount occasion uid patch).1.toOption.bind fun _ =>
        patch.password.map (uid, ·)
  | _ => none

/-- The passwords that are accepted in a run of calls, newest first, and then the earlier ones. -/
def acceptances (manager : Manager) (earlier : List (String × String)) :
    List (Occasion × Call) → List (String × String)
  | [] => earlier
  | (occasion, call) :: rest =>
      (manager.perform occasion call).2.acceptances
        ((manager.acceptance? occasion call).toList ++ earlier) rest

/-- The password that is accepted last for an account in a run of calls. -/
def recentPassword? (manager : Manager) (calls : List (Occasion × Call)) (uid : String) :
    Option String :=
  (manager.acceptances [] calls).lookup uid

/-! ## Stored passwords -/

variable {candidate : String} {accepted : List (String × String)}

/-- Whether the password of every stored account, as a candidate tells, is the last accepted. -/
def Remembers (candidate : String) (accepted : List (String × String)) (store : Store) : Prop :=
  ∀ uid account, store.storedAccount? uid = some (.ok account) →
    ∃ password text, accepted.lookup uid = some password ∧ account.password = .value text ∧
      (Password.accepts text candidate = true ↔ candidate = password)

namespace Remembers

variable {store after : Store}

theorem of_rowless (rowless : store.Rowless) : Remembers candidate accepted store := by
  intro uid account stored
  rw [rowless.storedAccount?_eq_none] at stored
  cases stored

/-- Where no account is new or changed, the passwords stay. -/
theorem of_unsaved
    (remembers : Remembers candidate accepted store)
    (unsaved : ∀ {uid reading}, after.storedAccount? uid = some reading →
      store.storedAccount? uid = some reading) :
    Remembers candidate accepted after :=
  fun uid account stored => remembers uid account (unsaved stored)

/-- An account that is saved with the hash of the last accepted password is remembered. -/
theorem saved
    (remembers : Remembers candidate accepted store)
    {account record : Account}
    {uid password text : String}
    {ledger : Store.Ledger}
    (saves : store.SavesAccount occasion account uid record after ledger)
    {newer : List (String × String)}
    (others : ∀ other, other ≠ uid → newer.lookup other = accepted.lookup other)
    (recent : newer.lookup uid = some password)
    (hashed : record.password = .value text)
    (recognizes : Password.accepts text candidate = true ↔ candidate = password) :
    Remembers candidate newer after := by
  intro other found stored
  by_cases same : other = uid
  · subst same
    rw [saves.storedAccount?_eq] at stored
    cases stored
    refine ⟨password, text, recent, ?_, recognizes⟩
    cases store.backend with
    | memory => exact hashed
    | database => simp [Store.Backend.kept, Account.cleared, hashed]
  · have differs : Store.Place.account uid ≠ .account other := by
      rintro ⟨⟩
      exact same rfl
    rw [saves.sameBut.storedAccount?_eq differs] at stored
    rw [others other same]
    exact remembers other found stored

/-- The record of a new account is remembered with its password. -/
theorem created
    (remembers : Remembers candidate accepted store)
    {email name password : String}
    {account record : Account}
    {ledger : Store.Ledger}
    (made : Account.create occasion.salt email name password = .ok account)
    (saves : store.SavesAccount occasion account occasion.uid record after ledger)
    (recognizes : Password.Recognizes occasion.salt password candidate) :
    Remembers candidate ((occasion.uid, password) :: accepted) after := by
  unfold Account.create Account.setPassword at made
  split at made
  case isFalse => cases made
  case isTrue =>
    cases made
    have hashed : record.password = .value (Password.hash occasion.salt password) := by
      cases saves.saves with
      | added isNew => rfl
      | changed named present => cases named
    refine remembers.saved saves (fun other differs => ?_) (List.lookup_cons_self) hashed recognizes
    rw [List.lookup_cons, beq_false_of_ne differs]

/-- The record of a changed account is remembered with its new password, or the one it had. -/
theorem updated
    (remembers : Remembers candidate accepted store)
    {uid : String}
    {patch : AccountPatch}
    {account record : Account}
    {ledger : Store.Ledger}
    (made : patch.toAccount occasion.salt = .ok account)
    (saves : store.SavesAccount occasion { account with uid := some uid } uid record after ledger)
    (recognizes : ∀ password, patch.password = some password →
      Password.Recognizes occasion.salt password candidate) :
    Remembers candidate ((patch.password.map (uid, ·)).toList ++ accepted) after := by
  obtain ⟨stored, present, prepared⟩ : ∃ stored, store.storedAccount? uid = some (.ok stored) ∧
      record.password = account.password.orStored stored.password := by
    cases saves.saves with
    | added isNew => cases isNew
    | changed named present =>
        cases named
        refine ⟨_, ?_, rfl⟩
        rw [saves.showing.storedAccount?_eq, present]
        rfl
  unfold AccountPatch.toAccount Account.setPassword at made
  -- Without a new password the stored text stays, and so does the last acceptance.
  cases brought : patch.password with
  | none =>
      rw [brought] at made
      cases made
      obtain ⟨password, text, recent, hashed, recognizesStored⟩ := remembers uid stored present
      exact remembers.saved saves (fun other differs => rfl) recent (prepared.trans hashed)
        recognizesStored
  | some password =>
      rw [brought] at made
      dsimp only at made
      split at made
      case isFalse => cases made
      case isTrue =>
        cases made
        refine remembers.saved saves (fun other differs => ?_) List.lookup_cons_self prepared
          (recognizes password brought)
        rw [Option.map_some, Option.toList_some, List.singleton_append, List.lookup_cons,
          beq_false_of_ne differs]

end Remembers

/-! ## What a call does to passwords -/

/-- An account with a key pair is stored as it is without one. -/
theorem remembers_createKey
    (sound : manager.store.IsSound)
    (remembers : Remembers candidate accepted manager.store)
    (occasion : Occasion)
    (uid : String) :
    Remembers candidate accepted (manager.createKey occasion uid).2.store := by
  rcases manager.createKey_cases sound occasion uid with
    ⟨error, refused, -⟩ | ⟨key, record, after, ledger, -, saves, created⟩
  · rw [refused]
    exact remembers
  · rw [created]
    apply remembers.of_unsaved
    intro other reading stored
    rw [← saves.sameBut.storedAccount?_eq nofun]
    exact stored

theorem remembers_createAccount
    (sound : manager.store.IsSound)
    (remembers : Remembers candidate accepted manager.store)
    (email name : String)
    {password : String}
    (recognizes : Password.Recognizes occasion.salt password candidate) :
    Remembers candidate
      (((manager.createAccount occasion email name password).1.toOption.map
        (·, password)).toList ++ accepted)
      (manager.createAccount occasion email name password).2.store := by
  rcases manager.createAccount_cases sound occasion email name password with
    ⟨error, refused, -⟩ | ⟨account, record, after, ledger, made, saves, created⟩
  · rw [refused]
    exact remembers
  · rw [created]
    exact remembers.created made saves recognizes

/-- A call that a run is made of keeps the stored passwords the last accepted ones. -/
theorem remembers_perform
    (sound : manager.store.IsSound)
    (remembers : Remembers candidate accepted manager.store)
    {call : Call}
    (ordinary : call.IsOrdinary)
    (recognizes : ∀ password, call.password? = some password →
      Password.Recognizes occasion.salt password candidate) :
    Remembers candidate ((manager.acceptance? occasion call).toList ++ accepted)
      (manager.perform occasion call).2.store := by
  have unsaved (storeCall : Store.Call)
      (onTables : storeCall.IsOnTables)
      (notSave : ∀ account, storeCall ≠ .saveAccount account) :
      Remembers candidate accepted (manager.store.perform occasion storeCall).2 :=
    remembers.of_unsaved (sound.storedAccount?_of_unsaved occasion onTables notSave)
  cases call with
  | init => exact ordinary.elim
  | close => exact ordinary.elim
  | saveAccount account => exact ordinary.elim
  | unregister name =>
      rw [perform, answered, unregister]
      split <;> exact remembers
  | createAccount email name password =>
      exact remembers_createAccount sound remembers email name (recognizes password rfl)
  | createAccountWithKey email name password =>
      have created := remembers_createAccount sound remembers email name (recognizes password rfl)
      change Remembers candidate (Option.toList _ ++ accepted)
        (manager.createAccountWithKey occasion email name password).2.store
      rw [snd_createAccountWithKey]
      rcases added : manager.createAccount occasion email name password with ⟨error | uid, after⟩
      · rw [added] at created
        rw [acceptance?, added]
        exact created
      · rw [added] at created
        rw [acceptance?, added]
        exact remembers_createKey (isSound_of_createAccount sound added) created occasion uid
  | updateAccount uid patch =>
      rcases manager.updateAccount_cases sound occasion uid patch with
        ⟨error, refused, -⟩ | ⟨account, record, after, ledger, made, saves, updated⟩
      · rw [acceptance?, perform, answered, refused]
        exact remembers
      · rw [acceptance?, perform, answered, updated]
        exact remembers.updated made saves recognizes
  | createKey uid => exact remembers_createKey sound remembers occasion uid
  | createToken uid =>
      rcases manager.createToken_cases sound occasion uid with
        ⟨error, refused, -⟩ | ⟨token, created⟩
      · rw [perform, answered, refused]
        exact remembers
      · rw [perform, answered, created]
        exact unsaved (.saveToken uid token) trivial (by simp)
  | deleteAccount uid => exact unsaved (.deleteAccount uid) trivial (by simp)
  | saveKey key => exact unsaved (.saveKey key) trivial (by simp)
  | deleteKey kid => exact unsaved (.deleteKey kid) trivial (by simp)
  | saveToken uid token => exact unsaved (.saveToken uid token) trivial (by simp)
  | deleteToken uid => exact unsaved (.deleteToken uid) trivial (by simp)
  | _ => exact remembers

theorem isOpen_run
    (sound : manager.store.IsSound)
    (isOpen : manager.store.isOpen = true)
    {calls : List (Occasion × Call)}
    (ordinary : ∀ call ∈ calls, call.2.IsOrdinary) :
    (manager.run calls).store.isOpen = true := by
  induction calls generalizing manager with
  | nil => exact isOpen
  | cons call rest inductionHypothesis =>
      apply inductionHypothesis (isSound_perform sound call.1 call.2)
      · exact isOpen_perform sound isOpen call.1 (ordinary call List.mem_cons_self).stays
      · exact fun later member => ordinary later (List.mem_cons_of_mem call member)

theorem remembers_run
    (sound : manager.store.IsSound)
    (remembers : Remembers candidate accepted manager.store)
    {calls : List (Occasion × Call)}
    (ordinary : ∀ call ∈ calls, call.2.IsOrdinary)
    (recognizes : ∀ call ∈ calls, ∀ password, call.2.password? = some password →
      Password.Recognizes call.1.salt password candidate) :
    Remembers candidate (manager.acceptances accepted calls) (manager.run calls).store := by
  induction calls generalizing manager accepted with
  | nil => exact remembers
  | cons call rest inductionHypothesis =>
      apply inductionHypothesis (isSound_perform sound call.1 call.2)
      · exact remembers_perform sound remembers (ordinary call List.mem_cons_self)
          (recognizes call List.mem_cons_self)
      · exact fun later member => ordinary later (List.mem_cons_of_mem call member)
      · exact fun later member => recognizes later (List.mem_cons_of_mem call member)

/-! ## Authentication -/

/-- The live account of an email is found by it. -/
theorem accountByEmail_of_live
    (sound : manager.store.IsSound)
    {uid email : String}
    {account : Account}
    (stored : manager.store.storedAccount? uid = some (.ok account))
    (live : account.IsLiveWith email) :
    manager.accountByEmail email = .ok account := by
  have isOpen := Store.isOpen_of_storedAccount? stored
  obtain ⟨ledger, showing, ledgerSound⟩ := sound.exists_shows isOpen
  have present := showing.storedAccount?_eq_some_iff.mp stored
  rcases showing.finds_accountByEmail email with
    ⟨other, found, foundPresent, foundLive, isFound⟩ | ⟨none, -⟩
  · obtain rfl := ledgerSound.emails present foundPresent live.1 foundLive.1 live.2 foundLive.2
    obtain rfl := Option.some.inj (present.symm.trans foundPresent)
    exact isFound
  · exact (none uid account present live).elim

/-- An email is missing, or it is the email of a live account. -/
theorem accountByEmail_cases
    (sound : manager.store.IsSound)
    (isOpen : manager.store.isOpen = true)
    (email : String) :
    (manager.accountByEmail email = .error .emailNotFound ∧
        ∀ uid account, manager.store.storedAccount? uid = some (.ok account) →
          ¬ account.IsLiveWith email) ∨
      ∃ uid account, manager.store.storedAccount? uid = some (.ok account) ∧
        account.IsLiveWith email ∧ manager.accountByEmail email = .ok account := by
  obtain ⟨ledger, showing, -⟩ := sound.exists_shows isOpen
  rcases showing.finds_accountByEmail email with
    ⟨uid, account, present, live, found⟩ | ⟨none, missing⟩
  · refine .inr ⟨uid, account, ?_, live, found⟩
    rw [showing.storedAccount?_eq, present]
    rfl
  · refine .inl ⟨missing, fun uid account stored => none uid account ?_⟩
    have present := showing.storedAccount?_eq_some_iff.mp stored
    exact present

/-- The live account of an email decides by its password who can authenticate. -/
theorem authenticate_of_live
    (sound : manager.store.IsSound)
    (remembers : Remembers candidate accepted manager.store)
    {uid email : String}
    {account : Account}
    (stored : manager.store.storedAccount? uid = some (.ok account))
    (live : account.IsLiveWith email) :
    manager.authenticate email candidate =
      if accepted.lookup uid = some candidate then .ok account.withoutPassword
      else .error .passwordMismatch := by
  obtain ⟨password, text, recent, hashed, recognizes⟩ := remembers uid account stored
  rw [authenticate, accountByEmail_of_live sound stored live]
  dsimp only
  rw [Account.matchPassword, hashed, recent]
  dsimp only
  by_cases same : candidate = password
  · rw [if_pos (recognizes.mpr same), if_pos (congrArg some same.symm)]
  · rw [if_neg (mt recognizes.mp same), if_neg fun other => same (Option.some.inj other).symm]

/--
Who can authenticate after a run of calls.

A live account of the email is needed, and the password that was accepted last for
this very account; the account is given without its password hash.  Nothing is
changed by an attempt.
-/
theorem authenticate_run
    {manager : Manager}
    (rowless : manager.store.Rowless)
    (isOpen : manager.store.isOpen = true)
    {calls : List (Occasion × Call)}
    (ordinary : ∀ call ∈ calls, call.2.IsOrdinary)
    {candidate : String}
    (recognizes : ∀ call ∈ calls, ∀ password, call.2.password? = some password →
      Password.Recognizes call.1.salt password candidate)
    (email : String) :
    let after := manager.run calls
    (∀ account, after.authenticate email candidate = .ok account ↔
      ∃ uid stored, after.store.storedAccount? uid = some (.ok stored) ∧
        stored.IsLiveWith email ∧ manager.recentPassword? calls uid = some candidate ∧
        account = stored.withoutPassword) ∧
    (after.authenticate email candidate = .error .emailNotFound ↔
      ∀ uid stored, after.store.storedAccount? uid = some (.ok stored) →
        ¬ stored.IsLiveWith email) ∧
    (after.authenticate email candidate = .error .passwordMismatch ↔
      ∃ uid stored, after.store.storedAccount? uid = some (.ok stored) ∧
        stored.IsLiveWith email ∧ manager.recentPassword? calls uid ≠ some candidate) ∧
    ∀ occasion, (after.perform occasion (.authenticate email candidate)).2 = after := by
  intro after
  have sound : after.store.IsSound := isSound_run rowless.isSound calls
  have remembers : Remembers candidate (manager.acceptances [] calls) after.store :=
    remembers_run rowless.isSound (.of_rowless rowless) ordinary recognizes
  have decided {uid : String} {stored : Account}
      (present : after.store.storedAccount? uid = some (.ok stored))
      (live : stored.IsLiveWith email) :
      after.authenticate email candidate =
        if manager.recentPassword? calls uid = some candidate then .ok stored.withoutPassword
        else .error .passwordMismatch :=
    authenticate_of_live sound remembers present live
  have stillOpen := isOpen_run rowless.isSound isOpen ordinary
  rcases accountByEmail_cases sound stillOpen email with
    ⟨missing, none⟩ | ⟨uid, stored, present, live, -⟩
  · have fails : after.authenticate email candidate = .error .emailNotFound := by
      rw [authenticate, missing]
    rw [fails]
    refine ⟨fun account => ⟨nofun, ?_⟩, ⟨fun _ => none, fun _ => rfl⟩, ⟨nofun, ?_⟩, fun _ => rfl⟩
    · rintro ⟨uid, stored, present, live, -⟩
      exact (none uid stored present live).elim
    · rintro ⟨uid, stored, present, live, -⟩
      exact (none uid stored present live).elim
  · have outcome := decided present live
    refine ⟨fun account => ⟨fun authenticated => ?_, ?_⟩, ⟨fun fails => ?_, fun none => ?_⟩,
      ⟨fun fails => ?_, ?_⟩, fun _ => rfl⟩
    · rw [outcome] at authenticated
      split at authenticated
      case isTrue recent =>
        cases authenticated
        exact ⟨uid, stored, present, live, recent, rfl⟩
      case isFalse => cases authenticated
    · rintro ⟨other, found, foundPresent, foundLive, recent, rfl⟩
      rw [decided foundPresent foundLive, if_pos recent]
    · rw [outcome] at fails
      split at fails <;> cases fails
    · exact (none uid stored present live).elim
    · rw [outcome] at fails
      split at fails
      case isTrue => cases fails
      case isFalse other => exact ⟨uid, stored, present, live, other⟩
    · rintro ⟨other, found, foundPresent, foundLive, differs⟩
      rw [decided foundPresent foundLive, if_neg differs]

/-- An account whose email has moved is open under the new email only, by the old password. -/
theorem authenticate_run_moved :
    let occasion : Occasion := ⟨.start, "first", List.replicate 16 0x73, .mk fun _ => none⟩
    let calls : List (Occasion × Call) :=
      [(occasion, .createAccount "ada@example.org" "Ada" "analytical"),
        (occasion, .updateAccount "first"
          ⟨.value "countess@example.org", .unset, none, .unset, .unset⟩)]
    let manager : Manager := ⟨⟨.empty⟩, "memory", ⟨none, 0⟩, .memory ⟨some .empty⟩⟩
    manager.store.Rowless ∧ manager.store.isOpen = true ∧
      (∀ call ∈ calls, call.2.IsOrdinary) ∧
      (∀ call ∈ calls, ∀ password, call.2.password? = some password →
        Password.Recognizes call.1.salt password "analytical") ∧
      (∃ account,
        (manager.run calls).authenticate "countess@example.org" "analytical" = .ok account ∧
          account.uid = some "first" ∧ account.password = .null) ∧
      (manager.run calls).authenticate "ada@example.org" "analytical" = .error .emailNotFound := by
  intro occasion calls manager
  have rowless : manager.store.Rowless := by
    rintro tables ⟨⟩
    rfl
  have ordinary : ∀ call ∈ calls, call.2.IsOrdinary := by
    simp [calls, Call.IsOrdinary]
  have recognizes : ∀ call ∈ calls, ∀ password, call.2.password? = some password →
      Password.Recognizes call.1.salt password "analytical" := by
    intro call member password brought
    simp only [calls, List.mem_cons, List.not_mem_nil, or_false] at member
    rcases member with rfl | rfl
    · cases brought
      exact iff_of_true (Password.accepts_hash (by decide) (by decide) "analytical") rfl
    · cases brought
  obtain ⟨stored, present, live, named⟩ : ∃ stored,
      (manager.run calls).store.storedAccount? "first" = some (.ok stored) ∧
        stored.IsLiveWith "countess@example.org" ∧ stored.uid = some "first" := by
    have checked : ((manager.run calls).store.storedAccount? "first").any (fun reading =>
        reading.toOption.any fun account =>
          account.isDeleted = false ∧ account.email? = some "countess@example.org" ∧
            account.uid = some "first") = true := by
      decide +kernel
    obtain ⟨reading, present, checked⟩ := (Option.any_eq_true _ _).mp checked
    obtain ⟨stored, isOk, checked⟩ := (Option.any_eq_true _ _).mp checked
    obtain ⟨kept, email, named⟩ := of_decide_eq_true checked
    rw [eq_ok_of_toOption isOk] at present
    exact ⟨stored, present, ⟨kept, email⟩, named⟩
  have recent : manager.recentPassword? calls "first" = some "analytical" := by decide +kernel
  have opened := (authenticate_run rowless rfl ordinary recognizes "countess@example.org").1
  have closed := (authenticate_run rowless rfl ordinary recognizes "ada@example.org").2.1
  refine ⟨rowless, rfl, ordinary, recognizes, ?_, closed.mpr ?_⟩
  · exact ⟨_, (opened _).mpr ⟨"first", stored, present, live, recent, rfl⟩, named, rfl⟩
  · intro uid account present live
    have found := accountByEmail_of_live (isSound_run rowless.isSound calls) present live
    have missing : ((manager.run calls).accountByEmail "ada@example.org").toOption = none := by
      decide +kernel
    rw [found] at missing
    cases missing

end Manager

end Credential
