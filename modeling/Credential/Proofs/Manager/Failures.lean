import Credential.Proofs.Manager.Authentication
import Credential.Proofs.Manager.Patches
import Credential.Proofs.Manager.TokenLifecycle
import Credential.Proofs.Token.KeyIds

/-!
# Failures that never come about

Some operations guard against states that no calls lead to: a record without the
key that it is put under, an account without a uid, a key pair of the empty uid.
What these operations can fail with is said here for every manager of a sound store,
and what they only guard against is not among it.
-/

namespace Credential.Manager

open Credential.Time (Instant)

variable {manager : Manager} {occasion : Occasion} {uid : String} {error : Error}

/-! ## Causes of failures -/

/-- A new account is refused for what it says, or by the store. -/
theorem cause_of_createAccount
    {email name password : String}
    (sound : manager.store.IsSound)
    (fails : (manager.createAccount occasion email name password).1 = .error error) :
    error ∈ [.invalidPassword, .invalidName, .invalidEmail] ∨
      ∃ account, (manager.store.saveAccount occasion account).1 = .error error := by
  unfold createAccount at fails
  cases made : Account.create occasion.salt email name password with
  | error failure =>
      rw [made] at fails
      cases fails
      unfold Account.create Account.setPassword at made
      split at made <;> cases made
      exact .inl (by decide)
  | ok account =>
      rw [made] at fails
      dsimp only at fails
      rcases manager.saveAccount_cases sound occasion account with
        ⟨failure, refused, -⟩ | ⟨uid, record, after, ledger, saves, saved⟩
      · rw [refused] at fails
        cases fails
        unfold saveAccount checkAccount at refused
        rw [uid_of_create made] at refused
        dsimp only at refused
        cases checks : account.validate with
        | error fault =>
            rw [checks] at refused
            cases refused
            rcases AccountPatch.fault_of_validate checks with rfl | rfl
            · exact .inl (by decide)
            · exact .inl (by decide)
        | ok _ =>
            rw [checks] at refused
            exact .inr ⟨account, congrArg Prod.fst refused⟩
      · rw [saved, andThen, saves.uid_eq] at fails
        cases fails

/-- The account of an email is missing, or it has a uid. -/
theorem accountByEmail_cases_uid
    (sound : manager.store.IsSound)
    (email : String) :
    (∃ error ∈ [.notConnected, .emailNotFound], manager.accountByEmail email = .error error) ∨
      ∃ uid account, account.uid = some uid ∧ manager.accountByEmail email = .ok account := by
  cases isOpen : manager.store.isOpen with
  | false =>
      refine .inl ⟨.notConnected, by decide, ?_⟩
      rw [accountByEmail, Store.accountByEmail, Store.read_of_closed isOpen]
  | true =>
      rcases accountByEmail_cases sound isOpen email with
        ⟨missing, -⟩ | ⟨uid, account, stored, -, found⟩
      · exact .inl ⟨.emailNotFound, by decide, missing⟩
      · exact .inr ⟨uid, account, sound.uid_of_storedAccount? stored, found⟩

/-- A key pair is missing for its email or for its account. -/
theorem mem_of_keyByEmail_eq_error
    {email : String}
    (sound : manager.store.IsSound)
    (fails : manager.keyByEmail email = .error error) :
    error ∈ [.notConnected, .emailNotFound, .keyNotFound] := by
  unfold keyByEmail at fails
  rcases accountByEmail_cases_uid sound email with
    ⟨failure, cause, missing⟩ | ⟨uid, account, named, found⟩
  · rw [missing] at fails
    cases fails
    exact List.mem_append_left [.keyNotFound] cause
  · rw [found] at fails
    dsimp only at fails
    rw [named] at fails
    have cause := sound.mem_of_keyByAccount_eq_error fails
    simp only [List.mem_cons, List.not_mem_nil, or_false] at cause ⊢
    exact cause.imp_right .inr

/-- A token is missing for its email or for its account. -/
theorem mem_of_tokenByEmail_eq_error
    {email : String}
    (sound : manager.store.IsSound)
    (fails : manager.tokenByEmail email = .error error) :
    error ∈ [.notConnected, .emailNotFound, .tokenNotFound] := by
  unfold tokenByEmail at fails
  rcases accountByEmail_cases_uid sound email with
    ⟨failure, cause, missing⟩ | ⟨uid, account, named, found⟩
  · rw [missing] at fails
    cases fails
    exact List.mem_append_left [.tokenNotFound] cause
  · rw [found] at fails
    dsimp only at fails
    rw [named] at fails
    have cause := sound.mem_of_loadToken_eq_error fails
    simp only [List.mem_cons, List.not_mem_nil, or_false] at cause ⊢
    exact cause.imp_right .inr

/-- An active key pair is missing or has been deactivated. -/
theorem mem_of_activeKey_eq_error
    (sound : manager.store.IsSound)
    (fails : manager.activeKey uid = .error error) :
    error ∈ [.notConnected, .keyNotFound, .unauthorized] := by
  unfold activeKey at fails
  cases found : manager.keyByAccount uid with
  | error failure =>
      rw [found] at fails
      cases fails
      exact List.mem_append_left [.unauthorized] (sound.mem_of_keyByAccount_eq_error found)
  | ok key =>
      rw [found] at fails
      dsimp only at fails
      split at fails
      case isTrue =>
        cases fails
        decide
      case isFalse => cases fails

/-- No account without a uid has a key pair, so a token is issued by signing its claims. -/
theorem generate_of_activeKey
    {key : KeyPair}
    (sound : manager.store.IsSound)
    (active : manager.activeKey uid = .ok key)
    (now : Instant) :
    Token.generate uid key.privKey now = Token.sign uid (.issue uid now) key.privKey := by
  have stored := ((activeKey_eq_ok_iff sound).mp active).1
  exact if_neg (Store.kid_ne_empty_of_storedKey? sound stored)

/-- A token is refused for want of an active key pair, or of one that can sign. -/
theorem cause_of_createToken
    (sound : manager.store.IsSound)
    (fails : (manager.createToken occasion uid).1 = .error error) :
    error ∈ [.notConnected, .keyNotFound, .unauthorized] ∨
      ∃ reason, error = .signingFailed reason := by
  cases active : manager.activeKey uid with
  | error failure =>
      rw [createToken, active] at fails
      cases fails
      exact .inl (mem_of_activeKey_eq_error sound active)
  | ok key =>
      cases generated : Token.generate uid key.privKey occasion.now with
      | error failure =>
          rw [createToken, active] at fails
          dsimp only at fails
          rw [generated] at fails
          cases fails
          rw [generate_of_activeKey sound active] at generated
          obtain ⟨reason, refused⟩ := Token.exists_signingFailed key.privKey
          exact .inr ⟨reason, refused _ _ _ generated⟩
      | ok token =>
          -- Neither the uid nor the token is empty, so the token can be recorded.
          obtain ⟨stored, notInactive⟩ := (activeKey_eq_ok_iff sound).mp active
          obtain ⟨issued, created⟩ := exists_createToken_eq_ok sound stored notInactive generated
          rw [created] at fails
          cases fails

/-! ## What is only guarded against -/

/-- Whether no operation comes upon a state that it only guards against. -/
structure FailsForCause (manager : Manager) : Prop where
  /-- A record of an account is put under its own uid. -/
  saveAccount : ∀ occasion account,
    (manager.store.saveAccount occasion account).1 ≠ .error (.nilArgument "uid")
  /-- A record of a key pair is put under its own key id. -/
  saveKey : ∀ occasion key, (manager.store.saveKey occasion key).1 ≠ .error (.nilArgument "kid")
  createAccount : ∀ occasion email name password,
    (manager.createAccount occasion email name password).1 ≠
      .error (.internal "store assigned no uid")
  keyByEmail : ∀ email, manager.keyByEmail email ≠ .error .accountNotFound
  tokenByEmail : ∀ email, manager.tokenByEmail email ≠ .error .accountNotFound
  generate : ∀ uid key now argument, manager.activeKey uid = .ok key →
    Token.generate uid key.privKey now ≠ .error (.nilArgument argument)
  createToken : ∀ occasion uid argument,
    (manager.createToken occasion uid).1 ≠ .error (.nilArgument argument)

/--
Wherever calls of a manager and of its store lead, what is only guarded against
does not come about.

Every stored account has its uid, every stored key pair its key id, and none of
them belongs to the empty uid.
-/
theorem failsForCause_of_reachable (reachable : manager.Reachable) : manager.FailsForCause where
  saveAccount := by
    intro occasion account fails
    have cause := reachable.isSound.mem_of_saveAccount_eq_error fails
    simp at cause
  saveKey := by
    intro occasion key fails
    have cause := reachable.isSound.mem_of_saveKey_eq_error fails
    simp at cause
  createAccount := by
    intro occasion email name password fails
    rcases cause_of_createAccount reachable.isSound fails with invalid | ⟨account, refused⟩
    · simp at invalid
    · have cause := reachable.isSound.mem_of_saveAccount_eq_error refused
      simp at cause
  keyByEmail := by
    intro email fails
    have cause := mem_of_keyByEmail_eq_error reachable.isSound fails
    simp at cause
  tokenByEmail := by
    intro email fails
    have cause := mem_of_tokenByEmail_eq_error reachable.isSound fails
    simp at cause
  generate := by
    intro uid key now argument active fails
    rw [generate_of_activeKey reachable.isSound active] at fails
    obtain ⟨reason, refused⟩ := Token.exists_signingFailed key.privKey
    have cause := refused _ _ _ fails
    cases cause
  createToken := by
    intro occasion uid argument fails
    rcases cause_of_createToken reachable.isSound fails with missing | ⟨reason, failed⟩
    · simp at missing
    · cases failed

/-- An account of the empty uid is found, but has no key pair; where there is one, it is used. -/
theorem failsForCause_of_reachable_unnamed :
    let drawing (uid : String) : Occasion := ⟨.start, uid, [], .mk fun _ => none⟩
    let ada := { Account.blank with email := .value "ada@example.org", name := .value "Ada" }
    let bob := { Account.blank with email := .value "bob@example.org", name := .value "Bob" }
    let first : Manager := ⟨⟨.empty⟩, "memory", ⟨none, 0⟩, .memory .initial⟩
    let saved := first.run [(drawing "", .init), (drawing "", .saveAccount ada),
      (drawing "bob", .saveAccount bob),
      (drawing "", .saveKey ⟨none, "public", "private", "bob", none, none, none⟩)]
    let unnamed : Store.Call := .saveKey ⟨none, "public", "private", "", none, none, none⟩
    let manager := { saved with store := (saved.store.perform (drawing "") unnamed).2 }
    manager.Reachable ∧ manager.FailsForCause ∧
      (manager.accountByEmail "ada@example.org").toOption.bind Account.uid = some "" ∧
      manager.keyByEmail "ada@example.org" = .error .keyNotFound ∧
      (manager.createToken (drawing "") "").1 = .error .keyNotFound ∧
      (manager.activeKey "bob").toOption.map KeyPair.privKey = some "private" ∧
      (manager.createToken (drawing "") "bob").1 = .error (.signingFailed "InvalidKeyFormat") := by
  intro drawing ada bob first saved unnamed manager
  have reachable : manager.Reachable := by
    refine .direct (.perform (.perform (.perform (.perform (.start ?_) _ _) _ _) _ _) _ _) _ _
    rintro tables ⟨⟩
  refine ⟨reachable, failsForCause_of_reachable reachable, ?_, ?_, ?_, ?_, ?_⟩
  · decide +kernel
  · decide +kernel
  · decide +kernel
  · decide +kernel
  · decide +kernel

end Credential.Manager
