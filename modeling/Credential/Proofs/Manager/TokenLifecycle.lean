import Credential.Proofs.Manager.Reachable
import Credential.Proofs.Rsa.Signature
import Credential.Proofs.Token.Issued

/-!
# From the issue of a token to its end

A token is recorded as it is issued.  From then on nothing counts but the row of
the key pair of its account: as long as that one is active and keeps its public
key the token is good up to its last second, whatever becomes of the account, of
the record of the token, or of other accounts.
-/

namespace Credential.Manager

open Credential.Time (Instant)

variable {manager : Manager} {uid token : String} {key : KeyPair}

/-! ## The key pair that counts -/

/-- The active key pair of an account is the one that is stored, unless it has been deactivated. -/
theorem activeKey_eq_ok_iff (sound : manager.store.IsSound) :
    manager.activeKey uid = .ok key ↔
      manager.store.storedKey? uid = some (.ok key) ∧ key.active ≠ some false := by
  rw [activeKey, keyByAccount, Store.keyByAccount_of_isSound sound]
  constructor
  · intro active
    cases isOpen : manager.store.isOpen with
    | false =>
        rw [isOpen] at active
        cases active
    | true =>
        rw [isOpen, if_pos rfl] at active
        rcases stored : manager.store.storedKey? uid with _ | error | held <;> rw [stored] at active
        · cases active
        · cases active
        · dsimp only [Option.getD_some] at active
          split at active
          case isTrue => cases active
          case isFalse notInactive =>
            cases active
            exact ⟨rfl, notInactive⟩
  · rintro ⟨stored, active⟩
    rw [Store.isOpen_of_storedKey? stored, if_pos rfl, stored]
    exact if_neg active

theorem activeKey_of_deactivated
    (sound : manager.store.IsSound)
    (stored : manager.store.storedKey? uid = some (.ok key))
    (inactive : key.active = some false) :
    manager.activeKey uid = .error .unauthorized := by
  rw [activeKey, keyByAccount, Store.keyByAccount_of_isSound sound,
    Store.isOpen_of_storedKey? stored, if_pos rfl, stored]
  exact if_pos inactive

theorem activeKey_of_deleted
    (sound : manager.store.IsSound)
    (isOpen : manager.store.isOpen = true)
    (absent : manager.store.storedKey? uid = none) :
    manager.activeKey uid = .error .keyNotFound := by
  rw [activeKey, keyByAccount, Store.keyByAccount_of_isSound sound, isOpen, absent]
  rfl

theorem activeKey_of_closed
    (sound : manager.store.IsSound)
    (closed : manager.store.isOpen = false) :
    manager.activeKey uid = .error .notConnected := by
  rw [activeKey, keyByAccount, Store.keyByAccount_of_isSound sound, closed]
  rfl

/-- A signed token is verified with the key pair that is active under its key id. -/
theorem validateToken_of_sign
    {kid privateText : String}
    {claims : Token.Claims}
    (sound : manager.store.IsSound)
    (stored : manager.store.storedKey? kid = some (.ok key))
    (active : key.active ≠ some false)
    (signed : Token.sign kid claims privateText = .ok token)
    (now : Instant) :
    manager.validateToken token now = Token.verify token kid key.pubKey now := by
  have notEmpty : kid ≠ "" := Store.kid_ne_empty_of_storedKey? sound stored
  rw [validateToken, Token.signingKid_of_sign notEmpty signed]
  dsimp only
  rw [(activeKey_eq_ok_iff sound).mpr ⟨stored, active⟩]

/-! ## What becomes of a token -/

/--
What a manager makes of a token that was issued for an account under a key pair.

Only the key pair counts that is stored for the account now.
-/
structure Judges
    (manager : Manager)
    (uid token : String)
    (issuing : KeyPair)
    (claims : Token.Claims) :
    Prop where
  /--
  The token lasts to its end while the key pair is active and keeps its public key.

  Its last second is counted from the start of 1970, and none before that can be read.
  -/
  valid : Token.Matches issuing.privKey issuing.pubKey → 0 ≤ claims.exp.toInt →
    ∀ key, manager.store.storedKey? uid = some (.ok key) → key.active ≠ some false →
      key.pubKey = issuing.pubKey → ∀ now : Instant,
        manager.validateToken token now =
          if claims.exp.toInt < now.seconds then .error .expired else .ok claims
  deactivated : ∀ key, manager.store.storedKey? uid = some (.ok key) → key.active = some false →
    ∀ now, manager.validateToken token now = .error .unauthorized
  deleted : manager.store.isOpen = true → manager.store.storedKey? uid = none →
    ∀ now, manager.validateToken token now = .error .keyNotFound
  closed : manager.store.isOpen = false →
    ∀ now, manager.validateToken token now = .error .notConnected

theorem judges_of_generate
    (sound : manager.store.IsSound)
    {issued : Instant}
    (generated : Token.generate uid key.privKey issued = .ok token) :
    manager.Judges uid token key (.issue uid issued) where
  valid := by
    intro matching counted held stored active same now
    have exp := (Token.Claims.times_issue uid issued).2
    rw [exp] at counted
    obtain ⟨-, signed⟩ := Token.generate_eq_sign generated
    rw [validateToken_of_sign sound stored active signed, same, exp]
    exact Token.verify_of_generate generated matching counted now
  deactivated := by
    intro held stored inactive now
    rw [validateToken, Token.signingKid_of_generate generated]
    dsimp only
    rw [activeKey_of_deactivated sound stored inactive]
  deleted := by
    intro isOpen absent now
    rw [validateToken, Token.signingKid_of_generate generated]
    dsimp only
    rw [activeKey_of_deleted sound isOpen absent]
  closed := by
    intro closed now
    rw [validateToken, Token.signingKid_of_generate generated]
    dsimp only
    rw [activeKey_of_closed sound closed]

/-! ## Issuing a token -/

theorem eq_of_createToken_error
    (sound : manager.store.IsSound)
    {occasion : Occasion}
    {error : Error}
    {after : Manager}
    (refused : manager.createToken occasion uid = (.error error, after)) :
    after = manager := by
  unfold createToken at refused
  split at refused
  case h_1 =>
    cases refused
    rfl
  case h_2 key active =>
    split at refused
    case h_1 =>
      cases refused
      rfl
    case h_2 token generated =>
      rcases saved : manager.store.saveToken occasion uid token with ⟨failure | _, store⟩
      · rw [saveToken, changed, saved] at refused
        obtain rfl := Store.eq_of_saveToken_error sound saved
        cases refused
        rfl
      · rw [saveToken, changed, saved] at refused
        cases refused

/-- A token is issued wherever one can be signed. -/
theorem exists_createToken_eq_ok
    (sound : manager.store.IsSound)
    {occasion : Occasion}
    (stored : manager.store.storedKey? uid = some (.ok key))
    (active : key.active ≠ some false)
    (generated : Token.generate uid key.privKey occasion.now = .ok token) :
    ∃ issued, manager.createToken occasion uid = (.ok token, issued) := by
  have uidNotEmpty := (Token.generate_eq_ok generated).1
  have tokenNotEmpty := Token.ne_empty_of_generate generated
  have complete : Store.Ledger.requireToken uid token = .ok () := by
    rw [Store.Ledger.requireToken, Store.Ledger.require_eq_ok_iff.mpr uidNotEmpty]
    exact Store.Ledger.require_eq_ok_iff.mpr tokenNotEmpty
  obtain ⟨after, saved⟩ := Store.exists_saveToken_eq_ok sound
    (Store.isOpen_of_storedKey? stored) occasion complete
  refine ⟨{ manager with store := after }, ?_⟩
  rw [createToken, (activeKey_eq_ok_iff sound).mpr ⟨stored, active⟩]
  dsimp only
  rw [generated]
  dsimp only
  rw [saveToken, changed, saved]
  rfl

/-- A token that is issued is recorded; it is signed with the key pair that is stored. -/
theorem createToken_eq_ok
    (sound : manager.store.IsSound)
    {occasion : Occasion}
    {issued : Manager}
    (created : manager.createToken occasion uid = (.ok token, issued)) :
    issued.loadToken uid = .ok token ∧
      ∃ key, manager.store.storedKey? uid = some (.ok key) ∧
        issued.store.storedKey? uid = some (.ok key) ∧
        Token.generate uid key.privKey occasion.now = .ok token := by
  unfold createToken at created
  split at created
  case h_1 => cases created
  case h_2 key active =>
    split at created
    case h_1 => cases created
    case h_2 signed generated =>
      rcases saved : manager.store.saveToken occasion uid signed with ⟨failure | _, store⟩
      · rw [saveToken, changed, saved] at created
        cases created
      · rw [saveToken, changed, saved] at created
        cases created
        have stored := ((activeKey_eq_ok_iff sound).mp active).1
        have spares : (Store.Call.saveToken uid token).Spares uid := trivial
        have stays := Store.storedKey?_of_spares sound occasion spares stored
        rw [Store.perform_saveToken saved] at stays
        exact ⟨Store.loadToken_of_saveToken sound saved, key, stored, stays, generated⟩

/-! ## The life of a token -/

/--
A token is recorded as it is issued, and lasts for a day while the key pair of its
account does.  After any further calls it is judged by that key pair alone, which
stays as it is in all calls that are not about it.  Where no token can be issued
nothing changes.
-/
theorem createToken_lifecycle
    (reachable : manager.Reachable)
    (occasion : Occasion)
    (uid : String) :
    (∀ error after, manager.createToken occasion uid = (.error error, after) → after = manager) ∧
    ∀ token issued, manager.createToken occasion uid = (.ok token, issued) →
      issued.loadToken uid = .ok token ∧
      ∃ key claims, manager.store.storedKey? uid = some (.ok key) ∧
        claims.sub = uid ∧ claims.iat.toInt = occasion.now.seconds ∧
        claims.exp.toInt = occasion.now.seconds + 86400 ∧ claims.nbf = none ∧
        ∀ later : List (Occasion × Call),
          (issued.run later).Judges uid token key claims ∧
          ((∀ call ∈ later, call.2.Spares uid) →
            (issued.run later).store.storedKey? uid = some (.ok key)) := by
  refine ⟨fun error after => eq_of_createToken_error reachable.isSound, ?_⟩
  intro token issued created
  obtain ⟨recorded, key, stored, stays, generated⟩ := createToken_eq_ok reachable.isSound created
  have sound : issued.store.IsSound := by
    have same : (manager.perform occasion (.createToken uid)).2 = issued :=
      congrArg Prod.snd created
    rw [← same]
    exact isSound_perform reachable.isSound occasion (.createToken uid)
  obtain ⟨iat, exp⟩ := Token.Claims.times_issue uid occasion.now
  refine ⟨recorded, key, .issue uid occasion.now, stored, rfl, iat, exp, rfl, fun later => ?_⟩
  exact ⟨judges_of_generate (isSound_run sound later) generated, storedKey?_run sound stays⟩

/-! ## A sample -/

/-- A private key of 2048 bits. -/
def sampleSigner : Rsa.PrivateKey :=
  .ofPrimes
    (Digest.ofBigEndian <| octetsOfWords
      [0xec2e9d076e027779, 0x5e1454fd8dce0e0f, 0xf18167044a4a67b0, 0xc11fe213c3677da2,
      0x5201d22112d046b7, 0x139c30a86fc2301d, 0xe76d2609bc83bd95, 0x7d860725b08acbdc,
      0x0e3a02291130b737, 0x1f06d06ea5f37a45, 0x913dab1c0dc4c8d5, 0xc9a15ba7ba3c8984,
      0xc030631a4ec88298, 0x6fc01646e920693d, 0xed7a71889eb8dbd4, 0x8008ab76010f5737])
    (Digest.ofBigEndian <| octetsOfWords
      [0xda58ec7ea2eec2e4, 0x91c68eb49ccd6ca9, 0xbc0a236589c05d10, 0xeaa88775dac8171b,
      0xd494ddc02589bf87, 0x2d24134b1ff5cb50, 0xbc3c35311b4659ae, 0x699b0a0dd0ea1903,
      0x4d855d2ff1b80c39, 0xbf59260d7779cfa6, 0xd5740c3d1618f50e, 0x895d2d8905bfad20,
      0x1a29e8df86965f44, 0xb298293700282c51, 0xc8bf894dcc724bfb, 0x91115e317eda978f])
    65537

/-- The text of the sample key holds the sample key. -/
theorem signingKey_sampleSigner : Token.signingKey sampleSigner.render = .ok sampleSigner := by
  apply eq_ok_of_toOption
  rw [Token.signingKey, Rsa.keyFields, Rsa.Pem.parse?, Rsa.PrivateKey.render,
    Rsa.Pem.toList_render]
  decide +kernel

/-- The public half of the sample key verifies what the sample key signs. -/
theorem matches_sampleSigner :
    Token.Matches sampleSigner.render sampleSigner.publicKey.render := by
  have held : ((Rsa.keyFields sampleSigner.publicKey.render).toOption.bind
      Rsa.PublicKey.ofFields?) = some sampleSigner.publicKey := by
    rw [Rsa.keyFields, Rsa.Pem.parse?, Rsa.PublicKey.render, Rsa.Pem.toList_render]
    decide +kernel
  have product : sampleSigner.firstPrime * sampleSigner.secondPrime = sampleSigner.modulus := by
    decide +kernel
  have usable : sampleSigner.publicKey.Usable := by decide +kernel
  obtain ⟨fields, keyed, found⟩ := Option.bind_eq_some_iff.mp held
  exact .of_usable product usable signingKey_sampleSigner (eq_ok_of_toOption keyed) found

theorem render_ne_empty (block : Rsa.Pem) : block.render ≠ "" := by
  intro empty
  have characters := Rsa.Pem.toList_render block
  rw [empty] at characters
  cases characters

/-- A token outlives its record and its account, and then it expires. -/
theorem createToken_lifecycle_orphaned :
    let drawing (uid : String) : Occasion := ⟨.start, uid, [], .mk fun _ => none⟩
    let ada := { Account.blank with email := .value "ada@example.org", name := .value "Ada" }
    let key : KeyPair :=
      ⟨none, sampleSigner.publicKey.render, sampleSigner.render, "u", none, none, none⟩
    let first : Manager := ⟨⟨.empty⟩, "memory", ⟨none, 0⟩, .memory .initial⟩
    let manager := first.run [(drawing "", .init), (drawing "u", .saveAccount ada),
      (drawing "", .saveKey key)]
    manager.Reachable ∧
      ∃ token issued claims, manager.createToken (drawing "") "u" = (.ok token, issued) ∧
        claims.sub = "u" ∧ claims.iat.toInt = 0 ∧ claims.exp.toInt = 86400 ∧
        ∀ now,
          let later := [(drawing "", Call.deleteToken "u"), (drawing "", .deleteAccount "u")]
          (issued.run later).validateToken token now =
            if 86400 < now.seconds then .error .expired else .ok claims := by
  intro drawing ada key first manager
  let before := first.run [(drawing "", .init), (drawing "u", .saveAccount ada)]
  have reachedBefore : before.Reachable := by
    refine .perform (.perform (.start ?_) (drawing "") .init) (drawing "u") (.saveAccount ada)
    rintro tables ⟨⟩
  have reachable : manager.Reachable := .perform reachedBefore (drawing "") (.saveKey key)
  have stored : manager.store.storedKey? "u" = some (.ok (key.prepareInsert .start)) := by
    have owned : before.store.storedAccount? "u" ≠ none := by decide +kernel
    have absent : before.store.storedKey? "u" = none := by decide +kernel
    have complete : Store.Ledger.requireKey key = .ok () := by
      rw [Store.Ledger.requireKey_eq_ok_iff]
      exact ⟨by decide, render_ne_empty _, render_ne_empty _⟩
    exact Store.storedKey?_of_added reachedBefore.isSound (drawing "") rfl complete owned absent
  have signed : (sampleSigner.sign? .sha512 (Text.Utf8.encode (String.ofList
      (Token.Parts.issue "u" (.issue "u" .start) []).message))).isSome = true := by
    decide +kernel
  obtain ⟨signature, signed⟩ := Option.isSome_iff_exists.mp signed
  obtain ⟨token, generated⟩ :
      ∃ token, Token.generate "u" (key.prepareInsert .start).privKey (drawing "").now = .ok token :=
    ⟨_, Token.generate_of_sign? (by decide) signingKey_sampleSigner signed⟩
  have active : (key.prepareInsert .start).active ≠ some false := by
    change some true ≠ some false
    decide
  obtain ⟨issued, created⟩ : ∃ issued, manager.createToken (drawing "") "u" = (.ok token, issued) :=
    exists_createToken_eq_ok reachable.isSound stored active generated
  obtain ⟨-, held, claims, heldStored, sub, iat, exp, -, later⟩ :=
    (createToken_lifecycle reachable (drawing "") "u").2 token issued created
  obtain rfl : key.prepareInsert .start = held :=
    Except.ok.inj (Option.some.inj (stored.symm.trans heldStored))
  obtain ⟨judges, stays⟩ :=
    later [(drawing "", .deleteToken "u"), (drawing "", .deleteAccount "u")]
  have spare : ∀ call ∈ [(drawing "", Call.deleteToken "u"), (drawing "", .deleteAccount "u")],
      call.2.Spares "u" := by
    simp [Call.Spares]
  refine ⟨reachable, token, issued, claims, created, sub, iat, exp, fun now => ?_⟩
  have counted : 0 ≤ claims.exp.toInt := by
    rw [exp]
    decide
  have outcome := judges.valid matches_sampleSigner counted _ (stays spare) active rfl now
  rw [exp] at outcome
  exact outcome

end Credential.Manager
