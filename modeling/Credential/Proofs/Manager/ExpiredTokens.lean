import Credential.Proofs.Manager.TokenLifecycle

/-!
# Tokens outside their time

A token whose last second is over, or whose first is still to come, is refused
whatever else it says.  It is refused as expired, unless its last second is before
1970: the numbers that count seconds have no sign, and a last second that is not
one of them counts as missing.
-/

namespace Credential.Manager

open Credential.Time (Instant)

variable {privateText publicText : String}

/-- A signed token is refused at every second at which its claims are not valid. -/
theorem refused_of_sign
    {kid token : String}
    {claims : Token.Claims}
    {now : Instant}
    (matching : Token.Matches privateText publicText)
    (signed : Token.sign kid claims privateText = .ok token)
    (invalid : ¬ claims.IsValidAt now.unixSeconds) :
    Token.verify token kid publicText now = .error claims.refusal ∧
      ∀ manager : Manager, manager.Reachable →
        ∀ key, manager.store.storedKey? kid = some (.ok key) →
          key.pubKey = publicText → key.active ≠ some false →
            manager.validateToken token now = .error claims.refusal := by
  have refused : Token.verify token kid publicText now = .error claims.refusal := by
    rw [Token.verify_of_sign signed matching]
    exact Token.checkClaims_of_not_isValidAt invalid kid
  refine ⟨refused, fun manager reachable key stored same active => ?_⟩
  rw [validateToken_of_sign reachable.isSound stored active signed, same]
  exact refused

/-! ## A sample -/

/-- A key pair of proven primes, as it is given to be saved. -/
def provenPair : KeyPair :=
  ⟨none, Rsa.PrivateKey.provenKey.publicKey.render, Rsa.PrivateKey.provenKey.render, "u1",
    none, none, none⟩

/-- A manager with an account that has the key pair of proven primes. -/
def keeper : Manager :=
  let drawing (uid : String) : Occasion := ⟨.start, uid, [], .mk fun _ => none⟩
  let ada := { Account.blank with email := .value "ada@example.org", name := .value "Ada" }
  let first : Manager := ⟨⟨.empty⟩, "memory", ⟨none, 0⟩, .memory .initial⟩
  first.run [(drawing "", .init), (drawing "u1", .saveAccount ada),
    (drawing "", .saveKey provenPair)]

theorem keeper_keeps :
    keeper.Reachable ∧
      keeper.store.storedKey? "u1" = some (.ok (provenPair.prepareInsert .start)) ∧
      (provenPair.prepareInsert .start).active ≠ some false := by
  let drawing (uid : String) : Occasion := ⟨.start, uid, [], .mk fun _ => none⟩
  let ada := { Account.blank with email := .value "ada@example.org", name := .value "Ada" }
  let first : Manager := ⟨⟨.empty⟩, "memory", ⟨none, 0⟩, .memory .initial⟩
  let before := first.run [(drawing "", .init), (drawing "u1", .saveAccount ada)]
  have reachedBefore : before.Reachable := by
    refine .perform (.perform (.start ?_) (drawing "") .init) (drawing "u1") (.saveAccount ada)
    rintro tables ⟨⟩
  have owned : before.store.storedAccount? "u1" ≠ none := by decide +kernel
  have absent : before.store.storedKey? "u1" = none := by decide +kernel
  have complete : Store.Ledger.requireKey provenPair = .ok () := by
    rw [Store.Ledger.requireKey_eq_ok_iff]
    exact ⟨by decide, render_ne_empty _, render_ne_empty _⟩
  have active : (provenPair.prepareInsert .start).active = some true := rfl
  refine ⟨reachedBefore.perform (drawing "") (.saveKey provenPair), ?_, ?_⟩
  · exact Store.storedKey?_of_added reachedBefore.isSound (drawing "") rfl complete owned absent
  · rw [active]
    decide

/-! ## Refusals -/

/--
A token is refused outside its time.

With a key pair any claims can be signed under any key id.  At every second that
is after their last or before their first, verification refuses them as expired,
or as unauthorized if their last second is before 1970.  So does every manager
under whose key id the public key is stored and has not been deactivated.
-/
theorem validateToken_outside_time
    (pair : Token.IsPair privateText publicText)
    (kid : String)
    (claims : Token.Claims) :
    ∃ token, Token.sign kid claims privateText = .ok token ∧
      ∀ now : Instant,
        (claims.exp.toInt < now.unixSeconds ∨
          ∃ nbf ∈ claims.nbf, (now.unixSeconds : Int) < nbf.toInt) →
        Token.verify token kid publicText now = .error claims.refusal ∧
          ∀ manager : Manager, manager.Reachable →
            ∀ key, manager.store.storedKey? kid = some (.ok key) →
              key.pubKey = publicText → key.active ≠ some false →
                manager.validateToken token now = .error claims.refusal := by
  obtain ⟨token, signed⟩ := pair.exists_sign_eq_ok kid claims
  refine ⟨token, signed, fun now outside => ?_⟩
  exact refused_of_sign pair.verifies signed (Token.Claims.not_isValidAt_iff.mpr outside)

/-- A token that is never over is too early up to its last second. -/
theorem validateToken_outside_time_early :
    let claims : Token.Claims := ⟨"u1", 0, Int64.maxValue, some Int64.maxValue⟩
    ∃ token, Token.sign "u1" claims provenPair.privKey = .ok token ∧
      Token.verify token "u1" provenPair.pubKey .start = .error .expired ∧
      keeper.validateToken token .start = .error .expired := by
  intro claims
  obtain ⟨token, signed, refused⟩ := validateToken_outside_time Token.isPair_provenKey "u1" claims
  have early : ((0 : Nat) : Int) < Int64.maxValue.toInt := by decide
  obtain ⟨verified, validated⟩ := refused .start (.inr ⟨_, rfl, early⟩)
  obtain ⟨reachable, stored, active⟩ := keeper_keeps
  exact ⟨token, signed, verified, validated keeper reachable _ stored rfl active⟩

/-- A token that ended a second before 1970 is not refused as expired. -/
theorem validateToken_before_1970 :
    let claims : Token.Claims := ⟨"u1", 1700000000, -1, none⟩
    ∃ token, Token.sign "u1" claims provenPair.privKey = .ok token ∧
      ∀ now : Instant,
        claims.exp.toInt < now.unixSeconds ∧
          Token.verify token "u1" provenPair.pubKey now = .error .unauthorized ∧
          keeper.validateToken token now = .error .unauthorized := by
  intro claims
  obtain ⟨token, signed⟩ := Token.isPair_provenKey.exists_sign_eq_ok "u1" claims
  refine ⟨token, signed, fun now => ?_⟩
  have ended : claims.exp.toInt < now.unixSeconds := by
    have last : claims.exp.toInt = -1 := by decide
    omega
  obtain ⟨verified, validated⟩ := refused_of_sign Token.isPair_provenKey.verifies signed
    (Token.Claims.not_isValidAt_iff.mpr (.inl ended))
  obtain ⟨reachable, stored, active⟩ := keeper_keeps
  exact ⟨ended, verified, validated keeper reachable _ stored rfl active⟩

end Credential.Manager
