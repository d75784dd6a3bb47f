import Credential.Proofs.Time.Calendar
import Credential.Proofs.Token.Signed

/-!
# Tokens that have been issued

A token is issued under a private key.  A public key that verifies what the
private key signs finds the token good up to its last second, and expired from
then on.
-/

namespace Credential

open Credential.Text
open Credential.Time (Instant)

/-! ## The times of a token -/

namespace Time.Instant

/-- The seconds of an instant fit 64 bits, with room for the lifetime of a token. -/
theorem seconds_bounds (instant : Instant) :
    -2 ^ 62 ≤ instant.seconds ∧ instant.seconds < 2 ^ 62 := by
  have inRange := instant.inRange
  have valid := Date.valid_ofDays (instant.seconds / daySeconds)
  have days := Date.toDays_ofDays (instant.seconds / daySeconds)
  have least := Date.daysBeforeYear_le_toDays valid
  have greatest := Date.toDays_lt_daysBeforeYear_succ valid
  rw [days] at least greatest
  rw [yearInRange, dateOf, Bool.and_eq_true, decide_eq_true_eq, decide_eq_true_eq] at inRange
  generalize (Date.ofDays (instant.seconds / daySeconds)).year = year at inRange least greatest
  simp only [daysBeforeYear, epochDays, daySeconds] at least greatest
  omega

end Time.Instant

namespace Token

variable {uid privateText publicText token : String} {issued : Instant}

/-- A token is issued at its second, and lasts as long as tokens do. -/
theorem Claims.times_issue (uid : String) (issued : Instant) :
    (Claims.issue uid issued).iat.toInt = issued.seconds ∧
      (Claims.issue uid issued).exp.toInt = issued.seconds + lifetime := by
  obtain ⟨least, greatest⟩ := issued.seconds_bounds
  constructor
  · apply Int64.toInt_ofInt_of_le <;> omega
  · apply Int64.toInt_ofInt_of_le <;> simp only [lifetime] <;> omega

/-! ## The parts of an issued token -/

/-- A token is issued by signing the claims of an account, which must have a uid. -/
theorem generate_eq_sign (generated : generate uid privateText issued = .ok token) :
    uid ≠ "" ∧ sign uid (Claims.issue uid issued) privateText = .ok token := by
  unfold generate at generated
  split at generated
  case isTrue => cases generated
  case isFalse notEmpty => exact ⟨notEmpty, generated⟩

/-- A token is issued by signing its first two parts. -/
theorem generate_eq_ok (generated : generate uid privateText issued = .ok token) :
    uid ≠ "" ∧ ∃ key signature, signingKey privateText = .ok key ∧
      key.sign? .sha512 (Utf8.encode (String.ofList
        (Parts.issue uid (Claims.issue uid issued) signature).message)) = some signature ∧
      token = (Parts.issue uid (Claims.issue uid issued) signature).render := by
  obtain ⟨notEmpty, signed⟩ := generate_eq_sign generated
  exact ⟨notEmpty, sign_eq_ok signed⟩

/-- A token is issued wherever its first two parts can be signed. -/
theorem generate_of_sign?
    {key : Rsa.PrivateKey}
    {signature : Octets}
    (notEmpty : uid ≠ "")
    (read : signingKey privateText = .ok key)
    (signed : key.sign? .sha512 (Utf8.encode (String.ofList
      (Parts.issue uid (Claims.issue uid issued) []).message)) = some signature) :
    generate uid privateText issued =
      .ok (Parts.issue uid (Claims.issue uid issued) signature).render := by
  rw [generate, if_neg notEmpty]
  exact sign_of_sign? read signed

theorem ne_empty_of_generate (generated : generate uid privateText issued = .ok token) :
    token ≠ "" := by
  obtain ⟨-, key, signature, -, -, rfl⟩ := generate_eq_ok generated
  intro empty
  have characters := Parts.toList_render (Parts.issue uid (Claims.issue uid issued) signature)
  rw [empty] at characters
  simp at characters

/-- An issued token names the account that it was issued for. -/
theorem signingKid_of_generate (generated : generate uid privateText issued = .ok token) :
    signingKid token = .ok uid := by
  obtain ⟨notEmpty, signed⟩ := generate_eq_sign generated
  exact signingKid_of_sign notEmpty signed

/-! ## Checking an issued token -/

/-- A token that has been issued is good under a matching key up to its last second. -/
theorem verify_of_generate
    (generated : generate uid privateText issued = .ok token)
    (matching : Matches privateText publicText)
    (counted : 0 ≤ issued.seconds + lifetime)
    (now : Instant) :
    verify token uid publicText now =
      if issued.seconds + lifetime < now.seconds then .error .expired
      else .ok (Claims.issue uid issued) := by
  have exp := (Claims.times_issue uid issued).2
  -- A clock that has not started reads zero, which is no later than the end.
  have late_iff : issued.seconds + lifetime < now.seconds ↔
      ¬ (Claims.issue uid issued).IsValidAt now.unixSeconds := by
    rw [Claims.not_isValidAt_iff, exp, Instant.unixSeconds]
    simp only [Claims.issue, Option.mem_def, reduceCtorEq, false_and, exists_false, or_false]
    omega
  rw [verify_of_sign (generate_eq_sign generated).2 matching]
  by_cases late : issued.seconds + lifetime < now.seconds
  · have refusal : (Claims.issue uid issued).refusal = .expired := by
      rw [Claims.refusal, exp, if_neg (not_lt.mpr counted)]
    rw [if_pos late, checkClaims_of_not_isValidAt (late_iff.mp late), refusal]
  · rw [if_neg late, checkClaims_of_isValidAt (not_not.mp (mt late_iff.mpr late))]
    exact if_pos rfl

end Token

end Credential
