import Credential.Proofs.Store.Outcomes
import Credential.Token.Verification

/-!
# Refused tokens

Whatever is wrong with a token, the error that says so is one that callers outside
are only told as a refusal.
-/

namespace Credential

/-- Whether an operation that fails does so with an error that is told as a refusal only. -/
def Forbids {α : Type} (outcome : Except Error α) : Prop :=
  ∀ error, outcome = .error error → error.isSecurity = true

namespace Forbids

variable {α : Type} {outcome : Except Error α}

theorem ok (result : α) : Forbids (.ok result : Except Error α) := by
  rintro error ⟨⟩

theorem error {error : Error} (isSecurity : error.isSecurity = true) :
    Forbids (.error error : Except Error α) := by
  rintro _ ⟨⟩
  exact isSecurity

/-- A refusal is told. -/
theorem tells (forbids : Forbids outcome) : Tells outcome := by
  intro error fails
  rw [Error.IsTold, Error.report, if_pos (forbids error fails)]
  decide

end Forbids

namespace Token

theorem forbids_signingKid (token : String) : Forbids (signingKid token) := by
  unfold signingKid
  split
  case h_1 => exact .error rfl
  case h_2 =>
    split
    case isTrue => exact .error rfl
    case isFalse =>
      split
      case h_1 =>
        split
        case isTrue => exact .error rfl
        case isFalse => exact .ok _
      case h_2 => exact .error rfl

theorem forbids_check (examination : Examination) (now : Int) :
    Forbids (examination.check now) := by
  unfold Examination.check
  split
  case h_1 => exact .error rfl
  case h_2 =>
    split_ifs
    · exact .error rfl
    · exact .error rfl
    · exact .error rfl
    · exact .error rfl
    · exact .ok ()

theorem forbids_checkClaims (kid : String) (claimsPart : List Char) (now : Int) :
    Forbids (checkClaims kid claimsPart now) := by
  unfold checkClaims
  split
  case h_1 => exact .error rfl
  case h_2 =>
    dsimp only
    split
    case h_1 claims examination _ _ =>
      split
      case h_1 error fails => exact .error (forbids_check examination now error fails)
      case h_2 =>
        split
        case isTrue => exact .ok _
        case isFalse => exact .error rfl
    case h_2 => exact .error rfl

/-- A token that is not good is refused, whatever the text of the key. -/
theorem forbids_verify (token kid publicText : String) (now : Time.Instant) :
    Forbids (verify token kid publicText now) := by
  unfold verify
  split
  case h_1 => exact .error rfl
  case h_2 =>
    split
    case h_1 => exact .error rfl
    case h_2 =>
      split
      case h_1 => exact .error rfl
      case h_2 =>
        split
        case isTrue => exact .error rfl
        case isFalse =>
          split
          case h_1 => exact .error rfl
          case h_2 =>
            split
            case isTrue => exact forbids_checkClaims _ _ _
            case isFalse => exact .error rfl

end Token

end Credential
