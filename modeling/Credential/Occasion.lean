import Credential.Rsa.Key
import Credential.Time.Instant

/-!
# Occasions

What one call takes from its surroundings: the time, and what is made at random.
Operations are functions of their occasion, so a run is determined by the
occasions of its calls.
-/

namespace Credential

open Credential.Text (Octets)
open Credential.Time (Instant)

/-- The surroundings of one call. -/
structure Occasion where
  /-- The reading of the clock. -/
  now : Instant
  /-- A uid for a new account. -/
  uid : String
  /-- A salt for a new password hash. -/
  salt : Octets
  /-- A private key for a new key pair, or none if none could be drawn. -/
  drawnKey : Thunk (Option Rsa.PrivateKey)

end Credential
