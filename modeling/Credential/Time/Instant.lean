import Credential.Time.Calendar

/-!
# Instants

Points of time with a resolution of nanoseconds, within the years that the
calendar of timestamps covers.
-/

namespace Credential.Time

/-- Number of seconds of a day. -/
def daySeconds : Int := 86400

/-- The years that instants may lie in. -/
def yearInRange (year : Int) : Bool :=
  -262143 ≤ year && year ≤ 262142

/-- The date of some seconds since the start of 1970. -/
def dateOf (seconds : Int) : Date :=
  Date.ofDays (seconds / daySeconds)

/--
A point of time: seconds since the start of 1970 and nanoseconds.

A leap second is the last second of its minute with a full second added to its
nanoseconds.
-/
structure Instant where
  seconds : Int
  nanos : Nat
  bounded : nanos < 1000000000 ∨ (nanos < 2000000000 ∧ seconds % 60 = 59)
  inRange : yearInRange (dateOf seconds).year = true
  deriving Repr, DecidableEq

namespace Instant

/-- The start of 1970. -/
def start : Instant :=
  ⟨0, 0, Or.inl (by decide), by decide⟩

instance : Inhabited Instant :=
  ⟨start⟩

/-- The instant of seconds and nanoseconds, if there is one. -/
def ofParts? (seconds : Int) (nanos : Nat) : Option Instant :=
  if valid :
      (nanos < 1000000000 ∨ (nanos < 2000000000 ∧ seconds % 60 = 59)) ∧
        yearInRange (dateOf seconds).year = true then
    some ⟨seconds, nanos, valid.1, valid.2⟩
  else
    none

/-- The instant of some nanoseconds since the start of 1970; the start itself if there is none. -/
def ofNanos (nanos : Int) : Instant :=
  (ofParts? (nanos / 1000000000) (nanos % 1000000000).toNat).getD start

/-- The date of an instant in universal time. -/
def date (instant : Instant) : Date :=
  dateOf instant.seconds

/-- Whole seconds since the start of 1970; a clock that counts them starts there. -/
def unixSeconds (instant : Instant) : Nat :=
  instant.seconds.toNat

/-- Whether one instant is not after another. -/
def notAfter (first second : Instant) : Bool :=
  decide (first.seconds < second.seconds) ||
    (decide (first.seconds = second.seconds) && decide (first.nanos ≤ second.nanos))

instance : LE Instant :=
  ⟨fun first second => first.notAfter second = true⟩

instance (first second : Instant) : Decidable (first ≤ second) :=
  inferInstanceAs (Decidable (first.notAfter second = true))

end Instant

end Credential.Time
