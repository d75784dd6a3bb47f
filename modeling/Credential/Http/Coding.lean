import Credential.Http.Header
import Credential.Text.Blank
import Credential.Text.Decimal

/-!
# Codings of bodies

Whether a client wants the body of an answer compressed.
-/

namespace Credential.Http

open Credential.Text (trim)

/-- The codings that a body can be sent in; the later one is preferred. -/
inductive Coding where
  | identity
  | gzip
  deriving Repr, DecidableEq

namespace Coding

/-- The rank of a coding among those that a client likes equally. -/
def rank : Coding → Nat
  | .identity => 0
  | .gzip => 1

/-- The coding of a name. -/
def ofName? (name : String) : Option Coding :=
  match lowered name with
  | "gzip" => some .gzip
  | "x-gzip" => some .gzip
  | "identity" => some .identity
  | _ => none

/-- The digits after the point of a weight, as thousandths. -/
def thousandths? (digits : List Char) : Option Nat :=
  if digits.length ≤ 3 ∧ digits.all Text.Decimal.isDigit then
    some (Text.Decimal.valueOf digits * Nat.pow 10 (3 - digits.length))
  else
    none

/-- The weight that a text spells, in thousandths. -/
def weight? (text : String) : Option Nat :=
  match text.toList with
  | letter :: '=' :: whole :: rest =>
      if (letter = 'q' ∨ letter = 'Q') ∧ (whole = '0' ∨ whole = '1') then
        let units := if whole = '1' then 1000 else 0
        match rest with
        | [] => some units
        | '.' :: digits => ((thousandths? digits).map (units + ·)).filter (· ≤ 1000)
        | _ => none
      else
        none
  | _ => none

/-- A coding that a client names, and its weight. -/
def ofPiece? (piece : List Char) : Option (Coding × Nat) := do
  let coding ← ofName? (trim (String.ofList (piece.takeWhile (· ≠ ';'))))
  match piece.dropWhile (· ≠ ';') with
  | [] => some (coding, 1000)
  | _ :: rest => (weight? (trim (String.ofList rest))).map fun weight => (coding, weight)

/-- Whether a client's first choice is better than the second. -/
def isBetter (first second : Coding × Nat) : Bool :=
  first.2 > second.2 || (first.2 = second.2 && first.1.rank ≥ second.1.rank)

/-- The coding that a client wants; one without weight is not acceptable. -/
def preferred (headers : Headers) : Coding :=
  let pieces := (headers.texts "accept-encoding").flatMap (·.toList.splitOn ',')
  let choices := (pieces.filterMap ofPiece?).filter fun choice => choice.2 > 0
  (choices.foldl
    (fun best choice => if isBetter choice best then choice else best) (.identity, 0)).1

end Coding

end Credential.Http
