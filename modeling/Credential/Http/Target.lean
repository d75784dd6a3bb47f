import Credential.Text.Percent

/-!
# Targets

The target of a request: a path, and perhaps a query.  A target may stand behind
a scheme and an authority, which say nothing here but must be well formed, or be
an asterisk, or be an authority alone.
-/

namespace Credential.Http

open Credential.Text (Octets)

/-- The target of a request. -/
structure Target where
  /-- Empty only for an authority alone. -/
  path : Octets
  query : Option Octets
  deriving Repr, DecidableEq

namespace Target

/-- The greatest length of a target. -/
def limit : Nat := 65534

/-- Whether an octet may stand in a path. -/
def isPathOctet (octet : UInt8) : Bool :=
  0x21 ≤ octet && octet ∉ ([0x23, 0x3C, 0x3E, 0x3F, 0x60] : List UInt8)

/-- Whether an octet may stand in a query. -/
def isQueryOctet (octet : UInt8) : Bool :=
  0x21 ≤ octet && octet ∉ ([0x22, 0x23, 0x3C, 0x3E] : List UInt8)

/-- The path and the query that octets spell; a fragment after them is dropped. -/
def ofOctets? (octets : Octets) : Option Target :=
  let octets := octets.takeWhile (· ≠ 0x23)
  let path := octets.takeWhile (· ≠ 0x3F)
  let query := octets.dropWhile (· ≠ 0x3F)
  if path.all isPathOctet && (query.drop 1).all isQueryOctet then
    some
      { path := if path = [] then [0x2F] else path
        query := if query = [] then none else some (query.drop 1) }
  else
    none

/-! ## Authorities -/

/-- Whether an octet is an ASCII letter or digit. -/
def isAlphanumeric (octet : UInt8) : Bool :=
  (Char.ofNat octet.toNat).isAlphanum

/-- Whether an octet may stand in a scheme. -/
def isSchemeOctet (octet : UInt8) : Bool :=
  isAlphanumeric octet || octet ∈ Text.Utf8.encode "+-.~"

/-- Whether an octet without a meaning of its own may stand in an authority. -/
def isAuthorityOctet (octet : UInt8) : Bool :=
  isAlphanumeric octet || octet ∈ Text.Utf8.encode "!$&'()*+,-.;=_~"

/-- What has been seen of an authority. -/
structure Authority where
  /-- Colons since the last user part or bracket. -/
  colons : Nat
  opened : Bool
  closed : Bool
  /-- Whether there was an escape since the last user part or bracket. -/
  escaped : Bool
  /-- Whether the last octet ended a user part. -/
  afterUser : Bool
  deriving Repr, DecidableEq

namespace Authority

/-- Nothing has been seen. -/
def start : Authority :=
  ⟨0, false, false, false, false⟩

/-- The greatest number of colons in a row of groups. -/
def colonLimit : Nat := 8

/-- Take one octet. -/
def step (seen : Authority) (octet : UInt8) : Option Authority :=
  let next := { seen with afterUser := false }
  if octet = 0x3A then
    if seen.colons < colonLimit then some { next with colons := seen.colons + 1 } else none
  else if octet = 0x5B then
    if seen.escaped || seen.opened then none else some { next with opened := true }
  else if octet = 0x5D then
    if !seen.opened || seen.closed then none
    else some { next with closed := true, colons := 0, escaped := false }
  else if octet = 0x40 then
    some { next with colons := 0, escaped := false, afterUser := true }
  else if octet = 0x25 then
    some { next with escaped := true }
  else if isAuthorityOctet octet then
    some next
  else
    none

/-- Whether octets are an authority. -/
def accepts (octets : Octets) : Bool :=
  match octets.foldlM step start with
  | some seen =>
      seen.opened == seen.closed && seen.colons ≤ 1 && !seen.afterUser && !seen.escaped
  | none => false

end Authority

/-- The greatest length of a scheme. -/
def schemeLimit : Nat := 64

/-- The target that an authority with what follows it spells. -/
def afterScheme? (octets : Octets) : Option Target :=
  let isInside (octet : UInt8) : Bool := octet ∉ ([0x23, 0x2F, 0x3F] : List UInt8)
  let authority := octets.takeWhile isInside
  if authority ≠ [] ∧ Authority.accepts authority then
    ofOctets? (octets.dropWhile isInside)
  else
    none

/-- The target that a text spells. -/
def parse? (text : String) : Option Target :=
  let octets := Text.Utf8.encode text
  if octets.length > limit then
    none
  else if octets = [0x2A] then
    some ⟨octets, none⟩
  else
    match octets with
    | [] => none
    | first :: _ =>
        if first = 0x2F then
          ofOctets? octets
        else
          let scheme := octets.takeWhile isSchemeOctet
          match octets.dropWhile isSchemeOctet with
          | 0x3A :: 0x2F :: 0x2F :: rest =>
              if scheme.length ≤ schemeLimit then afterScheme? rest else none
          | _ => if Authority.accepts octets then some ⟨[], none⟩ else none

end Target

end Credential.Http
