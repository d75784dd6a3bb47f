import Credential.Proofs.Store.Table
import Credential.Store.Tables

/-!
# What a write leaves alone

A write is about one place: one key of one of the three tables.  If it fails it
leaves the tables as they were, and otherwise every other place.
-/

namespace Credential.Store

/-- A key of one of the tables. -/
inductive Place where
  | account (uid : String)
  | key (kid : String)
  | token (uid : String)
  deriving Repr, DecidableEq

/-- Whether tables have the same rows outside one key. -/
def Table.SameBut {Row : Type} (key : String) (before after : Table Row) : Prop :=
  ∀ other, other ≠ key → after.get? other = before.get? other

namespace Table.SameBut

variable {Row : Type} {key : String}

/-- Putting a row leaves the other rows alone. -/
theorem insert (table : Table Row) (row : Row) : SameBut key table (table.insert key row) :=
  fun _ differs => get?_insert_of_ne differs table row

/-- Removing a row leaves the other rows alone. -/
theorem erase (table : Table Row) : SameBut key table (table.erase key) :=
  fun _ differs => get?_erase_of_ne differs table

end Table.SameBut

namespace Tables

variable {AccountRow KeyRow TokenRow Result : Type}

/-- Whether tables differ in one place at most. -/
def SameBut (place : Place) (before after : Tables AccountRow KeyRow TokenRow) : Prop :=
  match place with
  | .account uid =>
      before.accounts.SameBut uid after.accounts ∧ after.keys = before.keys ∧
        after.tokens = before.tokens
  | .key kid =>
      after.accounts = before.accounts ∧ before.keys.SameBut kid after.keys ∧
        after.tokens = before.tokens
  | .token uid =>
      after.accounts = before.accounts ∧ after.keys = before.keys ∧
        before.tokens.SameBut uid after.tokens

/-- Putting an account changes the place of that account only. -/
theorem sameBut_putAccount
    (tables : Tables AccountRow KeyRow TokenRow)
    (uid : String)
    (row : AccountRow) :
    tables.SameBut (.account uid) { tables with accounts := tables.accounts.insert uid row } :=
  ⟨.insert tables.accounts row, rfl, rfl⟩

/-- Putting a key pair changes the place of that key pair only. -/
theorem sameBut_putKey
    (tables : Tables AccountRow KeyRow TokenRow)
    (kid : String)
    (row : KeyRow) :
    tables.SameBut (.key kid) { tables with keys := tables.keys.insert kid row } :=
  ⟨rfl, .insert tables.keys row, rfl⟩

/-- Putting a token changes the place of that token only. -/
theorem sameBut_putToken
    (tables : Tables AccountRow KeyRow TokenRow)
    (uid : String)
    (row : TokenRow) :
    tables.SameBut (.token uid) { tables with tokens := tables.tokens.insert uid row } :=
  ⟨rfl, rfl, .insert tables.tokens row⟩

/-- Whether a write at a place, if it fails, changed nothing, and else nothing elsewhere. -/
def WritesAt
    (place : Place)
    (before : Tables AccountRow KeyRow TokenRow)
    (result : Except Error Result × Tables AccountRow KeyRow TokenRow) :
    Prop :=
  match result with
  | (.error _, after) => after = before
  | (.ok _, after) => before.SameBut place after

end Tables

end Credential.Store
