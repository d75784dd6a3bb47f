import Credential.Store.Step
import Credential.Store.Table

/-!
# The tables of a store

A store has three tables: of accounts, of key pairs, and of tokens under the uids
of their accounts.  The backends differ in what their rows are.
-/

namespace Credential.Store

/-- The three tables of a store. -/
structure Tables (AccountRow KeyRow TokenRow : Type) where
  accounts : Table AccountRow
  keys : Table KeyRow
  tokens : Table TokenRow
  deriving Repr

namespace Tables

variable {AccountRow KeyRow TokenRow : Type}

/-- Tables without rows. -/
def empty : Tables AccountRow KeyRow TokenRow :=
  ⟨Table.empty, Table.empty, Table.empty⟩

/-- Put a row under a key of the accounts. -/
def putAccount (uid : String) (row : AccountRow) : Step (Tables AccountRow KeyRow TokenRow) Unit :=
  .change fun tables => { tables with accounts := tables.accounts.insert uid row }

/-- Put a row under a key of the key pairs. -/
def putKey (kid : String) (row : KeyRow) : Step (Tables AccountRow KeyRow TokenRow) Unit :=
  .change fun tables => { tables with keys := tables.keys.insert kid row }

/-- Put a row under a key of the tokens. -/
def putToken (uid : String) (row : TokenRow) : Step (Tables AccountRow KeyRow TokenRow) Unit :=
  .change fun tables => { tables with tokens := tables.tokens.insert uid row }

/-- Remove the account of a uid. -/
def deleteAccount (uid : String) : Step (Tables AccountRow KeyRow TokenRow) Unit := do
  let found ← .look (·.accounts.contains uid)
  .change fun tables => { tables with accounts := tables.accounts.erase uid }
  if found then pure () else .fail .accountNotFound

/-- Remove the key pair of a key id. -/
def deleteKey (kid : String) : Step (Tables AccountRow KeyRow TokenRow) Unit := do
  let found ← .look (·.keys.contains kid)
  .change fun tables => { tables with keys := tables.keys.erase kid }
  if found then pure () else .fail .keyNotFound

/-- Remove the token of an account. -/
def deleteToken (uid : String) : Step (Tables AccountRow KeyRow TokenRow) Unit := do
  let found ← .look (·.tokens.contains uid)
  .change fun tables => { tables with tokens := tables.tokens.erase uid }
  if found then pure () else .fail .tokenNotFound

end Tables

end Credential.Store
