import Credential.Proofs.Store.Frame
import Credential.Proofs.Store.Ledger

/-!
# What tables show

The rows of a backend hold records.  Tables show a ledger when every row holds
the ledger's record, and a step follows an operation on ledgers when it has the
same outcome and leaves tables that show what the operation leaves, with nothing
changed outside the place that it is about.
-/

namespace Credential.Store

/-- Which records the rows of a backend hold. -/
structure Holding (AccountRow KeyRow TokenRow : Type) where
  account : AccountRow → Account → Prop
  key : KeyRow → KeyPair → Prop
  token : TokenRow → String → Prop

variable {AccountRow KeyRow TokenRow : Type}

/-- Whether the rows of tables hold the records of a ledger. -/
structure Tables.Shows
    (tables : Tables AccountRow KeyRow TokenRow)
    (holding : Holding AccountRow KeyRow TokenRow)
    (ledger : Ledger) :
    Prop where
  accounts : tables.accounts.Shows holding.account ledger.accounts
  keys : tables.keys.Shows holding.key ledger.keys
  tokens : tables.tokens.Shows holding.token ledger.tokens

/-- Whether a step at a place does what an operation does to the ledger that its tables show. -/
def Step.Follows
    {Result : Type}
    (step : Step (Tables AccountRow KeyRow TokenRow) Result)
    (holding : Holding AccountRow KeyRow TokenRow)
    (place : Place)
    (ledger : Ledger)
    (operation : Except Error Result × Ledger) :
    Prop :=
  ∀ tables,
    tables.Shows holding ledger →
      (step.run tables).1 = operation.1 ∧ (step.run tables).2.Shows holding operation.2 ∧
        tables.WritesAt place (step.run tables)

/-- A new key pair is checked before anything else is done. -/
theorem Step.run_requireKey
    {State Result : Type}
    (key : KeyPair)
    (next : Step State Result)
    (state : State) :
    Step.run
        (do
          .ask fun _ => require key.accountId "account id"
          .ask fun _ => require key.pubKey "public key"
          .ask fun _ => require key.privKey "private key"
          next)
        state =
      match Ledger.requireKey key with
      | .ok _ => next.run state
      | .error error => (.error error, state) := by
  rw [Ledger.requireKey]
  simp only [run_ask_bind]
  cases require key.accountId "account id" with
  | error error => rfl
  | ok _ =>
      cases require key.pubKey "public key" with
      | error error => rfl
      | ok _ => cases require key.privKey "private key" <;> rfl

namespace Tables

variable {holding : Holding AccountRow KeyRow TokenRow} {ledger : Ledger}

/-- Tables without rows show the ledger without records. -/
theorem shows_empty : (Tables.empty : Tables AccountRow KeyRow TokenRow).Shows holding .empty where
  accounts := Table.Shows.empty
  keys := Table.Shows.empty
  tokens := Table.Shows.empty

namespace Shows

variable {tables : Tables AccountRow KeyRow TokenRow}

/-- Putting a row that holds an account puts the account into the ledger. -/
theorem putAccount
    (showing : tables.Shows holding ledger)
    (uid : String)
    {row : AccountRow}
    {account : Account}
    (held : holding.account row account) :
    Shows { tables with accounts := tables.accounts.insert uid row } holding
      (ledger.setAccount uid (some account)) where
  accounts := showing.accounts.insert uid held
  keys := showing.keys
  tokens := showing.tokens

/-- Putting a row that holds a key pair puts the key pair into the ledger. -/
theorem putKey
    (showing : tables.Shows holding ledger)
    (kid : String)
    {row : KeyRow}
    {key : KeyPair}
    (held : holding.key row key) :
    Shows { tables with keys := tables.keys.insert kid row } holding
      (ledger.setKey kid (some key)) where
  accounts := showing.accounts
  keys := showing.keys.insert kid held
  tokens := showing.tokens

/-- Putting a row that holds a token puts the token into the ledger. -/
theorem putToken
    (showing : tables.Shows holding ledger)
    (uid : String)
    {row : TokenRow}
    {token : String}
    (held : holding.token row token) :
    Shows { tables with tokens := tables.tokens.insert uid row } holding
      (ledger.setToken uid (some token)) where
  accounts := showing.accounts
  keys := showing.keys
  tokens := showing.tokens.insert uid held

end Shows

/-! ## Removing rows -/

/-- Removing an account does what the operation on ledgers does. -/
theorem deleteAccount_follows (uid : String) :
    (deleteAccount uid : Step (Tables AccountRow KeyRow TokenRow) Unit).Follows holding
      (.account uid) ledger (ledger.deleteAccount uid) := by
  intro tables showing
  rw [deleteAccount, Step.run_look_bind, Step.run_change_bind, showing.accounts.contains_eq,
    Ledger.deleteAccount]
  cases stored : ledger.accounts uid with
  | none =>
      have absent := showing.accounts.get?_eq_none stored
      rw [Table.erase_eq_self absent]
      exact ⟨rfl, showing, rfl⟩
  | some account =>
      exact ⟨rfl, ⟨showing.accounts.erase uid, showing.keys, showing.tokens⟩,
        .erase tables.accounts, rfl, rfl⟩

/-- Removing a key pair does what the operation on ledgers does. -/
theorem deleteKey_follows (kid : String) :
    (deleteKey kid : Step (Tables AccountRow KeyRow TokenRow) Unit).Follows holding
      (.key kid) ledger (ledger.deleteKey kid) := by
  intro tables showing
  rw [deleteKey, Step.run_look_bind, Step.run_change_bind, showing.keys.contains_eq,
    Ledger.deleteKey]
  cases stored : ledger.keys kid with
  | none =>
      have absent := showing.keys.get?_eq_none stored
      rw [Table.erase_eq_self absent]
      exact ⟨rfl, showing, rfl⟩
  | some key =>
      exact ⟨rfl, ⟨showing.accounts, showing.keys.erase kid, showing.tokens⟩,
        rfl, .erase tables.keys, rfl⟩

/-- Removing a token does what the operation on ledgers does. -/
theorem deleteToken_follows (uid : String) :
    (deleteToken uid : Step (Tables AccountRow KeyRow TokenRow) Unit).Follows holding
      (.token uid) ledger (ledger.deleteToken uid) := by
  intro tables showing
  rw [deleteToken, Step.run_look_bind, Step.run_change_bind, showing.tokens.contains_eq,
    Ledger.deleteToken]
  cases stored : ledger.tokens uid with
  | none =>
      have absent := showing.tokens.get?_eq_none stored
      rw [Table.erase_eq_self absent]
      exact ⟨rfl, showing, rfl⟩
  | some token =>
      exact ⟨rfl, ⟨showing.accounts, showing.keys, showing.tokens.erase uid⟩,
        rfl, rfl, .erase tables.tokens⟩

end Tables

end Credential.Store
