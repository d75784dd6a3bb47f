import Credential.Proofs.Store.Ledger

/-!
# Sound ledgers

In a sound ledger every record is complete and under its own key, and no two live
accounts have one email.  Every operation keeps a ledger sound, whatever record
it is given.
-/

namespace Credential

open Credential.Time (Instant)

/-! ## Records that operations make -/

/-- A truth value with a default is a value. -/
theorem Account.exists_flagOr_eq_value (default : Bool) (field : Field Bool) :
    ∃ flag, Account.flagOr default field = .value flag := by
  cases field with
  | unset => exact ⟨default, rfl⟩
  | null => exact ⟨default, rfl⟩
  | value content => exact ⟨content, rfl⟩

/-- A field that is filled from one that is given is given. -/
theorem Field.isUnset_orStored
    {field stored : Field α}
    (given : stored.isUnset = false) :
    (field.orStored stored).isUnset = false := by
  cases field with
  | unset => exact given
  | null => rfl
  | value content => rfl

/-- A new record with an email is complete. -/
theorem Account.wellKept_prepareInsert
    {account : Account}
    {email uid : String}
    (hasEmail : account.email? = some email)
    (now : Instant) :
    (account.prepareInsert uid now).WellKept uid where
  uid_eq := rfl
  created := rfl
  updated := rfl
  active := exists_flagOr_eq_value true account.active
  email := by
    change account.email.isUnset = false
    rw [email?] at hasEmail
    cases field : account.email with
    | unset =>
        rw [field] at hasEmail
        cases hasEmail
    | null => rfl
    | value content => rfl
  deleted := by
    obtain ⟨flag, value⟩ := exists_flagOr_eq_value false account.deleted
    change (flagOr false account.deleted).isUnset = false
    rw [value]
    rfl

/-- A changed record is as complete as the stored one. -/
theorem Account.WellKept.prepareUpdate
    {stored : Account}
    {uid : String}
    (wellKept : stored.WellKept uid)
    (account : Account)
    (now : Instant) :
    (account.prepareUpdate stored now).WellKept uid where
  uid_eq := wellKept.uid_eq
  created := wellKept.created
  updated := rfl
  active := exists_flagOr_eq_value true _
  email := Field.isUnset_orStored wellKept.email
  deleted := Field.isUnset_orStored wellKept.deleted

/-- Reading absent fields as cleared ones keeps a record complete. -/
theorem Account.WellKept.cleared
    {account : Account}
    {uid : String}
    (wellKept : account.WellKept uid) :
    account.cleared.WellKept uid where
  uid_eq := wellKept.uid_eq
  created := wellKept.created
  updated := wellKept.updated
  active := by
    obtain ⟨flag, value⟩ := wellKept.active
    exact ⟨flag, by rw [Account.cleared, value]; rfl⟩
  email := Field.isUnset_cleared account.email
  deleted := Field.isUnset_cleared account.deleted

/-- What a backend keeps of a complete record is complete. -/
theorem Account.WellKept.kept
    {account : Account}
    {uid : String}
    (wellKept : account.WellKept uid)
    (backend : Store.Backend) :
    (backend.kept account).WellKept uid := by
  cases backend with
  | memory => exact wellKept
  | database => exact wellKept.cleared

namespace Store.Backend

@[simp] theorem uid_kept (backend : Backend) (account : Account) :
    (backend.kept account).uid = account.uid := by
  cases backend <;> rfl

@[simp] theorem created_kept (backend : Backend) (account : Account) :
    (backend.kept account).created = account.created := by
  cases backend <;> rfl

@[simp] theorem updated_kept (backend : Backend) (account : Account) :
    (backend.kept account).updated = account.updated := by
  cases backend <;> rfl

@[simp] theorem isDeleted_kept (backend : Backend) (account : Account) :
    (backend.kept account).isDeleted = account.isDeleted := by
  cases backend with
  | memory => rfl
  | database => exact account.isDeleted_cleared

@[simp] theorem email?_kept (backend : Backend) (account : Account) :
    (backend.kept account).email? = account.email? := by
  cases backend with
  | memory => rfl
  | database => exact account.email?_cleared

end Store.Backend

/-- A text, or a stored one that is not empty, is not empty. -/
theorem KeyPair.textOr_ne_empty
    {text stored : String}
    (nonempty : stored ≠ "") :
    KeyPair.textOr text stored ≠ "" := by
  unfold KeyPair.textOr
  split
  case isTrue _ => exact nonempty
  case isFalse given => exact given

/-- A changed key pair is as complete as the stored one. -/
theorem KeyPair.WellKept.prepareUpdate
    {stored : KeyPair}
    {kid : String}
    (wellKept : stored.WellKept kid)
    (key : KeyPair)
    (now : Instant) :
    (key.prepareUpdate stored now).WellKept kid where
  kid_eq := wellKept.kid_eq
  accountId_eq := wellKept.accountId_eq
  accountId := wellKept.accountId
  pubKey := textOr_ne_empty wellKept.pubKey
  privKey := textOr_ne_empty wellKept.privKey
  active := rfl
  created := wellKept.created
  updated := rfl

namespace Store.Ledger

/-- An argument that is not refused is not empty. -/
theorem require_eq_ok_iff {argument what : String} :
    require argument what = .ok () ↔ argument ≠ "" := by
  unfold require
  split
  case isTrue empty => simp [empty]
  case isFalse nonempty => simp [nonempty]

/-- A new key pair that is not refused has an account and both halves. -/
theorem requireKey_eq_ok_iff {key : KeyPair} :
    requireKey key = .ok () ↔ key.accountId ≠ "" ∧ key.pubKey ≠ "" ∧ key.privKey ≠ "" := by
  unfold requireKey require
  by_cases accountId : key.accountId = "" <;> by_cases pubKey : key.pubKey = "" <;>
    by_cases privKey : key.privKey = "" <;>
    simp [accountId, pubKey, privKey, bind, Except.bind]

/-- A new key pair that is not refused makes a complete record. -/
theorem wellKept_prepareInsert
    {key : KeyPair}
    (accepted : requireKey key = .ok ())
    (now : Instant) :
    (key.prepareInsert now).WellKept key.accountId := by
  obtain ⟨accountId, pubKey, privKey⟩ := requireKey_eq_ok_iff.mp accepted
  exact
    { kid_eq := rfl
      accountId_eq := rfl
      accountId
      pubKey
      privKey
      active := rfl
      created := rfl
      updated := rfl }

/-! ## Soundness -/

/-- Whether records are complete and under their own keys, and live emails distinct. -/
structure Sound (ledger : Ledger) : Prop where
  accounts : ∀ {uid account}, ledger.accounts uid = some account → account.WellKept uid
  emails :
    ∀ {email firstUid secondUid first second},
      ledger.accounts firstUid = some first → ledger.accounts secondUid = some second →
        first.isDeleted = false → second.isDeleted = false →
          first.email? = some email → second.email? = some email → firstUid = secondUid
  keys : ∀ {kid key}, ledger.keys kid = some key → key.WellKept kid

/-- A ledger without records is sound. -/
theorem Sound.empty : Ledger.empty.Sound where
  accounts := by
    intro uid account present
    cases present
  emails := by
    intro email firstUid secondUid first second present
    cases present
  keys := by
    intro kid key present
    cases present

/-- An account has a key pair if there is one under its uid. -/
theorem Sound.exists_key_iff
    {ledger : Ledger}
    (sound : ledger.Sound)
    (accountId : String) :
    (∃ kid key, ledger.keys kid = some key ∧ key.accountId = accountId) ↔
      (ledger.keys accountId).isSome = true := by
  rw [Option.isSome_iff_exists]
  constructor
  · rintro ⟨kid, key, present, rfl⟩
    rw [(sound.keys present).accountId_eq]
    exact ⟨key, present⟩
  · rintro ⟨key, present⟩
    exact ⟨accountId, key, present, (sound.keys present).accountId_eq⟩

/-- The account under a uid after one has been put somewhere. -/
theorem accounts_setAccount
    (ledger : Ledger)
    (uid other : String)
    (account : Option Account) :
    (ledger.setAccount uid account).accounts other =
      if other = uid then account else ledger.accounts other :=
  Function.update_apply ledger.accounts uid account other

/-- Of two accounts put under one uid, the later one stays. -/
@[simp] theorem setAccount_setAccount
    (ledger : Ledger)
    (uid : String)
    (first second : Option Account) :
    (ledger.setAccount uid first).setAccount uid second = ledger.setAccount uid second := by
  simp [setAccount]

/-- The key pair under a key id after one has been put somewhere. -/
theorem keys_setKey
    (ledger : Ledger)
    (kid other : String)
    (key : Option KeyPair) :
    (ledger.setKey kid key).keys other = if other = kid then key else ledger.keys other :=
  Function.update_apply ledger.keys kid key other

/-- The token under a uid after one has been put somewhere. -/
theorem tokens_setToken
    (ledger : Ledger)
    (uid other : String)
    (token : Option String) :
    (ledger.setToken uid token).tokens other = if other = uid then token else ledger.tokens other :=
  Function.update_apply ledger.tokens uid token other

/--
Putting a complete account keeps a ledger sound.

If it is live, no other live account may have its email.
-/
theorem Sound.setAccount
    {ledger : Ledger}
    {uid : String}
    {account : Account}
    (sound : ledger.Sound)
    (wellKept : account.WellKept uid)
    (free :
      account.isDeleted = false → ∀ email, account.email? = some email →
        ¬ ledger.EmailTaken email (some uid)) :
    (ledger.setAccount uid (some account)).Sound where
  accounts := by
    intro other otherAccount present
    rw [accounts_setAccount] at present
    split at present
    case isTrue same =>
      obtain rfl := Option.some.inj present
      exact same ▸ wellKept
    case isFalse _ => exact sound.accounts present
  emails := by
    intro email firstUid secondUid first second firstPresent secondPresent firstLive secondLive
      firstEmail secondEmail
    rw [accounts_setAccount] at firstPresent secondPresent
    split at firstPresent <;> split at secondPresent
    case isTrue.isTrue firstSame secondSame => rw [firstSame, secondSame]
    case isTrue.isFalse firstSame secondDiffers =>
      obtain rfl := Option.some.inj firstPresent
      exact (free firstLive email firstEmail
        ⟨secondUid, second, secondPresent, secondLive, secondEmail,
          by simpa using secondDiffers⟩).elim
    case isFalse.isTrue firstDiffers secondSame =>
      obtain rfl := Option.some.inj secondPresent
      exact (free secondLive email secondEmail
        ⟨firstUid, first, firstPresent, firstLive, firstEmail, by simpa using firstDiffers⟩).elim
    case isFalse.isFalse _ _ =>
      exact sound.emails firstPresent secondPresent firstLive secondLive firstEmail secondEmail
  keys := sound.keys

/-- Removing an account keeps a ledger sound. -/
theorem Sound.removeAccount
    {ledger : Ledger}
    (sound : ledger.Sound)
    (uid : String) :
    (ledger.setAccount uid none).Sound where
  accounts := by
    intro other account present
    rw [accounts_setAccount] at present
    split at present
    case isTrue _ => cases present
    case isFalse _ => exact sound.accounts present
  emails := by
    intro email firstUid secondUid first second firstPresent secondPresent
    rw [accounts_setAccount] at firstPresent secondPresent
    split at firstPresent
    case isTrue _ => cases firstPresent
    case isFalse _ =>
      split at secondPresent
      case isTrue _ => cases secondPresent
      case isFalse _ => exact sound.emails firstPresent secondPresent
  keys := sound.keys

/-- Putting a complete key pair, or removing one, keeps a ledger sound. -/
theorem Sound.setKey
    {ledger : Ledger}
    {kid : String}
    {key : Option KeyPair}
    (sound : ledger.Sound)
    (wellKept : ∀ record ∈ key, record.WellKept kid) :
    (ledger.setKey kid key).Sound where
  accounts := sound.accounts
  emails := sound.emails
  keys := by
    intro other record present
    rw [keys_setKey] at present
    split at present
    case isTrue same => exact same ▸ wellKept record present
    case isFalse _ => exact sound.keys present

/-- Tokens do not matter for soundness. -/
theorem Sound.setToken
    {ledger : Ledger}
    (sound : ledger.Sound)
    (uid : String)
    (token : Option String) :
    (ledger.setToken uid token).Sound where
  accounts := sound.accounts
  emails := sound.emails
  keys := sound.keys

/-- The key pair that is found for an account is the one under its uid. -/
theorem Sound.eq_found_of_finds
    {ledger : Ledger}
    {accountId : String}
    {result : Except Error KeyPair}
    (sound : ledger.Sound)
    (finds : Table.Finds ledger.keys (fun key => key.accountId = accountId) .keyNotFound result) :
    result = found .keyNotFound (ledger.keys accountId) := by
  rcases finds with ⟨kid, key, present, same, rfl⟩ | ⟨missing, rfl⟩
  · rw [← same, (sound.keys present).accountId_eq, present]
    rfl
  · cases present : ledger.keys accountId with
    | none => rfl
    | some key => exact (missing accountId key present (sound.keys present).accountId_eq).elim

/-! ## Operations keep ledgers sound -/

/-- An email that no live account has is not taken, whichever account is left out. -/
theorem EmailTaken.of_except
    {ledger : Ledger}
    {email : String}
    {except : Option String}
    (taken : ledger.EmailTaken email except) :
    ledger.EmailTaken email none := by
  obtain ⟨uid, account, present, live, hasEmail, _⟩ := taken
  exact ⟨uid, account, present, live, hasEmail, Option.some_ne_none uid⟩

/-- Saving any account keeps a ledger sound. -/
theorem Sound.saveAccount
    {ledger : Ledger}
    (sound : ledger.Sound)
    (backend : Backend)
    (occasion : Occasion)
    (account : Account) :
    (ledger.saveAccount backend occasion account).2.Sound := by
  unfold Ledger.saveAccount
  split
  case h_1 isNew =>
    split
    case h_1 _ => exact sound
    case h_2 email hasEmail =>
      dsimp only
      split
      case isTrue _ => exact sound
      case isFalse accepted =>
        have wellKept : (account.prepareInsert occasion.uid occasion.now).WellKept occasion.uid :=
          Account.wellKept_prepareInsert hasEmail occasion.now
        apply sound.setAccount (wellKept.kept backend)
        intro live other otherEmail taken
        rw [Backend.email?_kept] at otherEmail
        rw [Backend.isDeleted_kept] at live
        obtain rfl : email = other := Option.some.inj (hasEmail.symm.trans otherEmail)
        cases backend with
        | memory => exact accepted taken.of_except
        | database => exact accepted (Or.inr ⟨live, taken.of_except⟩)
  case h_2 uid isOld =>
    split
    case h_1 _ => exact sound
    case h_2 stored present =>
      dsimp only
      split
      case isTrue _ => exact sound
      case isFalse accepted =>
        have wellKept := (sound.accounts present).prepareUpdate account occasion.now
        apply sound.setAccount (wellKept.kept backend)
        intro live email hasEmail taken
        rw [Backend.email?_kept] at hasEmail
        rw [Backend.isDeleted_kept] at live
        exact accepted ⟨live, email, hasEmail, taken⟩

/-- Removing an account, if it is there, keeps a ledger sound. -/
theorem Sound.deleteAccount
    {ledger : Ledger}
    (sound : ledger.Sound)
    (uid : String) :
    (ledger.deleteAccount uid).2.Sound := by
  unfold Ledger.deleteAccount
  split
  case isTrue _ => exact sound.removeAccount uid
  case isFalse _ => exact sound

/-- Saving any key pair keeps a ledger sound. -/
theorem Sound.saveKey
    {ledger : Ledger}
    (sound : ledger.Sound)
    (now : Instant)
    (key : KeyPair) :
    (ledger.saveKey now key).2.Sound := by
  unfold Ledger.saveKey
  split
  case h_1 isNew =>
    split
    case h_1 _ => exact sound
    case h_2 accepted =>
      split
      case isTrue _ => exact sound
      case isFalse _ =>
        split
        case isTrue _ => exact sound
        case isFalse _ =>
          apply sound.setKey
          rintro record ⟨⟩
          exact wellKept_prepareInsert accepted now
  case h_2 kid isOld =>
    split
    case h_1 _ => exact sound
    case h_2 stored present =>
      apply sound.setKey
      rintro record ⟨⟩
      exact (sound.keys present).prepareUpdate key now

/-- Removing a key pair, if it is there, keeps a ledger sound. -/
theorem Sound.deleteKey
    {ledger : Ledger}
    (sound : ledger.Sound)
    (kid : String) :
    (ledger.deleteKey kid).2.Sound := by
  unfold Ledger.deleteKey
  split
  case isTrue _ =>
    apply sound.setKey
    rintro record ⟨⟩
  case isFalse _ => exact sound

/-- Recording a token keeps a ledger sound. -/
theorem Sound.putToken
    {ledger : Ledger}
    (sound : ledger.Sound)
    (uid token : String) :
    (ledger.putToken uid token).2.Sound := by
  unfold Ledger.putToken
  split
  case h_1 _ => exact sound
  case h_2 _ => exact sound.setToken uid (some token)

/-- Removing a token, if it is there, keeps a ledger sound. -/
theorem Sound.deleteToken
    {ledger : Ledger}
    (sound : ledger.Sound)
    (uid : String) :
    (ledger.deleteToken uid).2.Sound := by
  unfold Ledger.deleteToken
  split
  case isTrue _ => exact sound.setToken uid none
  case isFalse _ => exact sound

end Store.Ledger

end Credential
