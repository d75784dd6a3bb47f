import Credential.Proofs.Store.Cleared
import Credential.Proofs.Store.Updates

/-!
# Which emails are refused as duplicates

A record is refused for its email if another live account has it, and for no other
reason.  What counts is the record as it would be stored: a changed one is merged
with the stored one first.
-/

namespace Credential.Store

variable {store : Store} {ledger : Ledger}

/-! ## Emails that are taken -/

/-- Whether a live account that is stored, other than the one of a uid, has an email. -/
def EmailTaken (store : Store) (email : String) (except : Option String) : Prop :=
  ∃ uid account, store.storedAccount? uid = some (.ok account) ∧ account.IsLiveWith email ∧
    some uid ≠ except

/--
Whether a new account has an email that is taken.

In a database this does not matter for an account that is added as deleted.
-/
def ConflictsNew (store : Store) (account : Account) : Prop :=
  (store.backend = .database → account.isDeleted = false) ∧
    ∃ email, account.email? = some email ∧ store.EmailTaken email none

/-- Whether the record that a uid is to have is live and has an email that another one has. -/
def ConflictsChanged (store : Store) (uid : String) (record : Account) : Prop :=
  record.isDeleted = false ∧
    ∃ email, record.email? = some email ∧ store.EmailTaken email (some uid)

namespace Shows

theorem emailTaken_iff
    (showing : store.Shows ledger)
    (email : String)
    (except : Option String) :
    store.EmailTaken email except ↔ ledger.EmailTaken email except := by
  refine exists_congr fun uid => exists_congr fun account => ?_
  rw [showing.storedAccount?_eq_some_iff, Account.IsLiveWith, and_assoc]

/-- Beside a conflict, a database refuses a new account for a uid that is there already. -/
theorem refusesNew_iff
    (showing : store.Shows ledger)
    {uid email : String}
    {account : Account}
    (hasEmail : account.email? = some email)
    (now : Time.Instant) :
    ledger.RefusesNew store.backend uid email (account.prepareInsert uid now) ↔
      store.backend = .database ∧ store.storedAccount? uid ≠ none ∨ store.ConflictsNew account := by
  rw [ConflictsNew, hasEmail, showing.storedAccount?_eq]
  cases store.backend with
  | memory => simp [Ledger.RefusesNew, showing.emailTaken_iff]
  | database =>
      simp [Ledger.RefusesNew, showing.emailTaken_iff, Account.isDeleted_prepareInsert]

theorem refusesChange_iff (showing : store.Shows ledger) (uid : String) (record : Account) :
    ledger.RefusesChange uid record ↔ store.ConflictsChanged uid record := by
  simp only [Ledger.RefusesChange, ConflictsChanged, showing.emailTaken_iff]

end Shows

/-! ## What saving an account does -/

/-- Whether a record has been saved, and is kept in the row of a uid, with nothing else changed. -/
structure Puts
    (store : Store)
    (uid : String)
    (record kept : Account)
    (result : Except Error Account × Store) :
    Prop where
  answer : result.1 = .ok record
  stored : result.2.storedAccount? uid = some (.ok kept)
  sameBut : store.SameBut (.account uid) result.2

/-- What is done with every record that an open store is asked to save. -/
structure RefusesDuplicates (store : Store) : Prop where
  /-- Every row that is stored can be read. -/
  readable :
    ∀ {uid reading}, store.storedAccount? uid = some reading → ∃ stored, reading = .ok stored
  /-- A new account must have an email. -/
  nameless :
    ∀ {occasion account}, account.uid = none → account.email? = none →
      store.saveAccount occasion account = (.error (.nilArgument "email"), store)
  /-- A new account is refused if its email is taken. -/
  refusesNew :
    ∀ {occasion account}, account.uid = none → store.ConflictsNew account →
      store.saveAccount occasion account = (.error .duplicateEmail, store)
  /-- Otherwise it is added in a row of its own. -/
  addsNew :
    ∀ {occasion account}, account.uid = none → account.email?.isSome = true →
      store.storedAccount? occasion.uid = none → ¬ store.ConflictsNew account →
        let record := account.prepareInsert occasion.uid occasion.now
        store.Puts occasion.uid record (store.backend.kept record)
          (store.saveAccount occasion account)
  /-- An account that is not there cannot be changed. -/
  missing :
    ∀ {occasion account uid}, account.uid = some uid → store.storedAccount? uid = none →
      store.saveAccount occasion account = (.error .accountNotFound, store)
  /-- A change is refused if the merged record is live and has an email that another one has. -/
  refusesChange :
    ∀ {occasion account uid stored}, account.uid = some uid →
      store.storedAccount? uid = some (.ok stored) →
        store.ConflictsChanged uid (account.prepareUpdate stored occasion.now) →
          store.saveAccount occasion account = (.error .duplicateEmail, store)
  /-- Otherwise the merged record is put in the place of the stored one. -/
  changes :
    ∀ {occasion account uid stored}, account.uid = some uid →
      store.storedAccount? uid = some (.ok stored) →
        let record := account.prepareUpdate stored occasion.now
        ¬ store.ConflictsChanged uid record →
          store.Puts uid record record (store.saveAccount occasion account)

/-- An account that is refused leaves a store as it was. -/
theorem Shows.saveAccount_eq_error
    (showing : store.Shows ledger)
    (sound : ledger.Sound)
    {occasion : Occasion}
    {account : Account}
    {error : Error}
    (refused : (ledger.saveAccount store.backend occasion account).1 = .error error) :
    store.saveAccount occasion account = (.error error, store) := by
  have wrote := showing.saveAccount sound occasion account
  have outcome := wrote.outcome
  have frame := wrote.frame
  rw [refused] at outcome
  generalize store.saveAccount occasion account = result at outcome frame
  obtain ⟨_, after⟩ := result
  obtain rfl := outcome
  exact congrArg _ frame

/-- An account that is not refused is put in its row. -/
theorem Shows.puts_saveAccount
    (showing : store.Shows ledger)
    (sound : ledger.Sound)
    {occasion : Occasion}
    {account record : Account}
    {uid : String}
    (row : account.uid.getD occasion.uid = uid)
    (accepted : ledger.saveAccount store.backend occasion account =
      (.ok record, ledger.setAccount uid (some (store.backend.kept record)))) :
    store.Puts uid record (store.backend.kept record) (store.saveAccount occasion account) := by
  have wrote := showing.saveAccount sound occasion account
  rw [accepted, row] at wrote
  obtain ⟨outcome, shows, -, frame⟩ := wrote
  refine ⟨outcome, ?_, ?_⟩
  · rw [shows.storedAccount?_eq, Ledger.accounts_setAccount, if_pos rfl]
    rfl
  · generalize store.saveAccount occasion account = result at outcome frame
    obtain ⟨_, after⟩ := result
    obtain rfl := outcome
    exact frame

/-- A store that shows a sound ledger refuses duplicates, and nothing else. -/
theorem Shows.refusesDuplicates
    (showing : store.Shows ledger)
    (sound : ledger.Sound) :
    store.RefusesDuplicates where
  readable := by
    intro uid reading present
    rw [showing.storedAccount?_eq] at present
    obtain ⟨stored, -, rfl⟩ := Option.map_eq_some_iff.mp present
    exact ⟨stored, rfl⟩
  nameless := by
    intro occasion account isNew noEmail
    apply showing.saveAccount_eq_error sound
    rw [Ledger.saveAccount, isNew]
    dsimp only
    rw [noEmail]
  refusesNew := by
    intro occasion account isNew conflicts
    obtain ⟨email, hasEmail, -⟩ := conflicts.2
    apply showing.saveAccount_eq_error sound
    rw [Ledger.saveAccount, isNew]
    dsimp only
    rw [hasEmail]
    exact congrArg Prod.fst
      (if_pos ((showing.refusesNew_iff hasEmail occasion.now).mpr (.inr conflicts)))
  addsNew := by
    intro occasion account isNew emailGiven fresh free record
    obtain ⟨email, hasEmail⟩ := Option.isSome_iff_exists.mp emailGiven
    apply showing.puts_saveAccount sound
    · rw [isNew, Option.getD_none]
    · rw [Ledger.saveAccount, isNew]
      dsimp only
      rw [hasEmail]
      refine if_neg fun refused => ?_
      rcases (showing.refusesNew_iff hasEmail occasion.now).mp refused with ⟨-, known⟩ | conflicts
      · exact known fresh
      · exact free conflicts
  missing := by
    intro occasion account uid named absent
    rw [showing.storedAccount?_eq] at absent
    apply showing.saveAccount_eq_error sound
    rw [Ledger.saveAccount, named]
    dsimp only
    rw [Option.map_eq_none_iff.mp absent]
  refusesChange := by
    intro occasion account uid stored named present conflicts
    apply showing.saveAccount_eq_error sound
    rw [Ledger.saveAccount, named]
    dsimp only
    rw [showing.storedAccount?_eq_some_iff.mp present]
    exact congrArg Prod.fst (if_pos ((showing.refusesChange_iff uid _).mpr conflicts))
  changes := by
    intro occasion account uid stored named present record free
    have inLedger := showing.storedAccount?_eq_some_iff.mp present
    have whole : store.backend.kept record = record :=
      Backend.kept_prepareUpdate (showing.kept_eq inLedger) account occasion.now
    have puts : store.Puts uid record (store.backend.kept record)
        (store.saveAccount occasion account) := by
      apply showing.puts_saveAccount sound
      · rw [named, Option.getD_some]
      · rw [Ledger.saveAccount, named]
        dsimp only
        rw [inLedger]
        exact if_neg (mt (showing.refusesChange_iff uid record).mp free)
    rw [whole] at puts
    exact puts

theorem IsSound.refusesDuplicates
    (sound : store.IsSound)
    (isOpen : store.isOpen = true) :
    store.RefusesDuplicates := by
  obtain ⟨ledger, showing, ledgerSound⟩ := sound.exists_shows isOpen
  exact showing.refusesDuplicates ledgerSound

/-! ## Emails that become free -/

/-- Whether an email can be had at once, by any new account and by any that is there. -/
structure Offers (store : Store) (email : String) : Prop where
  new :
    ∀ {occasion account}, account.uid = none → account.email? = some email →
      store.storedAccount? occasion.uid = none →
        ∃ record after, store.saveAccount occasion account = (.ok record, after)
  stored :
    ∀ {occasion account uid stored}, account.uid = some uid → account.email = .value email →
      store.storedAccount? uid = some (.ok stored) →
        ∃ record after, store.saveAccount occasion account = (.ok record, after)

theorem EmailTaken.of_except
    {email : String}
    {except : Option String}
    (taken : store.EmailTaken email except) :
    store.EmailTaken email none := by
  obtain ⟨uid, account, present, live, -⟩ := taken
  exact ⟨uid, account, present, live, Option.some_ne_none uid⟩

theorem Puts.exists_ok
    {uid : String}
    {record kept : Account}
    {result : Except Error Account × Store}
    (puts : store.Puts uid record kept result) :
    ∃ record after, result = (.ok record, after) :=
  ⟨record, result.2, Prod.ext puts.answer rfl⟩

namespace RefusesDuplicates

variable {email : String}

/-- An email that nobody has can be had at once. -/
theorem offers
    (refuses : store.RefusesDuplicates)
    (free : ¬ store.EmailTaken email none) :
    store.Offers email where
  new := by
    intro occasion account isNew hasEmail fresh
    have emailGiven : account.email?.isSome = true := by
      rw [hasEmail]
      rfl
    refine (refuses.addsNew isNew emailGiven fresh ?_).exists_ok
    rintro ⟨-, other, otherEmail, taken⟩
    obtain rfl := Option.some.inj (hasEmail.symm.trans otherEmail)
    exact free taken
  stored := by
    intro occasion account uid stored named hasEmail present
    refine (refuses.changes named present ?_).exists_ok
    rintro ⟨-, other, otherEmail, taken⟩
    rw [Account.email?, Account.prepareUpdate, hasEmail] at otherEmail
    obtain rfl := Option.some.inj otherEmail
    exact free taken.of_except

end RefusesDuplicates

/-- An email is free once its owner is gone or is no more live with it. -/
theorem Ledger.Sound.not_emailTaken_setAccount
    (sound : ledger.Sound)
    {uid email : String}
    {owner : Account}
    (present : ledger.accounts uid = some owner)
    (owns : owner.IsLiveWith email)
    {record : Option Account}
    (gone : ∀ account ∈ record, ¬ account.IsLiveWith email) :
    ¬ (ledger.setAccount uid record).EmailTaken email none := by
  rintro ⟨other, account, found, live, hasEmail, -⟩
  rw [Ledger.accounts_setAccount] at found
  split at found
  case isTrue => exact gone account found ⟨live, hasEmail⟩
  case isFalse differs =>
    exact differs (sound.emails found present live owns.1 hasEmail owns.2)

/-- What becomes of the email of a live account. -/
structure FreesEmails (store : Store) : Prop where
  /-- An account can be marked as deleted, and its email is free then. -/
  softDeleted :
    ∀ {occasion account uid stored email}, account.uid = some uid →
      store.storedAccount? uid = some (.ok stored) → stored.IsLiveWith email →
        account.deleted = .value true →
          ∃ record after, store.saveAccount occasion account = (.ok record, after) ∧
            after.Offers email
  /-- An account can be removed, and its email is free then. -/
  hardDeleted :
    ∀ {uid stored email}, store.storedAccount? uid = some (.ok stored) →
      stored.IsLiveWith email →
        ∃ after, store.deleteAccount uid = (.ok (), after) ∧ after.Offers email
  /-- The email of an account that has been given another one is free. -/
  moved :
    ∀ {occasion account uid stored email record after}, account.uid = some uid →
      store.storedAccount? uid = some (.ok stored) → stored.IsLiveWith email →
        store.saveAccount occasion account = (.ok record, after) → record.email? ≠ some email →
          after.Offers email
  /-- An account may keep its email, and may be saved with it again. -/
  keepsOwn :
    ∀ {occasion account uid stored email}, account.uid = some uid →
      store.storedAccount? uid = some (.ok stored) → stored.IsLiveWith email →
        account.email = .unset ∨ account.email = .value email →
          ∃ record after, store.saveAccount occasion account = (.ok record, after) ∧
            record.email? = some email
  /-- An account stays deleted while another one has its email. -/
  staysDeleted :
    ∀ {occasion account uid stored email}, account.uid = some uid →
      store.storedAccount? uid = some (.ok stored) → stored.email? = some email →
        store.EmailTaken email (some uid) →
          account.email = .unset ∨ account.email = .value email →
            account.deleted = .null ∨ account.deleted = .value false →
              store.saveAccount occasion account = (.error .duplicateEmail, store)

/-- An account that keeps its email, or gives it again, has it in the merged record. -/
theorem email?_prepareUpdate
    {account stored : Account}
    {email : String}
    (hasEmail : stored.email? = some email)
    (same : account.email = .unset ∨ account.email = .value email)
    (now : Time.Instant) :
    (account.prepareUpdate stored now).email? = some email := by
  rw [Account.email?, Account.prepareUpdate]
  rcases same with notGiven | again
  · rw [notGiven]
    exact hasEmail
  · rw [again]
    rfl

/-- Once an account has been saved, its former email is free unless the record is live with it. -/
theorem Shows.offers_of_saveAccount
    (showing : store.Shows ledger)
    (sound : ledger.Sound)
    {occasion : Occasion}
    {account stored record : Account}
    {uid email : String}
    {after : Store}
    (named : account.uid = some uid)
    (present : store.storedAccount? uid = some (.ok stored))
    (owns : stored.IsLiveWith email)
    (saves : store.saveAccount occasion account = (.ok record, after))
    (gone : ¬ record.IsLiveWith email) :
    after.Offers email := by
  obtain ⟨_, _, _, _, _, afterShows, afterSound⟩ := showing.of_saveAccount sound named saves
  refine (afterShows.refusesDuplicates afterSound).offers ?_
  rw [afterShows.emailTaken_iff]
  apply sound.not_emailTaken_setAccount (showing.storedAccount?_eq_some_iff.mp present) owns
  rintro _ ⟨⟩
  exact gone

/-- In a store that shows a sound ledger, emails become free as soon as nobody has them. -/
theorem Shows.freesEmails
    (showing : store.Shows ledger)
    (sound : ledger.Sound) :
    store.FreesEmails := by
  have refuses : store.RefusesDuplicates := showing.refusesDuplicates sound
  constructor
  case softDeleted =>
    intro occasion account uid stored email named present owns marked
    have deleted : (account.prepareUpdate stored occasion.now).isDeleted = true := by
      rw [Account.isDeleted, Account.prepareUpdate, marked]
      rfl
    have free : ¬ store.ConflictsChanged uid (account.prepareUpdate stored occasion.now) := by
      rintro ⟨live, -⟩
      rw [deleted] at live
      cases live
    have puts := refuses.changes named present free
    refine ⟨_, _, Prod.ext puts.answer rfl, ?_⟩
    refine showing.offers_of_saveAccount sound named present owns (Prod.ext puts.answer rfl) ?_
    rintro ⟨live, -⟩
    rw [deleted] at live
    cases live
  case hardDeleted =>
    intro uid stored email present owns
    have inLedger := showing.storedAccount?_eq_some_iff.mp present
    have wrote := showing.deleteAccount uid
    rw [Ledger.deleteAccount, inLedger] at wrote
    refine ⟨_, Prod.ext wrote.outcome rfl, ?_⟩
    have afterSound := sound.deleteAccount uid
    rw [Ledger.deleteAccount, inLedger] at afterSound
    refine (wrote.shows.refusesDuplicates afterSound).offers ?_
    rw [wrote.shows.emailTaken_iff]
    apply sound.not_emailTaken_setAccount inLedger owns
    rintro _ ⟨⟩
  case moved =>
    intro occasion account uid stored email record after named present owns saves differs
    exact showing.offers_of_saveAccount sound named present owns saves fun live => differs live.2
  case keepsOwn =>
    intro occasion account uid stored email named present owns same
    have hasEmail := email?_prepareUpdate owns.2 same occasion.now
    have free : ¬ store.ConflictsChanged uid (account.prepareUpdate stored occasion.now) := by
      rintro ⟨-, other, otherEmail, taken⟩
      obtain rfl := Option.some.inj (hasEmail.symm.trans otherEmail)
      obtain ⟨otherUid, otherAccount, otherPresent, live, differs⟩ := taken
      exact differs (congrArg some (sound.emails
        (showing.storedAccount?_eq_some_iff.mp otherPresent)
        (showing.storedAccount?_eq_some_iff.mp present) live.1 owns.1 live.2 owns.2))
    exact ⟨_, _, Prod.ext (refuses.changes named present free).answer rfl, hasEmail⟩
  case staysDeleted =>
    intro occasion account uid stored email named present hasEmail taken same revives
    refine refuses.refusesChange named present ⟨?_, email, ?_, taken⟩
    · rw [Account.isDeleted, Account.prepareUpdate]
      rcases revives with cleared | given
      · rw [cleared]
        rfl
      · rw [given]
        rfl
    · exact email?_prepareUpdate hasEmail same occasion.now

/--
An email is refused as a duplicate exactly where a live account has it already.

So it is in every open store that runs reach, whichever its backend; an email
becomes free as soon as the account that had it is deleted, removed or moved.
-/
theorem duplicates_refused
    (rowless : store.Rowless)
    (calls : List (Occasion × Call))
    (isOpen : (store.run calls).isOpen = true) :
    (store.run calls).RefusesDuplicates ∧ (store.run calls).FreesEmails := by
  obtain ⟨ledger, showing, sound⟩ := (rowless.isSound.run calls).exists_shows isOpen
  exact ⟨showing.refusesDuplicates sound, showing.freesEmails sound⟩

/-- An account whose email was given to another one while it was deleted stays so. -/
theorem duplicates_refused_revived :
    let drawing (uid : String) : Occasion := ⟨.start, uid, [], .mk fun _ => none⟩
    let ada := { Account.blank with email := .value "ada@example.org" }
    let calls : List (Occasion × Call) :=
      [(drawing "", .dial ⟨some "store", 0⟩), (drawing "first", .saveAccount ada),
        (drawing "", .saveAccount { Account.blank with uid := some "first", deleted := .value true }),
        (drawing "second", .saveAccount ada)]
    let revived := { Account.blank with uid := some "first", deleted := .null }
    let memory := (Store.memory .initial).run calls
    let database := (Store.database (.initial .empty)).run calls
    memory.saveAccount (drawing "") revived = (.error .duplicateEmail, memory) ∧
      database.saveAccount (drawing "") revived = (.error .duplicateEmail, database) := by
  intro drawing ada calls revived memory database
  have memoryRowless : (Store.memory .initial).Rowless := by
    rintro tables ⟨⟩
  have databaseRowless : (Store.database (.initial .empty)).Rowless := by
    rintro path tables ⟨⟩
  obtain ⟨-, memoryFrees⟩ := duplicates_refused memoryRowless calls rfl
  obtain ⟨-, databaseFrees⟩ := duplicates_refused databaseRowless calls (by decide +kernel)
  let added (uid : String) : Account := ada.cleared.prepareInsert uid .start
  have live : (added "second").IsLiveWith "ada@example.org" := ⟨rfl, rfl⟩
  have differs : some "second" ≠ some "first" := by decide
  constructor
  · have stored : memory.storedAccount? "first" = some (.ok _) := rfl
    have taken : memory.storedAccount? "second" = some (.ok _) := rfl
    exact memoryFrees.staysDeleted rfl stored rfl ⟨"second", _, taken, ⟨rfl, rfl⟩, differs⟩
      (.inl rfl) (.inl rfl)
  · have stored : database.storedAccount? "first" = some (.ok (added "first").softDelete) := by
      decide +kernel
    have taken : database.storedAccount? "second" = some (.ok (added "second")) := by
      decide +kernel
    exact databaseFrees.staysDeleted rfl stored rfl ⟨"second", _, taken, live, differs⟩
      (.inl rfl) (.inl rfl)

end Credential.Store
