import Credential.Proofs.Http.Writes
import Credential.Proofs.Json.Written
import Credential.Proofs.Secrecy.Masks

/-!
# Reading what was written

The account in the answer to a request that wrote it, and the key pair in the
answer to one that made it, are what later requests are shown, text for text.  They
are shown until another request writes them.
-/

namespace Credential

/-! ## Values of records -/

/-- The value of an account begins with its uid. -/
theorem Account.toValue_of_uid
    {account : Account}
    {uid : String}
    (named : account.uid = some uid) :
    ∃ rest, account.toValue = .object (("uid", .text uid) :: rest) := by
  unfold toValue
  rw [named]
  exact ⟨_, rfl⟩

theorem Account.member?_uid_toValue
    {account : Account}
    {uid : String}
    (named : account.uid = some uid) :
    account.toValue.member? "uid" = some (.text uid) := by
  obtain ⟨rest, isValue⟩ := toValue_of_uid named
  rw [isValue]
  exact List.lookup_cons_self

/-- Accounts of different uids are written differently. -/
theorem Account.render_toValue_ne
    {first second : Account}
    {uid other : String}
    (named : first.uid = some uid)
    (otherNamed : second.uid = some other)
    (differs : uid ≠ other) :
    first.toValue.render ≠ second.toValue.render := by
  obtain ⟨rest, isValue⟩ := toValue_of_uid named
  obtain ⟨others, isOther⟩ := toValue_of_uid otherNamed
  rw [isValue, isOther]
  exact fun same => differs (Json.eq_of_render_object same)

theorem KeyPair.member?_kid_toValue
    {key : KeyPair}
    {kid : String}
    (named : key.kid = some kid) :
    key.toValue.member? "kid" = some (.text kid) := by
  unfold toValue
  rw [named]
  exact List.lookup_cons_self

/-! ## Stored records -/

namespace Store

variable {store : Store} {uid : String}

/-- The account that is stored under a uid bears it, and is listed among those of other uids. -/
theorem IsSound.lists_storedAccount?
    {account : Account}
    (sound : store.IsSound)
    (stored : store.storedAccount? uid = some (.ok account)) :
    account.uid = some uid ∧
      ∃ before after, store.loadAllAccounts = .ok (before ++ account :: after) ∧
        ∀ other ∈ before ++ after, ∃ otherUid, otherUid ≠ uid ∧ other.uid = some otherUid := by
  obtain ⟨ledger, showing, ledgerSound⟩ := sound.exists_shows (isOpen_of_storedAccount? stored)
  have present := showing.storedAccount?_eq_some_iff.mp stored
  obtain ⟨records, ⟨lists, -⟩, loaded⟩ := showing.lists_loadAllAccounts
  obtain ⟨before, after, rfl, others⟩ := lists.exists_split present
  refine ⟨(ledgerSound.accounts present).uid_eq, before, after, loaded, fun other among => ?_⟩
  obtain ⟨otherUid, differs, otherPresent⟩ := others other among
  exact ⟨otherUid, differs, (ledgerSound.accounts otherPresent).uid_eq⟩

/-- The key pair that is stored under a uid bears it, and is found by it in both ways. -/
theorem IsSound.finds_storedKey?
    {key : KeyPair}
    (sound : store.IsSound)
    (stored : store.storedKey? uid = some (.ok key)) :
    key.kid = some uid ∧ store.keyByAccount uid = .ok key ∧ store.loadKey uid = .ok key := by
  obtain ⟨ledger, showing, ledgerSound⟩ := sound.exists_shows (isOpen_of_storedKey? stored)
  have present := showing.storedKey?_eq_some_iff.mp stored
  rw [showing.keyByAccount_eq ledgerSound, showing.loadKey_eq, present]
  exact ⟨(ledgerSound.keys present).kid_eq, rfl, rfl⟩

end Store

namespace Http

open Credential.Json (Value)

/-- Whether a request is for what an action finds under a name. -/
def Request.Gets (request : Request) (action : Action) (name : String) : Prop :=
  request.method = "GET" ∧ request.Asks action name

namespace Response

/-- Whether an answer shows a value: with 200, and with the text of the value for its body. -/
def Shows (response : Response) (value : Value) : Prop :=
  response.status = 200 ∧ response.body.octets = Text.Utf8.encode value.render

/--
Whether an answer lists a value in one place.

No other value in the list has its uid, or its text.
-/
def ListsOnce (response : Response) (value : Value) : Prop :=
  response.status = 200 ∧
    ∃ before after, response.body = .json (.list (before ++ value :: after)) ∧
      ∀ other ∈ before ++ after,
        other.member? "uid" ≠ value.member? "uid" ∧ other.render ≠ value.render

end Response

namespace Service

variable {service : Service} {manager after : Manager} {occasion : Occasion} {request : Request}
  {response : Response} {action : Action} {name uid : String} {account : Account} {key : KeyPair}

/-! ## What is shown -/

/-- Whether a service shows a value wherever it is asked for the account of a uid. -/
structure ShowsAccount (service : Service) (uid : String) (value : Value) : Prop where
  loaded : ∀ occasion request, request.Gets .loadAccount uid →
    (service.respond occasion request).1.Shows value
  listed : ∀ occasion request name, request.Gets .listAccounts name →
    (service.respond occasion request).1.ListsOnce value

/-- Whether a service shows a value wherever it is asked for the key pair of a uid. -/
structure ShowsKey (service : Service) (uid : String) (value : Value) : Prop where
  ofAccount : ∀ occasion request, request.Gets .accountKey uid →
    (service.respond occasion request).1.Shows value
  loaded : ∀ occasion request, request.Gets .loadKey uid →
    (service.respond occasion request).1.Shows value

/-- Whether a value of a uid is shown as its account until a request writes the account. -/
structure KeepsAccount (service : Service) (uid : String) (value : Value) : Prop where
  named : value.member? "uid" = some (.text uid)
  shown : ∀ later, service.Never (WritesAccount uid) later →
    (service.run later).ShowsAccount uid value

/-- Whether a value of a uid is shown as its key pair until a request removes the key pair. -/
structure KeepsKey (service : Service) (uid : String) (value : Value) : Prop where
  named : value.member? "kid" = some (.text uid)
  shown : ∀ later, service.Never (RemovesKey uid) later → (service.run later).ShowsKey uid value

/-- What an action finds is sent to a request for it. -/
theorem respond_of_gets
    {value : Value}
    (gets : request.Gets action name)
    (finds : (service.carryOutAt occasion request name action).1 = .ok (found value)) :
    (service.respond occasion request).1 = service.sent request (found value) := by
  have bodied : request.method ≠ "HEAD" := by simp [gets.1]
  rw [respond_of_asks gets.2 bodied, finds]
  rfl

theorem shows_of_gets
    {value : Value}
    (gets : request.Gets action name)
    (finds : (service.carryOutAt occasion request name action).1 = .ok (found value)) :
    (service.respond occasion request).1.Shows value := by
  rw [respond_of_gets gets finds, Response.Shows, status_sent_eq, body_sent]
  exact ⟨rfl, octets_found value⟩

theorem showsAccount_of_stored
    (sound : service.manager.store.IsSound)
    (stored : service.manager.store.storedAccount? uid = some (.ok account)) :
    service.ShowsAccount uid account.toValue where
  loaded := by
    intro occasion request gets
    have loaded := Manager.loadAccount_of_storedAccount? sound stored
    apply shows_of_gets gets
    rw [carryOutAt, loaded]
    rfl
  listed := by
    intro occasion request name gets
    obtain ⟨named, before, after, loaded, others⟩ := sound.lists_storedAccount? stored
    have finds : (service.carryOutAt occasion request name .listAccounts).1 =
        .ok (found (.list ((before ++ account :: after).map Account.toValue))) := by
      rw [carryOutAt, Manager.loadAllAccounts, loaded]
      rfl
    rw [respond_of_gets gets finds, Response.ListsOnce, status_sent_eq, body_sent]
    refine ⟨rfl, before.map Account.toValue, after.map Account.toValue, ?_, ?_⟩
    · rw [List.map_append, List.map_cons]
      rfl
    · rw [← List.map_append]
      intro value among
      obtain ⟨other, isOther, rfl⟩ := List.mem_map.mp among
      obtain ⟨otherUid, differs, otherNamed⟩ := others other isOther
      refine ⟨?_, Account.render_toValue_ne otherNamed named differs⟩
      rw [Account.member?_uid_toValue otherNamed, Account.member?_uid_toValue named]
      simpa using differs

theorem showsKey_of_stored
    (sound : service.manager.store.IsSound)
    (stored : service.manager.store.storedKey? uid = some (.ok key)) :
    service.ShowsKey uid key.toValue where
  ofAccount := by
    intro occasion request gets
    obtain ⟨-, found, -⟩ := sound.finds_storedKey? stored
    apply shows_of_gets gets
    rw [carryOutAt, Manager.keyByAccount, found]
    rfl
  loaded := by
    intro occasion request gets
    obtain ⟨-, -, loaded⟩ := sound.finds_storedKey? stored
    apply shows_of_gets gets
    rw [carryOutAt, Manager.loadKey, loaded]
    rfl

/-- An account that is stored is shown until it is written. -/
theorem keepsAccount_of_stored
    (sound : service.manager.store.IsSound)
    (stored : service.manager.store.storedAccount? uid = some (.ok account)) :
    service.KeepsAccount uid account.toValue where
  named := Account.member?_uid_toValue (sound.lists_storedAccount? stored).1
  shown := by
    intro later spared
    apply showsAccount_of_stored (isSound_run sound later)
    rw [storedAccount?_run sound spared]
    exact stored

/-- A key pair that is stored is shown until it is removed. -/
theorem keepsKey_of_stored
    (sound : service.manager.store.IsSound)
    (stored : service.manager.store.storedKey? uid = some (.ok key)) :
    service.KeepsKey uid key.toValue where
  named := KeyPair.member?_kid_toValue (sound.finds_storedKey? stored).1
  shown := by
    intro later spared
    apply showsKey_of_stored (isSound_run sound later)
    exact storedKey?_run sound stored spared

/-! ## What is written -/

/-- A new account is answered as it is stored, and so is its key pair if it is given one. -/
theorem stored_of_createAccount
    (sound : manager.store.IsSound)
    (creates : createAccount manager occasion request = (.ok response, after)) :
    ∃ account, after.store.storedAccount? occasion.uid = some (.ok account) ∧
      (request.queryFlag "nokey" = .ok true ∧
          response = created (.object [("account", account.toValue)]) ∨
        request.queryFlag "nokey" = .ok false ∧
          ∃ key, after.store.storedKey? occasion.uid = some (.ok key) ∧
            response =
              created (.object [("account", account.toValue), ("key", key.toValue)])) := by
  unfold createAccount at creates
  cases flag : request.queryFlag "nokey" with
  | error rejection =>
      rw [flag] at creates
      cases creates
  | ok withoutKey =>
      cases body : request.jsonBody CreateRequest.reader with
      | error rejection =>
          rw [flag, body] at creates
          cases creates
      | ok value =>
          rw [flag, body, withExtracted, withExtracted] at creates
          dsimp only at creates
          cases withoutKey with
          | true =>
              rw [if_pos rfl] at creates
              rcases manager.createAccount_cases sound occasion _ _ _ with
                ⟨error, refused, -⟩ | ⟨_, record, next, ledger, -, saves, added⟩
              · rw [refused] at creates
                cases creates
              · have loaded : Manager.loadAccount { manager with store := next } occasion.uid =
                    .ok (manager.store.backend.kept record) := saves.loadAccount_eq
                rw [added, Manager.andThen, loaded] at creates
                cases creates
                exact ⟨_, saves.storedAccount?_eq, .inl ⟨rfl, rfl⟩⟩
          | false =>
              rw [if_neg Bool.false_ne_true] at creates
              rcases manager.createAccountWithKey_cases sound occasion _ _ _ with
                ⟨error, refused, -⟩ | ⟨_, -, ⟨error, -, -, left⟩ |
                  ⟨account, key, next, accountStored, keyStored, added⟩⟩
              · rw [refused] at creates
                cases creates
              · rw [left] at creates
                cases creates
              · rw [added] at creates
                cases creates
                exact ⟨account, accountStored, .inr ⟨rfl, key, keyStored, rfl⟩⟩

/-- A changed account is answered as it is stored. -/
theorem stored_of_updateAccount
    (sound : manager.store.IsSound)
    (updates : updateAccount manager occasion uid request = (.ok response, after)) :
    ∃ account, after.store.storedAccount? uid = some (.ok account) ∧
      response = found account.toValue := by
  unfold updateAccount at updates
  cases body : request.jsonBody AccountPatch.reader with
  | error rejection =>
      rw [body] at updates
      cases updates
  | ok value =>
      rw [body, withExtracted] at updates
      rcases manager.updateAccount_cases sound occasion uid (AccountPatch.ofValue value) with
        ⟨error, refused, -⟩ | ⟨account, record, next, ledger, -, saves, updated⟩
      · rw [refused] at updates
        cases updates
      · rw [updated] at updates
        cases updates
        have stored := saves.storedAccount?_eq
        rw [saves.kept_eq (Option.some_ne_none uid)] at stored
        exact ⟨record, stored, rfl⟩

/-- A new key pair is answered as it is stored. -/
theorem stored_of_createKey
    (sound : service.manager.store.IsSound)
    (creates : service.carryOutAt occasion request uid .createKey = (.ok response, after)) :
    ∃ key, after.store.storedKey? uid = some (.ok key) ∧ response = created key.toValue := by
  rw [carryOutAt] at creates
  rcases service.manager.createKey_cases sound occasion uid with
    ⟨error, refused, -⟩ | ⟨key, record, next, ledger, -, saves, added⟩
  · rw [refused] at creates
    cases creates
  · rw [added] at creates
    cases creates
    exact ⟨record, saves.storedKey?_eq, rfl⟩

/-- An action that changes something, and is answered with success, has been carried out. -/
theorem carriedOut_of_status
    (asks : request.Asks action name)
    (isWriting : action.isReading = false)
    (succeeds : (service.respond occasion request).1.status < 400) :
    ∃ response,
      service.carryOutAt occasion request name action =
          (.ok response, (service.respond occasion request).2.manager) ∧
        (service.respond occasion request).1.body = response.body := by
  rw [respond_of_asks asks (asks.bodied isWriting)] at succeeds ⊢
  rcases carried : service.carryOutAt occasion request name action with
    ⟨refusal | response, after⟩
  · rw [carried, status_sent_eq] at succeeds
    exact absurd succeeds (Nat.not_lt_of_le (le_status_of_refusal refusal))
  · exact ⟨response, rfl, body_sent response⟩

/--
Whatever requests have come before, a request that is answered with an account
that it has written is answered with what later requests are shown, and so is one
that is answered with a key pair that it has made.
-/
theorem respond_reads_back
    (rowless : service.manager.store.Rowless)
    (earlier : List (Occasion × Request))
    (occasion : Occasion)
    (request : Request) :
    let answer := ((service.run earlier).respond occasion request).1
    let after := ((service.run earlier).respond occasion request).2
    (∀ name, request.Asks .createAccount name → answer.status = 201 →
      ∃ account, after.KeepsAccount occasion.uid account ∧
        (request.queryFlag "nokey" = .ok true ∧
            answer.body = .json (.object [("account", account)]) ∨
          request.queryFlag "nokey" = .ok false ∧
            ∃ key, after.KeepsKey occasion.uid key ∧
              answer.body = .json (.object [("account", account), ("key", key)]))) ∧
    (∀ uid, request.Asks .updateAccount uid → answer.status = 200 →
      ∃ account, after.KeepsAccount uid account ∧ answer.body = .json account) ∧
    ∀ uid, request.Asks .createKey uid → answer.status = 201 →
      ∃ key, after.KeepsKey uid key ∧ answer.body = .json key := by
  intro answer after
  have sound : (service.run earlier).manager.store.IsSound := isSound_run rowless.isSound earlier
  have afterSound : after.manager.store.IsSound := isSound_respond sound occasion request
  refine ⟨fun name asks status => ?_, fun uid asks status => ?_, fun uid asks status => ?_⟩
  · have succeeds : answer.status < 400 := by omega
    obtain ⟨response, carried, body⟩ := carriedOut_of_status asks rfl succeeds
    obtain ⟨account, stored, answers⟩ := stored_of_createAccount sound carried
    refine ⟨account.toValue, keepsAccount_of_stored afterSound stored, ?_⟩
    rcases answers with ⟨flag, rfl⟩ | ⟨flag, key, keyStored, rfl⟩
    · exact .inl ⟨flag, body⟩
    · exact .inr ⟨flag, key.toValue, keepsKey_of_stored afterSound keyStored, body⟩
  · have succeeds : answer.status < 400 := by omega
    obtain ⟨response, carried, body⟩ := carriedOut_of_status asks rfl succeeds
    obtain ⟨account, stored, rfl⟩ := stored_of_updateAccount sound carried
    exact ⟨account.toValue, keepsAccount_of_stored afterSound stored, body⟩
  · have succeeds : answer.status < 400 := by omega
    obtain ⟨response, carried, body⟩ := carriedOut_of_status asks rfl succeeds
    obtain ⟨key, stored, rfl⟩ := stored_of_createKey sound carried
    exact ⟨key.toValue, keepsKey_of_stored afterSound stored, body⟩

/-- An account in a database is renamed, and shown by its new name when another one is added. -/
theorem respond_reads_back_renamed :
    let drawing (uid : String) : Occasion := ⟨.start, uid, [0x73], .mk fun _ => none⟩
    let asking (method path body : String) : Request :=
      ⟨method, ⟨Text.Utf8.encode path, some (Text.Utf8.encode "nokey=true")⟩,
        [⟨"content-type", Text.Utf8.encode "application/json"⟩], Text.Utf8.encode body⟩
    let ada := asking "POST" "/api/v1/accounts"
      "\x7b\"email\":\"ada@example.org\",\"name\":\"Ada\",\"password\":\"analytical\"\x7d"
    let bob := asking "POST" "/api/v1/accounts"
      "\x7b\"email\":\"bob@example.org\",\"name\":\"Bob\",\"password\":\"difference\"\x7d"
    let patch := asking "PUT" "/api/v1/accounts/first" "\x7b\"name\":\"Countess\"\x7d"
    let reading := asking "GET" "/api/v1/accounts/first" ""
    let store : Store :=
      .database ⟨some "store", ⟨Store.Table.empty.insert "store" (.database .empty)⟩⟩
    let service : Service :=
      ⟨.default, ⟨providers .empty, "sqlite", ⟨some "store", 0⟩, store⟩, .start⟩
    let renamed := (service.run [(drawing "first", ada)]).respond (drawing "") patch
    service.manager.store.Rowless ∧ renamed.1.status = 200 ∧
      ∃ account, renamed.1.body = .json account ∧
        ((renamed.2.run [(drawing "second", bob)]).respond (drawing "") reading).1.Shows
          account := by
  intro drawing asking ada bob patch reading store service renamed
  have rowless : service.manager.store.Rowless := by
    intro path tables found
    obtain ⟨content, inFile, holds⟩ := Option.bind_eq_some_iff.mp found
    rw [Store.Table.get?_insert] at inFile
    split at inFile <;> cases inFile
    exact (Option.some.inj holds).symm
  have status : renamed.1.status = 200 := by decide +kernel
  have asks : patch.Asks .updateAccount "first" := by decide +kernel
  have gets : reading.Gets .loadAccount "first" := ⟨rfl, by decide +kernel⟩
  have spared : renamed.2.Never (WritesAccount "first") [(drawing "second", bob)] := by
    refine ⟨?_, trivial⟩
    rintro (⟨-, drawn, -⟩ | ⟨-, drawn⟩ | ⟨asksBob, -⟩ | ⟨asksBob, -⟩)
    · exact absurd drawn (by decide)
    · exact absurd drawn (by decide)
    · exact absurd asksBob (by decide +kernel)
    · exact absurd asksBob (by decide +kernel)
  obtain ⟨-, updated, -⟩ :=
    respond_reads_back rowless [(drawing "first", ada)] (drawing "") patch
  obtain ⟨account, keeps, body⟩ := updated "first" asks status
  exact ⟨rowless, status, account, body, (keeps.shown _ spared).loaded (drawing "") reading gets⟩

end Service

end Http

end Credential
