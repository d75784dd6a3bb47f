import Credential.Http.Service
import Credential.Proofs.Manager.ValidAccounts

/-!
# Accounts stored over HTTP have passwords

A manager saves any valid record that it is given, also one without a password
or with a text in its place that is no hash.  The service never hands it such a
record: the records that requests lead to carry the hash of an acceptable
password, or leave the stored one alone.
-/

namespace Credential

open Credential.Text (Octets)

/-! ## What requests lead to -/

namespace Http.Service

variable {occasion : Occasion}

/-- Whether a call hands a manager no record, and does not connect or disconnect its store. -/
def IsServed : Manager.Call → Prop
  | .init => False
  | .close => False
  | .saveAccount _ => False
  | .saveKey _ => False
  | _ => True

theorem IsServed.stays {call : Manager.Call} (served : IsServed call) :
    call ≠ .init ∧ call ≠ .close := by
  constructor
  · rintro rfl
    exact served
  · rintro rfl
    exact served

/-- Whether calls of a store that the service may make lead from one store to another. -/
def Serves (occasion : Occasion) (before after : Store) : Prop :=
  ∃ call : Manager.Call, IsServed call ∧
    before.Leads (Manager.Makes call occasion) occasion after

namespace Serves

theorem refl (store : Store) : Serves occasion store store :=
  ⟨.loadAllAccounts, trivial, .refl store⟩

/-- What has been taken out of a request changes no store. -/
theorem withExtracted
    {α : Type}
    {extraction : Except Rejection α}
    {manager : Manager}
    {next : α → Outcome Response × Manager}
    (serves : ∀ value, Serves occasion manager.store (next value).2.store) :
    Serves occasion manager.store (Service.withExtracted extraction manager next).2.store := by
  cases extraction with
  | error rejection => exact .refl manager.store
  | ok value => exact serves value

theorem createAccount (manager : Manager) (request : Request) :
    Serves occasion manager.store (Service.createAccount manager occasion request).2.store := by
  unfold Service.createAccount
  apply withExtracted
  intro withoutKey
  apply withExtracted
  intro value
  dsimp only
  split
  case isTrue =>
    refine ⟨.loadAllAccounts, trivial, ?_⟩
    apply Manager.leads_andThen
    · apply Manager.leads_createAccount
    · intro uid
      exact .refl _
  case isFalse =>
    refine ⟨.loadAllAccounts, trivial, ?_⟩
    apply Manager.leads_createAccountWithKey

theorem updateAccount (manager : Manager) (uid : String) (request : Request) :
    Serves occasion manager.store (Service.updateAccount manager occasion uid request).2.store := by
  unfold Service.updateAccount
  apply withExtracted
  intro value
  exact ⟨.loadAllAccounts, trivial, Manager.leads_updateAccount manager uid _⟩

theorem carryOutAt (service : Service) (request : Request) (name : String) (action : Action) :
    Serves occasion service.manager.store
      (service.carryOutAt occasion request name action).2.store := by
  cases action with
  | createAccount => exact createAccount service.manager request
  | updateAccount => exact updateAccount service.manager name request
  | deleteAccount =>
      exact ⟨.deleteAccount name, trivial, service.manager.leads_perform occasion _⟩
  | createKey => exact ⟨.createKey name, trivial, service.manager.leads_perform occasion _⟩
  | deleteKey => exact ⟨.deleteKey name, trivial, service.manager.leads_perform occasion _⟩
  | issueToken =>
      exact ⟨.createToken name, trivial, service.manager.leads_perform occasion _⟩
  | _ => exact .refl _

theorem endpointResponse
    (service : Service)
    (request : Request)
    (endpoint : Endpoint)
    (parameters : List Octets) :
    Serves occasion service.manager.store
      (service.endpointResponse occasion request endpoint parameters).2.store := by
  rw [Service.endpointResponse]
  split
  case h_1 action asked =>
    apply withExtracted
    intro name
    exact carryOutAt service request name action
  case h_2 => exact .refl _

/-- A request leads from the store of a service to the one that is left. -/
theorem respond (service : Service) (request : Request) :
    Serves occasion service.manager.store (service.respond occasion request).2.manager.store := by
  rw [Service.respond]
  split
  case h_1 => exact .refl _
  case h_2 endpoint parameters found => exact endpointResponse service request endpoint parameters

end Serves

end Http.Service

/-! ## Accounts with passwords -/

namespace Account

/-- Whether an account has the hash of an acceptable password, made with one of some salts. -/
def HasHash (salts : List Octets) (account : Account) : Prop :=
  ∃ salt ∈ salts, ∃ password : String, 8 ≤ password.length ∧ password.length ≤ 256 ∧
    account.password = .value (Password.hash salt password)

variable {salts : List Octets} {account stored : Account}

theorem HasHash.cleared (hasHash : account.HasHash salts) : account.cleared.HasHash salts := by
  obtain ⟨salt, member, password, least, greatest, hashed⟩ := hasHash
  exact ⟨salt, member, password, least, greatest, by simp [Account.cleared, hashed]⟩

/-- A record that brings the hash of a password has it, whatever it is merged with. -/
theorem hasHash_of_password
    {occasion : Occasion}
    {password : String}
    (member : occasion.salt ∈ salts)
    (accepted : passwordOk password = true)
    (hashed : account.password = .value (Password.hash occasion.salt password)) :
    account.HasHash salts := by
  rw [passwordOk, Bool.and_eq_true, decide_eq_true_eq, decide_eq_true_eq] at accepted
  exact ⟨occasion.salt, member, password, accepted.1, accepted.2, hashed⟩

end Account

namespace Http.Service

/-- Whether every account is settled and has the hash of an acceptable password. -/
abbrev Keeps (salts : List Octets) : Store → Prop :=
  Store.EveryAccount fun account => account.IsSettled ∧ account.HasHash salts

/-- A request keeps the passwords of all accounts. -/
theorem keeps_respond
    {service : Service}
    {salts : List Octets}
    (keeps : Keeps salts service.manager.store)
    {occasion : Occasion}
    (member : occasion.salt ∈ salts)
    (request : Request) :
    Keeps salts (service.respond occasion request).2.manager.store := by
  have serves : Serves occasion service.manager.store
      (service.respond occasion request).2.manager.store := Serves.respond service request
  obtain ⟨call, served, leads⟩ := serves
  refine leads.preserves ?_ keeps
  intro store storeCall keeps makes
  apply keeps.perform fun _ both => ⟨both.1.cleared, both.2.cleared⟩
  · rintro account rfl isNew
    obtain ⟨approves, saves | ⟨named, -⟩ | ⟨password, accepted, hashed⟩⟩ := makes
    · subst saves
      exact served.elim
    · exact (named isNew).elim
    · exact ⟨approves.prepareInsert isNew, Account.hasHash_of_password member accepted hashed⟩
  · rintro account uid stored rfl named loaded both
    obtain ⟨approves, saves | ⟨-, unset⟩ | ⟨password, accepted, hashed⟩⟩ := makes
    · subst saves
      exact served.elim
    · refine ⟨approves.prepareUpdate named loaded both.1, ?_⟩
      obtain ⟨salt, known, password, least, greatest, hashed⟩ := both.2
      refine ⟨salt, known, password, least, greatest, ?_⟩
      rw [Account.prepareUpdate, unset]
      exact hashed
    · refine ⟨approves.prepareUpdate named loaded both.1, ?_⟩
      apply Account.hasHash_of_password member accepted
      rw [Account.prepareUpdate, hashed]
      rfl

/-- Any run of requests keeps the passwords of all accounts. -/
theorem keeps_run
    {service : Service}
    {salts : List Octets}
    (keeps : Keeps salts service.manager.store)
    (requests : List (Occasion × Request))
    (members : ∀ request ∈ requests, request.1.salt ∈ salts) :
    Keeps salts (service.run requests).manager.store := by
  induction requests generalizing service with
  | nil => exact keeps
  | cons request rest inductionHypothesis =>
      apply inductionHypothesis
      · exact keeps_respond keeps (members request List.mem_cons_self) request.2
      · intro later member
        exact members later (List.mem_cons_of_mem request member)

end Http.Service

/--
Whatever calls a manager of an empty store carries out, every stored account is
valid.  If requests alone have led to them, every one has the hash of an
acceptable password too.
-/
theorem validAccounts_run :
    (∀ manager : Manager, manager.store.Rowless →
      ∀ (calls : List (Occasion × Manager.Call)) uid reading,
        (manager.run calls).store.storedAccount? uid = some reading →
          ∃ account, reading = .ok account ∧ account.IsSettled) ∧
    ∀ service : Http.Service, service.manager.store.Rowless →
      ∀ (requests : List (Occasion × Http.Request)) uid reading,
        (service.run requests).manager.store.storedAccount? uid = some reading →
          ∃ account, reading = .ok account ∧ account.IsSettled ∧
            account.HasHash (requests.map fun request => request.1.salt) := by
  constructor
  · intro manager rowless calls uid reading stored
    have every := Manager.everyAccount_run (.of_rowless rowless) calls
    exact every.stored stored
  · intro service rowless requests uid reading stored
    have keeps : Http.Service.Keeps (requests.map fun request => request.1.salt)
        (service.run requests).manager.store := by
      apply Http.Service.keeps_run (.of_rowless rowless)
      intro request member
      exact List.mem_map_of_mem member
    exact keeps.stored stored

/-- An account that is marked as deleted stays valid; one that a request adds has a hash too. -/
theorem validAccounts_run_added :
    let drawing (uid : String) : Occasion := ⟨.start, uid, [0x73], .mk fun _ => none⟩
    let ada := { Account.blank with email := .value "ada@example.org", name := .value "Ada" }
    let calls : List (Occasion × Manager.Call) :=
      [(drawing "", .init), (drawing "first", .saveAccount ada),
        (drawing "", .updateAccount "first" ⟨.unset, .unset, none, .null, .value true⟩)]
    let addition : Http.Request :=
      ⟨"POST", ⟨Text.Utf8.encode "/api/v1/accounts", some (Text.Utf8.encode "nokey=true")⟩,
        [⟨"content-type", Text.Utf8.encode "application/json"⟩],
        Text.Utf8.encode
          "\x7b\"email\":\"ada@example.org\",\"name\":\"Ada\",\"password\":\"analytical\"\x7d"⟩
    let manager : Manager :=
      ⟨Http.Service.providers .empty, "sqlite", ⟨some "store", 0⟩, .database (.initial .empty)⟩
    let service : Http.Service :=
      ⟨.default, { manager with store := .memory ⟨some .empty⟩ }, .start⟩
    manager.store.Rowless ∧ service.manager.store.Rowless ∧
      (∃ account, (manager.run calls).store.storedAccount? "first" = some (.ok account) ∧
        account.isDeleted = true ∧ account.IsSettled) ∧
      ∃ account,
        (service.run [(drawing "first", addition)]).manager.store.storedAccount? "first" =
          some (.ok account) ∧
        account.IsSettled ∧ account.HasHash [[0x73]] := by
  intro drawing ada calls addition manager service
  have database : manager.store.Rowless := by
    rintro path tables ⟨⟩
  have memory : service.manager.store.Rowless := by
    rintro tables ⟨⟩
    rfl
  let kept : Account :=
    { ada with
      uid := some "first"
      password := .null
      active := .value true
      created := some .start
      updated := some .start
      deleted := .value true }
  have keptStored : (manager.run calls).store.storedAccount? "first" = some (.ok kept) := by
    decide +kernel
  have addedStored :
      ((service.run [(drawing "first", addition)]).manager.store.storedAccount?
        "first").isSome = true := by
    decide +kernel
  obtain ⟨reading, addedStored⟩ := Option.isSome_iff_exists.mp addedStored
  obtain ⟨_, ⟨⟩, settled⟩ := validAccounts_run.1 manager database calls "first" _ keptStored
  obtain ⟨account, rfl, both⟩ :=
    validAccounts_run.2 service memory [(drawing "first", addition)] "first" reading addedStored
  exact ⟨database, memory, ⟨kept, keptStored, rfl, settled⟩, account, addedStored, both⟩

end Credential
