import Credential.Http.Service
import Credential.Proofs.Manager.Outcomes
import Credential.Proofs.Token.Refusals

/-!
# Statuses of answers

What is carried out is answered below 400.  A refusal is answered from 400 on,
and with 500 only if the manager is not ready: if its store is closed, if no
private key could be drawn, or if a stored one does not sign.
-/

namespace Credential

/-! ## Managers that are ready -/

/-- Whether a manager has all that its operations need of their surroundings. -/
structure Manager.Ready (manager : Manager) (occasion : Occasion) : Prop where
  isOpen : manager.store.isOpen = true
  drawn : occasion.drawnKey.get ≠ none
  signs : ∀ uid key, manager.store.storedKey? uid = some (.ok key) →
    ∃ token, Token.generate uid key.privKey occasion.now = .ok token

namespace Manager

variable {manager : Manager}

theorem tells_activeKey
    (sound : manager.store.IsSound)
    (isOpen : manager.store.isOpen = true)
    (occasion : Occasion)
    (uid : String) :
    Tells (manager.activeKey uid) := by
  have onTables : (Store.Call.keyByAccount uid).IsOnTables := trivial
  have looks : Tells (manager.keyByAccount uid) :=
    tells_of_call sound isOpen onTables (show manager.store.perform occasion _ = _ from rfl)
  unfold activeKey
  split
  case h_1 error fails => exact .error (looks error fails)
  case h_2 =>
    split
    case isTrue => exact .error (by decide)
    case isFalse => exact .ok _

theorem tells_validateToken
    (sound : manager.store.IsSound)
    (isOpen : manager.store.isOpen = true)
    (occasion : Occasion)
    (token : String) :
    Tells (manager.validateToken token occasion.now) := by
  unfold validateToken
  split
  case h_1 error fails => exact .error ((Token.forbids_signingKid token).tells error fails)
  case h_2 kid _ =>
    split
    case h_1 error fails => exact .error (tells_activeKey sound isOpen occasion kid error fails)
    case h_2 => exact (Token.forbids_verify _ _ _ _).tells

theorem tells_accountByEmail
    (sound : manager.store.IsSound)
    (isOpen : manager.store.isOpen = true)
    (occasion : Occasion)
    (email : String) :
    Tells (manager.accountByEmail email) :=
  have onTables : (Store.Call.accountByEmail email).IsOnTables := trivial
  tells_of_call sound isOpen onTables (show manager.store.perform occasion _ = _ from rfl)

theorem tells_authenticate
    (sound : manager.store.IsSound)
    (isOpen : manager.store.isOpen = true)
    (occasion : Occasion)
    (email password : String) :
    Tells (manager.authenticate email password) := by
  unfold authenticate
  split
  case h_1 error fails =>
    exact .error (tells_accountByEmail sound isOpen occasion email error fails)
  case h_2 account _ =>
    unfold Account.matchPassword
    split
    case h_1 error fails =>
      refine .error ?_
      split at fails
      case h_1 =>
        split at fails <;> cases fails
        decide
      case h_2 =>
        cases fails
        decide
    case h_2 => exact .ok _

theorem tells_loadToken
    (sound : manager.store.IsSound)
    (isOpen : manager.store.isOpen = true)
    (occasion : Occasion)
    (uid : String) :
    Tells (manager.loadToken uid) :=
  have onTables : (Store.Call.loadToken uid).IsOnTables := trivial
  tells_of_call sound isOpen onTables (show manager.store.perform occasion _ = _ from rfl)

theorem tells_tokenByEmail
    (sound : manager.store.IsSound)
    (isOpen : manager.store.isOpen = true)
    (occasion : Occasion)
    (email : String) :
    Tells (manager.tokenByEmail email) := by
  unfold tokenByEmail
  split
  case h_1 error fails =>
    exact .error (tells_accountByEmail sound isOpen occasion email error fails)
  case h_2 =>
    split
    case h_1 => exact .error (by decide)
    case h_2 uid _ => exact tells_loadToken sound isOpen occasion uid

end Manager

namespace Http.Service

variable {α β : Type} {given : Prop} {good : α → Prop}

/-! ## Outcomes -/

/-- The status that an outcome is answered with. -/
def statusOf : Outcome Response → Nat
  | .ok response => response.status
  | .error refusal => refusal.response.status

/-- A refusal is answered from 400 on. -/
theorem le_status_of_refusal (refusal : Refusal) : 400 ≤ refusal.response.status := by
  cases refusal with
  | rejection cause =>
      cases cause <;> decide
  | error cause =>
      change 400 ≤ cause.report.status
      unfold Error.report
      split_ifs <;> simp

/-- Whether an outcome is a good value, or a refusal that is not answered with 500 if need be. -/
def Yields (given : Prop) (good : α → Prop) (outcome : Outcome α) : Prop :=
  match outcome with
  | .ok value => good value
  | .error refusal => given → refusal.response.status ≠ 500

namespace Yields

theorem extracted (extraction : Except Rejection α) :
    Yields given (fun _ => True) (Service.extracted extraction) := by
  cases extraction with
  | ok value => exact trivial
  | error rejection =>
      intro _
      cases rejection <;> decide

theorem operated {outcome : Except Error α} (tells : given → Tells outcome) :
    Yields given (fun _ => True) (Service.operated outcome) := by
  cases outcome with
  | ok value => exact trivial
  | error error => exact fun isGiven => tells isGiven error rfl

theorem bind
    {outcome : Outcome α}
    {next : α → Outcome β}
    {goodNext : β → Prop}
    (yields : Yields given good outcome)
    (goesOn : ∀ value, Yields given goodNext (next value)) :
    Yields given goodNext (outcome >>= next) := by
  cases outcome with
  | ok value => exact goesOn value
  | error refusal => exact yields

theorem map
    {outcome : Outcome α}
    {goodNext : β → Prop}
    (yields : Yields given good outcome)
    {answer : α → β}
    (isGood : ∀ value, goodNext (answer value)) :
    Yields given goodNext (outcome.map answer) := by
  cases outcome with
  | ok value => exact isGood value
  | error refusal => exact yields

theorem givenEmail (text : Option String) :
    Yields given (fun _ => True) (Service.givenEmail text) := by
  unfold Service.givenEmail
  split
  case h_1 => exact trivial
  case h_2 => exact fun _ => by decide

end Yields

/-- Whether an answer tells a success. -/
abbrev IsSuccess (response : Response) : Prop :=
  response.status < 400

/-! ## Actions -/

variable {service : Service} {manager : Manager} {occasion : Occasion}

theorem yields_validateToken
    (sound : service.manager.store.IsSound)
    (request : Request) :
    Yields (service.manager.store.isOpen = true) IsSuccess
      (service.validateToken occasion request) := by
  have token : Yields (service.manager.store.isOpen = true) (fun _ => True)
      (requestToken request) := by
    refine (Yields.extracted _).bind fun query => ?_
    dsimp only
    split
    case h_1 => exact trivial
    case h_2 => exact fun _ => by decide
  refine token.bind fun text => ?_
  have validates (isOpen : service.manager.store.isOpen = true) :=
    Manager.tells_validateToken sound isOpen occasion text
  cases outcome : service.manager.validateToken text occasion.now with
  | ok claims => exact show (200 : Nat) < 400 by decide
  | error error =>
      intro isOpen
      have told := validates isOpen error outcome
      change (hiddenError error).IsTold
      unfold hiddenError
      split
      case isTrue => decide
      case isFalse => exact told

theorem yields_authenticate
    (sound : service.manager.store.IsSound)
    (occasion : Occasion)
    (request : Request) :
    Yields (service.manager.store.isOpen = true) IsSuccess (service.authenticate request) := by
  refine (Yields.extracted _).bind fun fields => (Yields.givenEmail _).bind fun email => ?_
  dsimp only
  split
  case isTrue => exact fun _ => by decide
  case isFalse =>
    refine (Yields.operated fun isOpen => ?_).bind fun account => show (200 : Nat) < 400 by decide
    exact Manager.tells_authenticate sound isOpen occasion _ _

theorem yields_listKeys
    (sound : service.manager.store.IsSound)
    (occasion : Occasion)
    (request : Request) :
    Yields (service.manager.store.isOpen = true) IsSuccess (service.listKeys request) := by
  refine (Yields.extracted _).bind fun query => ?_
  split
  case h_1 text _ =>
    refine (Yields.operated fun isOpen => ?_).bind fun key => show (200 : Nat) < 400 by decide
    have onTables : (Store.Call.keyByPublic (Text.Utf8.encode text)).IsOnTables := trivial
    exact Manager.tells_of_call sound isOpen onTables
      (show service.manager.store.perform occasion _ = _ from rfl)
  case h_2 =>
    refine (Yields.operated fun isOpen => ?_).bind fun keys => show (200 : Nat) < 400 by decide
    have onTables : Store.Call.loadAllKeys.IsOnTables := trivial
    exact Manager.tells_of_call sound isOpen onTables
      (show service.manager.store.perform occasion _ = _ from rfl)

theorem yields_tokenByEmail
    (sound : service.manager.store.IsSound)
    (occasion : Occasion)
    (request : Request) :
    Yields (service.manager.store.isOpen = true) IsSuccess (service.tokenByEmail request) := by
  refine (Yields.extracted _).bind fun query => (Yields.givenEmail _).bind fun email => ?_
  refine (Yields.operated fun isOpen => ?_).bind fun token => show (200 : Nat) < 400 by decide
  exact Manager.tells_tokenByEmail sound isOpen occasion email

/-- Whether a request is refused with nothing changed, or carried out. -/
def IsClean (manager : Manager) (given : Prop) (result : Outcome Response × Manager) : Prop :=
  (∃ refusal, result = (.error refusal, manager) ∧ (given → refusal.response.status ≠ 500)) ∨
    ∃ response after, result = (.ok response, after) ∧ IsSuccess response

namespace IsClean

theorem of_yields {outcome : Outcome Response} (yields : Yields given IsSuccess outcome) :
    IsClean manager given (outcome, manager) := by
  cases outcome with
  | ok response => exact .inr ⟨response, manager, rfl, yields⟩
  | error refusal => exact .inl ⟨refusal, rfl, yields⟩

theorem read
    {outcome : Except Error α}
    (tells : given → Tells outcome)
    {answer : α → Response}
    (isSuccess : ∀ value, IsSuccess (answer value)) :
    IsClean manager given ((Service.operated outcome).map answer, manager) :=
  of_yields ((Yields.operated tells).map isSuccess)

theorem withExtracted
    {extraction : Except Rejection α}
    {next : α → Outcome Response × Manager}
    (isClean : ∀ value, extraction = .ok value → IsClean manager given (next value)) :
    IsClean manager given (Service.withExtracted extraction manager next) := by
  cases extraction with
  | ok value => exact isClean value rfl
  | error rejection =>
      refine .inl ⟨.rejection rejection, rfl, fun _ => ?_⟩
      cases rejection <;> decide

theorem answered
    {result : Except Error α × Manager}
    (comesOut : manager.Refuses given result ∨ ∃ value after, result = (.ok value, after))
    {answer : α → Response}
    (isSuccess : ∀ value, IsSuccess (answer value)) :
    IsClean manager given (Service.answered answer result) := by
  rcases comesOut with ⟨error, rfl, told⟩ | ⟨value, after, rfl⟩
  · exact .inl ⟨.error error, rfl, told⟩
  · exact .inr ⟨answer value, after, rfl, isSuccess value⟩

theorem weaken
    {stronger : Prop}
    {result : Outcome Response × Manager}
    (isClean : IsClean manager given result)
    (implies : stronger → given) :
    IsClean manager stronger result := by
  rcases isClean with ⟨refusal, refused, told⟩ | succeeds
  · exact .inl ⟨refusal, refused, told ∘ implies⟩
  · exact .inr succeeds

end IsClean

/-- Whether the account of a request is added, and then no key pair can be made for it. -/
structure StrandsAccount
    (manager : Manager)
    (occasion : Occasion)
    (request : Request)
    (created : Manager) :
    Prop where
  keyed : request.queryFlag "nokey" = .ok false
  added : ∃ value, request.jsonBody CreateRequest.reader = .ok value ∧
    manager.createAccount occasion (CreateRequest.ofValue value).email
      (CreateRequest.ofValue value).name (CreateRequest.ofValue value).password =
        (.ok occasion.uid, created)
  fails : ∃ error, (created.createKey occasion occasion.uid).1 = .error error

/-- The creation of an account is clean, but for an account that is left alone. -/
theorem createAccount_cases
    (sound : manager.store.IsSound)
    (occasion : Occasion)
    (request : Request) :
    IsClean manager (manager.store.isOpen = true) (createAccount manager occasion request) ∨
      ∃ created error,
        StrandsAccount manager occasion request created ∧
          createAccount manager occasion request = (.error (.error error), created) ∧
          (created.store.isOpen = true ∧ occasion.drawnKey.get ≠ none → error.IsTold) := by
  rw [createAccount]
  cases flag : request.queryFlag "nokey" with
  | error rejection =>
      exact .inl (IsClean.withExtracted fun withoutKey => nofun)
  | ok withoutKey =>
      rw [withExtracted]
      dsimp only
      cases body : request.jsonBody CreateRequest.reader with
      | error rejection =>
          exact .inl (IsClean.withExtracted fun value => nofun)
      | ok value =>
          rw [withExtracted]
          have success (answer : Json.Value) : IsSuccess (created answer) :=
            show (201 : Nat) < 400 by decide
          cases withoutKey with
          | true =>
              rw [if_pos rfl]
              refine .inl (IsClean.answered ?_ fun account => success _)
              rcases manager.createAccount_cases sound occasion _ _ _ with
                refuses | ⟨account, record, after, ledger, -, saves, created⟩
              · exact .inl (refuses.andThen _)
              · have loaded : Manager.loadAccount { manager with store := after } occasion.uid =
                    .ok (manager.store.backend.kept record) := saves.loadAccount_eq
                refine .inr ⟨manager.store.backend.kept record, { manager with store := after }, ?_⟩
                simp only [Manager.andThen, created, loaded]
          | false =>
              rw [if_neg Bool.false_ne_true]
              rcases manager.createAccountWithKey_cases sound occasion _ _ _ with
                refuses | ⟨created, added,
                  ⟨error, fails, told, left⟩ | ⟨account, key, after, -, -, made⟩⟩
              · exact .inl (IsClean.answered (.inl refuses) fun both => success _)
              · refine .inr ⟨created, error, ⟨flag, ⟨value, body, added⟩, error, ?_⟩, ?_, told⟩
                · rw [fails]
                · rw [left]
                  rfl
              · exact .inl (IsClean.answered (.inr ⟨_, after, made⟩) fun both => success _)

/-- Every action is clean, but for the creation of an account that is left alone. -/
theorem carryOutAt_cases
    (sound : service.manager.store.IsSound)
    (occasion : Occasion)
    (request : Request)
    (name : String)
    (action : Action) :
    IsClean service.manager (service.manager.Ready occasion)
        (service.carryOutAt occasion request name action) ∨
      action = .createAccount ∧
        ∃ created error,
          StrandsAccount service.manager occasion request created ∧
            service.carryOutAt occasion request name action =
              (.error (.error error), created) ∧
            (created.store.isOpen = true ∧ occasion.drawnKey.get ≠ none → error.IsTold) := by
  have isOpen : service.manager.Ready occasion → service.manager.store.isOpen = true :=
    Manager.Ready.isOpen
  have found (value : Json.Value) : IsSuccess (found value) := show (200 : Nat) < 400 by decide
  have made (value : Json.Value) : IsSuccess (created value) := show (201 : Nat) < 400 by decide
  have bare : IsSuccess (.bare 204) := show (204 : Nat) < 400 by decide
  have reads {α : Type} (call : Store.Call) {answer : α → Store.Answer} {outcome : Except Error α}
      (onTables : call.IsOnTables)
      (performs : service.manager.store.perform occasion call =
        (outcome.map answer, service.manager.store)) :
      service.manager.Ready occasion → Tells outcome :=
    fun ready => Manager.tells_of_call sound ready.isOpen onTables performs
  have writes {α : Type} (call : Store.Call) {answer : α → Store.Answer}
      {result : Except Error α × Store}
      (onTables : call.IsOnTables)
      (performs : service.manager.store.perform occasion call = Store.changed answer result) :
      service.manager.Refuses (service.manager.Ready occasion) (service.manager.changed result) ∨
        ∃ value after, service.manager.changed result = (.ok value, after) := by
    rcases Manager.refuses_of_call sound onTables performs with refuses | ⟨value, succeeds⟩
    · exact .inl (refuses.weaken isOpen)
    · exact .inr ⟨value, _, succeeds⟩
  cases action with
  | health => exact .inl (.of_yields (found _))
  | time => exact .inl (.of_yields (found _))
  | listAccounts =>
      exact .inl (.read (reads .loadAllAccounts trivial rfl) fun _ => found _)
  | createAccount =>
      rcases createAccount_cases sound occasion request with isClean | stranded
      · exact .inl (isClean.weaken isOpen)
      · exact .inr ⟨rfl, stranded⟩
  | loadAccount =>
      exact .inl (.read (reads (.loadAccount name) trivial rfl) fun _ => found _)
  | updateAccount =>
      refine .inl (IsClean.withExtracted fun value _ => IsClean.answered ?_ fun _ => found _)
      rcases service.manager.updateAccount_cases sound occasion name
        (AccountPatch.ofValue value) with
        refuses | ⟨account, record, after, ledger, -, -, updated⟩
      · exact .inl (refuses.weaken isOpen)
      · exact .inr ⟨_, _, updated⟩
  | deleteAccount =>
      exact .inl (.answered (writes (.deleteAccount name) trivial rfl) fun _ => bare)
  | accountKey =>
      exact .inl (.read (reads (.keyByAccount name) trivial rfl) fun _ => found _)
  | createKey =>
      refine .inl (IsClean.answered ?_ fun _ => made _)
      rcases service.manager.createKey_cases sound occasion name with
        refuses | ⟨key, record, after, ledger, -, -, created⟩
      · exact .inl (refuses.weaken fun ready => ⟨ready.isOpen, ready.drawn⟩)
      · exact .inr ⟨_, _, created⟩
  | accountToken =>
      exact .inl (.read (reads (.loadToken name) trivial rfl) fun _ => found _)
  | hasToken =>
      refine .inl (.of_yields ?_)
      have tells : service.manager.Ready occasion → Tells (service.manager.existsToken name) :=
        reads (.existsToken name) trivial rfl
      split
      case h_1 => exact show (200 : Nat) < 400 by decide
      case h_2 => exact fun _ => by decide
      case h_3 error fails => exact fun ready => tells ready error fails
  | tokenByEmail =>
      exact .inl (IsClean.weaken (.of_yields (yields_tokenByEmail sound occasion request)) isOpen)
  | listKeys =>
      exact .inl (IsClean.weaken (.of_yields (yields_listKeys sound occasion request)) isOpen)
  | loadKey => exact .inl (.read (reads (.loadKey name) trivial rfl) fun _ => found _)
  | deleteKey => exact .inl (.answered (writes (.deleteKey name) trivial rfl) fun _ => bare)
  | authenticate =>
      exact .inl (IsClean.weaken (.of_yields (yields_authenticate sound occasion request)) isOpen)
  | validateToken =>
      exact .inl (IsClean.weaken (.of_yields (yields_validateToken sound request)) isOpen)
  | issueToken =>
      refine .inl (IsClean.answered ?_ fun _ => made _)
      rcases service.manager.createToken_cases sound occasion name with refuses | ⟨token, issued⟩
      · exact .inl (refuses.weaken fun ready => ⟨ready.isOpen, fun key => ready.signs name key⟩)
      · exact .inr ⟨_, _, issued⟩

/-! ## Answers to requests -/

theorem status_shared (response : Response) (policy : OriginPolicy) (headers : Headers) :
    (response.shared policy headers).status = response.status := by
  unfold Response.shared
  split <;> rfl

theorem status_coded (response : Response) (headers : Headers) :
    (response.coded headers).status = response.status := by
  unfold Response.coded
  split
  case isTrue => rfl
  case isFalse =>
    dsimp only
    split <;> rfl

theorem status_sent (response : Response) (request : Request) :
    (if request.method = "HEAD" then (response.coded request.headers).withoutBody
      else response.coded request.headers).status = response.status := by
  split
  case isTrue => exact status_coded response request.headers
  case isFalse => exact status_coded response request.headers

/-- A request that asks for an action is answered as the action comes out. -/
theorem respond_of_action
    (service : Service)
    (occasion : Occasion)
    {endpoint : Endpoint}
    {parameters : List Text.Octets}
    {name : String}
    {action : Action}
    {request : Request}
    (routed : Endpoint.ofPath? request.target.path = some (endpoint, parameters))
    (asked : endpoint.action? request.method = some action)
    (named : parameterText parameters = .ok name) :
    (service.respond occasion request).1.status =
        statusOf (service.carryOutAt occasion request name action).1 ∧
      (service.respond occasion request).2 =
        { service with manager := (service.carryOutAt occasion request name action).2 } := by
  constructor
  · simp only [respond, routed, endpointResponse, asked, carryOut, named, withExtracted]
    rw [status_sent, status_shared]
    cases (service.carryOutAt occasion request name action).1 <;> rfl
  · simp only [respond, routed, endpointResponse, asked, carryOut, named, withExtracted]

/-- A request asks for an action, or it is not carried out. -/
theorem respond_cases (service : Service) (occasion : Occasion) (request : Request) :
    ((service.respond occasion request).2 = service ∧
        (service.respond occasion request).1.status ≠ 500) ∨
      ∃ endpoint parameters name action,
        Endpoint.ofPath? request.target.path = some (endpoint, parameters) ∧
          endpoint.action? request.method = some action ∧ parameterText parameters = .ok name := by
  unfold respond
  split
  case h_1 => exact .inl ⟨rfl, show (404 : Nat) ≠ 500 by decide⟩
  case h_2 endpoint parameters routed =>
    unfold endpointResponse
    dsimp only
    cases asked : endpoint.action? request.method with
    | none =>
        refine .inl ⟨rfl, ?_⟩
        dsimp only
        rw [status_sent]
        split
        · change ((Response.bare 200).shared _ _).status ≠ 500
          rw [status_shared]
          decide
        · change ((Response.bare 405).shared _ _).status ≠ 500
          rw [status_shared]
          decide
    | some action =>
        cases named : parameterText parameters with
        | error rejection =>
            refine .inl ⟨?_, ?_⟩
            · simp only [carryOut, named, withExtracted]
            · simp only [carryOut, named, withExtracted]
              rw [status_sent, status_shared]
              change rejection.status ≠ 500
              cases rejection <;> decide
        | ok name => exact .inr ⟨endpoint, parameters, name, action, routed, asked, named⟩

end Http.Service

end Credential
