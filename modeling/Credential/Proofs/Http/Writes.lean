import Credential.Proofs.Http.Actions
import Credential.Proofs.Http.Atomicity
import Credential.Proofs.Manager.Frames

/-!
# What requests write

A request is carried out by one call of the manager at most.  It writes an account,
or removes a key pair, if it is about it and is not refused.  All other requests
leave the account and the key pair alone, and so do runs of them.
-/

namespace Credential.Http

variable {service : Service} {occasion : Occasion} {request : Request} {action : Action}
  {name : String}

/-! ## Actions and calls -/

/-- A request for something to be changed is not one for the headers of an answer alone. -/
theorem Request.Asks.bodied
    (asks : request.Asks action name)
    (isWriting : action.isReading = false) :
    request.method ≠ "HEAD" := by
  obtain ⟨endpoint, parameters, routed, asked, -⟩ := asks
  intro isHead
  have reading : request.method ∈ readingMethods := by
    rw [isHead]
    decide
  have member := (Endpoint.mem_all_of_ofPath? routed).1
  rw [Endpoint.isReading_of_action? member reading asked] at isWriting
  cases isWriting

/-- An account is asked for by one method at one path. -/
theorem Request.Asks.eq_of_createAccount (asks : request.Asks .createAccount name) :
    request.method = "POST" ∧ request.target.path = Text.Utf8.encode "/api/v1/accounts" := by
  obtain ⟨endpoint, parameters, routed, asked, -⟩ := asks
  exact Endpoint.eq_of_createAccount routed asked

/-- Whether an action on the thing of a name may be carried out by a call of the manager. -/
inductive Action.Makes (name : String) : Action → Manager.Call → Prop where
  | createAccount (email accountName password : String) :
      Makes name .createAccount (.createAccount email accountName password)
  | createAccountWithKey (email accountName password : String) :
      Makes name .createAccount (.createAccountWithKey email accountName password)
  | updateAccount (patch : AccountPatch) : Makes name .updateAccount (.updateAccount name patch)
  | deleteAccount : Makes name .deleteAccount (.deleteAccount name)
  | createKey : Makes name .createKey (.createKey name)
  | deleteKey : Makes name .deleteKey (.deleteKey name)
  | issueToken : Makes name .issueToken (.createToken name)

namespace Service

/-- A request for an account is carried out by one call of the manager, or not at all. -/
theorem createAccount_eq_or_perform (manager : Manager) (occasion : Occasion) (request : Request) :
    (createAccount manager occasion request).2 = manager ∨
      ∃ call, Action.createAccount.Makes name call ∧
        (createAccount manager occasion request).2 = (manager.perform occasion call).2 := by
  unfold createAccount
  cases request.queryFlag "nokey" with
  | error rejection => exact .inl rfl
  | ok withoutKey =>
      rw [withExtracted]
      cases request.jsonBody CreateRequest.reader with
      | error rejection => exact .inl rfl
      | ok value =>
          rw [withExtracted]
          generalize CreateRequest.ofValue value = asked
          obtain ⟨email, accountName, password⟩ := asked
          cases withoutKey with
          | false => exact .inr ⟨_, .createAccountWithKey email accountName password, rfl⟩
          | true =>
              refine .inr ⟨_, .createAccount email accountName password, ?_⟩
              dsimp only
              rw [if_pos rfl, answered, Manager.perform, Manager.answered]
              rcases manager.createAccount occasion email accountName password with ⟨_ | _, _⟩
              · rfl
              · rfl

/-- An action is carried out by one call of the manager, or leaves the manager as it was. -/
theorem carryOutAt_eq_or_perform
    (service : Service)
    (occasion : Occasion)
    (request : Request)
    (name : String)
    (action : Action) :
    (service.carryOutAt occasion request name action).2 = service.manager ∨
      ∃ call, action.Makes name call ∧
        (service.carryOutAt occasion request name action).2 =
          (service.manager.perform occasion call).2 := by
  cases action with
  | createAccount => exact createAccount_eq_or_perform service.manager occasion request
  | updateAccount =>
      change (updateAccount service.manager occasion name request).2 = _ ∨
        ∃ call, _ ∧ (updateAccount service.manager occasion name request).2 = _
      unfold updateAccount
      cases request.jsonBody AccountPatch.reader with
      | error rejection => exact .inl rfl
      | ok value => exact .inr ⟨_, .updateAccount (AccountPatch.ofValue value), rfl⟩
  | deleteAccount => exact .inr ⟨_, .deleteAccount, rfl⟩
  | createKey => exact .inr ⟨_, .createKey, rfl⟩
  | deleteKey => exact .inr ⟨_, .deleteKey, rfl⟩
  | issueToken => exact .inr ⟨_, .issueToken, rfl⟩
  | _ => exact .inl rfl

/-- A request asks for an action, or changes nothing. -/
theorem respond_eq_or_asks (service : Service) (occasion : Occasion) (request : Request) :
    (service.respond occasion request).2 = service ∨
      ∃ action name, request.Asks action name := by
  rcases service.respond_cases occasion request with
    ⟨unchanged, -⟩ | ⟨endpoint, parameters, name, action, routed, asked, named⟩
  · exact .inl unchanged
  · exact .inr ⟨action, name, endpoint, parameters, routed, asked, named⟩

/-- A request for an action has the status, and leaves the manager, that the action comes to. -/
theorem status_of_asks
    (service : Service)
    (occasion : Occasion)
    (asks : request.Asks action name) :
    (service.respond occasion request).1.status =
        statusOf (service.carryOutAt occasion request name action).1 ∧
      (service.respond occasion request).2 =
        { service with manager := (service.carryOutAt occasion request name action).2 } := by
  obtain ⟨endpoint, parameters, routed, asked, named⟩ := asks
  exact service.respond_of_action occasion routed asked named

/-! ## Single requests -/

/--
A request changes nothing, or is carried out by a call of the manager.

It is answered with success then, unless it is for an account that is left alone.
-/
theorem respond_eq_or_perform
    (sound : service.manager.store.IsSound)
    (occasion : Occasion)
    (request : Request) :
    (service.respond occasion request).2 = service ∨
      ∃ action name call, request.Asks action name ∧ action.Makes name call ∧
        (service.respond occasion request).2 =
            { service with manager := (service.manager.perform occasion call).2 } ∧
          ((service.respond occasion request).1.status < 400 ∨
            action = .createAccount ∧ ∃ created, service.Strands occasion request created) := by
  rcases service.respond_eq_or_asks occasion request with unchanged | ⟨action, name, asks⟩
  · exact .inl unchanged
  · obtain ⟨status, after⟩ := service.status_of_asks occasion asks
    rcases service.carryOutAt_eq_or_perform occasion request name action with
      same | ⟨call, makes, performs⟩
    · rw [same] at after
      exact .inl after
    · rcases carryOutAt_cases sound occasion request name action with
        (⟨refusal, refused, -⟩ | ⟨response, next, succeeds, isSuccess⟩) |
          ⟨rfl, created, error, strands, -⟩
      · rw [refused] at after
        exact .inl after
      · rw [performs] at after
        refine .inr ⟨action, name, call, asks, makes, after, .inl ?_⟩
        rw [status, succeeds]
        exact isSuccess
      · rw [performs] at after
        obtain ⟨method, path⟩ := asks.eq_of_createAccount
        exact .inr ⟨_, name, call, asks, makes, after, .inr ⟨rfl, created, strands, method, path⟩⟩

/-- Requests keep the store of a service sound. -/
theorem isSound_respond
    (sound : service.manager.store.IsSound)
    (occasion : Occasion)
    (request : Request) :
    (service.respond occasion request).2.manager.store.IsSound := by
  rcases service.respond_eq_or_perform sound occasion request with
    unchanged | ⟨action, name, call, -, -, after, -⟩
  · rw [unchanged]
    exact sound
  · rw [after]
    exact Manager.isSound_perform sound occasion call

variable {uid kid : String} {key : KeyPair}

/--
Whether a request writes the account of a uid.

It adds the account, with or without a key pair, or it changes or removes the one
that is there.  A request that is refused writes nothing, but for an account that
is left alone.
-/
inductive WritesAccount
    (uid : String)
    (service : Service)
    (occasion : Occasion)
    (request : Request) :
    Prop where
  | added
      {name : String}
      (asks : request.Asks .createAccount name)
      (drawn : occasion.uid = uid)
      (succeeds : (service.respond occasion request).1.status < 400)
  | stranded
      {created : Manager}
      (strands : service.Strands occasion request created)
      (drawn : occasion.uid = uid)
  | changed
      (asks : request.Asks .updateAccount uid)
      (succeeds : (service.respond occasion request).1.status < 400)
  | removed
      (asks : request.Asks .deleteAccount uid)
      (succeeds : (service.respond occasion request).1.status < 400)

/-- Whether a request removes the key pair of a key id. -/
structure RemovesKey
    (kid : String)
    (service : Service)
    (occasion : Occasion)
    (request : Request) :
    Prop where
  asks : request.Asks .deleteKey kid
  succeeds : (service.respond occasion request).1.status < 400

/-- An account stays as it is in a request that does not write it. -/
theorem storedAccount?_respond
    (sound : service.manager.store.IsSound)
    (spared : ¬ service.WritesAccount uid occasion request) :
    (service.respond occasion request).2.manager.store.storedAccount? uid =
      service.manager.store.storedAccount? uid := by
  rcases service.respond_eq_or_perform sound occasion request with
    unchanged | ⟨action, name, call, asks, makes, after, succeeds⟩
  · rw [unchanged]
  · rw [after]
    apply Manager.storedAccount?_perform sound
    have notDrawn (isAddition : action = .createAccount) : occasion.uid ≠ uid := by
      intro drawn
      rcases succeeds with isSuccess | ⟨-, created, strands⟩
      · exact spared (.added (isAddition ▸ asks) drawn isSuccess)
      · exact spared (.stranded strands drawn)
    cases makes with
    | createAccount => exact notDrawn rfl
    | createAccountWithKey => exact notDrawn rfl
    | updateAccount =>
        rintro rfl
        rcases succeeds with isSuccess | ⟨⟨⟩, -⟩
        exact spared (.changed asks isSuccess)
    | deleteAccount =>
        rintro rfl
        rcases succeeds with isSuccess | ⟨⟨⟩, -⟩
        exact spared (.removed asks isSuccess)
    | _ => trivial

/-- A key pair stays as it is in a request that does not remove it. -/
theorem storedKey?_respond
    (sound : service.manager.store.IsSound)
    (stored : service.manager.store.storedKey? kid = some (.ok key))
    (spared : ¬ service.RemovesKey kid occasion request) :
    (service.respond occasion request).2.manager.store.storedKey? kid = some (.ok key) := by
  rcases service.respond_eq_or_perform sound occasion request with
    unchanged | ⟨action, name, call, asks, makes, after, succeeds⟩
  · rw [unchanged]
    exact stored
  · rw [after]
    apply Manager.storedKey?_perform sound stored
    cases makes with
    | deleteKey =>
        rintro rfl
        rcases succeeds with isSuccess | ⟨⟨⟩, -⟩
        exact spared ⟨asks, isSuccess⟩
    | _ => trivial

/-! ## Runs of requests -/

/-- Whether no request of a run does what is spoken of, each where the ones before it lead. -/
def Never
    (does : Service → Occasion → Request → Prop)
    (service : Service) :
    List (Occasion × Request) → Prop
  | [] => True
  | (occasion, request) :: later =>
      ¬ does service occasion request ∧ (service.respond occasion request).2.Never does later

theorem isSound_run
    (sound : service.manager.store.IsSound)
    (requests : List (Occasion × Request)) :
    (service.run requests).manager.store.IsSound := by
  induction requests generalizing service with
  | nil => exact sound
  | cons request rest inductionHypothesis =>
      exact inductionHypothesis (isSound_respond sound request.1 request.2)

/-- An account stays as it is in requests that do not write it. -/
theorem storedAccount?_run
    (sound : service.manager.store.IsSound)
    {requests : List (Occasion × Request)}
    (spared : service.Never (WritesAccount uid) requests) :
    (service.run requests).manager.store.storedAccount? uid =
      service.manager.store.storedAccount? uid := by
  induction requests generalizing service with
  | nil => rfl
  | cons request rest inductionHypothesis =>
      rw [← storedAccount?_respond sound spared.1]
      exact inductionHypothesis (isSound_respond sound request.1 request.2) spared.2

/-- A key pair stays as it is in requests that do not remove it. -/
theorem storedKey?_run
    (sound : service.manager.store.IsSound)
    (stored : service.manager.store.storedKey? kid = some (.ok key))
    {requests : List (Occasion × Request)}
    (spared : service.Never (RemovesKey kid) requests) :
    (service.run requests).manager.store.storedKey? kid = some (.ok key) := by
  induction requests generalizing service with
  | nil => exact stored
  | cons request rest inductionHypothesis =>
      apply inductionHypothesis (isSound_respond sound request.1 request.2)
      · exact storedKey?_respond sound stored spared.1
      · exact spared.2

end Service

end Credential.Http
