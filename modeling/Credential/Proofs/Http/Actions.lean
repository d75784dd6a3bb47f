import Credential.Proofs.Http.Statuses

/-!
# Requests that ask for actions

A request whose method and path lead to an action is answered with what comes out
of the action, under the headers that every answer gets.
-/

namespace Credential.Http

/-- Whether a request asks for an action on the thing of a name. -/
def Request.Asks (request : Request) (action : Action) (name : String) : Prop :=
  ∃ endpoint parameters,
    Endpoint.ofPath? request.target.path = some (endpoint, parameters) ∧
      endpoint.action? request.method = some action ∧
        Service.parameterText parameters = .ok name

namespace Request

/-- What a request asks for, and on the thing of which name. -/
def askedFor? (request : Request) : Option (Action × String) := do
  let (endpoint, parameters) ← Endpoint.ofPath? request.target.path
  let action ← endpoint.action? request.method
  let name ← (Service.parameterText parameters).toOption
  return (action, name)

variable {request : Request} {action : Action} {name : String}

theorem asks_iff : request.Asks action name ↔ request.askedFor? = some (action, name) := by
  unfold Asks askedFor?
  cases Endpoint.ofPath? request.target.path with
  | none => simp
  | some place =>
      obtain ⟨endpoint, parameters⟩ := place
      cases asked : endpoint.action? request.method with
      | none => simp [asked]
      | some found =>
          cases named : Service.parameterText parameters with
          | error rejection => simp [asked, named, Except.toOption]
          | ok text => simp [asked, named, Except.toOption]

instance : Decidable (request.Asks action name) :=
  decidable_of_iff _ asks_iff.symm

end Request

namespace Response

variable {response : Response} {headers : Headers}

@[simp] theorem body_shared (policy : OriginPolicy) :
    (response.shared policy headers).body = response.body := by
  unfold shared
  split <;> rfl

@[simp] theorem body_coded : (response.coded headers).body = response.body := by
  unfold coded
  split
  case isTrue => rfl
  case isFalse =>
    dsimp only
    split <;> rfl

end Response

namespace Service

variable {service : Service} {occasion : Occasion} {request : Request} {action : Action}
  {name : String}

/-- The answer that an outcome makes. -/
def responseOf : Outcome Response → Response
  | .ok response => response
  | .error refusal => refusal.response

/-- An answer as it is sent: with what other origins may do, and in the coding that is wanted. -/
def sent (service : Service) (request : Request) (response : Response) : Response :=
  (response.shared (.ofOrigins service.configuration.cors.origins) request.headers).coded
    request.headers

@[simp] theorem status_sent_eq (response : Response) :
    (service.sent request response).status = response.status := by
  rw [sent, status_coded, status_shared]

@[simp] theorem body_sent (response : Response) :
    (service.sent request response).body = response.body := by
  simp [sent]

theorem octets_found (value : Json.Value) :
    (found value).body.octets = Text.Utf8.encode value.render :=
  rfl

/-- A request that asks for an action is answered with the outcome of the action. -/
theorem respond_of_asks
    (asks : request.Asks action name)
    (bodied : request.method ≠ "HEAD") :
    service.respond occasion request =
      (service.sent request (responseOf (service.carryOutAt occasion request name action).1),
        { service with manager := (service.carryOutAt occasion request name action).2 }) := by
  obtain ⟨endpoint, parameters, routed, asked, named⟩ := asks
  simp only [respond, routed, endpointResponse, asked, carryOut, named, withExtracted,
    if_neg bodied]
  cases (service.carryOutAt occasion request name action).1 <;> rfl

end Service

end Credential.Http
