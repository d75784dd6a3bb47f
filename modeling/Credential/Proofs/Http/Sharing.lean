import Credential.Proofs.Http.Statuses
import Credential.Proofs.Text.Utf8

/-!
# Answers that other origins may read

Every answer at a path of the service says which other origin may read it, as the
configured origins have it, and nothing else does.  Origins that no header can carry
are never allowed anything, and a list of nothing else allows nobody.
-/

namespace Credential.Http

open Credential.Text (Octets)

variable {policy : OriginPolicy} {origins : List String} {headers : Headers} {origin : String}

/-! ## Policies -/

/-- Whether a header can carry a text: its octets are tabs, or neither controls nor deletions. -/
def IsLegalOrigin (origin : String) : Prop :=
  ∀ octet ∈ Text.Utf8.encode origin, octet = 0x09 ∨ 0x20 ≤ octet ∧ octet ≠ 0x7F

theorem isLegalOrigin_iff :
    IsLegalOrigin origin ↔ (Header.value? (Text.Utf8.encode origin)).isSome = true := by
  simp [IsLegalOrigin, Header.value?, isValueOctet, or_comm]

/-- Whether a text is a configured origin that a header can carry, and that a request names. -/
structure IsAllowedOrigin
    (origins : List String)
    (headers : Headers)
    (origin : String) :
    Prop where
  configured : origin ∈ origins
  legal : IsLegalOrigin origin
  /-- The first header that names an origin has the octets of this one. -/
  named : ∃ header,
    (headers.all "origin").head? = some header ∧ header.value = Text.Utf8.encode origin

namespace OriginPolicy

/-- Whether configured origins let the pages of every origin read the answers. -/
def AdmitsAll (origins : List String) : Prop :=
  origins = [] ∨ wildcard ∈ origins

/-- No configured origins make it impossible to build a policy. -/
theorem build?_eq (origins : List String) : build? origins = some (ofOrigins origins) := by
  unfold build? ofOrigins
  split
  case isTrue => rfl
  case isFalse listed =>
    have unlisted : wildcard ∉
        origins.filter fun origin => (Header.value? (Text.Utf8.encode origin)).isSome :=
      fun member => listed (.inr (List.mem_filter.mp member).1)
    rw [list?, if_neg unlisted]

theorem ofOrigins_eq_any (admitsAll : AdmitsAll origins) : ofOrigins origins = .any :=
  if_pos admitsAll

/-- An answer names the configured origin that the request comes from, if it is one of them. -/
theorem allowed?_ofOrigins_eq_some_iff (listed : ¬ AdmitsAll origins) :
    (ofOrigins origins).allowed? headers = some origin ↔
      IsAllowedOrigin origins headers origin := by
  have policy : ofOrigins origins = .listed
      (origins.filter fun origin => (Header.value? (Text.Utf8.encode origin)).isSome) :=
    if_neg listed
  rw [policy, allowed?, Option.bind_eq_some_iff]
  constructor
  · rintro ⟨header, isFirst, found⟩
    have member := List.mem_filter.mp (List.mem_of_find?_eq_some found)
    have same : Text.Utf8.encode origin = header.value := by simpa using List.find?_some found
    exact ⟨member.1, isLegalOrigin_iff.mpr member.2, header, isFirst, same.symm⟩
  · rintro ⟨configured, legal, header, isFirst, same⟩
    refine ⟨header, isFirst, ?_⟩
    have member : origin ∈
        origins.filter fun origin => (Header.value? (Text.Utf8.encode origin)).isSome :=
      List.mem_filter.mpr ⟨configured, isLegalOrigin_iff.mp legal⟩
    cases found : (origins.filter fun origin =>
        (Header.value? (Text.Utf8.encode origin)).isSome).find?
          fun origin => Text.Utf8.encode origin = header.value with
    | none => exact (List.find?_eq_none.mp found origin member (by simp [same])).elim
    | some other =>
        have otherSame : Text.Utf8.encode other = header.value := by
          simpa using List.find?_some found
        rw [Text.Utf8.encode_injective (otherSame.trans same)]

/-- Origins that no header can carry are no wildcard, for a header can carry that. -/
theorem not_admitsAll_of_illegal
    (nonempty : origins ≠ [])
    (illegal : ∀ origin ∈ origins, ¬ IsLegalOrigin origin) :
    ¬ AdmitsAll origins := by
  rintro (empty | member)
  · exact nonempty empty
  · refine illegal wildcard member ?_
    rw [isLegalOrigin_iff]
    decide

/-- A line break is in no header, and a list of it alone is not a list of nothing. -/
example : (ofOrigins ["\n"]).allowed? [⟨"origin", Text.Utf8.encode "\n"⟩] = none := by
  decide

end OriginPolicy

/-! ## Answers -/

namespace Response

variable {response : Response}

/-- The values of the header that tells which other origins may read an answer. -/
def allowedOrigins (response : Response) : List String :=
  (response.headers.filter (·.1 = "access-control-allow-origin")).map Prod.snd

@[simp] theorem allowedOrigins_of (status : Nat) (body : Body) :
    (of status body).allowedOrigins = [] := by
  cases body <;> rfl

@[simp] theorem allowedOrigins_withHeader (name value : String) :
    (response.withHeader name value).allowedOrigins =
      response.allowedOrigins ++
        if name = "access-control-allow-origin" then [value] else [] := by
  rw [allowedOrigins, withHeader, List.filter_append, List.map_append, allowedOrigins]
  split
  case isTrue same => simp [same]
  case isFalse differs => simp [differs]

@[simp] theorem allowedOrigins_shared :
    (response.shared policy headers).allowedOrigins =
      response.allowedOrigins ++ (policy.allowed? headers).toList := by
  unfold shared
  cases policy.allowed? headers <;> simp

@[simp] theorem allowedOrigins_preflight :
    (preflight policy headers).allowedOrigins = (policy.allowed? headers).toList := by
  simp [preflight, bare]

@[simp] theorem allowedOrigins_coded :
    (response.coded headers).allowedOrigins = response.allowedOrigins := by
  unfold coded
  split
  case isTrue => rfl
  case isFalse =>
    dsimp only
    split <;> simp

@[simp] theorem allowedOrigins_withoutBody :
    response.withoutBody.allowedOrigins = response.allowedOrigins :=
  rfl

/-- Whether an answer does not say which other origins may read it. -/
abbrev IsUnshared (response : Response) : Prop :=
  response.allowedOrigins = []

end Response

namespace Service

variable {service : Service}

/-- The origins that a service is configured with. -/
abbrev configuredOrigins (service : Service) : List String :=
  service.configuration.cors.origins

/-! ## Actions -/

/-- Whether an outcome says nothing about other origins if it is an answer, and no refusal. -/
abbrev AnswersUnshared (outcome : Outcome Response) : Prop :=
  Yields False Response.IsUnshared outcome

/-- A value that an operation gives is told without a word on other origins. -/
theorem unshared_operated
    {Result : Type}
    (outcome : Except Error Result)
    {answer : Result → Response}
    (unshared : ∀ result, (answer result).IsUnshared) :
    AnswersUnshared ((operated outcome).map answer) :=
  (Yields.operated False.elim).map unshared

theorem unshared_answered
    {Result : Type}
    (result : Except Error Result × Manager)
    {answer : Result → Response}
    (unshared : ∀ result, (answer result).IsUnshared) :
    AnswersUnshared (answered answer result).1 :=
  unshared_operated result.1 unshared

theorem unshared_withExtracted
    {Part : Type}
    (extraction : Except Rejection Part)
    (manager : Manager)
    {next : Part → Outcome Response × Manager}
    (unshared : ∀ part, AnswersUnshared (next part).1) :
    AnswersUnshared (withExtracted extraction manager next).1 := by
  cases extraction with
  | ok part => exact unshared part
  | error rejection => exact False.elim

theorem unshared_createAccount
    (manager : Manager)
    (occasion : Occasion)
    (request : Request) :
    AnswersUnshared (createAccount manager occasion request).1 := by
  refine unshared_withExtracted _ _ fun withoutKey => unshared_withExtracted _ _ fun value => ?_
  dsimp only
  split
  case isTrue => exact unshared_answered _ fun account => Response.allowedOrigins_of _ _
  case isFalse => exact unshared_answered _ fun both => Response.allowedOrigins_of _ _

theorem unshared_validateToken (service : Service) (occasion : Occasion) (request : Request) :
    AnswersUnshared (service.validateToken occasion request) := by
  have token : Yields False (fun _ => True) (requestToken request) := by
    refine (Yields.extracted _).bind fun query => ?_
    dsimp only
    split
    case h_1 => exact trivial
    case h_2 => exact False.elim
  refine token.bind fun text => ?_
  split
  case h_1 => exact Response.allowedOrigins_of _ _
  case h_2 => exact False.elim

theorem unshared_authenticate (service : Service) (request : Request) :
    AnswersUnshared (service.authenticate request) := by
  refine (Yields.extracted _).bind fun fields => (Yields.givenEmail _).bind fun email => ?_
  dsimp only
  split
  case isTrue => exact False.elim
  case isFalse =>
    exact (Yields.operated False.elim).bind fun account => Response.allowedOrigins_of _ _

theorem unshared_listKeys (service : Service) (request : Request) :
    AnswersUnshared (service.listKeys request) := by
  refine (Yields.extracted _).bind fun query => ?_
  split
  case h_1 => exact (Yields.operated False.elim).bind fun key => Response.allowedOrigins_of _ _
  case h_2 => exact (Yields.operated False.elim).bind fun keys => Response.allowedOrigins_of _ _

theorem unshared_tokenByEmail (service : Service) (request : Request) :
    AnswersUnshared (service.tokenByEmail request) := by
  refine (Yields.extracted _).bind fun query => (Yields.givenEmail _).bind fun email => ?_
  exact (Yields.operated False.elim).bind fun token => Response.allowedOrigins_of _ _

/-- No action says which other origins may read its answer. -/
theorem unshared_carryOutAt
    (service : Service)
    (occasion : Occasion)
    (request : Request)
    (name : String)
    (action : Action) :
    AnswersUnshared (service.carryOutAt occasion request name action).1 := by
  have of (status : Nat) (body : Body) : (Response.of status body).IsUnshared :=
    Response.allowedOrigins_of status body
  cases action with
  | health => exact of _ _
  | time => exact of _ _
  | listAccounts => exact unshared_operated _ fun accounts => of _ _
  | createAccount => exact unshared_createAccount _ _ _
  | loadAccount => exact unshared_operated _ fun account => of _ _
  | updateAccount =>
      exact unshared_withExtracted _ _ fun value => unshared_answered _ fun account => of _ _
  | deleteAccount => exact unshared_answered _ fun _ => of _ _
  | accountKey => exact unshared_operated _ fun key => of _ _
  | createKey => exact unshared_answered _ fun key => of _ _
  | accountToken => exact unshared_operated _ fun token => of _ _
  | hasToken =>
      dsimp only [carryOutAt]
      split
      case h_1 => exact of _ _
      case h_2 => exact False.elim
      case h_3 => exact False.elim
  | tokenByEmail => exact unshared_tokenByEmail _ _
  | listKeys => exact unshared_listKeys _ _
  | loadKey => exact unshared_operated _ fun key => of _ _
  | deleteKey => exact unshared_answered _ fun _ => of _ _
  | authenticate => exact unshared_authenticate _ _
  | validateToken => exact unshared_validateToken _ _ _
  | issueToken => exact unshared_answered _ fun token => of _ _

theorem unshared_refusal (refusal : Refusal) : refusal.response.IsUnshared := by
  cases refusal <;> exact Response.allowedOrigins_of _ _

/-- An answer at an endpoint allows what the policy of the service does. -/
theorem allowedOrigins_endpointResponse
    (service : Service)
    (occasion : Occasion)
    (request : Request)
    (endpoint : Endpoint)
    (parameters : List Octets) :
    (service.endpointResponse occasion request endpoint parameters).1.allowedOrigins =
      ((OriginPolicy.ofOrigins service.configuredOrigins).allowed?
        request.headers).toList := by
  unfold endpointResponse
  split
  case h_1 action _ =>
    have unshared : AnswersUnshared (service.carryOut occasion request parameters action).1 :=
      unshared_withExtracted _ _ fun name => service.unshared_carryOutAt _ _ name action
    generalize service.carryOut occasion request parameters action = result at unshared
    obtain ⟨outcome, manager⟩ := result
    dsimp only
    cases outcome with
    | ok response =>
        have isUnshared : response.IsUnshared := unshared
        rw [Response.allowedOrigins_shared, isUnshared, List.nil_append]
    | error refusal =>
        rw [Response.allowedOrigins_shared, unshared_refusal, List.nil_append]
  case h_2 =>
    dsimp only
    split <;> simp [Response.bare]

theorem allowedOrigins_respond_of_unrouted
    (service : Service)
    (occasion : Occasion)
    {request : Request}
    (unrouted : Endpoint.ofPath? request.target.path = none) :
    (service.respond occasion request).1.allowedOrigins = [] := by
  rw [respond, unrouted]
  exact Response.allowedOrigins_of _ _

/-- An answer at a path of the service allows what its policy does. -/
theorem allowedOrigins_respond_of_routed
    (service : Service)
    (occasion : Occasion)
    {request : Request}
    (routed : Endpoint.ofPath? request.target.path ≠ none) :
    (service.respond occasion request).1.allowedOrigins =
      ((OriginPolicy.ofOrigins service.configuredOrigins).allowed?
        request.headers).toList := by
  obtain ⟨⟨endpoint, parameters⟩, leads⟩ := Option.ne_none_iff_exists'.mp routed
  rw [respond, leads,
    ← service.allowedOrigins_endpointResponse occasion request endpoint parameters]
  dsimp only
  split <;> simp

/-! ## Answers of a service -/

/-- Whether the answer to a request says which other origins may read it as it is configured. -/
structure SharesAsConfigured
    (service : Service)
    (occasion : Occasion)
    (request : Request) :
    Prop where
  /-- The policy of these origins can be built. -/
  built : OriginPolicy.build? service.configuredOrigins =
    some (.ofOrigins service.configuredOrigins)
  unrouted : Endpoint.ofPath? request.target.path = none →
    (service.respond occasion request).1.allowedOrigins = []
  everyone : OriginPolicy.AdmitsAll service.configuredOrigins →
    Endpoint.ofPath? request.target.path ≠ none →
      (service.respond occasion request).1.allowedOrigins = [OriginPolicy.wildcard]
  /-- Otherwise the origin that the request names may read the answer, if it is configured. -/
  listed : ¬ OriginPolicy.AdmitsAll service.configuredOrigins → ∀ origin,
    (service.respond occasion request).1.allowedOrigins = [origin] ↔
      Endpoint.ofPath? request.target.path ≠ none ∧
        IsAllowedOrigin service.configuredOrigins request.headers origin
  single : (service.respond occasion request).1.allowedOrigins.length ≤ 1
  /-- Origins that no header can carry are allowed nothing, and are no wildcard. -/
  illegal : service.configuredOrigins ≠ [] →
    (∀ origin ∈ service.configuredOrigins, ¬ IsLegalOrigin origin) →
      (service.respond occasion request).1.allowedOrigins = []

/-- Every service answers every request as its origins are configured. -/
theorem sharesAsConfigured
    (service : Service)
    (occasion : Occasion)
    (request : Request) :
    service.SharesAsConfigured occasion request where
  built := OriginPolicy.build?_eq _
  unrouted := service.allowedOrigins_respond_of_unrouted occasion
  everyone := by
    intro admitsAll routed
    rw [service.allowedOrigins_respond_of_routed occasion routed,
      OriginPolicy.ofOrigins_eq_any admitsAll]
    rfl
  listed := by
    intro listed origin
    by_cases routed : Endpoint.ofPath? request.target.path = none
    · simp [service.allowedOrigins_respond_of_unrouted occasion routed, routed]
    · rw [service.allowedOrigins_respond_of_routed occasion routed, Option.toList_eq_singleton_iff,
        OriginPolicy.allowed?_ofOrigins_eq_some_iff listed]
      exact (and_iff_right routed).symm
  single := by
    by_cases routed : Endpoint.ofPath? request.target.path = none
    · simp [service.allowedOrigins_respond_of_unrouted occasion routed]
    · rw [service.allowedOrigins_respond_of_routed occasion routed]
      exact Option.length_toList_le
  illegal := by
    intro nonempty illegal
    by_cases routed : Endpoint.ofPath? request.target.path = none
    · exact service.allowedOrigins_respond_of_unrouted occasion routed
    · rw [service.allowedOrigins_respond_of_routed occasion routed, Option.toList_eq_nil_iff,
        Option.eq_none_iff_forall_ne_some]
      intro origin allowed
      rw [OriginPolicy.allowed?_ofOrigins_eq_some_iff
        (OriginPolicy.not_admitsAll_of_illegal nonempty illegal)] at allowed
      exact illegal origin allowed.configured allowed.legal

end Service

end Credential.Http
