import Credential.Proofs.Http.Statuses

/-!
# Requests are all or nothing

A request that only reads leaves the service as it was, and so does a request
that is answered with an error.  There is one exception: the account of a request
for an account with a key pair stays if the key pair cannot be made.
-/

namespace Credential

namespace Http

open Credential.Text (Octets)

/-! ## Requests that only read -/

/-- Whether an action leaves the store alone. -/
def Action.isReading : Action → Bool
  | .createAccount | .updateAccount | .deleteAccount | .createKey | .deleteKey | .issueToken =>
      false
  | _ => true

/-- The methods of requests that only read. -/
def readingMethods : List String :=
  ["GET", "HEAD", "OPTIONS"]

namespace Endpoint

theorem mem_all_of_ofPath?
    {path : Octets}
    {endpoint : Endpoint}
    {parameters : List Octets}
    (routed : ofPath? path = some (endpoint, parameters)) :
    endpoint ∈ all ∧ ∃ segments, segments? path = some segments ∧
      Place.fit? endpoint.places segments = some parameters := by
  obtain ⟨segments, split, found⟩ := Option.bind_eq_some_iff.mp routed
  obtain ⟨other, member, fits⟩ := List.exists_of_findSome?_eq_some found
  obtain ⟨_, fit, same⟩ := Option.map_eq_some_iff.mp fits
  cases same
  exact ⟨member, segments, split, fit⟩

/-- A method that only reads asks for actions that do. -/
theorem isReading_of_action?
    {endpoint : Endpoint}
    {method : String}
    {action : Action}
    (member : endpoint ∈ all)
    (reading : method ∈ readingMethods)
    (asked : endpoint.action? method = some action) :
    action.isReading = true := by
  have every : ∀ endpoint ∈ all, ∀ method ∈ readingMethods,
      (endpoint.action? method).all Action.isReading = true := by
    decide
  have reads := every endpoint member method reading
  rw [asked] at reads
  exact reads

/-- A path that is made of names has these names for its segments. -/
theorem eq_of_fit?_fixed
    {names : List String}
    {segments parameters : List Octets}
    (fits : Place.fit? (names.map .fixed) segments = some parameters) :
    segments = names.map Text.Utf8.encode := by
  induction names generalizing segments parameters with
  | nil =>
      cases segments with
      | nil => rfl
      | cons segment rest => cases fits
  | cons name names inductionHypothesis =>
      cases segments with
      | nil => cases fits
      | cons segment rest =>
          simp only [List.map_cons, Place.fit?] at fits
          split at fits
          case isTrue same => rw [same, inductionHypothesis fits, List.map_cons]
          case isFalse => cases fits

theorem eq_of_segments?
    {path : Octets}
    {segments : List Octets}
    (split : segments? path = some segments) :
    path = 0x2F :: [0x2F].intercalate segments := by
  unfold segments? at split
  split at split
  case h_1 rest =>
    cases split
    rw [List.intercalate_splitOn]
  case h_2 => cases split

/-- Accounts are created by one method at one path. -/
theorem eq_of_createAccount
    {path : Octets}
    {endpoint : Endpoint}
    {parameters : List Octets}
    {method : String}
    (routed : ofPath? path = some (endpoint, parameters))
    (asked : endpoint.action? method = some .createAccount) :
    method = "POST" ∧ path = Text.Utf8.encode "/api/v1/accounts" := by
  have only : ∀ endpoint ∈ all, ∀ entry ∈ endpoint.actions, entry.2 = .createAccount →
      entry.1 = "POST" ∧ endpoint.places = ["api", "v1", "accounts"].map .fixed := by
    decide
  obtain ⟨member, segments, split, fits⟩ := mem_all_of_ofPath? routed
  have among : (method, Action.createAccount) ∈ endpoint.actions := by
    obtain ⟨before, after, isActions, -⟩ := List.lookup_eq_some_iff.mp asked
    rw [isActions]
    simp
  obtain ⟨isPost, places⟩ := only endpoint member _ among rfl
  refine ⟨isPost, ?_⟩
  rw [places] at fits
  rw [eq_of_segments? split, eq_of_fit?_fixed fits]
  decide

end Endpoint

/-! ## Requests that change something -/

end Http

/-- Whether a store has an account under a uid, and nothing else is other than before. -/
structure Store.GainsAccount (before : Store) (uid : String) (account : Account) (after : Store) :
    Prop where
  stored : after.storedAccount? uid = some (.ok account)
  elsewhere : before.SameBut (.account uid) after

namespace Http.Service

variable {service : Service} {occasion : Occasion} {request : Request}

theorem carryOutAt_of_isReading
    {action : Action}
    (isReading : action.isReading = true)
    (name : String) :
    (service.carryOutAt occasion request name action).2 = service.manager := by
  cases action <;> first | rfl | cases isReading

/-- Whether a request for an account with a key pair adds the account, and then fails. -/
structure Strands
    (service : Service)
    (occasion : Occasion)
    (request : Request)
    (created : Manager) :
    Prop extends StrandsAccount service.manager occasion request created where
  method : request.method = "POST"
  path : request.target.path = Text.Utf8.encode "/api/v1/accounts"

/-- An account that is left alone is all that is new. -/
theorem StrandsAccount.gainsAccount
    {manager created : Manager}
    (sound : manager.store.IsSound)
    (strands : StrandsAccount manager occasion request created) :
    ∃ account, manager.store.GainsAccount occasion.uid account created.store := by
  obtain ⟨value, -, added⟩ := strands.added
  rcases manager.createAccount_cases sound occasion _ _ _ with
    ⟨error, refused, -⟩ | ⟨account, record, after, ledger, -, saves, made⟩
  · cases added.symm.trans refused
  · obtain ⟨-, rfl⟩ := Prod.mk.inj (added.symm.trans made)
    exact ⟨_, saves.storedAccount?_eq, saves.sameBut⟩

/-- An account that is left alone is there, and the error of its key pair is answered. -/
theorem StrandsAccount.createAccount_eq
    {manager created : Manager}
    (sound : manager.store.IsSound)
    (strands : StrandsAccount manager occasion request created) :
    ∃ error, createAccount manager occasion request = (.error (.error error), created) := by
  obtain ⟨value, body, added⟩ := strands.added
  obtain ⟨error, fails⟩ := strands.fails
  have createdSound := Manager.isSound_of_createAccount sound added
  rcases created.createKey_cases createdSound occasion occasion.uid with
    ⟨failure, refused, -⟩ | ⟨key, record, after, ledger, -, -, keyed⟩
  · refine ⟨failure, ?_⟩
    simp only [createAccount, strands.keyed, withExtracted, body, Bool.false_eq_true, ↓reduceIte,
      Manager.createAccountWithKey, added, Manager.andThen, refused]
    rfl
  · rw [keyed] at fails
    cases fails

/--
Requests are all or nothing, whatever state the service has come to.

One that only reads changes nothing, and neither does one that is answered with an
error, unless it is for an account with a key pair and the key pair cannot be made
when the account is there.  Then there is one new account, and nothing else is new.
-/
theorem respond_atomic
    (reachable : service.manager.Reachable)
    (occasion : Occasion)
    (request : Request) :
    (request.method ∈ readingMethods → (service.respond occasion request).2 = service) ∧
    (400 ≤ (service.respond occasion request).1.status →
      (¬ ∃ created, service.Strands occasion request created) →
        (service.respond occasion request).2 = service) ∧
    ∀ created, service.Strands occasion request created →
      400 ≤ (service.respond occasion request).1.status ∧
        (service.respond occasion request).2 = { service with manager := created } ∧
        ∃ account, service.manager.store.GainsAccount occasion.uid account created.store := by
  have sound := reachable.isSound
  refine ⟨?reading, ?refused, ?stranded⟩
  case reading =>
    intro reading
    rcases service.respond_cases occasion request with
      ⟨unchanged, -⟩ | ⟨endpoint, parameters, name, action, routed, asked, named⟩
    · exact unchanged
    · have isReading :=
        Endpoint.isReading_of_action? (Endpoint.mem_all_of_ofPath? routed).1 reading asked
      rw [(service.respond_of_action occasion routed asked named).2,
        carryOutAt_of_isReading isReading]
  case refused =>
    intro isError notStranded
    rcases service.respond_cases occasion request with
      ⟨unchanged, -⟩ | ⟨endpoint, parameters, name, action, routed, asked, named⟩
    · exact unchanged
    · obtain ⟨status, after⟩ := service.respond_of_action occasion routed asked named
      rw [status] at isError
      rw [after]
      rcases carryOutAt_cases sound occasion request name action with
        (⟨refusal, refused, -⟩ | ⟨response, next, succeeds, isSuccess⟩) |
          ⟨rfl, created, error, strands, -⟩
      · rw [refused]
      · rw [succeeds] at isError
        exact absurd isError (Nat.not_le_of_lt isSuccess)
      · obtain ⟨method, path⟩ := Endpoint.eq_of_createAccount routed asked
        exact (notStranded ⟨created, strands, method, path⟩).elim
  case stranded =>
    intro created strands
    obtain ⟨endpoint, routed, asked⟩ : ∃ endpoint,
        Endpoint.ofPath? request.target.path = some (endpoint, []) ∧
          endpoint.action? request.method = some .createAccount := by
      rw [strands.path, strands.method]
      exact ⟨_, rfl, rfl⟩
    have named : parameterText [] = .ok "" := by decide
    obtain ⟨status, after⟩ := service.respond_of_action occasion routed asked named
    obtain ⟨error, outcome⟩ := strands.toStrandsAccount.createAccount_eq sound
    have carried : service.carryOutAt occasion request "" .createAccount =
        (.error (.error error), created) := outcome
    rw [carried] at status after
    refine ⟨?_, after, strands.toStrandsAccount.gainsAccount sound⟩
    rw [status]
    exact le_status_of_refusal (.error error)

/-- An account stays alone if no private key can be drawn, and it is the only one then. -/
theorem respond_atomic_stranded :
    let occasion : Occasion := ⟨.start, "first", [0x73], .mk fun _ => none⟩
    let addition : Request :=
      ⟨"POST", ⟨Text.Utf8.encode "/api/v1/accounts", none⟩,
        [⟨"content-type", Text.Utf8.encode "application/json"⟩],
        Text.Utf8.encode
          "\x7b\"email\":\"ada@example.org\",\"name\":\"Ada\",\"password\":\"analytical\"\x7d"⟩
    let service : Service :=
      ⟨.default, ⟨providers .empty, "memory", ⟨none, 0⟩, .memory ⟨some .empty⟩⟩, .start⟩
    service.manager.Reachable ∧
      ∃ created account, service.Strands occasion addition created ∧
        400 ≤ (service.respond occasion addition).1.status ∧
        (service.respond occasion addition).2 = { service with manager := created } ∧
        service.manager.store.storedAccount? "first" = none ∧
        service.manager.store.GainsAccount "first" account created.store := by
  intro occasion addition service
  have reachable : service.manager.Reachable := by
    apply Manager.Reachable.start
    rintro tables ⟨⟩
    rfl
  have keyed : addition.queryFlag "nokey" = .ok false := by decide +kernel
  have accepted :
      (match addition.jsonBody CreateRequest.reader with
        | .ok value =>
            (service.manager.createAccount occasion (CreateRequest.ofValue value).email
              (CreateRequest.ofValue value).name
              (CreateRequest.ofValue value).password).1.toOption
        | .error _ => none) = some "first" := by
    decide +kernel
  split at accepted
  case h_2 => cases accepted
  case h_1 value body =>
    rcases added : service.manager.createAccount occasion (CreateRequest.ofValue value).email
      (CreateRequest.ofValue value).name (CreateRequest.ofValue value).password with
      ⟨error | uid, created⟩
    · rw [added] at accepted
      cases accepted
    · rw [added] at accepted
      obtain rfl : uid = "first" := Option.some.inj accepted
      have createdSound := Manager.isSound_of_createAccount reachable.isSound added
      have fails : ∃ error, (created.createKey occasion "first").1 = .error error := by
        rcases created.createKey_cases createdSound occasion "first" with
          ⟨error, refused, -⟩ | ⟨key, record, after, ledger, generated, -, -⟩
        · exact ⟨error, congrArg Prod.fst refused⟩
        · cases generated
      have strands : service.Strands occasion addition created :=
        { keyed, added := ⟨value, body, added⟩, fails, method := rfl, path := rfl }
      obtain ⟨status, after, account, gains⟩ :=
        (respond_atomic reachable occasion addition).2.2 created strands
      exact ⟨reachable, created, account, strands, status, after, rfl, gains⟩

end Http.Service

end Credential
