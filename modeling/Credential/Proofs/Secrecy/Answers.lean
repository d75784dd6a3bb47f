import Credential.Http.Service
import Credential.Proofs.Secrecy.Managers

/-!
# Answers tell no secrets

Two services whose stores differ in password hashes and private halves only
answer a request alike, and stay alike.  Two requests are about secrets: one has
a token signed, and one has a password checked.  The former is left out; of the
latter no more is told than whether the password is the right one.
-/

namespace Credential.Http

open Credential.Store (SameMasked)
open Credential.Text (Octets)

/-- What a request asks for, if its path leads to an endpoint that takes its method. -/
def Request.asked? (request : Request) : Option Action :=
  (Endpoint.ofPath? request.target.path).bind fun (endpoint, _) => endpoint.action? request.method

namespace Service

/-- A service on the store without its secrets. -/
def masked (service : Service) : Service :=
  { service with manager := service.manager.masked }

/-- Whether the form of a request gives an email and the password of its live account. -/
def AcceptsForm (service : Service) (request : Request) : Prop :=
  ∃ fields email, request.formFields ["email", "password"] = .ok fields ∧
    fields.lookup "email" = some email ∧
      service.manager.Accepts email ((fields.lookup "password").getD "")

variable {first second : Service} {Result : Type}

theorem manager_of_masked (alike : first.masked = second.masked) :
    first.manager.masked = second.manager.masked :=
  congrArg manager alike

/-! ## Ways to make an answer -/

/-- An answer that tells no secret of a value is the same for values that are alike. -/
theorem operated_alike
    (tell : Result → Result)
    (answer : Result → Response)
    (silent : ∀ value, answer (tell value) = answer value)
    {one other : Except Error Result}
    (alike : one.map tell = other.map tell) :
    (operated one).map answer = (operated other).map answer := by
  rcases Manager.cases_of_alike alike with ⟨error, rfl, rfl⟩ | ⟨value, otherValue, rfl, rfl, same⟩
  · rfl
  · refine congrArg Except.ok ?_
    rw [← silent value, same, silent otherValue]

theorem answered_alike
    (tell : Result → Result)
    {answer : Result → Response}
    (silent : ∀ value, answer (tell value) = answer value)
    {one other : Except Error Result × Manager}
    (alike : SameMasked tell Manager.masked one other) :
    SameMasked id Manager.masked (answered answer one) (answered answer other) where
  outcome := congrArg (Except.map id) (operated_alike tell answer silent alike.outcome)
  state := alike.state

theorem withExtracted_alike
    {Value : Type}
    {extraction : Except Rejection Value}
    {one other : Manager}
    {next otherNext : Value → Outcome Response × Manager}
    (alike : one.masked = other.masked)
    (goesOn : ∀ value, SameMasked id Manager.masked (next value) (otherNext value)) :
    SameMasked id Manager.masked (withExtracted extraction one next)
      (withExtracted extraction other otherNext) := by
  cases extraction with
  | error rejection => exact ⟨rfl, alike⟩
  | ok value => exact goesOn value

/-! ## The actions -/

theorem healthValue_alike (alike : first.masked = second.masked) (now : Time.Instant) :
    first.healthValue now = second.healthValue now := by
  have told (service : Service) : service.masked.healthValue now = service.healthValue now := by
    simp [healthValue, masked, Manager.masked, Manager.status]
  rw [← told first, alike, told]

theorem authenticate_alike
    (alike : first.masked = second.masked)
    {request : Request}
    (accepts : first.AcceptsForm request ↔ second.AcceptsForm request) :
    first.authenticate request = second.authenticate request := by
  unfold authenticate
  unfold AcceptsForm at accepts
  cases formed : request.formFields ["email", "password"] with
  | error rejection => rfl
  | ok fields =>
      simp only [extracted, bind, Except.bind]
      cases given : givenEmail (fields.lookup "email") with
      | error refusal => rfl
      | ok email =>
          have named : fields.lookup "email" = some email := by
            unfold givenEmail at given
            split at given
            case h_1 text nonEmpty =>
              cases given
              exact (Option.filter_eq_some_iff.mp nonEmpty).1
            case h_2 => cases given
          have answers := Manager.authenticate_alike (manager_of_masked alike) email
            ((fields.lookup "password").getD "") (by simpa [formed, named] using accepts)
          dsimp only
          rw [answers]

theorem listKeys_alike (alike : first.masked = second.masked) (request : Request) :
    first.listKeys request = second.listKeys request := by
  have managers := manager_of_masked alike
  unfold listKeys
  cases request.queryText "pubkey" with
  | error rejection => rfl
  | ok query =>
      simp only [extracted, bind, Except.bind]
      cases nonEmpty query with
      | none =>
          apply operated_alike (List.map KeyPair.withoutPrivate)
            (fun keys => found (.list (keys.map KeyPair.toValue)))
          · intro keys
            simp [Function.comp_def]
          · exact Manager.reads_alike Store.loadAllKeys Store.loadAllKeys_masked managers
      | some text =>
          apply operated_alike KeyPair.withoutPrivate fun key => found (.list [key.toValue])
          · intro key
            rfl
          · apply Manager.reads_alike (Store.keyByPublic · _)
            · exact (Store.keyByPublic_masked · _)
            · exact managers

theorem tokenByEmail_alike (alike : first.masked = second.masked) (request : Request) :
    first.tokenByEmail request = second.tokenByEmail request := by
  unfold tokenByEmail
  simp only [Manager.tokenByEmail_alike (manager_of_masked alike)]

theorem validateToken_alike
    (alike : first.masked = second.masked)
    (occasion : Occasion)
    (request : Request) :
    first.validateToken occasion request = second.validateToken occasion request := by
  unfold validateToken
  simp only [Manager.validateToken_alike (manager_of_masked alike)]

theorem createAccount_alike
    {one other : Manager}
    (alike : one.masked = other.masked)
    (occasion : Occasion)
    (request : Request) :
    SameMasked id Manager.masked (createAccount one occasion request)
      (createAccount other occasion request) := by
  unfold createAccount
  apply withExtracted_alike alike
  intro withoutKey
  apply withExtracted_alike alike
  intro value
  dsimp only
  split
  · apply answered_alike Account.withoutPassword fun _ => rfl
    apply Manager.andThen_alike (Manager.createAccount_alike alike occasion _ _ _)
    intro uid otherUid first second same alike
    obtain rfl : uid = otherUid := same
    exact ⟨Manager.loadAccount_alike alike uid, alike⟩
  · exact answered_alike (Prod.map id KeyPair.withoutPrivate) (fun _ => rfl)
      (Manager.createAccountWithKey_alike alike occasion _ _ _)

theorem updateAccount_alike
    {one other : Manager}
    (alike : one.masked = other.masked)
    (occasion : Occasion)
    (uid : String)
    (request : Request) :
    SameMasked id Manager.masked (updateAccount one occasion uid request)
      (updateAccount other occasion uid request) := by
  unfold updateAccount
  apply withExtracted_alike alike
  intro value
  exact answered_alike id (fun _ => rfl) (Manager.updateAccount_alike alike occasion uid _)

/-- Every action but two is blind to secrets. -/
theorem carryOutAt_alike
    (alike : first.masked = second.masked)
    (occasion : Occasion)
    {request : Request}
    (name : String)
    {action : Action}
    (notIssuing : action ≠ .issueToken)
    (accepts : action = .authenticate → (first.AcceptsForm request ↔ second.AcceptsForm request)) :
    SameMasked id Manager.masked (first.carryOutAt occasion request name action)
      (second.carryOutAt occasion request name action) := by
  have managers := manager_of_masked alike
  have told {one other : Outcome Response} (same : one = other) :
      SameMasked id Manager.masked (one, first.manager) (other, second.manager) :=
    ⟨congrArg (Except.map id) same, managers⟩
  cases action with
  | health =>
      apply told
      rw [healthValue_alike alike]
  | time => exact told rfl
  | listAccounts =>
      refine told (operated_alike (List.map Account.withoutPassword) _ ?_ ?_)
      · intro accounts
        simp [Function.comp_def]
      · exact Manager.reads_alike Store.loadAllAccounts Store.loadAllAccounts_masked managers
  | createAccount => exact createAccount_alike managers occasion request
  | loadAccount =>
      exact told (operated_alike Account.withoutPassword _ (fun _ => rfl)
        (Manager.loadAccount_alike managers name))
  | updateAccount => exact updateAccount_alike managers occasion name request
  | deleteAccount =>
      exact answered_alike id (fun _ => rfl) (Manager.deleteAccount_alike managers name)
  | accountKey =>
      exact told (operated_alike KeyPair.withoutPrivate _ (fun _ => rfl)
        (Manager.keyByAccount_alike managers name))
  | createKey =>
      exact answered_alike KeyPair.withoutPrivate (fun _ => rfl)
        (Manager.createKey_alike managers occasion name)
  | accountToken =>
      apply told
      rw [Manager.loadToken_alike managers]
  | hasToken =>
      apply told
      rw [Manager.existsToken_alike managers]
  | tokenByEmail => exact told (tokenByEmail_alike alike request)
  | listKeys => exact told (listKeys_alike alike request)
  | loadKey =>
      exact told (operated_alike KeyPair.withoutPrivate _ (fun _ => rfl)
        (Manager.reads_alike (Store.loadKey · name) (Store.loadKey_masked · name) managers))
  | deleteKey => exact answered_alike id (fun _ => rfl) (Manager.deleteKey_alike managers name)
  | authenticate => exact told (authenticate_alike alike (accepts rfl))
  | validateToken => exact told (validateToken_alike alike occasion request)
  | issueToken => exact (notIssuing rfl).elim

theorem endpointResponse_alike
    (alike : first.masked = second.masked)
    (occasion : Occasion)
    {request : Request}
    {endpoint : Endpoint}
    (parameters : List Octets)
    (notIssuing : endpoint.action? request.method ≠ some .issueToken)
    (accepts : endpoint.action? request.method = some .authenticate →
      (first.AcceptsForm request ↔ second.AcceptsForm request)) :
    (first.endpointResponse occasion request endpoint parameters).1 =
        (second.endpointResponse occasion request endpoint parameters).1 ∧
      (first.endpointResponse occasion request endpoint parameters).2.masked =
        (second.endpointResponse occasion request endpoint parameters).2.masked := by
  have configuration := congrArg Service.configuration alike
  change first.configuration = second.configuration at configuration
  unfold endpointResponse
  rw [configuration]
  split
  case h_1 action asked =>
    have same : SameMasked id Manager.masked (first.carryOut occasion request parameters action)
        (second.carryOut occasion request parameters action) := by
      apply withExtracted_alike (manager_of_masked alike)
      intro name
      apply carryOutAt_alike alike
      · rintro rfl
        exact notIssuing asked
      · rintro rfl
        exact accepts asked
    obtain ⟨outcome, state⟩ := same
    rw [Except.map_id, id, id] at outcome
    refine ⟨?_, state⟩
    dsimp only
    rw [outcome]
  case h_2 => exact ⟨rfl, manager_of_masked alike⟩

/--
Two services that differ in the secrets of their stores only give the same
answer to a request, and differ in the secrets of their stores only afterwards.

The request does not have a token signed.  If it has a password checked, the
check comes out alike in both.
-/
theorem respond_alike
    (first second : Service)
    (alike : first.masked = second.masked)
    (occasion : Occasion)
    (request : Request)
    (notIssuing : request.asked? ≠ some .issueToken)
    (accepts : request.asked? = some .authenticate →
      (first.AcceptsForm request ↔ second.AcceptsForm request)) :
    (first.respond occasion request).1 = (second.respond occasion request).1 ∧
      (first.respond occasion request).2.masked = (second.respond occasion request).2.masked := by
  unfold Request.asked? at notIssuing accepts
  unfold respond
  cases found : Endpoint.ofPath? request.target.path with
  | none => exact ⟨rfl, alike⟩
  | some place =>
      obtain ⟨endpoint, parameters⟩ := place
      rw [found] at notIssuing accepts
      obtain ⟨response, manager⟩ :=
        endpointResponse_alike alike occasion parameters notIssuing accepts
      dsimp only
      rw [response]
      refine ⟨rfl, ?_⟩
      simp only [masked, mk.injEq] at alike ⊢
      exact ⟨alike.1, manager, alike.2.2⟩

/-- A password that is right for neither of two hashes is refused alike. -/
theorem respond_alike_mistaken :
    let ada (password : String) : Account :=
      { Account.blank with email := .value "ada@example.org", password := .value password }
    let service (password : String) : Service :=
      ⟨.default, ⟨providers .empty, "memory", ⟨none, 0⟩,
        .memory ⟨some ⟨Store.Table.empty.insert "first" (ada password), .empty, .empty⟩⟩⟩, .start⟩
    let occasion : Occasion := ⟨.start, "", [], .mk fun _ => none⟩
    let request : Request :=
      ⟨"POST", ⟨Text.Utf8.encode "/api/v1/authenticate", none⟩,
        [⟨"content-type", Text.Utf8.encode "application/x-www-form-urlencoded"⟩],
        Text.Utf8.encode "email=ada%40example.org&password=analytical"⟩
    (service "one").masked = (service "other").masked ∧
      request.asked? = some .authenticate ∧
      ¬ (service "one").AcceptsForm request ∧ ¬ (service "other").AcceptsForm request ∧
      ((service "one").respond occasion request).1 =
        ((service "other").respond occasion request).1 ∧
      ((service "one").respond occasion request).2.masked =
        ((service "other").respond occasion request).2.masked := by
  intro ada service occasion request
  have alike : (service "one").masked = (service "other").masked := rfl
  have asked : request.asked? = some .authenticate := by decide +kernel
  have formed : request.formFields ["email", "password"] =
      .ok [("email", "ada@example.org"), ("password", "analytical")] := by
    decide +kernel
  have refuses (password : String)
      (mistaken : Password.accepts password "analytical" = false) :
      ¬ (service password).AcceptsForm request := by
    rintro ⟨fields, email, sameForm, named, account, found, matched⟩
    obtain rfl := Except.ok.inj (formed.symm.trans sameForm)
    obtain rfl : "ada@example.org" = email := Option.some.inj named
    obtain rfl : ada password = account := Except.ok.inj found
    change (if Password.accepts password "analytical" then Except.ok ()
      else .error Error.passwordMismatch) = .ok () at matched
    rw [mistaken] at matched
    cases matched
  have one := refuses "one" (by decide +kernel)
  have other := refuses "other" (by decide +kernel)
  refine ⟨alike, asked, one, other, ?_⟩
  apply respond_alike (service "one") (service "other") alike occasion request
  · rw [asked]
    decide
  · intro _
    exact iff_of_false one other

end Service

end Credential.Http
