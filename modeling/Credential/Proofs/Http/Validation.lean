import Credential.Proofs.Http.Actions
import Credential.Proofs.Token.Validation

/-!
# Validation over HTTP

A caller outside learns of a token only whether it is good: every token that is
refused, for whatever reason and in whatever state of the store, is answered in
the same words.
-/

namespace Credential

namespace Store

variable {store : Store}

/-- Whether every row of the key pairs of a store can be read. -/
def ReadsKeys (store : Store) : Prop :=
  ∀ kid reading, store.storedKey? kid = some reading → ∃ key, reading = .ok key

/-- All rows can be read that were written by calls. -/
theorem IsSound.readsKeys (sound : store.IsSound) : store.ReadsKeys := by
  intro kid reading stored
  obtain ⟨ledger, showing, -⟩ := sound.exists_shows (isOpen_of_storedKey? stored)
  rw [showing.storedKey?_eq] at stored
  obtain ⟨key, -, rfl⟩ := Option.map_eq_some_iff.mp stored
  exact ⟨key, rfl⟩

/-- The row of the key pair of an account is stored under some key id. -/
theorem exists_storedKey?_of_heldKey
    {accountId : String}
    {held : HeldKey}
    (isHeld : store.heldKey accountId = some (some held)) :
    ∃ kid, store.storedKey? kid = some held.read := by
  unfold heldKey at isHeld
  cases store with
  | memory store =>
      obtain ⟨tables, isOpen, isHeld⟩ := Option.map_eq_some_iff.mp isHeld
      obtain ⟨record, found, rfl⟩ := Option.map_eq_some_iff.mp isHeld
      obtain ⟨kid, present⟩ := Table.mem_rows_iff.mp (List.mem_of_find?_eq_some found)
      exact ⟨kid, by simp [storedKey?, isOpen, present, HeldKey.read]⟩
  | database store =>
      obtain ⟨tables, isOpen, isHeld⟩ := Option.map_eq_some_iff.mp isHeld
      obtain ⟨row, found, rfl⟩ := Option.map_eq_some_iff.mp isHeld
      obtain ⟨kid, present⟩ := Table.mem_rows_iff.mp (List.mem_of_find?_eq_some found)
      exact ⟨kid, by simp [storedKey?, isOpen, present, HeldKey.read]⟩

/-- An open store has tables to look for a key pair in. -/
theorem heldKey_ne_none (isOpen : store.isOpen = true) (accountId : String) :
    store.heldKey accountId ≠ none := by
  cases store with
  | memory store =>
      obtain ⟨tables, isOpen⟩ := Option.isSome_iff_exists.mp isOpen
      simp [heldKey, isOpen]
  | database store =>
      obtain ⟨tables, isOpen⟩ := Option.isSome_iff_exists.mp isOpen
      simp [heldKey, isOpen]

/-- Where all rows can be read, a look-up finds a key pair or that there is none. -/
theorem ReadsKeys.keyByAccount_cases
    (reads : store.ReadsKeys)
    (isOpen : store.isOpen = true)
    (accountId : String) :
    (∃ key, store.keyByAccount accountId = .ok key) ∨
      store.keyByAccount accountId = .error .keyNotFound := by
  rw [keyByAccount_eq_heldKey]
  split
  case h_1 closed => exact (heldKey_ne_none isOpen accountId closed).elim
  case h_2 => exact .inr rfl
  case h_3 held isHeld =>
    obtain ⟨kid, stored⟩ := exists_storedKey?_of_heldKey isHeld
    exact .inl (reads kid _ stored)

end Store

/-- A token is refused for what it is, or because its key pair is not there. -/
theorem Manager.validateToken_error
    {manager : Manager}
    {token : String}
    {now : Time.Instant}
    {error : Error}
    (isOpen : manager.store.isOpen = true)
    (reads : manager.store.ReadsKeys)
    (refused : manager.validateToken token now = .error error) :
    error.isSecurity = true ∨ error = .keyNotFound := by
  unfold validateToken at refused
  split at refused
  case h_1 failure unclear =>
    cases refused
    exact .inl (Token.forbids_signingKid token _ unclear)
  case h_2 kid signing =>
    unfold activeKey keyByAccount at refused
    rcases reads.keyByAccount_cases isOpen kid with ⟨key, found⟩ | missing
    · rw [found] at refused
      dsimp only at refused
      by_cases inactive : key.active = some false
      · rw [if_pos inactive] at refused
        cases refused
        exact .inl rfl
      · rw [if_neg inactive] at refused
        exact .inl (Token.forbids_verify _ _ _ _ _ refused)
    · rw [missing] at refused
      cases refused
      exact .inr rfl

namespace Http

/-! ## Tokens of requests -/

theorem nonEmpty_nonEmpty (text : Option String) : nonEmpty (nonEmpty text) = nonEmpty text := by
  simp [nonEmpty, Option.filter_filter]

theorem nonEmpty_bearerToken? (headers : Headers) :
    nonEmpty (bearerToken? headers) = bearerToken? headers := by
  unfold bearerToken?
  cases headers.text? "authorization" with
  | none => rfl
  | some text =>
      rw [Option.bind_eq_bind, Option.bind_some]
      dsimp only
      split
      case isTrue => exact nonEmpty_nonEmpty _
      case isFalse => rfl

/-- The token that counts is the first one that is not empty. -/
theorem token?_eq_head? (form query : Option String) (headers : Headers) (cookies : List Cookie) :
    token? form query headers cookies =
      ([form, query, bearerToken? headers, Cookie.find? cookies tokenName].filterMap
        nonEmpty).head? := by
  have cons (source : Option String) (rest : List (Option String)) :
      ((source :: rest).filterMap nonEmpty).head? =
        (nonEmpty source).or (rest.filterMap nonEmpty).head? := by
    rw [List.filterMap_cons]
    cases nonEmpty source <;> rfl
  simp [token?, cookieToken?, cons, nonEmpty_bearerToken?]

/--
The tokens that a request carries, in the order in which they count.

They come in a form, in the query, after the bearer scheme, and in a cookie; an
empty one is none.
-/
def Request.tokens (request : Request) (query : Option String) : List String :=
  [(request.formFields [tokenName]).toOption.bind (·.lookup tokenName), query,
    bearerToken? request.headers,
    Cookie.find? (Cookie.ofHeaders request.headers) tokenName].filterMap nonEmpty

namespace Service

variable {service : Service} {occasion : Occasion} {request : Request} {query : Option String}

/-- What counts of a request whose query can be read is the first of its tokens. -/
theorem requestToken_eq (parses : request.queryText tokenName = .ok query) :
    requestToken request =
      (request.tokens query).head?.elim (.error (.error (.nilArgument "jwt"))) .ok := by
  rw [requestToken, parses, Request.tokens, ← token?_eq_head?]
  cases request.formFields [tokenName] with
  | error rejection =>
      dsimp only [extracted, bind, Except.bind, Except.toOption, Option.bind]
      cases token? none query request.headers (Cookie.ofHeaders request.headers) <;> rfl
  | ok fields =>
      dsimp only [extracted, bind, Except.bind, Except.toOption, Option.bind]
      cases token? (fields.lookup tokenName) query request.headers
        (Cookie.ofHeaders request.headers) <;> rfl

/-- What is told about a token that is good. -/
def validationValue (claims : Token.Claims) : Json.Value :=
  .object
    [("valid", .flag true), ("sub", .text claims.sub), ("exp", .integer claims.exp.toInt)]

/-- What is told about every other one. -/
def forbiddenText : String :=
  "\x7b\"status\":\"error\",\"error\":\"Forbidden\",\"message\":\"forbidden\"\x7d"

/-- A token that is refused is answered in the same words, whatever is wrong with it. -/
theorem ofError_hiddenError
    {error : Error}
    (refuses : error.isSecurity = true ∨ error = .keyNotFound) :
    Response.ofError (hiddenError error) = .ofError .unauthorized := by
  rcases refuses with isSecurity | rfl
  · unfold hiddenError
    split
    case isTrue => rfl
    case isFalse =>
      have secret : Error.unauthorized.isSecurity = true := rfl
      simp only [Response.ofError, Error.report, if_pos isSecurity, if_pos secret]
  · rfl

theorem octets_forbidden :
    (Response.ofError .unauthorized).body.octets = Text.Utf8.encode forbiddenText := by
  decide +kernel

/-- How a request for the validation of a token comes out. -/
theorem responseOf_validateToken
    (isOpen : service.manager.store.isOpen = true)
    (reads : service.manager.store.ReadsKeys)
    (parses : request.queryText tokenName = .ok query) :
    responseOf (service.validateToken occasion request) =
      match (request.tokens query).head? with
      | none => .ofError (.nilArgument "jwt")
      | some token =>
          match service.manager.validateToken token occasion.now with
          | .ok claims => found (validationValue claims)
          | .error _ => .ofError .unauthorized := by
  rw [validateToken, requestToken_eq parses]
  cases (request.tokens query).head? with
  | none => rfl
  | some token =>
      dsimp only [bind, Except.bind, Option.elim_some]
      cases outcome : service.manager.validateToken token occasion.now with
      | ok claims => rfl
      | error error => exact ofError_hiddenError (Manager.validateToken_error isOpen reads outcome)

theorem asks_validateToken
    (path : request.target.path = Text.Utf8.encode "/api/v1/jwt/token/validate")
    (method : request.method = "GET" ∨ request.method = "POST") :
    request.Asks .validateToken "" := by
  let endpoint : Endpoint :=
    ⟨Endpoint.versioned [.fixed "jwt", .fixed "token", .fixed "validate"],
      [("GET", .validateToken), ("HEAD", .validateToken), ("POST", .validateToken)]⟩
  have routed :
      Endpoint.ofPath? (Text.Utf8.encode "/api/v1/jwt/token/validate") = some (endpoint, []) := by
    decide +kernel
  refine ⟨endpoint, [], by rw [path, routed], ?_, by decide +kernel⟩
  rcases method with isGet | isPost
  · rw [isGet]
    decide
  · rw [isPost]
    decide

/--
A request for the validation of a token is answered with 400 if it carries none.
Otherwise the first token that it carries counts: if it is good the answer has the
subject and the last second of validity, and in every other case it is one and the
same refusal, whatever the token and the store.

The rows of the key pairs must be such as can be read, which all are that calls
have written.
-/
theorem respond_validation
    (isOpen : service.manager.store.isOpen = true)
    (reads : service.manager.store.ReadsKeys)
    (path : request.target.path = Text.Utf8.encode "/api/v1/jwt/token/validate")
    (method : request.method = "GET" ∨ request.method = "POST")
    (parses : request.queryText tokenName = .ok query) :
    let answer := (service.respond occasion request).1
    (request.tokens query = [] → answer.status = 400) ∧
      ∀ token others, request.tokens query = token :: others →
        (∀ claims, service.manager.validateToken token occasion.now = .ok claims →
          answer.status = 200 ∧
            answer.body.octets = Text.Utf8.encode (validationValue claims).render) ∧
        ∀ error, service.manager.validateToken token occasion.now = .error error →
          answer.status = 403 ∧ answer.body.octets = Text.Utf8.encode forbiddenText ∧
            answer = service.sent request (.ofError .unauthorized) := by
  have bodied : request.method ≠ "HEAD" := by
    rcases method with isGet | isPost
    · simp [isGet]
    · simp [isPost]
  intro answer
  have isAnswer : answer =
      service.sent request (responseOf (service.validateToken occasion request)) := by
    dsimp only [answer]
    rw [respond_of_asks (asks_validateToken path method) bodied]
    rfl
  rw [responseOf_validateToken isOpen reads parses] at isAnswer
  refine ⟨fun missing => ?_, fun token others carried => ⟨fun claims accepts => ?_,
    fun error refuses => ?_⟩⟩
  · rw [isAnswer, missing]
    exact status_sent_eq _
  · rw [isAnswer, carried, List.head?_cons]
    dsimp only
    rw [accepts]
    refine ⟨status_sent_eq _, ?_⟩
    rw [body_sent, octets_found]
  · rw [carried, List.head?_cons] at isAnswer
    dsimp only at isAnswer
    rw [refuses] at isAnswer
    rw [isAnswer]
    refine ⟨status_sent_eq _, ?_, rfl⟩
    rw [body_sent, octets_forbidden]

/-- A token that is signed with a shared secret comes in a cookie, beside an empty one. -/
theorem respond_validation_secret :
    let token := "eyJhbGciOiJIUzI1NiIsImtpZCI6InUifQ.e30.AA"
    let request : Request :=
      ⟨"GET", ⟨Text.Utf8.encode "/api/v1/jwt/token/validate", some (Text.Utf8.encode "jwt=")⟩,
        [⟨"cookie", Text.Utf8.encode ("jwt=" ++ token)⟩], []⟩
    let occasion : Occasion := ⟨.start, "", [], .mk fun _ => none⟩
    let store := (Store.database (.initial .empty)).run [(occasion, .dial ⟨some "store", 0⟩)]
    let service : Service :=
      ⟨.default, ⟨providers .empty, "sqlite", ⟨some "store", 0⟩, store⟩, .start⟩
    store.isOpen = true ∧ store.ReadsKeys ∧ request.queryText tokenName = .ok (some "") ∧
      request.tokens (some "") = [token] ∧
      service.manager.validateToken token occasion.now = .error .wrongSigningMethod ∧
      (service.respond occasion request).1.status = 403 ∧
      (service.respond occasion request).1.body.octets = Text.Utf8.encode forbiddenText := by
  intro token request occasion store service
  have isOpen : service.manager.store.isOpen = true := by decide +kernel
  have rowless : (Store.database (.initial .empty)).Rowless := by
    rintro path tables ⟨⟩
  have sound : store.IsSound := rowless.isSound.run _
  have reads : store.ReadsKeys := sound.readsKeys
  have parses : request.queryText tokenName = .ok (some "") := by decide +kernel
  have carried : request.tokens (some "") = [token] := by decide +kernel
  have refused :
      service.manager.validateToken token occasion.now = .error .wrongSigningMethod := by
    decide +kernel
  obtain ⟨-, judged⟩ :=
    @respond_validation service occasion request (some "") isOpen reads rfl (.inl rfl) parses
  obtain ⟨status, octets, -⟩ := (judged token [] carried).2 _ refused
  exact ⟨isOpen, reads, parses, carried, refused, status, octets⟩

end Service

end Http

end Credential
