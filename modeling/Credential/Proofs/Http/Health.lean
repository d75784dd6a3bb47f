import Credential.Proofs.Http.Atomicity
import Credential.Proofs.Http.ValidAccounts
import Credential.Proofs.Rsa.Signing

/-!
# A healthy service never fails inside

If the store is connected, and every private key that is drawn signs, then every
key pair that is ever stored signs too.  No request can then lead to an error that
callers outside are not told.
-/

namespace Credential

/-! ## Keys that sign -/

/-- Whether the text of a private key signs a token for any account at any time. -/
def Token.CanSign (privateText : String) : Prop :=
  ∀ uid now, uid ≠ "" → ∃ token, generate uid privateText now = .ok token

/-- Whether a private key is drawn, and the text of it signs. -/
def Occasion.Equips (occasion : Occasion) : Prop :=
  ∃ signer, occasion.drawnKey.get = some signer ∧ Token.CanSign signer.render

/-- A key of two primes signs, if it can be read back and its modulus has room for the hash. -/
theorem Token.canSign_of_fits
    {signer : Rsa.PrivateKey}
    (fits : signer.Fits)
    (large : 86 ≤ Rsa.octetLength signer.modulus)
    (readsBack : signingKey signer.render = .ok signer) :
    CanSign signer.render := by
  intro uid now named
  obtain ⟨signature, signed⟩ := fits.exists_sign? large
    (Text.Utf8.encode (String.ofList (Parts.issue uid (.issue uid now) []).message))
  exact ⟨_, generate_of_sign? named readsBack signed⟩

namespace Store

/-- Whether a store is connected, and every key pair in it signs. -/
structure Healthy (store : Store) : Prop where
  sound : store.IsSound
  isOpen : store.isOpen = true
  signs : ∀ uid key, store.storedKey? uid = some (.ok key) →
    uid ≠ "" ∧ Token.CanSign key.privKey

namespace Healthy

variable {store : Store}

/-- A connected store without rows is healthy. -/
theorem of_rowless (rowless : store.Rowless) (isOpen : store.isOpen = true) : store.Healthy where
  sound := rowless.isSound
  isOpen := isOpen
  signs := by
    intro uid key stored
    rw [rowless.storedKey?_eq_none] at stored
    cases stored

/-- A store stays healthy in a call on its tables that saves no key pair but new ones that sign. -/
theorem perform
    (healthy : store.Healthy)
    {occasion : Occasion}
    {call : Call}
    (onTables : call.IsOnTables)
    (saves : ∀ key, call = .saveKey key →
      key.kid = none ∧ key.accountId ≠ "" ∧ Token.CanSign key.privKey) :
    (store.perform occasion call).2.Healthy where
  sound := healthy.sound.perform occasion call
  isOpen := healthy.sound.isOpen_perform healthy.isOpen occasion onTables
  signs := by
    intro uid key stored
    obtain ⟨ledger, showing, ledgerSound⟩ := healthy.sound.exists_shows healthy.isOpen
    rcases showing.storedKey?_of_perform ledgerSound onTables stored with
      before | ⟨saved, record, isSave, -, savesKey, isRecord⟩
    · exact healthy.signs uid key before
    · obtain rfl := Except.ok.inj isRecord
      obtain ⟨isNew, named, canSign⟩ := saves saved isSave
      cases savesKey with
      | added _ owned absent => exact ⟨named, canSign⟩
      | changed isNamed present => cases isNew.symm.trans isNamed

end Healthy

end Store

namespace Http.Service

variable {service : Service} {occasion : Occasion}

/-- A service with a healthy store is ready, if the private key that is drawn signs. -/
theorem ready_of_healthy
    (healthy : service.manager.store.Healthy)
    (equips : occasion.Equips) :
    service.manager.Ready occasion where
  isOpen := healthy.isOpen
  drawn := by
    obtain ⟨signer, drawn, -⟩ := equips
    rw [drawn]
    exact Option.some_ne_none signer
  signs := by
    intro uid key stored
    obtain ⟨named, canSign⟩ := healthy.signs uid key stored
    exact canSign uid occasion.now named

/-- Requests keep the store of a service healthy. -/
theorem healthy_respond
    (healthy : service.manager.store.Healthy)
    (equips : occasion.Equips)
    (request : Request) :
    (service.respond occasion request).2.manager.store.Healthy := by
  have serves : Serves occasion service.manager.store
      (service.respond occasion request).2.manager.store := Serves.respond service request
  obtain ⟨call, served, leads⟩ := serves
  refine leads.preserves ?_ healthy
  intro store storeCall healthy makes
  apply healthy.perform (makes.isOnTables served.stays)
  rintro key rfl
  -- The only key pairs that a request has saved are made of the private key that is drawn.
  rcases makes with rfl | generated
  · exact served.elim
  · obtain ⟨named, signer, drawn, made⟩ := KeyPair.generate_eq_ok_iff.mp generated
    obtain ⟨other, drawnOther, canSign⟩ := equips
    obtain rfl : signer = other := Option.some.inj (drawn.symm.trans drawnOther)
    rw [made]
    exact ⟨rfl, named, canSign⟩

/-- A healthy service answers no request with an internal error. -/
theorem status_ne_500
    (healthy : service.manager.store.Healthy)
    (equips : occasion.Equips)
    (request : Request) :
    (service.respond occasion request).1.status ≠ 500 := by
  have ready := ready_of_healthy healthy equips
  rcases service.respond_cases occasion request with
    ⟨-, told⟩ | ⟨endpoint, parameters, name, action, routed, asked, named⟩
  · exact told
  · rw [(service.respond_of_action occasion routed asked named).1]
    rcases carryOutAt_cases healthy.sound occasion request name action with
      (⟨refusal, refused, told⟩ | ⟨response, after, succeeds, isSuccess⟩) |
        ⟨rfl, created, error, strands, carried, told⟩
    · rw [refused]
      exact told ready
    · rw [succeeds]
      exact (Nat.lt_trans isSuccess (by decide)).ne
    · rw [carried]
      obtain ⟨account, gains⟩ := strands.gainsAccount healthy.sound
      exact told ⟨gains.elsewhere.isOpen, ready.drawn⟩

/-- The answers to a run of requests, each with its occasion. -/
def answers (service : Service) : List (Occasion × Request) → List Response
  | [] => []
  | (occasion, request) :: rest =>
      let (response, after) := service.respond occasion request
      response :: after.answers rest

/--
No request of a run is answered with an internal error.

The run starts from a connected store without rows, and for every request a
private key that signs can be drawn.
-/
theorem answers_status_ne_500
    (rowless : service.manager.store.Rowless)
    (isOpen : service.manager.store.isOpen = true)
    {requests : List (Occasion × Request)}
    (equip : ∀ request ∈ requests, request.1.Equips) :
    ∀ response ∈ service.answers requests, response.status ≠ 500 := by
  have healthy : service.manager.store.Healthy := .of_rowless rowless isOpen
  -- From here on the store need not be without rows: that it is healthy carries the induction.
  clear rowless isOpen
  induction requests generalizing service with
  | nil => exact fun response member => (List.not_mem_nil member).elim
  | cons request rest inductionHypothesis =>
      have equips : request.1.Equips := equip request List.mem_cons_self
      intro response member
      rcases List.mem_cons.mp member with rfl | member
      · exact status_ne_500 healthy equips request.2
      · have stays := healthy_respond healthy equips request.2
        refine inductionHypothesis (fun later among => ?_) stays response member
        exact equip later (List.mem_cons_of_mem request among)

/-- An account with a key pair of two proven primes is asked for, and then a token. -/
theorem answers_status_ne_500_proven :
    let occasion : Occasion := ⟨.start, "first", [0x73], .mk fun _ => some .provenKey⟩
    let addition : Request :=
      ⟨"POST", ⟨Text.Utf8.encode "/api/v1/accounts", none⟩,
        [⟨"content-type", Text.Utf8.encode "application/json"⟩],
        Text.Utf8.encode
          "\x7b\"email\":\"ada@example.org\",\"name\":\"Ada\",\"password\":\"analytical\"\x7d"⟩
    let issue : Request := ⟨"POST", ⟨Text.Utf8.encode "/api/v1/jwt/token/first", none⟩, [], []⟩
    let requests := [(occasion, addition), (occasion, issue)]
    let service : Service :=
      ⟨.default, ⟨providers .empty, "memory", ⟨none, 0⟩, .memory ⟨some .empty⟩⟩, .start⟩
    service.manager.store.Rowless ∧ service.manager.store.isOpen = true ∧
      (∀ request ∈ requests, request.1.Equips) ∧
      ∀ response ∈ service.answers requests, response.status ≠ 500 := by
  intro occasion addition issue requests service
  have rowless : service.manager.store.Rowless := by
    rintro tables ⟨⟩
    rfl
  have readsBack : Token.signingKey Rsa.PrivateKey.provenKey.render = .ok .provenKey := by
    apply Manager.eq_ok_of_toOption
    rw [Token.signingKey, Rsa.keyFields, Rsa.Pem.parse?, Rsa.PrivateKey.render,
      Rsa.Pem.toList_render]
    decide +kernel
  have equips : occasion.Equips :=
    ⟨.provenKey, rfl,
      Token.canSign_of_fits Rsa.PrivateKey.fits_provenKey (by decide +kernel) readsBack⟩
  have equip : ∀ request ∈ requests, request.1.Equips := by
    intro request member
    simp only [requests, List.mem_cons, List.not_mem_nil, or_false] at member
    rcases member with rfl | rfl
    · exact equips
    · exact equips
  exact ⟨rowless, rfl, equip, answers_status_ne_500 rowless rfl equip⟩

end Http.Service

end Credential
