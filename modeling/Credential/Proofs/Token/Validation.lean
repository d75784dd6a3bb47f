import Credential.Manager.Tokens
import Credential.Proofs.Store.Database
import Credential.Proofs.Token.Examination

/-!
# What a validated token has passed

A token is validated in several steps, each of which reads some part of it again.
The claims that come out have passed all of them: the key that the header names
is the one that is stored, its public half verifies the signature, and the
subject of the claims is its account.
-/

namespace Credential

open Credential.Text (Base64.decode? Utf8.encode Utf8.symbols)
open Credential.Time (Instant)

/-- The characters of a labelled block. -/
theorem Rsa.Pem.toList_render (block : Rsa.Pem) :
    block.render.toList =
      let characters := Text.Base64.encodePadded block.contents
      "-----BEGIN ".toList ++ block.label.toList ++ "-----\n".toList ++
        lines (characters.length + 1) characters ++
        "-----END ".toList ++ block.label.toList ++ "-----\n".toList := by
  simp only [render, String.toList_append, String.toList_ofList]

namespace Token

/-- The characters of the parts of a token. -/
theorem Parts.toList_render (parts : Parts) :
    parts.render.toList = parts.message ++ '.' :: parts.signature :=
  String.toList_ofList

variable {token kid publicText : String} {now : Instant} {claims : Claims}

/-! ## What the checks of a token come to -/

/-- Whether the signature over the first two parts verifies under a public key. -/
def Parts.Verifies (parts : Parts) (algorithm : Algorithm) (publicText : String) : Prop :=
  ∃ hash fields key signature,
    algorithm.hash? = some hash ∧ Rsa.keyFields publicText = .ok fields ∧
      Rsa.PublicKey.ofFields? fields = some key ∧
      Base64.decode? .urlSafe parts.signature = some signature ∧
      key.verifies hash (Utf8.encode (String.ofList parts.message)) signature = true

/-- The claims that the second part holds. -/
def Parts.claims? (parts : Parts) : Option Claims :=
  (Base64.decode? .urlSafe parts.claims).bind fun octets => Claims.read? (Utf8.symbols octets)

/-- The algorithms with a hash function are those of RSA with the older padding. -/
theorem Algorithm.mem_of_hash?
    {algorithm : Algorithm}
    (hasHash : algorithm.hash?.isNone = false) :
    algorithm ∈ [.rs256, .rs384, .rs512] := by
  cases algorithm <;> first | decide | cases hasHash

/-- The key that a token claims is named by its header, and the algorithm is accepted. -/
theorem signingKid_eq_ok (claimed : signingKid token = .ok kid) :
    ∃ parts header, Parts.ofToken? token = some parts ∧ parts.header? = some header ∧
      header.algorithm.hash?.isNone = false ∧ header.kid = some kid ∧ kid ≠ "" := by
  unfold signingKid at claimed
  split at claimed
  case h_1 => cases claimed
  case h_2 header found =>
    obtain ⟨parts, divided, headed⟩ := Option.bind_eq_some_iff.mp found
    split at claimed
    case isTrue _ => cases claimed
    case isFalse hasHash =>
      split at claimed
      case h_1 named =>
        split at claimed
        case isTrue _ => cases claimed
        case isFalse notEmpty =>
          cases claimed
          exact ⟨parts, header, divided, headed, Bool.eq_false_iff.mpr hasHash, named, notEmpty⟩
      case h_2 => cases claimed

/-- A token is refused as bad, or its signature verifies and its claims are checked. -/
theorem verify_cases (token kid publicText : String) (now : Instant) :
    verify token kid publicText now = .error .unauthorized ∨
      verify token kid publicText now = .error .malformed ∨
      ∃ parts header, Parts.ofToken? token = some parts ∧ parts.header? = some header ∧
        parts.Verifies header.algorithm publicText ∧
        verify token kid publicText now = checkClaims kid parts.claims now.unixSeconds := by
  unfold verify
  split
  case h_1 => exact Or.inl rfl
  case h_2 fields keyed =>
    split
    case h_1 => exact Or.inr (Or.inl rfl)
    case h_2 parts divided =>
      split
      case h_1 => exact Or.inr (Or.inl rfl)
      case h_2 header headed =>
        split
        case isTrue _ => exact Or.inl rfl
        case isFalse _ =>
          split
          case h_1 => exact Or.inr (Or.inl rfl)
          case h_2 signature decoded =>
            split
            case isFalse _ => exact Or.inl rfl
            case isTrue good =>
              unfold signatureGood at good
              split at good
              case h_1 hash key hashed read =>
                exact Or.inr (Or.inr ⟨parts, header, divided, headed,
                  ⟨hash, fields, key, signature, hashed, keyed, read, decoded, good⟩, rfl⟩)
              case h_2 => cases good

/-- Of a token whose signature is good the claims are checked. -/
theorem verify_of_signatureGood
    (kid : String)
    (now : Instant)
    {parts : Parts}
    {header : Header}
    {fields signature : Text.Octets}
    (keyed : Rsa.keyFields publicText = .ok fields)
    (divided : Parts.ofToken? token = some parts)
    (headed : parts.header? = some header)
    (hasHash : header.algorithm.hash?.isNone = false)
    (decoded : Base64.decode? .urlSafe parts.signature = some signature)
    (good : signatureGood fields header.algorithm parts signature = true) :
    verify token kid publicText now = checkClaims kid parts.claims now.unixSeconds := by
  unfold verify
  rw [keyed]
  dsimp only
  rw [divided]
  dsimp only
  rw [headed]
  dsimp only
  rw [hasHash, if_neg (by simp), decoded]
  exact if_pos good

/-- What passes the check of times is valid now. -/
theorem Examination.check_eq_ok
    {examination : Examination}
    {now : Int}
    (passes : examination.check now = .ok ()) :
    ∃ exp, examination.exp = some exp ∧ now ≤ exp ∧ ∀ nbf ∈ examination.nbf, nbf ≤ now := by
  unfold check at passes
  split at passes
  case h_1 => cases passes
  case h_2 exp found =>
    split at passes
    · cases passes
    · split at passes
      · cases passes
      case isFalse notExpired =>
        split at passes
        · cases passes
        case isFalse notEarly =>
          refine ⟨exp, found, Int.not_lt.mp notExpired, fun nbf isNbf => Int.not_lt.mp ?_⟩
          intro early
          rw [Option.mem_def.mp isNbf] at notEarly
          exact notEarly (decide_eq_true early)

/-- Claims that pass their checks are those of the second part, and are valid now. -/
theorem checkClaims_eq_ok
    {claimsPart : List Char}
    {now : Nat}
    (passes : checkClaims kid claimsPart now = .ok claims) :
    ((Base64.decode? .urlSafe claimsPart).bind fun octets =>
        Claims.read? (Utf8.symbols octets)) = some claims ∧
      claims.sub = kid ∧ now ≤ claims.exp.toInt ∧ ∀ nbf ∈ claims.nbf, nbf.toInt ≤ now := by
  unfold checkClaims at passes
  split at passes
  case h_1 => cases passes
  case h_2 octets decoded =>
    dsimp only at passes
    split at passes
    case h_1 found examination reads examines =>
      split at passes
      case h_1 => cases passes
      case h_2 checked =>
        split at passes
        case isFalse _ => cases passes
        case isTrue same =>
          cases passes
          obtain ⟨exp, expires, notExpired, notEarly⟩ := Examination.check_eq_ok checked
          obtain ⟨rfl, nbfSeen⟩ := Examination.times_of_read? reads examines expires
          refine ⟨?_, same, notExpired, fun nbf isNbf => ?_⟩
          · rw [decoded]
            exact reads
          · by_cases natural : 0 ≤ nbf.toInt
            · refine notEarly nbf.toInt ?_
              rw [nbfSeen, Option.mem_def.mp isNbf]
              simpa using natural
            · omega
    case h_2 => cases passes

end Token

/-! ## The key that is stored -/

/-- A row of the key pairs as a backend holds it. -/
inductive Store.HeldKey where
  | record (key : KeyPair)
  | row (row : Store.KeyRow)
  deriving Repr, DecidableEq

namespace Store

/-- What a row of the key pairs reads as. -/
def HeldKey.read : HeldKey → Except Error KeyPair
  | .record key => .ok key
  | .row held => held.toKey

/-- The row of the key pair of an account, if it has one, in the tables of a store that has any. -/
def heldKey (store : Store) (accountId : String) : Option (Option HeldKey) :=
  match store with
  | .memory store => store.tables.map fun tables =>
      (tables.keys.rows.find? (·.accountId = accountId)).map .record
  | .database store => store.database?.map fun database =>
      (database.keys.rows.find? (·.accountId = accountId)).map .row

/-- The key pair of an account is what its row reads as. -/
theorem keyByAccount_eq_heldKey (store : Store) (accountId : String) :
    store.keyByAccount accountId =
      match store.heldKey accountId with
      | none => .error .notConnected
      | some none => .error .keyNotFound
      | some (some held) => held.read := by
  unfold keyByAccount Store.read heldKey
  cases store with
  | memory store =>
      dsimp only
      unfold MemoryStore.read
      cases store.tables with
      | none => rfl
      | some tables =>
          dsimp only [Option.map_some, MemoryTables.keyByAccount?]
          cases tables.keys.rows.find? (·.accountId = accountId) <;> rfl
  | database store =>
      dsimp only
      unfold DatabaseStore.read
      cases store.database? with
      | none => rfl
      | some database =>
          dsimp only [Option.map_some]
          unfold Database.findKey
          cases database.keys.rows.find? (·.accountId = accountId) <;> rfl

/-- The row of the key pair of an account reads as a key pair of that account. -/
theorem accountId_of_heldKey
    {store : Store}
    {accountId : String}
    {held : HeldKey}
    {key : KeyPair}
    (isHeld : store.heldKey accountId = some (some held))
    (reads : held.read = .ok key) :
    key.accountId = accountId := by
  unfold heldKey at isHeld
  cases store with
  | memory store =>
      obtain ⟨tables, -, isHeld⟩ := Option.map_eq_some_iff.mp isHeld
      obtain ⟨record, found, rfl⟩ := Option.map_eq_some_iff.mp isHeld
      cases reads
      simpa using List.find?_some found
  | database store =>
      obtain ⟨database, -, isHeld⟩ := Option.map_eq_some_iff.mp isHeld
      obtain ⟨row, found, rfl⟩ := Option.map_eq_some_iff.mp isHeld
      have same : row.accountId = accountId := by simpa using List.find?_some found
      change row.toKey = .ok key at reads
      obtain ⟨created, updated, -, -, rfl⟩ := KeyRow.toKey_eq_ok_iff.mp reads
      exact same

end Store

namespace Manager

open Token (Claims Header Parts)

/-! ## Validation -/

/-- Whether a key pair vouches for the claims of a token at a time, with all that agrees on it. -/
structure Vouches
    (store : Store)
    (token : String)
    (now : Instant)
    (claims : Claims)
    (parts : Parts)
    (header : Header)
    (kid : String)
    (key : KeyPair) :
    Prop where
  divided : Parts.ofToken? token = some parts
  headed : parts.header? = some header
  accepted : header.algorithm ∈ [.rs256, .rs384, .rs512]
  named : header.kid = some kid
  notEmpty : kid ≠ ""
  held : ∃ row, store.heldKey kid = some (some row) ∧ row.read = .ok key
  owned : key.accountId = kid
  active : key.active ≠ some false
  verifies : parts.Verifies header.algorithm key.pubKey
  claimed : parts.claims? = some claims
  subject : claims.sub = kid
  notExpired : now.unixSeconds ≤ claims.exp.toInt
  notEarly : ∀ nbf ∈ claims.nbf, nbf.toInt ≤ now.unixSeconds

/-- A key pair that is active is held, and has not been deactivated. -/
theorem activeKey_eq_ok
    {manager : Manager}
    {uid : String}
    {key : KeyPair}
    (isActive : manager.activeKey uid = .ok key) :
    (∃ row, manager.store.heldKey uid = some (some row) ∧ row.read = .ok key) ∧
      key.active ≠ some false := by
  unfold activeKey keyByAccount at isActive
  rw [Store.keyByAccount_eq_heldKey] at isActive
  split at isActive
  case h_1 => cases isActive
  case h_2 stored found =>
    split at isActive
    case isTrue _ => cases isActive
    case isFalse notInactive =>
      cases isActive
      refine ⟨?_, notInactive⟩
      split at found
      · cases found
      · cases found
      case h_3 row isHeld => exact ⟨row, isHeld, found⟩

/-- A token that is validated is vouched for. -/
theorem vouches_of_validateToken
    {manager : Manager}
    {token : String}
    {now : Instant}
    {claims : Claims}
    (validated : manager.validateToken token now = .ok claims) :
    ∃ parts header kid key, Vouches manager.store token now claims parts header kid key := by
  unfold validateToken at validated
  split at validated
  case h_1 => cases validated
  case h_2 kid signing =>
    split at validated
    case h_1 => cases validated
    case h_2 key isActive =>
      obtain ⟨parts, header, divided, headed, hasHash, named, notEmpty⟩ :=
        Token.signingKid_eq_ok signing
      obtain ⟨⟨row, isHeld, reads⟩, notInactive⟩ := activeKey_eq_ok isActive
      rcases Token.verify_cases token kid key.pubKey now with
        refused | refused | ⟨otherParts, otherHeader, otherDivided, otherHeaded, verifies, checked⟩
      · cases refused.symm.trans validated
      · cases refused.symm.trans validated
      · cases divided.symm.trans otherDivided
        cases headed.symm.trans otherHeaded
        obtain ⟨claimed, subject, notExpired, notEarly⟩ :=
          Token.checkClaims_eq_ok (checked.symm.trans validated)
        exact ⟨parts, header, kid, key,
          { divided, headed, named, notEmpty, verifies, claimed, subject, notExpired, notEarly
            accepted := Token.Algorithm.mem_of_hash? hasHash
            held := ⟨row, isHeld, reads⟩
            owned := Store.accountId_of_heldKey isHeld reads
            active := notInactive }⟩

/-- Only a token whose signature verifies is found to be expired. -/
theorem verifies_of_expired
    {token kid publicText : String}
    {now : Instant}
    (expired : Token.verify token kid publicText now = .error .expired) :
    ∃ parts header, Parts.ofToken? token = some parts ∧ parts.header? = some header ∧
      parts.Verifies header.algorithm publicText := by
  rcases Token.verify_cases token kid publicText now with
    refused | refused | ⟨parts, header, divided, headed, verifies, -⟩
  · cases refused.symm.trans expired
  · cases refused.symm.trans expired
  · exact ⟨parts, header, divided, headed, verifies⟩

/-- Whether a key pair is active depends on its row only. -/
theorem activeKey_congr
    {first second : Manager}
    {uid : String}
    (same : first.store.heldKey uid = second.store.heldKey uid) :
    first.activeKey uid = second.activeKey uid := by
  rw [activeKey, keyByAccount, Store.keyByAccount_eq_heldKey, same,
    ← Store.keyByAccount_eq_heldKey]
  rfl

/--
Validation is sound: claims come out of a token only if the key pair of its header
vouches for them.  A token is found to be expired only if its signature verifies,
and of all that is stored the answer depends on the row of that key pair only.
-/
theorem validateToken_sound (manager : Manager) (token : String) (now : Instant) :
    (∀ claims, manager.validateToken token now = .ok claims →
      ∃ parts header kid key, Vouches manager.store token now claims parts header kid key) ∧
    (∀ kid publicText, Token.verify token kid publicText now = .error .expired →
      ∃ parts header, Parts.ofToken? token = some parts ∧ parts.header? = some header ∧
        parts.Verifies header.algorithm publicText) ∧
    ∀ other : Manager,
      (∀ kid, Token.signingKid token = .ok kid →
        manager.store.heldKey kid = other.store.heldKey kid) →
      manager.validateToken token now = other.validateToken token now := by
  refine ⟨fun claims => vouches_of_validateToken, fun kid publicText => verifies_of_expired, ?_⟩
  intro other sameRow
  unfold validateToken
  cases signing : Token.signingKid token with
  | error error => rfl
  | ok kid =>
      dsimp only
      rw [activeKey_congr (sameRow kid signing)]

/-! ## A sample -/

/-- The octets of words of 64 bits, greatest first. -/
def octetsOfWords (words : List Nat) : Text.Octets :=
  words.flatMap (Digest.bigEndian 8)

/-- The public half of a sample key pair. -/
def sampleKey : Rsa.PublicKey where
  modulus := Digest.ofBigEndian <| octetsOfWords
    [0xa05c44e9b6e5540d, 0x13441312af1bc9a1, 0xfb887515f7564f1c, 0x9bfc20455b6189bc,
    0x0d102e0fd86b4b07, 0xdecf3f6ce16fac5b, 0xbffcb7db8942fe12, 0x1566b7098781b2c9,
    0x04fec4433a237d09, 0xe62de485e18b2e15, 0x976c898c38e96de2, 0x873aa0dc5cbd8f1d,
    0xf9b98eb2ffa1ebdb, 0x3731fa131a36f94c, 0x1a27e23d5af22840, 0x1d15b47c399a4d7c,
    0x57a2b57cb6f68670, 0x9460e4b1e55d59d2, 0xc76859640d4ccdd3, 0x6897497eaded7cde,
    0x5325ef8c075938d0, 0x7a66217969281dec, 0x596ce71b1a782f20, 0x6fa65a856b6085cb,
    0x034f1889c065baea, 0xc4dc02a24008e544, 0x023efee737cdac3d, 0x14346d2514513abb,
    0x16107b8762aa4d97, 0x9131d1f70d0cf8c2, 0x0547b252aaa0abf5, 0x40f1a2ac8d464d07]
  exponent := 65537

/-- A token for the account `u`, issued at the start of 1970 and signed with the sample key pair. -/
def sampleToken : String :=
  Parts.render
    { header := Token.encodePart (Header.issue "u").render
      claims := Token.encodePart (Claims.issue "u" .start).render
      signature := Text.Base64.encode .urlSafe <| octetsOfWords
        [0x2ce6b5ddee5bebea, 0x707643825fdece53, 0xba509ae6597dc02f, 0xcbcc0f3df610230f,
        0x9340f88d879c7f8b, 0x61e8c4376efedd67, 0x474f502b50b51b63, 0x25cd24edad69b787,
        0xa6e6cd22e74b5875, 0x55b10b1d39bf9e86, 0x88a6b18391949c8b, 0xfd7551a5d5875311,
        0x445eb594a3eb7072, 0x4d714e33d0749de9, 0x3cad88eb9199cc8e, 0xeff57cbbd0039b9a,
        0x10682f8e29264948, 0x8ffeb4c3ba48a10a, 0x7a378bf2a28c2de2, 0xeba81be52eed870d,
        0xe83534d4da80b08e, 0x22ebf920532908d1, 0x198217a6897f5073, 0x5938bd9e1eb0bb5c,
        0x7a003e55ccfdfb2c, 0x8754a3182a1008fa, 0x57601bcc6dbd226b, 0x4a2357a5b73435ce,
        0x3401bd03b5fa5ab3, 0xafd9c888010e40fd, 0xe34b153ea67d5df5, 0x5bbf67f59cb80a7e] }

/-- An attempt that leaves a result has come to it. -/
theorem eq_ok_of_toOption
    {Failure Result : Type}
    {attempt : Except Failure Result}
    {result : Result}
    (succeeds : attempt.toOption = some result) :
    attempt = .ok result := by
  cases attempt with
  | error failure => cases succeeds
  | ok other => exact congrArg Except.ok (Option.some.inj succeeds)

/-- The text of the sample key reads, and the sample token passes every check under it. -/
theorem sampleToken_passes :
    ((Rsa.keyFields sampleKey.render).toOption.bind fun fields =>
      (Parts.ofToken? sampleToken).bind fun parts =>
        (Base64.decode? .urlSafe parts.signature).map fun signature =>
          decide (parts.header? = some (Header.issue "u")) &&
            Token.signatureGood fields .rs512 parts signature &&
            decide ((Token.checkClaims "u" parts.claims 0).toOption =
              some (Claims.issue "u" .start))) =
      some true := by
  -- Long texts are slow to take apart, so they are put back to the lists that they are made of.
  rw [Rsa.keyFields, Rsa.Pem.parse?, Rsa.PublicKey.render, Rsa.Pem.toList_render, Parts.ofToken?,
    sampleToken, Parts.toList_render]
  decide +kernel

/-- The sample token is validated in a store that holds the sample key pair. -/
theorem validateToken_sound_sample :
    let key : KeyPair := ⟨some "u", sampleKey.render, "", "u", some true, none, none⟩
    let store : Store := .memory ⟨some ⟨.empty, .insert .empty "u" key, .empty⟩⟩
    let manager : Manager := ⟨⟨.empty⟩, "memory", ⟨none, 0⟩, store⟩
    manager.validateToken sampleToken .start = .ok (.issue "u" .start) ∧
      ∃ parts header kid key,
        Vouches store sampleToken .start (.issue "u" .start) parts header kid key := by
  intro key store manager
  obtain ⟨fields, keyed, passes⟩ := Option.bind_eq_some_iff.mp sampleToken_passes
  obtain ⟨parts, divided, passes⟩ := Option.bind_eq_some_iff.mp passes
  obtain ⟨signature, decoded, passes⟩ := Option.map_eq_some_iff.mp passes
  rw [Bool.and_eq_true, Bool.and_eq_true, decide_eq_true_eq, decide_eq_true_eq] at passes
  obtain ⟨⟨headed, good⟩, checked⟩ := passes
  have signing : Token.signingKid sampleToken = .ok "u" := by
    rw [Token.signingKid, divided, Option.bind_some, headed]
    rfl
  have verified := Token.verify_of_signatureGood "u" .start (eq_ok_of_toOption keyed) divided
    headed rfl decoded good
  have validated : manager.validateToken sampleToken .start = .ok (.issue "u" .start) := by
    rw [validateToken, signing]
    exact verified.trans (eq_ok_of_toOption checked)
  exact ⟨validated, (validateToken_sound manager sampleToken .start).1 _ validated⟩

end Manager

end Credential
