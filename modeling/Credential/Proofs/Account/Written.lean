import Credential.KeyPair
import Credential.Proofs.Json.Slots
import Credential.Proofs.Time.Timestamp

/-!
# Records and their texts

A record is read from its text as it was, but for what is secret: the password hash
of an account and the private half of a key pair are never written, and the former
is never read either.
-/

namespace Credential

open Credential.Json (Accepts Reader Slot Value inputOf writtenSlots)
open Credential.Time (Instant)

/-! ## Timestamps -/

theorem Json.Reader.ReadsBack.optional_instant (depth : Nat) (instant : Instant) :
    Reader.instant.optional.ReadsBack depth (.ofInstant instant) := by
  have isInstant : (Instant.read? (instant.render .letter)).isSome = true := by
    rw [Time.Instant.read?_render]
    rfl
  rw [Value.ofInstant]
  generalize instant.render .letter = text at isInstant
  refine .optional_text ?_
  rw [Reader.instant]
  exact .textThat isInstant depth

theorem Json.Value.instant?_ofInstant (instant : Instant) :
    (Value.ofInstant instant).instant? = some instant := by
  rw [instant?, ofInstant, text?, Option.bind_some, Time.Instant.read?_render]

/-! ## Parts of records -/

/-- What is written of a field: nothing if it is not given, and null if it has no value. -/
def Field.written {Content : Type} (render : Content → Value) (field : Field Content) :
    Option Value :=
  if field.isUnset then none else some (field.toValue render)

section Parts

variable {Content : Type} {render : Content → Value} {content? : Value → Option Content}

theorem Field.toMembers_eq
    (name : String)
    (render : Content → Value)
    (field : Field Content)
    (slots : List Slot) :
    field.toMembers name render ++ writtenSlots slots =
      writtenSlots ((name, field.written render) :: slots) := by
  cases field <;> rfl

theorem Account.optionalMember_eq
    (name : String)
    (render : Content → Value)
    (part : Option Content)
    (slots : List Slot) :
    optionalMember name render part ++ writtenSlots slots =
      writtenSlots ((name, part.map render) :: slots) := by
  cases part <;> rfl

/-- A field is found as it was written. -/
theorem Field.ofMember_of_written
    (rendered : ∀ content, content? (render content) = some content)
    (null : content? .null = none)
    {field : Field Content}
    {object : Value}
    {name : String}
    (found : object.member? name = field.written render) :
    ofMember content? object name = field := by
  rw [ofMember, found]
  cases field with
  | unset => rfl
  | null => exact congrArg ofOption null
  | value content => exact congrArg ofOption (rendered content)

/-- A part that may be missing is found as it was written. -/
theorem bind_of_written
    (rendered : ∀ content, content? (render content) = some content)
    {part : Option Content}
    {found : Option Value}
    (isWritten : found = part.map render) :
    found.bind content? = part := by
  rw [isWritten]
  cases part with
  | none => rfl
  | some content => exact rendered content

variable {reader : Reader} {depth : Nat} {value : Value}

/-- What is written of a part that may be missing is read if its content is. -/
theorem readsBack_of_mem_map
    (back : ∀ content, reader.ReadsBack depth (render content))
    {part : Option Content}
    (isWritten : value ∈ part.map render) :
    reader.ReadsBack depth value := by
  obtain ⟨content, -, rfl⟩ := Option.map_eq_some_iff.mp isWritten
  exact back content

/-- What is written of a field is read if its value is, and null is allowed. -/
theorem Field.readsBack_of_mem_written
    (back : ∀ content, reader.optional.ReadsBack depth (render content))
    {field : Field Content}
    (isWritten : value ∈ field.written render) :
    reader.optional.ReadsBack depth value := by
  cases field with
  | unset => cases isWritten
  | null =>
      cases isWritten
      exact .optional_null reader depth
  | value content =>
      cases isWritten
      exact back content

end Parts

theorem readsBack_text (content : String) : Reader.text.optional.ReadsBack 127 (.text content) :=
  .optional_text (.text 127 content)

theorem readsBack_flag (content : Bool) : Reader.flag.optional.ReadsBack 127 (.flag content) :=
  .optional_flag (.flag 127 content)

theorem text?_text (content : String) : (Value.text content).text? = some content :=
  rfl

theorem flag?_flag (content : Bool) : (Value.flag content).flag? = some content :=
  rfl

/-! ## Accounts -/

namespace Account

/-- The places of an account. -/
def slots (account : Account) : List Slot :=
  [("uid", account.uid.map .text), ("email", account.email.written .text),
    ("name", account.name.written .text), ("active", account.active.written .flag),
    ("created", account.created.map .ofInstant), ("updated", account.updated.map .ofInstant),
    ("deleted", account.deleted.written .flag)]

theorem toValue_eq (account : Account) : account.toValue = .object (writtenSlots account.slots) := by
  have nothing : writtenSlots [] = [] := rfl
  rw [slots, toValue, ← optionalMember_eq, ← Field.toMembers_eq, ← Field.toMembers_eq,
    ← Field.toMembers_eq, ← optionalMember_eq, ← optionalMember_eq, ← Field.toMembers_eq, nothing]
  simp only [List.append_assoc, List.append_nil]

theorem nodup_slots (account : Account) : (account.slots.map Prod.fst).Nodup := by
  change ["uid", "email", "name", "active", "created", "updated", "deleted"].Nodup
  decide

theorem member?_toValue
    {account : Account}
    {name : String}
    {value : Option Value}
    (isSlot : (name, value) ∈ account.slots) :
    account.toValue.member? name = value := by
  rw [toValue_eq]
  exact Json.lookup_writtenSlots account.nodup_slots isSlot

/-- An account is found in the value that it is written as, but for its password hash. -/
theorem ofValue_toValue (account : Account) :
    ofValue account.toValue = { account with password := .unset } := by
  have uid : account.toValue.member? "uid" = account.uid.map .text :=
    member?_toValue (by simp [slots])
  have email : account.toValue.member? "email" = account.email.written .text :=
    member?_toValue (by simp [slots])
  have name : account.toValue.member? "name" = account.name.written .text :=
    member?_toValue (by simp [slots])
  have active : account.toValue.member? "active" = account.active.written .flag :=
    member?_toValue (by simp [slots])
  have created : account.toValue.member? "created" = account.created.map .ofInstant :=
    member?_toValue (by simp [slots])
  have updated : account.toValue.member? "updated" = account.updated.map .ofInstant :=
    member?_toValue (by simp [slots])
  have deleted : account.toValue.member? "deleted" = account.deleted.written .flag :=
    member?_toValue (by simp [slots])
  rw [ofValue, bind_of_written text?_text uid, Field.ofMember_of_written text?_text rfl email,
    Field.ofMember_of_written text?_text rfl name, Field.ofMember_of_written flag?_flag rfl active,
    bind_of_written Value.instant?_ofInstant created,
    bind_of_written Value.instant?_ofInstant updated,
    Field.ofMember_of_written flag?_flag rfl deleted]

/-- The reader of accounts accepts what is written of an account. -/
theorem accepts_slots (account : Account) :
    ∀ slot ∈ account.slots, ∀ value ∈ slot.2, Accepts members 127 slot.1 value := by
  intro slot isSlot value isWritten
  simp only [slots, List.mem_cons, List.not_mem_nil, or_false] at isSlot
  rcases isSlot with rfl | rfl | rfl | rfl | rfl | rfl | rfl
  · exact readsBack_of_mem_map readsBack_text isWritten
  · exact Field.readsBack_of_mem_written readsBack_text isWritten
  · exact Field.readsBack_of_mem_written readsBack_text isWritten
  · exact Field.readsBack_of_mem_written readsBack_flag isWritten
  · exact readsBack_of_mem_map (.optional_instant 127) isWritten
  · exact readsBack_of_mem_map (.optional_instant 127) isWritten
  · exact Field.readsBack_of_mem_written readsBack_flag isWritten

/-- The text of an account is read as the value that it was written as. -/
theorem whole_render (account : Account) :
    reader.whole (inputOf account.render) = .ok account.toValue := by
  rw [reader, render, toValue_eq]
  apply Reader.whole_writtenSlots account.nodup_slots
  · intro slot isSlot
    have isName : slot.1 ∈ account.slots.map Prod.fst := List.mem_map_of_mem isSlot
    have allKnown : ∀ name ∈ ["uid", "email", "name", "active", "created", "updated", "deleted"],
        Json.isKnown members name = true := by
      decide
    exact allKnown _ isName
  · exact account.accepts_slots
  · intro member isMember always
    simp only [members, List.mem_cons, List.not_mem_nil, or_false] at isMember
    rcases isMember with rfl | rfl | rfl | rfl | rfl | rfl | rfl <;> cases always

/-- An account is read as it was written, but for its password hash. -/
theorem parse?_render (account : Account) :
    parse? account.render = some { account with password := .unset } := by
  rw [parse?, Reader.parse?, whole_render]
  exact congrArg some account.ofValue_toValue

end Account

/-! ## Key pairs -/

namespace KeyPair

/-- The places of a key pair; that of the private half is left empty. -/
def slots (key : KeyPair) : List Slot :=
  [("kid", key.kid.map .text), ("pub_key", some (.text key.pubKey)), ("priv_key", none),
    ("account_id", some (.text key.accountId)), ("active", key.active.map .flag),
    ("created", key.created.map .ofInstant), ("updated", key.updated.map .ofInstant)]

theorem toValue_eq (key : KeyPair) : key.toValue = .object (writtenSlots key.slots) := by
  have halves (slots : List Slot) :
      [("pub_key", .text key.pubKey), ("account_id", .text key.accountId)] ++ writtenSlots slots =
        writtenSlots (("pub_key", some (.text key.pubKey)) :: ("priv_key", none) ::
          ("account_id", some (.text key.accountId)) :: slots) := rfl
  have nothing : writtenSlots [] = [] := rfl
  rw [slots, toValue, ← Account.optionalMember_eq, ← halves, ← Account.optionalMember_eq,
    ← Account.optionalMember_eq, ← Account.optionalMember_eq, nothing]
  simp only [List.append_assoc, List.append_nil]

theorem nodup_slots (key : KeyPair) : (key.slots.map Prod.fst).Nodup := by
  change ["kid", "pub_key", "priv_key", "account_id", "active", "created", "updated"].Nodup
  decide

theorem member?_toValue
    {key : KeyPair}
    {name : String}
    {value : Option Value}
    (isSlot : (name, value) ∈ key.slots) :
    key.toValue.member? name = value := by
  rw [toValue_eq]
  exact Json.lookup_writtenSlots key.nodup_slots isSlot

/-- A key pair is found in the value that it is written as, but for its private half. -/
theorem ofValue_toValue (key : KeyPair) : ofValue key.toValue = { key with privKey := "" } := by
  have kid : key.toValue.member? "kid" = key.kid.map .text := member?_toValue (by simp [slots])
  have pubKey : key.toValue.member? "pub_key" = some (.text key.pubKey) :=
    member?_toValue (by simp [slots])
  have privKey : key.toValue.member? "priv_key" = none := member?_toValue (by simp [slots])
  have accountId : key.toValue.member? "account_id" = some (.text key.accountId) :=
    member?_toValue (by simp [slots])
  have active : key.toValue.member? "active" = key.active.map .flag :=
    member?_toValue (by simp [slots])
  have created : key.toValue.member? "created" = key.created.map .ofInstant :=
    member?_toValue (by simp [slots])
  have updated : key.toValue.member? "updated" = key.updated.map .ofInstant :=
    member?_toValue (by simp [slots])
  rw [ofValue]
  dsimp only
  rw [bind_of_written text?_text kid, pubKey, privKey, accountId,
    bind_of_written flag?_flag active, bind_of_written Value.instant?_ofInstant created,
    bind_of_written Value.instant?_ofInstant updated]
  rfl

/-- The reader of key pairs accepts what is written of a key pair. -/
theorem accepts_slots (key : KeyPair) :
    ∀ slot ∈ key.slots, ∀ value ∈ slot.2, Accepts members 127 slot.1 value := by
  intro slot isSlot value isWritten
  simp only [slots, List.mem_cons, List.not_mem_nil, or_false] at isSlot
  rcases isSlot with rfl | rfl | rfl | rfl | rfl | rfl | rfl
  · exact readsBack_of_mem_map readsBack_text isWritten
  · cases isWritten
    exact Reader.ReadsBack.text 127 key.pubKey
  · cases isWritten
  · cases isWritten
    exact Reader.ReadsBack.text 127 key.accountId
  · exact readsBack_of_mem_map readsBack_flag isWritten
  · exact readsBack_of_mem_map (.optional_instant 127) isWritten
  · exact readsBack_of_mem_map (.optional_instant 127) isWritten

/-- The text of a key pair is read as the value that it was written as. -/
theorem whole_render (key : KeyPair) :
    (Reader.record members).whole (inputOf key.render) = .ok key.toValue := by
  rw [render, toValue_eq]
  apply Reader.whole_writtenSlots key.nodup_slots
  · intro slot isSlot
    have isName : slot.1 ∈ key.slots.map Prod.fst := List.mem_map_of_mem isSlot
    have allKnown : ∀ name ∈
        ["kid", "pub_key", "priv_key", "account_id", "active", "created", "updated"],
          Json.isKnown members name = true := by
      decide
    exact allKnown _ isName
  · exact key.accepts_slots
  · intro member isMember always
    simp only [members, List.mem_cons, List.not_mem_nil, or_false] at isMember
    rcases isMember with rfl | rfl | rfl | rfl | rfl | rfl | rfl
    case inr.inl => exact ⟨.text key.pubKey, by simp [slots, Json.Member.mandatory]⟩
    case inr.inr.inr.inl => exact ⟨.text key.accountId, by simp [slots, Json.Member.mandatory]⟩
    all_goals cases always

/-- A key pair is read as it was written, but for its private half. -/
theorem parse?_render (key : KeyPair) :
    parse? key.render = some { key with privKey := "" } := by
  rw [parse?, Reader.parse?, whole_render]
  exact congrArg some key.ofValue_toValue

end KeyPair

/-! ## Round trips -/

/--
Records are read back from their texts, without what is secret.

The texts do not depend on it, and no text at all gives an account a password hash.
-/
theorem records_read_back :
    (∀ account : Account,
      Account.parse? account.render = some { account with password := .unset } ∧
        ∀ password, { account with password }.render = account.render) ∧
    (∀ key : KeyPair,
      KeyPair.parse? key.render = some { key with privKey := "" } ∧
        ∀ privKey, { key with privKey }.render = key.render) ∧
    ∀ text account, Account.parse? text = some account → account.password = .unset := by
  refine ⟨fun account => ⟨account.parse?_render, fun _ => rfl⟩,
    fun key => ⟨key.parse?_render, fun _ => rfl⟩, ?_⟩
  intro text account parses
  obtain ⟨value, -, rfl⟩ := Option.map_eq_some_iff.mp parses
  rfl

/-- An account that was given a password hash, by its text too, is read without one. -/
theorem records_read_back_hashed :
    let text := "\x7b\"password\": \"hash\", \"email\": null, \"deleted\": false\x7d"
    ∃ account, Account.parse? text = some account ∧ account.email = .null ∧
      account.name = .unset ∧ account.password = .unset := by
  intro text
  let read : Account := { Account.blank with email := .null, deleted := .value false }
  have parses : Account.parse? text = some read := by
    decide +kernel
  exact ⟨read, parses, rfl, rfl, records_read_back.2.2 text read parses⟩

end Credential
