import Credential.Password.HashText
import Credential.Proofs.Text.Base64
import Credential.Proofs.Text.Decimal

/-!
# Hashes accept their passwords

A text holds only hashes of certain sizes, and the text of any such hash without
associated data is read back as it was written.  So the password that was hashed is
accepted.
-/

namespace Credential

open Credential.Text
open Credential.Password.Argon2 (Cost Variant Version)

namespace Digest.Blake2b

theorem size_absorb (blocks : Nat) (chain : Array UInt64) (count : Nat) (octets : Octets) :
    (absorb blocks chain count octets).size = 8 := by
  induction blocks generalizing chain count octets with
  | zero => rfl
  | succ blocks inductionHypothesis => exact inductionHypothesis _ _ _

theorem length_hash {size : Nat} (small : size ≤ 64) (message : Octets) :
    (hash size message).length = size := by
  have eight (value : Nat) : (littleEndian 8 value).length = 8 := by
    simp [littleEndian]
  simp [hash, eight, size_absorb, small]

end Digest.Blake2b

namespace Password

theorem Argon2.length_hash {input : Input} (small : input.cost.output ≤ 64) :
    (Argon2.hash input).length = input.cost.output := by
  rw [Argon2.hash, longHash, if_pos small, Digest.Blake2b.length_hash small]

namespace HashText

/-- The costs and the associated data of a hash. -/
def parameters (hash : HashText) : Parameters :=
  ⟨hash.cost.memory, hash.cost.passes, hash.cost.lanes, hash.associated⟩

/-- Whether a hash is of sizes that a text can give. -/
structure Fits (hash : HashText) : Prop where
  sound : hash.parameters.Sound
  memory : hash.cost.memory < 4294967296
  passes : hash.cost.passes < 4294967296
  salt : 8 ≤ hash.salt.length ∧ hash.salt.length ≤ 48
  associated : hash.associated.length ≤ 32
  output : 10 ≤ hash.output.length ∧ hash.output.length ≤ 64
  size : hash.cost.output = hash.output.length

/-- Whether a candidate, hashed with all that went into a hash, gives the output of the hash. -/
def IsHashOf (hash : HashText) (candidate : String) : Prop :=
  Argon2.hash
    { variant := hash.variant
      version := hash.version
      cost := hash.cost
      password := Utf8.encode candidate
      salt := hash.salt
      associated := hash.associated } = hash.output

instance (hash : HashText) (candidate : String) : Decidable (hash.IsHashOf candidate) :=
  inferInstanceAs (Decidable (_ = _))

/-! ## Reading back what has been written -/

/-- Octets of the size of a salt are written as no more characters than a salt may have. -/
theorem length_encode_salt {salt : Octets} (greatest : salt.length ≤ 48) :
    (Base64.encode .standard salt).length ≤ 64 := by
  rw [Base64.length_encode]
  omega

theorem not_mem_digits
    {separator : Char}
    (outside : Decimal.isDigit separator = false)
    (value : Nat) :
    separator ∉ Decimal.digits value := by
  intro member
  rw [Decimal.isDigit_of_mem_digits member] at outside
  cases outside

theorem number?_digits {value : Nat} (small : value < 4294967296) :
    number? (Decimal.digits value) = some value := by
  have plain : (Decimal.digits value).length = 1 ∨ (Decimal.digits value).head? ≠ some '0' := by
    cases written : Decimal.digits value with
    | nil => exact .inr (by simp)
    | cons first rest =>
        cases rest with
        | nil => exact .inl rfl
        | cons next others =>
            right
            rintro ⟨⟩
            exact Decimal.digits_ne_zero_cons value next others written
  rw [number?, if_pos plain, Decimal.read?_digits, Option.filter_some,
    if_pos (by simpa using small)]

/-- Numbers below 2³² have at most ten digits. -/
theorem length_digits_le_ten {value : Nat} (small : value < 4294967296) :
    (Decimal.digits value).length ≤ 10 :=
  Decimal.length_digits_le (by decide) (Nat.lt_trans small (by decide))

theorem value?_digits {value : Nat} (small : value < 4294967296) :
    value? (Decimal.digits value) = some (Decimal.digits value) := by
  have short := length_digits_le_ten small
  have allowed : (Decimal.digits value).all isValueCharacter = true := by
    rw [List.all_eq_true]
    intro character member
    have digit : character.isDigit = true :=
      Nat.isDigit_of_mem_toDigits (by decide) (by decide) member
    simp [isValueCharacter, Char.isAlphanum, digit]
  rw [value?, if_pos ⟨by omega, allowed⟩]

/-- A parameter of one letter as it is written. -/
def parameterText (name : Char) (value : Nat) : List Char :=
  name :: '=' :: Decimal.digits value

theorem splitOn_parameterText
    {name : Char}
    (named : name ≠ '=')
    (value : Nat) :
    (parameterText name value).splitOn '=' = [[name], Decimal.digits value] := by
  have shape : parameterText name value = ['='].intercalate [[name], Decimal.digits value] := by
    simp [parameterText, List.intercalate, List.intersperse]
  rw [shape]
  apply List.splitOn_intercalate
  · intro piece member
    simp only [List.mem_cons, List.not_mem_nil, or_false] at member
    rcases member with rfl | rfl
    · simpa using Ne.symm named
    · exact not_mem_digits (by decide) value
  · exact List.cons_ne_nil _ _

/-- The parameters of a hash without associated data as they are written. -/
def costText (cost : Cost) : List Char :=
  [','].intercalate
    [parameterText 'm' cost.memory, parameterText 't' cost.passes, parameterText 'p' cost.lanes]

theorem utf8Size_of_isDigit
    {character : Char}
    (digit : Decimal.isDigit character = true) :
    character.utf8Size = 1 := by
  rw [Decimal.isDigit, Bool.and_eq_true, decide_eq_true_eq, decide_eq_true_eq] at digit
  rw [Char.utf8Size_eq_one_iff, UInt32.le_iff_toNat_le]
  exact Nat.le_trans digit.2 (by decide)

theorem utf8Len_of_isDigit
    {characters : List Char}
    (digits : ∀ character ∈ characters, Decimal.isDigit character = true) :
    String.utf8Len characters = characters.length := by
  induction characters with
  | nil => rfl
  | cons first rest inductionHypothesis =>
      rw [String.utf8Len_cons, utf8Size_of_isDigit (digits first List.mem_cons_self),
        inductionHypothesis fun character member =>
          digits character (List.mem_cons_of_mem first member),
        List.length_cons]

theorem utf8Len_digits (value : Nat) :
    String.utf8Len (Decimal.digits value) = (Decimal.digits value).length :=
  utf8Len_of_isDigit fun _ => Decimal.isDigit_of_mem_digits

/-- The parameters of a hash are not too long to be read. -/
theorem utf8ByteSize_costText
    {cost : Cost}
    (memory : cost.memory < 4294967296)
    (passes : cost.passes < 4294967296)
    (lanes : cost.lanes < 4294967296) :
    (String.ofList (costText cost)).utf8ByteSize ≤ 127 := by
  have shape : costText cost =
      'm' :: '=' :: (Decimal.digits cost.memory ++
        ',' :: 't' :: '=' :: (Decimal.digits cost.passes ++
          ',' :: 'p' :: '=' :: Decimal.digits cost.lanes)) := by
    simp [costText, parameterText, List.intercalate, List.intersperse]
  have memoryShort := length_digits_le_ten memory
  have passesShort := length_digits_le_ten passes
  have lanesShort := length_digits_le_ten lanes
  rw [String.utf8ByteSize_ofList, shape]
  simp only [String.utf8Len_cons, String.utf8Len_append, utf8Len_digits]
  have letters : 'm'.utf8Size = 1 ∧ 't'.utf8Size = 1 ∧ 'p'.utf8Size = 1 ∧ '='.utf8Size = 1 ∧
      ','.utf8Size = 1 := by
    decide
  omega

theorem splitOn_costText (cost : Cost) :
    (costText cost).splitOn ',' =
      [parameterText 'm' cost.memory, parameterText 't' cost.passes,
        parameterText 'p' cost.lanes] := by
  have free {name : Char} (named : name ≠ ',') (value : Nat) : ',' ∉ parameterText name value := by
    intro member
    simp only [parameterText, List.mem_cons] at member
    rcases member with same | same | member
    · exact named same.symm
    · exact absurd same (by decide)
    · exact not_mem_digits (by decide) value member
  apply List.splitOn_intercalate
  · intro piece member
    simp only [List.mem_cons, List.not_mem_nil, or_false] at member
    rcases member with rfl | rfl | rfl
    · exact free (by decide) _
    · exact free (by decide) _
    · exact free (by decide) _
  · exact List.cons_ne_nil _ _

/-- The parameters of a hash are read back. -/
theorem parameters?_costText
    {cost : Cost}
    (memory : cost.memory < 4294967296)
    (passes : cost.passes < 4294967296)
    (lanes : cost.lanes < 4294967296) :
    parameters? (costText cost) = some ⟨cost.memory, cost.passes, cost.lanes, []⟩ := by
  have short : ¬ 127 < (String.ofList (costText cost)).utf8ByteSize :=
    Nat.not_lt.mpr (utf8ByteSize_costText memory passes lanes)
  have pairs : pairs? (costText cost) =
      some [(['m'], Decimal.digits cost.memory), (['t'], Decimal.digits cost.passes),
        (['p'], Decimal.digits cost.lanes)] := by
    rw [pairs?, if_neg short, splitOn_costText]
    simp [splitOn_parameterText, value?_digits, memory, passes, lanes]
  have setMemory (parameters : Parameters) :
      parameters.set? ['m'] (Decimal.digits cost.memory) =
        some { parameters with memory := cost.memory } := by
    rw [Parameters.set?, show String.ofList ['m'] = "m" from rfl]
    simp [number?_digits memory]
  have setPasses (parameters : Parameters) :
      parameters.set? ['t'] (Decimal.digits cost.passes) =
        some { parameters with passes := cost.passes } := by
    rw [Parameters.set?, show String.ofList ['t'] = "t" from rfl]
    simp [number?_digits passes]
  have setLanes (parameters : Parameters) :
      parameters.set? ['p'] (Decimal.digits cost.lanes) =
        some { parameters with lanes := cost.lanes } := by
    rw [Parameters.set?, show String.ofList ['p'] = "p" from rfl]
    simp [number?_digits lanes]
  rw [parameters?, pairs]
  simp [setMemory, setPasses, setLanes, Parameters.standard]

/-- The fields of the text of a hash. -/
def fields (hash : HashText) : List (List Char) :=
  [[], (variantName hash.variant).toList, 'v' :: '=' :: Decimal.digits hash.version.number,
    costText hash.cost, Base64.encode .standard hash.salt, Base64.encode .standard hash.output]

theorem toList_render (hash : HashText) : hash.render.toList = ['$'].intercalate hash.fields := by
  -- The equation of the definition takes seconds to make, for its texts are evaluated.
  delta render
  simp only [fields, costText, parameterText, String.toList_append, String.toList_ofList,
    List.append_assoc]
  simp [List.intercalate, List.intersperse]

theorem dollar_not_mem_costText (cost : Cost) : '$' ∉ costText cost := by
  intro member
  simp only [costText, parameterText, List.intercalate, List.intersperse, List.flatten_cons,
    List.flatten_nil, List.cons_append, List.nil_append, List.append_nil, List.mem_cons,
    List.mem_append, Char.reduceEq, false_or] at member
  rcases member with member | member | member
  all_goals exact not_mem_digits (by decide) _ member

/-- A text is split into the fields that it was written from. -/
theorem splitOn_render (hash : HashText) : hash.render.toList.splitOn '$' = hash.fields := by
  rw [toList_render]
  apply List.splitOn_intercalate
  · intro field member
    simp only [fields, List.mem_cons, List.not_mem_nil, or_false] at member
    rcases member with rfl | rfl | rfl | rfl | rfl | rfl
    · exact List.not_mem_nil
    · cases hash.variant <;> decide
    · cases hash.version <;> decide +kernel
    · exact dollar_not_mem_costText hash.cost
    · exact Base64.dollar_not_mem_encode hash.salt
    · exact Base64.dollar_not_mem_encode hash.output
  · exact List.cons_ne_nil _ _

theorem variantOf?_variantName (variant : Variant) :
    variantOf? (variantName variant).toList = some variant := by
  cases variant <;> decide

theorem takeVersion?_number (version : Version) (rest : List (List Char)) :
    takeVersion? (('v' :: '=' :: Decimal.digits version.number) :: rest) =
      some (version, rest) := by
  cases version <;> rfl

/-- A hash without associated data that fits a text is read back from its text. -/
theorem parse?_render
    {hash : HashText}
    (fits : hash.Fits)
    (plain : hash.associated = []) :
    parse? hash.render = some hash := by
  obtain ⟨-, -, lanesSmall, -⟩ := fits.sound
  have parameters : parameters? (costText hash.cost) = some hash.parameters := by
    rw [parameters?_costText fits.memory fits.passes
      (Nat.lt_trans (show hash.cost.lanes < 16777216 from lanesSmall) (by decide)),
      HashText.parameters, plain]
  have priced (rest : List (List Char)) :
      takeParameters? (costText hash.cost :: rest) = some (hash.parameters, rest) := by
    have isParameters : (costText hash.cost).contains '=' = true := by
      simp [costText, parameterText, List.intercalate, List.intersperse]
    rw [takeParameters?, if_pos isParameters, parameters]
    rfl
  rw [parse?, splitOn_render, fields]
  dsimp only
  simp only [variantOf?_variantName, takeVersion?_number, priced, Base64.decode?_encode,
    Option.bind_eq_bind, Option.bind_some]
  rw [if_pos ⟨fits.sound, length_encode_salt fits.salt.2, fits.salt.1, fits.output.1,
    fits.output.2⟩, ← fits.size]
  rfl

/-- A hash of the standard costs. -/
def standard (salt output : Octets) : HashText :=
  ⟨.hybrid, .v19, ⟨19456, 2, 1, output.length⟩, salt, [], output⟩

theorem fits_standard
    {salt output : Octets}
    (salted : 8 ≤ salt.length ∧ salt.length ≤ 48)
    (size : output.length = outputSize) :
    (standard salt output).Fits where
  sound := show Parameters.standard.Sound by decide
  memory := show 19456 < 4294967296 by decide
  passes := show 2 < 4294967296 by decide
  salt := salted
  associated := Nat.zero_le 32
  output := by
    rw [standard, size]
    decide
  size := rfl

/-! ## Whatever is read fits -/

/-- Whether parameters are of sizes that a text can give. -/
structure Parameters.Fits (parameters : Parameters) : Prop where
  memory : parameters.memory < 4294967296
  passes : parameters.passes < 4294967296
  associated : parameters.associated.length ≤ 32

theorem Parameters.fits_standard : Parameters.standard.Fits where
  memory := by decide
  passes := by decide
  associated := by decide

theorem lt_of_number?
    {characters : List Char}
    {value : Nat}
    (reads : number? characters = some value) :
    value < 4294967296 := by
  rw [number?, Option.ite_none_right_eq_some, Option.filter_eq_some_iff] at reads
  simpa using reads.2.2

/-- Parameters still fit when one of them has been taken. -/
theorem Parameters.Fits.set?
    {parameters taken : Parameters}
    (fits : parameters.Fits)
    {name value : List Char}
    (takes : parameters.set? name value = some taken) :
    taken.Fits := by
  unfold Parameters.set? at takes
  split at takes
  · obtain ⟨memory, reads, rfl⟩ := Option.map_eq_some_iff.mp takes
    exact ⟨lt_of_number? reads, fits.passes, fits.associated⟩
  · obtain ⟨passes, reads, rfl⟩ := Option.map_eq_some_iff.mp takes
    exact ⟨fits.memory, lt_of_number? reads, fits.associated⟩
  · obtain ⟨lanes, -, rfl⟩ := Option.map_eq_some_iff.mp takes
    exact ⟨fits.memory, fits.passes, fits.associated⟩
  · obtain ⟨keyId, -, rfl⟩ := Option.map_eq_some_iff.mp takes
    exact fits
  · obtain ⟨associated, reads, rfl⟩ := Option.map_eq_some_iff.mp takes
    rw [octets?, Option.filter_eq_some_iff] at reads
    exact ⟨fits.memory, fits.passes, by simpa using reads.2⟩
  · cases takes

theorem Parameters.Fits.foldlM
    {parameters taken : Parameters}
    (fits : parameters.Fits)
    {pairs : List (List Char × List Char)}
    (takes : pairs.foldlM (fun parameters (name, value) => parameters.set? name value)
      parameters = some taken) :
    taken.Fits := by
  induction pairs generalizing parameters with
  | nil =>
      cases takes
      exact fits
  | cons pair pairs inductionHypothesis =>
      obtain ⟨next, takesFirst, takes⟩ := Option.bind_eq_some_iff.mp takes
      exact inductionHypothesis (fits.set? takesFirst) takes

theorem fits_of_takeParameters?
    {fields rest : List (List Char)}
    {parameters : Parameters}
    (takes : takeParameters? fields = some (parameters, rest)) :
    parameters.Fits := by
  cases fields with
  | nil =>
      cases takes
      exact Parameters.fits_standard
  | cons field others =>
      rw [takeParameters?] at takes
      split at takes
      · obtain ⟨taken, reads, same⟩ := Option.map_eq_some_iff.mp takes
        cases same
        obtain ⟨pairs, -, takes⟩ := Option.bind_eq_some_iff.mp reads
        exact Parameters.fits_standard.foldlM takes
      · cases takes
        exact Parameters.fits_standard

/-- A hash that is read from a text fits it. -/
theorem fits_of_parse?
    {text : String}
    {hash : HashText}
    (reads : parse? text = some hash) :
    hash.Fits := by
  unfold parse? at reads
  split at reads
  case h_2 => cases reads
  case h_1 name fields split =>
    obtain ⟨variant, -, reads⟩ := Option.bind_eq_some_iff.mp reads
    obtain ⟨⟨version, afterVersion⟩, -, reads⟩ := Option.bind_eq_some_iff.mp reads
    obtain ⟨⟨parameters, last⟩, takes, reads⟩ := Option.bind_eq_some_iff.mp reads
    have fits := fits_of_takeParameters? takes
    dsimp only at reads
    split at reads
    case h_2 => cases reads
    case h_1 saltField outputField =>
      obtain ⟨salt, readsSalt, reads⟩ := Option.bind_eq_some_iff.mp reads
      obtain ⟨output, readsOutput, reads⟩ := Option.bind_eq_some_iff.mp reads
      rw [Option.ite_none_right_eq_some, Option.some.injEq] at reads
      obtain ⟨⟨sound, short, least, outputLeast, outputGreatest⟩, rfl⟩ := reads
      rw [Base64.length_of_decode? readsSalt] at short
      exact
        { sound := sound
          memory := fits.memory
          passes := fits.passes
          salt := ⟨least, show salt.length ≤ 48 by omega⟩
          associated := fits.associated
          output := ⟨outputLeast, outputGreatest⟩
          size := rfl }

end HashText

/-- The text of a new hash holds the output of the password with the standard costs. -/
theorem exists_hash_eq_render (salt : Octets) (password : String) :
    ∃ output, output.length = outputSize ∧
      hash salt password = (HashText.standard salt output).render ∧
      (HashText.standard salt output).IsHashOf password := by
  obtain ⟨output, isOutput⟩ : ∃ output, output =
      Argon2.hash ((HashText.standard salt (List.replicate outputSize 0)).input password) :=
    ⟨_, rfl⟩
  have size : output.length = outputSize := by
    rw [isOutput, Argon2.length_hash (show outputSize ≤ 64 by decide)]
    rfl
  have same : (HashText.standard salt output).input password =
      (HashText.standard salt (List.replicate outputSize 0)).input password := by
    simp only [HashText.input, HashText.standard, size, List.length_replicate]
  refine ⟨output, size, ?_, (congrArg Argon2.hash same).trans isOutput.symm⟩
  rw [isOutput]
  rfl

/-- Just the candidates with the output of a hash that is read are accepted. -/
theorem accepts_iff_of_parse?
    {stored : String}
    {hash : HashText}
    (reads : HashText.parse? stored = some hash)
    (candidate : String) :
    accepts stored candidate = true ↔ hash.IsHashOf candidate := by
  rw [accepts, reads]
  exact decide_eq_true_iff

/-- The password that has been hashed is accepted, if the salt is of a proper size. -/
theorem accepts_hash
    {salt : Octets}
    (least : 8 ≤ salt.length)
    (greatest : (Base64.encode .standard salt).length ≤ 64)
    (password : String) :
    accepts (hash salt password) password = true := by
  have salted : 8 ≤ salt.length ∧ salt.length ≤ 48 := by
    rw [Base64.length_encode] at greatest
    omega
  obtain ⟨output, size, rendered, isHash⟩ := exists_hash_eq_render salt password
  have reads := HashText.parse?_render (HashText.fits_standard salted size) rfl
  rw [rendered, accepts_iff_of_parse? reads]
  exact isHash

end Password

end Credential
