import Credential.Json.Reader
import Credential.Proofs.Text.Decimal

/-!
# What has been written is read back

Texts and integers are read as they were written, and so are the members of an
object, one after the other.  A number has no end of its own: it is read back
before a comma or a brace, which is what follows it in an object.
-/

namespace Credential.Json

open Credential.Text.Decimal (digitValue isDigit)

/-- Whether a comma or a closing brace is at the front. -/
def EndsMember (rest : Input) : Prop :=
  ∃ mark others, rest = some mark :: others ∧ (mark = ',' ∨ mark = '\x7d')

/-- Whether a reader reads a value as it was written in an object. -/
def Reader.ReadsBack (reader : Reader) (depth : Nat) (value : Value) : Prop :=
  ∀ rest, EndsMember rest → reader depth (value.characters.map some ++ rest) = .done value rest

/-- Whether a reader reads one value where another was written in an object. -/
def Reader.ReadsAs (reader : Reader) (depth : Nat) (written seen : Value) : Prop :=
  ∀ rest, EndsMember rest → reader depth (written.characters.map some ++ rest) = .done seen rest

theorem Reader.ReadsBack.tolerant
    {reader : Reader}
    {depth : Nat}
    {value : Value}
    (back : reader.ReadsBack depth value) :
    reader.tolerant.ReadsBack depth value := by
  intro rest ends
  rw [Reader.tolerant, back rest ends]

/-! ## Texts -/

/-- The digit of a number below 16 has that value. -/
theorem hexSymbol?_hexDigit {value : Nat} (inRange : value < 16) :
    hexSymbol? (some (hexDigit value)) = some value := by
  have all : ∀ value : Fin 16, hexSymbol? (some (hexDigit value)) = some value.val := by decide
  exact all ⟨value, inRange⟩

theorem readQuoted_control
    {character : Char}
    (control : character.toNat < 32)
    (read : List Char)
    (rest : Input) :
    readQuoted .plain read false
        (some '\\' :: some 'u' :: some '0' :: some '0' :: some (hexDigit (character.toNat / 16)) ::
          some (hexDigit (character.toNat % 16)) :: rest) =
      readQuoted .plain (character :: read) false rest := by
  have high : hexSymbol? (some (hexDigit (character.toNat / 16))) = some (character.toNat / 16) :=
    hexSymbol?_hexDigit (by omega)
  have low : hexSymbol? (some (hexDigit (character.toNat % 16))) = some (character.toNat % 16) :=
    hexSymbol?_hexDigit (by omega)
  have zero : hexSymbol? (some '0') = some 0 := by decide
  have joined : character.toNat / 16 * 16 + character.toNat % 16 = character.toNat := by omega
  have notLow : ¬(56320 ≤ character.toNat ∧ character.toNat ≤ 57343) := by omega
  have notHigh : ¬(55296 ≤ character.toNat ∧ character.toNat ≤ 56319) := by omega
  simp [readQuoted, simpleEscape?, zero, high, low, joined, notLow, notHigh]

/-- A character is read back as it stands in a quoted text. -/
theorem readQuoted_escape (character : Char) (read : List Char) (rest : Input) :
    readQuoted .plain read false ((escape character).map some ++ rest) =
      readQuoted .plain (character :: read) false rest := by
  unfold escape
  split_ifs with quote backslash lineFeed carriageReturn tab backspace formFeed control
  · subst quote
    rfl
  · subst backslash
    rfl
  · subst lineFeed
    rfl
  · subst carriageReturn
    rfl
  · subst tab
    rfl
  · subst backspace
    rfl
  · subst formFeed
    rfl
  · exact readQuoted_control control read rest
  · simp [readQuoted, quote, backslash, control]

/-- The characters of a text are read back up to the closing quote. -/
theorem readQuoted_flatMap (characters read : List Char) (rest : Input) :
    readQuoted .plain read false ((characters.flatMap escape).map some ++ some '"' :: rest) =
      .done (String.ofList (read.reverse ++ characters)) rest := by
  induction characters generalizing read with
  | nil => simp [readQuoted]
  | cons character characters inductionHypothesis =>
      rw [List.flatMap_cons, List.map_append, List.append_assoc, readQuoted_escape,
        inductionHypothesis]
      simp

theorem map_quote (text : String) (rest : Input) :
    (quote text).map some ++ rest =
      some '"' :: ((text.toList.flatMap escape).map some ++ some '"' :: rest) := by
  simp [quote]

theorem readQuoted_quote (text : String) (rest : Input) :
    readQuoted .plain [] false ((text.toList.flatMap escape).map some ++ some '"' :: rest) =
      .done text rest := by
  rw [readQuoted_flatMap, List.reverse_nil, List.nil_append, String.ofList_toList]

theorem Reader.text_quote (depth : Nat) (content : String) (rest : Input) :
    Reader.text depth ((quote content).map some ++ rest) = .done (.text content) rest := by
  rw [map_quote, Reader.text]
  simp [skipSpace, isSpace, readQuoted_quote, Reading.map, Reading.bind]

/-- Quoted texts that begin one text are the same. -/
theorem eq_of_quote_append
    {first second : String}
    {rest others : List Char}
    (same : quote first ++ rest = quote second ++ others) :
    first = second := by
  have read : Reader.text 0 ((quote first ++ rest).map some) =
      Reader.text 0 ((quote second ++ others).map some) :=
    congrArg (fun characters => Reader.text 0 (characters.map some)) same
  rw [List.map_append, List.map_append, Reader.text_quote, Reader.text_quote] at read
  exact Value.text.inj (Reading.done.inj read).1

theorem exists_commaJoin_cons (piece : List Char) (pieces : List (List Char)) :
    ∃ rest, commaJoin (piece :: pieces) = piece ++ rest := by
  cases pieces with
  | nil => exact ⟨[], (List.append_nil piece).symm⟩
  | cons next others => exact ⟨',' :: commaJoin (next :: others), rfl⟩

/-- Objects with a text for their first member are written alike only if the texts are the same. -/
theorem eq_of_render_object
    {name first second : String}
    {rest others : List (String × Value)}
    (same : (Value.object ((name, .text first) :: rest)).render =
      (Value.object ((name, .text second) :: others)).render) :
    first = second := by
  have characters := String.ofList_injective same
  obtain ⟨tail, begins⟩ :=
    exists_commaJoin_cons (quote name ++ ':' :: quote first) (Value.memberCharacters rest)
  obtain ⟨otherTail, otherBegins⟩ :=
    exists_commaJoin_cons (quote name ++ ':' :: quote second) (Value.memberCharacters others)
  simp only [Value.characters, Value.memberCharacters, begins, otherBegins, List.cons_append,
    List.append_assoc, List.cons.injEq, true_and, List.append_cancel_left_eq] at characters
  exact eq_of_quote_append characters

namespace Reader.ReadsBack

variable {depth : Nat} {content : String}

theorem text (depth : Nat) (content : String) : Reader.text.ReadsBack depth (.text content) :=
  fun rest _ => text_quote depth content rest

theorem textThat
    {accepts : String → Bool}
    (accepted : accepts content = true)
    (depth : Nat) :
    (Reader.textThat accepts).ReadsBack depth (.text content) := by
  intro rest _
  rw [Reader.textThat, Value.characters, text_quote, Reading.bind]
  exact if_pos accepted

theorem optional_text
    {reader : Reader}
    (back : reader.ReadsBack depth (.text content)) :
    reader.optional.ReadsBack depth (.text content) := by
  intro rest ends
  rw [← back rest ends, Value.characters, map_quote]
  rfl

end Reader.ReadsBack

/-! ## Integers -/

theorem isDigit_of_mem_naturalText
    {value : Nat}
    {character : Char}
    (member : character ∈ naturalText value) :
    isDigit character = true :=
  Text.Decimal.isDigit_of_mem_digits member

/-- Digits that have been written are split off. -/
theorem splitDigits_map
    {characters : List Char}
    (digits : ∀ character ∈ characters, isDigit character = true)
    {rest : Input}
    (ends : EndsMember rest) :
    splitDigits (characters.map some ++ rest) = (characters.map digitValue, rest) := by
  induction characters with
  | nil =>
      obtain ⟨mark, others, rfl, rfl | rfl⟩ := ends <;> rfl
  | cons first characters inductionHypothesis =>
      have isFirst := digits first List.mem_cons_self
      rw [isDigit, Bool.and_eq_true, decide_eq_true_eq, decide_eq_true_eq] at isFirst
      have others := inductionHypothesis fun character member =>
        digits character (List.mem_cons_of_mem first member)
      simp [splitDigits, digitSymbol?, isFirst, others, digitValue]

/-- Taking digits only makes a number greater. -/
theorem le_foldl (digits : List Nat) (start : Nat) :
    start ≤ digits.foldl (fun value digit => value * 10 + digit) start := by
  induction digits generalizing start with
  | nil => exact Nat.le_refl start
  | cons digit digits inductionHypothesis =>
      exact Nat.le_trans (by omega) (inductionHypothesis (start * 10 + digit))

/-- Digits of a number that fits a word are all taken. -/
theorem foldl_takeWhole
    {digits : List Nat}
    {start : Nat}
    (fits : digits.foldl (fun value digit => value * 10 + digit) start ≤ maxWord) :
    digits.foldl Scaled.takeWhole ⟨start, 0, false⟩ =
      ⟨digits.foldl (fun value digit => value * 10 + digit) start, 0, false⟩ := by
  induction digits generalizing start with
  | nil => rfl
  | cons digit digits inductionHypothesis =>
      have small : start * 10 + digit ≤ maxWord :=
        Nat.le_trans (le_foldl digits (start * 10 + digit)) fits
      rw [List.foldl_cons, List.foldl_cons, Scaled.takeWhole]
      simp only [Bool.not_false, small, decide_true, Bool.and_self, ↓reduceIte]
      exact inductionHypothesis fits

theorem foldl_naturalText (value : Nat) :
    ((naturalText value).map digitValue).foldl (fun value digit => value * 10 + digit) 0 =
      value := by
  rw [List.foldl_map]
  exact Text.Decimal.valueOf_digits value

/-- The values of the digits of a number are not none, and only zero begins with one. -/
theorem digits_shape (value : Nat) :
    (naturalText value).map digitValue ≠ [] ∧
      ∀ next others, (naturalText value).map digitValue ≠ 0 :: next :: others := by
  constructor
  · intro empty
    exact Nat.toDigits_ne_nil (List.map_eq_nil_iff.mp empty)
  · intro next others shape
    obtain ⟨first, rest, written, isZero, tail⟩ := List.map_eq_cons_iff.mp shape
    obtain ⟨second, rest, rfl, -, -⟩ := List.map_eq_cons_iff.mp tail
    have member : first ∈ naturalText value := by
      rw [written]
      exact List.mem_cons_self
    have digit := isDigit_of_mem_naturalText member
    rw [isDigit, Bool.and_eq_true, decide_eq_true_eq, decide_eq_true_eq] at digit
    obtain rfl : first = '0' := by
      apply Char.toNat_inj.mp
      rw [digitValue] at isZero
      change first.toNat = 48
      omega
    exact Text.Decimal.digits_ne_zero_cons value second rest written

/-- A number after its sign is read as the whole number of its digits. -/
theorem readUnsigned_naturalText
    (negative : Bool)
    (value : Nat)
    {rest : Input}
    (ends : EndsMember rest) :
    readUnsigned negative ((naturalText value).map some ++ rest) =
      finishWhole negative ((naturalText value).map digitValue) rest := by
  rw [readUnsigned, splitDigits_map (fun _ => isDigit_of_mem_naturalText) ends]
  dsimp only
  split
  case h_1 empty => exact ((digits_shape value).1 empty).elim
  case h_2 next others shape => exact ((digits_shape value).2 next others shape).elim
  case h_3 =>
    obtain ⟨mark, others, rfl, rfl | rfl⟩ := ends <;> rfl

theorem finishWhole_naturalText
    (negative : Bool)
    {value : Nat}
    (fits : value ≤ maxWord)
    (representable : negative = true → value ≠ 0 ∧ value ≤ 9223372036854775808)
    (rest : Input) :
    finishWhole negative ((naturalText value).map digitValue) rest =
      .done (.integer (if negative then -value else value)) rest := by
  have small : ((naturalText value).map digitValue).foldl
      (fun value digit => value * 10 + digit) 0 ≤ maxWord := by
    rwa [foldl_naturalText]
  have taken := foldl_takeWhole small
  rw [foldl_naturalText] at taken
  rw [finishWhole, taken]
  cases negative with
  | false => rfl
  | true =>
      obtain ⟨positive, small⟩ := representable rfl
      dsimp only
      rw [if_neg (by decide), if_pos rfl, if_neg (by omega)]
      rfl

/-- The numbers that are read as integers. -/
def IsReadable (number : Int) : Prop :=
  -9223372036854775808 ≤ number ∧ number ≤ maxWord

/-- A natural number begins with a digit. -/
theorem exists_cons_naturalText (value : Nat) :
    ∃ first others, naturalText value = first :: others ∧ isDigit first = true := by
  cases written : naturalText value with
  | nil => exact (Nat.toDigits_ne_nil written).elim
  | cons first others =>
      have member : first ∈ naturalText value := by
        rw [written]
        exact List.mem_cons_self
      exact ⟨first, others, rfl, isDigit_of_mem_naturalText member⟩

/-- The first character of a written integer is a sign or a digit. -/
theorem exists_integerText (number : Int) :
    ∃ first others, integerText number = first :: others ∧
      (first = '-' ∨ isDigit first = true) := by
  cases number with
  | negSucc value => exact ⟨'-', naturalText (value + 1), rfl, .inl rfl⟩
  | ofNat value =>
      obtain ⟨first, others, written, digit⟩ := exists_cons_naturalText value
      exact ⟨first, others, written, .inr digit⟩

/-- A digit is neither a sign nor a space. -/
theorem of_isDigit
    {character : Char}
    (digit : isDigit character = true) :
    character ≠ '-' ∧ isSpace (some character) = false ∧
      (digitSymbol? (some character)).isSome = true := by
  rw [isDigit, Bool.and_eq_true, decide_eq_true_eq, decide_eq_true_eq] at digit
  refine ⟨?_, ?_, ?_⟩
  · rintro rfl
    exact absurd digit.1 (by decide)
  · simp only [isSpace, Bool.or_eq_false_iff, decide_eq_false_iff_not]
    refine ⟨⟨⟨?_, ?_⟩, ?_⟩, ?_⟩ <;> rintro rfl <;> exact absurd digit.1 (by decide)
  · simp [digitSymbol?, digit]

theorem skipSpace_integerText (number : Int) (rest : Input) :
    skipSpace ((integerText number).map some ++ rest) = (integerText number).map some ++ rest := by
  obtain ⟨first, others, written, rfl | digit⟩ := exists_integerText number
  · rw [written]
    rfl
  · rw [written]
    simp [skipSpace, (of_isDigit digit).2.1]

theorem numberBegins_integerText (number : Int) (rest : Input) :
    numberBegins ((integerText number).map some ++ rest) = true := by
  obtain ⟨first, others, written, rfl | digit⟩ := exists_integerText number
  · rw [written]
    rfl
  · rw [written]
    simp [numberBegins, (of_isDigit digit).2.2]

/-- The symbols of a natural number begin with a digit. -/
theorem exists_map_naturalText (value : Nat) (rest : Input) :
    ∃ first others, (naturalText value).map some ++ rest = some first :: others ∧
      isDigit first = true := by
  obtain ⟨first, others, written, digit⟩ := exists_cons_naturalText value
  rw [written]
  exact ⟨first, others.map some ++ rest, rfl, digit⟩

theorem readNumber_integerText
    {number : Int}
    (readable : IsReadable number)
    {rest : Input}
    (ends : EndsMember rest) :
    readNumber ((integerText number).map some ++ rest) = .done (.integer number) rest := by
  obtain ⟨least, greatest⟩ := readable
  cases number with
  | negSucc value =>
      change readUnsigned true ((naturalText (value + 1)).map some ++ rest) = _
      rw [Int.negSucc_eq] at least
      rw [readUnsigned_naturalText true _ ends, finishWhole_naturalText]
      · rfl
      · simp only [maxWord]
        omega
      · omega
  | ofNat value =>
      have ran := readUnsigned_naturalText false value ends
      rw [finishWhole_naturalText false (Int.ofNat_le.mp greatest) (by simp)] at ran
      rw [integerText]
      obtain ⟨first, others, shape, digit⟩ := exists_map_naturalText value rest
      rw [shape] at ran ⊢
      rw [readNumber]
      · exact ran
      · intro others same
        cases same
        exact (of_isDigit digit).1 rfl

theorem skipNumber_integerText
    (number : Int)
    {rest : Input}
    (ends : EndsMember rest) :
    skipNumber ((integerText number).map some ++ rest) = .done () rest := by
  have unsigned (value : Nat) : skipMinus ((integerText number).map some ++ rest) =
      (naturalText value).map some ++ rest →
        skipNumber ((integerText number).map some ++ rest) = .done () rest := by
    intro passed
    rw [skipNumber, passed, splitDigits_map (fun _ => isDigit_of_mem_naturalText) ends]
    dsimp only
    split
    case h_1 empty => exact ((digits_shape value).1 empty).elim
    case h_2 next others shape => exact ((digits_shape value).2 next others shape).elim
    case h_3 =>
      obtain ⟨mark, others, rfl, rfl | rfl⟩ := ends <;> rfl
  cases number with
  | negSucc value => exact unsigned (value + 1) rfl
  | ofNat value =>
      apply unsigned value
      rw [integerText]
      obtain ⟨first, others, shape, digit⟩ := exists_map_naturalText value rest
      rw [shape, skipMinus]
      intro others same
      cases same
      exact (of_isDigit digit).1 rfl

/-- What begins with a sign or a digit is passed over as a number. -/
theorem skipWithin_of_number
    {first : Char}
    (begins : first = '-' ∨ isDigit first = true)
    (fuel : Nat)
    (rest : Input) :
    skipWithin (fuel + 1) [] (some first :: rest) = skipNumber (some first :: rest) := by
  have notSpace : skipSpace (some first :: rest) = some first :: rest := by
    rcases begins with rfl | digit
    · rfl
    · simp [skipSpace, (of_isDigit digit).2.1]
  have scalar : skipScalar (some first :: rest) = skipNumber (some first :: rest) := by
    rcases begins with rfl | digit
    · rfl
    · rw [skipScalar, if_pos (of_isDigit digit).2.2]
      all_goals
        rintro ⟨⟩
        exact absurd digit (by decide)
  have notOpening {character : Char} (opening : character = '[' ∨ character = '\x7b') :
      first ≠ character := by
    rintro rfl
    rcases opening with rfl | rfl <;> exact absurd begins (by decide)
  rw [skipWithin, notSpace]
  split
  case h_1 same => exact (notOpening (.inl rfl) (Option.some.inj (List.cons.inj same).1)).elim
  case h_2 same => exact (notOpening (.inr rfl) (Option.some.inj (List.cons.inj same).1)).elim
  case h_3 =>
    rw [scalar]
    cases skipNumber (some first :: rest) <;> rfl

theorem skipValue_integerText
    (number : Int)
    {rest : Input}
    (ends : EndsMember rest) :
    skipValue ((integerText number).map some ++ rest) = .done () rest := by
  rw [← skipNumber_integerText number ends, skipValue]
  obtain ⟨first, others, written, begins⟩ := exists_integerText number
  rw [written]
  exact skipWithin_of_number begins _ _

namespace Reader.ReadsBack

variable {depth : Nat} {number : Int}

theorem integer
    {least greatest : Int}
    (readable : IsReadable number)
    (within : least ≤ number ∧ number ≤ greatest)
    (depth : Nat) :
    (Reader.integer least greatest).ReadsBack depth (.integer number) := by
  intro rest ends
  rw [Reader.integer, Value.characters, skipSpace_integerText,
    if_pos (numberBegins_integerText number rest), readNumber_integerText readable ends]
  exact if_pos within

/-- A number that is out of bounds is read as null by a reader that goes on. -/
theorem tolerant_of_outside
    {least greatest : Int}
    (readable : IsReadable number)
    (outside : ¬ (least ≤ number ∧ number ≤ greatest))
    (depth : Nat) :
    (Reader.integer least greatest).tolerant.ReadsAs depth (.integer number) .null := by
  intro rest ends
  have stops : Reader.integer least greatest depth
      ((Value.integer number).characters.map some ++ rest) = .stop .mismatch rest := by
    rw [Reader.integer, Value.characters, skipSpace_integerText,
      if_pos (numberBegins_integerText number rest), readNumber_integerText readable ends]
    exact if_neg outside
  rw [Reader.tolerant, stops]

theorem optional_integer
    {reader : Reader}
    (back : reader.ReadsBack depth (.integer number)) :
    reader.optional.ReadsBack depth (.integer number) := by
  intro rest ends
  have begins := numberBegins_integerText number rest
  rw [← back rest ends, Reader.optional, Value.characters, skipSpace_integerText]
  split
  case h_1 others same =>
    rw [same] at begins
    cases begins
  case h_2 => rfl

end Reader.ReadsBack

/-! ## Objects -/

/-- The members of an object; a comma comes before every one but the first of all. -/
def writtenMembers (isFirst : Bool) : List (String × Value) → Input
  | [] => []
  | (name, value) :: entries =>
      (if isFirst then [] else [some ',']) ++ ((quote name).map some ++
        some ':' :: (value.characters.map some ++ writtenMembers false entries))

theorem map_commaJoin (entries : List (String × Value)) :
    (commaJoin (Value.memberCharacters entries)).map some = writtenMembers true entries := by
  induction entries with
  | nil => rfl
  | cons entry entries inductionHypothesis =>
      cases entries with
      | nil => simp [Value.memberCharacters, commaJoin, writtenMembers]
      | cons next entries =>
          have joined : commaJoin (Value.memberCharacters (entry :: next :: entries)) =
              quote entry.1 ++ ':' :: entry.2.characters ++
                ',' :: commaJoin (Value.memberCharacters (next :: entries)) := rfl
          rw [joined, List.map_append, List.map_cons, inductionHypothesis]
          simp [writtenMembers]

theorem length_le_writtenMembers (isFirst : Bool) (entries : List (String × Value)) :
    entries.length ≤ (writtenMembers isFirst entries).length := by
  induction entries generalizing isFirst with
  | nil => exact Nat.le_refl 0
  | cons entry entries inductionHypothesis =>
      have others := inductionHypothesis false
      simp only [writtenMembers, List.length_append, List.length_cons]
      omega

/-- A member ends where further members or the end of its object come. -/
theorem endsMember_writtenMembers (entries : List (String × Value)) (rest : Input) :
    EndsMember (writtenMembers false entries ++ some '\x7d' :: rest) := by
  cases entries with
  | nil => exact ⟨'\x7d', rest, rfl, .inr rfl⟩
  | cons entry entries => exact ⟨',', _, rfl, .inl rfl⟩

/-- Whether some member has a name. -/
def isKnown (members : List Member) (name : String) : Bool :=
  members.any (·.name = name)

/-- Whether a record reads a member as it was written, or does not know it and passes over it. -/
def Accepts (members : List Member) (depth : Nat) (name : String) (value : Value) : Prop :=
  match members.find? (·.name = name) with
  | some member => member.reader.ReadsBack depth value
  | none =>
      ∀ rest, EndsMember rest → skipValue (value.characters.map some ++ rest) = .done () rest

/-- Whether a record sees a value in a member, or does not know the member and passes over it. -/
def AcceptsAs
    (members : List Member)
    (depth : Nat)
    (name : String)
    (written seen : Value) :
    Prop :=
  match members.find? (·.name = name) with
  | some member => member.reader.ReadsAs depth written seen
  | none =>
      ∀ rest, EndsMember rest → skipValue (written.characters.map some ++ rest) = .done () rest

/-- What is seen of the members of an object by a record that knows some of them. -/
def seenMembers
    (members : List Member)
    (seen : String → Value → Value)
    (entries : List (String × Value)) :
    List (String × Value) :=
  (entries.filter (isKnown members ·.1)).map fun entry => (entry.1, seen entry.1 entry.2)

namespace Reader

variable {members : List Member} {depth fuel : Nat} {read entries : List (String × Value)}
  {seen : String → Value → Value}

theorem hasNext_quote (isFirst : Bool) (name : String) (rest : Input) :
    hasNext '\x7d' isFirst
        ((if isFirst then [] else [some ',']) ++ ((quote name).map some ++ rest)) =
      .done true ((quote name).map some ++ rest) := by
  cases isFirst <;> simp [quote, hasNext, skipSpace, isSpace]

theorem hasNext_close (isFirst : Bool) (rest : Input) :
    hasNext '\x7d' isFirst (some '\x7d' :: rest) = .done false (some '\x7d' :: rest) :=
  rfl

theorem memberName_quote (name : String) (rest : Input) :
    memberName ((quote name).map some ++ rest) = .done name rest := by
  rw [map_quote, memberName, readQuoted_quote]

/-- A member is read if it is known, and passed over otherwise. -/
theorem objectMembers_member
    {name : String}
    {value other : Value}
    (accepts : AcceptsAs members depth name value other)
    (isNew : read.lookup name = none)
    (isFirst : Bool)
    {rest : Input}
    (ends : EndsMember rest) :
    objectMembers members depth (fuel + 1) isFirst read
        ((if isFirst then [] else [some ',']) ++ ((quote name).map some ++
          some ':' :: (value.characters.map some ++ rest))) =
      objectMembers members depth fuel false
        (if isKnown members name then (name, other) :: read else read) rest := by
  have colon : passColon (some ':' :: (value.characters.map some ++ rest)) =
      .done () (value.characters.map some ++ rest) := rfl
  rw [objectMembers, hasNext_quote, Reading.bind, if_pos rfl, memberName_quote, Reading.bind]
  rw [AcceptsAs] at accepts
  cases found : members.find? (·.name = name) with
  | none =>
      rw [found] at accepts
      have passed := accepts rest ends
      have unknown : isKnown members name = false := by
        rw [isKnown, List.any_eq_false]
        exact List.find?_eq_none.mp found
      simp only [colon, Reading.bind, passed, unknown, Bool.false_eq_true, ↓reduceIte]
  | some member =>
      rw [found] at accepts
      have back := accepts rest ends
      have known : isKnown members name = true := by
        rw [isKnown, List.any_eq_true]
        exact ⟨member, List.mem_of_find?_eq_some found, by simpa using List.find?_some found⟩
      simp only [colon, Reading.bind, back, known, isNew, Option.isSome_none, Bool.false_eq_true,
        ↓reduceIte]

/-- A name is new where it comes among further names, all of them distinct. -/
theorem lookup_eq_none_of_nodup
    {name : String}
    {value : Value}
    (distinct : ((read.reverse ++ (name, value) :: entries).map Prod.fst).Nodup) :
    read.lookup name = none := by
  rw [List.map_append] at distinct
  rw [List.lookup_eq_none_iff]
  intro entry member
  rw [bne_iff_ne]
  rintro rfl
  have isRead : entry.1 ∈ read.reverse.map Prod.fst :=
    List.mem_map_of_mem (List.mem_reverse.mpr member)
  exact List.disjoint_of_nodup_append distinct isRead List.mem_cons_self

/-- The members that are known are read up to the end of their object. -/
theorem objectMembers_writtenMembers
    (accepts : ∀ entry ∈ entries, AcceptsAs members depth entry.1 entry.2 (seen entry.1 entry.2))
    (distinct : ((read.reverse ++ entries).map Prod.fst).Nodup)
    (complete : lacks members (read.reverse ++ seenMembers members seen entries).reverse = false)
    (isFirst : Bool)
    (enough : entries.length < fuel)
    (rest : Input) :
    objectMembers members depth fuel isFirst read
        (writtenMembers isFirst entries ++ some '\x7d' :: rest) =
      .done (read.reverse ++ seenMembers members seen entries) (some '\x7d' :: rest) := by
  -- Each member takes one unit of fuel, and moves on from those to come to those that are read.
  induction entries generalizing read fuel isFirst with
  | nil =>
      obtain ⟨fuel, rfl⟩ := Nat.exists_eq_succ_of_ne_zero (Nat.ne_of_gt enough)
      have complete : lacks members read = false := by simpa [seenMembers] using complete
      change objectMembers members depth (fuel + 1) isFirst read (some '\x7d' :: rest) = _
      rw [objectMembers, hasNext_close, Reading.bind, if_neg Bool.false_ne_true, complete]
      simp [seenMembers]
  | cons entry entries inductionHypothesis =>
      obtain ⟨name, value⟩ := entry
      obtain ⟨fuel, rfl⟩ := Nat.exists_eq_succ_of_ne_zero (Nat.ne_of_gt (Nat.zero_lt_of_lt enough))
      have others := fun entry member => accepts entry (List.mem_cons_of_mem (name, value) member)
      have enough : entries.length < fuel := by simpa using enough
      rw [writtenMembers]
      simp only [List.append_assoc, List.cons_append]
      rw [objectMembers_member (accepts _ List.mem_cons_self) (lookup_eq_none_of_nodup distinct)
        isFirst (endsMember_writtenMembers entries rest)]
      by_cases known : isKnown members name = true
      · rw [if_pos known, inductionHypothesis others _ _ _ enough]
        · simp [seenMembers, known]
        · simpa using distinct
        · simpa [seenMembers, known] using complete
      · rw [if_neg known, inductionHypothesis others _ _ _ enough]
        · simp [seenMembers, known]
        · exact distinct.sublist (by simp)
        · simpa [seenMembers, known] using complete

/-- A record reads an object, but for the members that it does not know. -/
theorem record_object
    (accepts : ∀ entry ∈ entries,
      AcceptsAs members (depth + 1) entry.1 entry.2 (seen entry.1 entry.2))
    (distinct : (entries.map Prod.fst).Nodup)
    (complete : lacks members (seenMembers members seen entries).reverse = false)
    (rest : Input) :
    record members (depth + 2) ((Value.object entries).characters.map some ++ rest) =
      .done (.object (seenMembers members seen entries)) rest := by
  have written : (Value.object entries).characters.map some ++ rest =
      some '\x7b' :: (writtenMembers true entries ++ some '\x7d' :: rest) := by
    simp [Value.characters, ← map_commaJoin]
  have enough : entries.length <
      (writtenMembers true entries ++ some '\x7d' :: rest).length + 1 := by
    have short := length_le_writtenMembers true entries
    rw [List.length_append]
    omega
  have ran :
      objectMembers members (depth + 1)
          ((writtenMembers true entries ++ some '\x7d' :: rest).length + 1) true []
          (writtenMembers true entries ++ some '\x7d' :: rest) =
        .done (seenMembers members seen entries) (some '\x7d' :: rest) := by
    refine objectMembers_writtenMembers accepts ?_ ?_ true enough rest
    · exact distinct
    · exact complete
  rw [written, record]
  change (enter (depth + 2) _ _ : Reading Value) = _
  rw [enter, if_neg (by omega), List.drop_one, List.tail_cons]
  dsimp only [Nat.add_succ_sub_one]
  rw [ran]
  rfl

/-- An input that holds an object is read as far as it is seen. -/
theorem whole_render_of_seen
    (seen : String → Value → Value)
    (accepts : ∀ entry ∈ entries, AcceptsAs members 127 entry.1 entry.2 (seen entry.1 entry.2))
    (distinct : (entries.map Prod.fst).Nodup)
    (complete : lacks members (seenMembers members seen entries).reverse = false) :
    (record members).whole (inputOf (Value.object entries).render) =
      .ok (.object (seenMembers members seen entries)) := by
  have ran := record_object accepts distinct complete []
  rw [List.append_nil] at ran
  rw [whole, inputOf, Value.render, String.toList_ofList]
  change record members depthLimit _ = _ at ran
  rw [ran]
  rfl

/-- An input that holds an object is read as it was written. -/
theorem whole_render
    (accepts : ∀ entry ∈ entries, Accepts members 127 entry.1 entry.2)
    (distinct : (entries.map Prod.fst).Nodup)
    (complete : lacks members (entries.filter (isKnown members ·.1)).reverse = false) :
    (record members).whole (inputOf (Value.object entries).render) =
      .ok (.object (entries.filter (isKnown members ·.1))) := by
  have same : seenMembers members (fun _ value => value) entries =
      entries.filter (isKnown members ·.1) :=
    List.map_id _
  rw [← same] at complete ⊢
  exact whole_render_of_seen _ accepts distinct complete

end Reader

end Credential.Json
