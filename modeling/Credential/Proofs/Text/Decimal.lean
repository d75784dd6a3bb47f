import Credential.Text.Decimal
import Mathlib

/-!
# Runs of digits

A number that is padded to a width is read back as it was, and padded numbers of
one width stand in the order of the alphabet when the numbers stand in theirs.
-/

namespace Credential.Text.Decimal

/-- The number that a run of digits denotes is the one that the library computes. -/
theorem valueOf_eq_ofDigitChars (characters : List Char) :
    valueOf characters = Nat.ofDigitChars 10 characters 0 := by
  rw [Nat.ofDigitChars_eq_foldl]
  simp only [valueOf, digitValue, Nat.mul_comm 10]
  rfl

/-- A run of digits adds to ten times the number before it for each of its digits. -/
theorem valueOf_append (front back : List Char) :
    valueOf (front ++ back) = valueOf front * 10 ^ back.length + valueOf back := by
  rw [valueOf_eq_ofDigitChars, Nat.ofDigitChars_append,
    Nat.ofDigitChars_eq_ofDigitChars_zero, Nat.mul_comm,
    ← valueOf_eq_ofDigitChars, ← valueOf_eq_ofDigitChars]

/-- The first digit of a run counts by its place. -/
theorem valueOf_cons (first : Char) (rest : List Char) :
    valueOf (first :: rest) = digitValue first * 10 ^ rest.length + valueOf rest := by
  have single : valueOf [first] = digitValue first := by
    simp [valueOf]
  rw [← single, ← valueOf_append]
  rfl

/-- The digits of a number denote it. -/
@[simp] theorem valueOf_digits (value : Nat) : valueOf (digits value) = value := by
  rw [valueOf_eq_ofDigitChars, digits, Nat.ofDigitChars_ten_toDigits]

/-- Zeros before the digits of a number change nothing. -/
@[simp] theorem valueOf_padded (width value : Nat) : valueOf (padded width value) = value := by
  have zeros : ∀ count, valueOf (List.replicate count '0') = 0 := by
    intro count
    rw [valueOf_eq_ofDigitChars, Nat.ofDigitChars_replicate_zero, Nat.mul_zero]
  rw [padded, valueOf_append, zeros, valueOf_digits, Nat.zero_mul, Nat.zero_add]

theorem isDigit_of_mem_digits
    {value : Nat}
    {character : Char}
    (member : character ∈ digits value) :
    isDigit character = true := by
  have ascii : character.isDigit = true :=
    Nat.isDigit_of_mem_toDigits (by decide) (by decide) member
  simp only [Char.isDigit, ge_iff_le, Bool.and_eq_true, decide_eq_true_eq,
    UInt32.le_iff_toNat_le] at ascii
  rw [isDigit, Bool.and_eq_true, decide_eq_true_eq, decide_eq_true_eq]
  exact ascii

/-- A padded number is made of digits. -/
theorem isDigit_of_mem_padded
    {width value : Nat}
    {character : Char}
    (member : character ∈ padded width value) :
    isDigit character = true := by
  rcases List.mem_append.mp member with zero | digit
  · rw [List.eq_of_mem_replicate zero]
    decide
  · exact isDigit_of_mem_digits digit

/-- A number below a power of ten has no more digits than that power has zeros. -/
theorem length_digits_le
    {width value : Nat}
    (positive : 0 < width)
    (fits : value < 10 ^ width) :
    (digits value).length ≤ width :=
  (Nat.length_toDigits_le_iff (by decide) positive).mpr fits

/-- A number that fits a width is padded to just that width. -/
theorem length_padded
    {width value : Nat}
    (positive : 0 < width)
    (fits : value < 10 ^ width) :
    (padded width value).length = width := by
  have short := length_digits_le positive fits
  rw [padded, List.length_append, List.length_replicate]
  omega

/-- A number has a digit. -/
theorem digits_ne_nil (value : Nat) : digits value ≠ [] :=
  Nat.toDigits_ne_nil

/-- A padded number is not empty. -/
theorem padded_ne_nil (width value : Nat) : padded width value ≠ [] := by
  intro empty
  exact digits_ne_nil value (List.append_eq_nil_iff.mp empty).2

/-- The digits of a number are read as that number. -/
theorem read?_digits (value : Nat) : read? (digits value) = some value := by
  have digit : (digits value).all isDigit = true :=
    List.all_eq_true.mpr fun _ => isDigit_of_mem_digits
  rw [read?, if_pos ⟨digits_ne_nil value, digit⟩, valueOf_digits]

/-- A digit counts less than ten. -/
theorem digitValue_lt
    {character : Char}
    (digit : isDigit character = true) :
    digitValue character < 10 := by
  rw [isDigit, Bool.and_eq_true, decide_eq_true_eq, decide_eq_true_eq] at digit
  rw [digitValue]
  omega

/-- A run of digits denotes less than the power of ten of its length. -/
theorem valueOf_lt
    {characters : List Char}
    (digits : ∀ character ∈ characters, isDigit character = true) :
    valueOf characters < 10 ^ characters.length := by
  induction characters with
  | nil => decide
  | cons first rest inductionHypothesis =>
      have small : digitValue first < 10 := digitValue_lt (digits first List.mem_cons_self)
      have tail : valueOf rest < 10 ^ rest.length :=
        inductionHypothesis fun character member =>
          digits character (List.mem_cons_of_mem first member)
      rw [valueOf_cons, List.length_cons, Nat.pow_succ]
      calc
        digitValue first * 10 ^ rest.length + valueOf rest
            < digitValue first * 10 ^ rest.length + 10 ^ rest.length := by omega
        _ = (digitValue first + 1) * 10 ^ rest.length := by rw [Nat.succ_mul]
        _ ≤ 10 * 10 ^ rest.length := Nat.mul_le_mul_right _ small
        _ = 10 ^ rest.length * 10 := Nat.mul_comm _ _

/-- The digits of a number do not begin with a zero, unless that is all. -/
theorem digits_ne_zero_cons (value : Nat) (next : Char) (others : List Char) :
    digits value ≠ '0' :: next :: others := by
  intro shape
  have isDigits (character : Char) (member : character ∈ next :: others) :
      isDigit character = true := by
    have written : character ∈ digits value := by
      rw [shape]
      exact List.mem_cons_of_mem '0' member
    exact isDigit_of_mem_digits written
  have small : value < 10 ^ (next :: others).length := by
    calc
      value = valueOf (digits value) := (valueOf_digits value).symm
      _ = valueOf (next :: others) := by
        rw [shape, valueOf_cons]
        simp [digitValue]
      _ < 10 ^ (next :: others).length := valueOf_lt isDigits
  have short := length_digits_le (by simp) small
  rw [shape] at short
  simp at short

/-! ## Order -/

/-- Digits stand in the order of what they count. -/
theorem lt_of_digitValue_lt
    {first second : Char}
    (less : digitValue first < digitValue second) :
    first < second := by
  rw [Char.lt_def, UInt32.lt_iff_toNat_lt]
  simp only [digitValue, Char.toNat] at less
  omega

/-- Digits that count the same are the same. -/
theorem eq_of_digitValue_eq
    {first second : Char}
    (firstDigit : isDigit first = true)
    (secondDigit : isDigit second = true)
    (same : digitValue first = digitValue second) :
    first = second := by
  rw [isDigit, Bool.and_eq_true, decide_eq_true_eq, decide_eq_true_eq] at firstDigit secondDigit
  simp only [digitValue] at same
  have codes : first.toNat = second.toNat := by omega
  exact Char.ext (UInt32.toNat_inj.mp codes)

/-- A greater first digit outweighs whatever follows. -/
theorem valueOf_cons_lt_valueOf_cons
    {head otherHead : Char}
    {tail otherTail : List Char}
    (tailDigits : ∀ character ∈ tail, isDigit character = true)
    (sameLength : tail.length = otherTail.length)
    (less : digitValue head < digitValue otherHead) :
    valueOf (head :: tail) < valueOf (otherHead :: otherTail) := by
  have small : valueOf tail < 10 ^ tail.length := valueOf_lt tailDigits
  have outweighs :
      (digitValue head + 1) * 10 ^ tail.length ≤ digitValue otherHead * 10 ^ tail.length :=
    Nat.mul_le_mul_right _ less
  rw [Nat.succ_mul] at outweighs
  rw [valueOf_cons, valueOf_cons, ← sameLength]
  omega

/-- Of two runs of digits of one length, the one of the smaller number comes first. -/
theorem lt_of_valueOf_lt
    {first second : List Char}
    (firstDigits : ∀ character ∈ first, isDigit character = true)
    (secondDigits : ∀ character ∈ second, isDigit character = true)
    (sameLength : first.length = second.length)
    (less : valueOf first < valueOf second) :
    first < second := by
  induction first generalizing second with
  | nil =>
      cases second with
      | nil => exact (Nat.lt_irrefl _ less).elim
      | cons head tail => simp at sameLength
  | cons head tail inductionHypothesis =>
      cases second with
      | nil => simp at sameLength
      | cons otherHead otherTail =>
          have tailLength : tail.length = otherTail.length := by
            simpa using sameLength
          have tailDigits : ∀ character ∈ tail, isDigit character = true :=
            fun character member => firstDigits character (List.mem_cons_of_mem head member)
          have otherDigits : ∀ character ∈ otherTail, isDigit character = true :=
            fun character member => secondDigits character (List.mem_cons_of_mem otherHead member)
          rw [List.cons_lt_cons_iff]
          rcases Nat.lt_trichotomy (digitValue head) (digitValue otherHead) with
            smaller | same | greater
          · exact Or.inl (lt_of_digitValue_lt smaller)
          · rw [valueOf_cons, valueOf_cons, tailLength, same] at less
            refine Or.inr ⟨?_, inductionHypothesis tailDigits otherDigits tailLength (by omega)⟩
            exact eq_of_digitValue_eq (firstDigits head List.mem_cons_self)
              (secondDigits otherHead List.mem_cons_self) same
          · exact (Nat.lt_asymm less
              (valueOf_cons_lt_valueOf_cons otherDigits tailLength.symm greater)).elim

/-- Of two numbers that fit a width, the smaller one comes first when both are padded. -/
theorem padded_lt_padded
    {width first second : Nat}
    (positive : 0 < width)
    (fits : second < 10 ^ width)
    (less : first < second) :
    padded width first < padded width second := by
  apply lt_of_valueOf_lt
  · exact fun _ => isDigit_of_mem_padded
  · exact fun _ => isDigit_of_mem_padded
  · rw [length_padded positive (by omega), length_padded positive fits]
  · simpa using less

/-- Runs of digits of one length that denote the same number are the same. -/
theorem eq_of_valueOf_eq
    {first second : List Char}
    (firstDigits : ∀ character ∈ first, isDigit character = true)
    (secondDigits : ∀ character ∈ second, isDigit character = true)
    (sameLength : first.length = second.length)
    (same : valueOf first = valueOf second) :
    first = second := by
  induction first generalizing second with
  | nil => exact (List.length_eq_zero_iff.mp sameLength.symm).symm
  | cons head tail inductionHypothesis =>
      cases second with
      | nil => simp at sameLength
      | cons otherHead otherTail =>
          have tailLength : tail.length = otherTail.length := by
            simpa using sameLength
          have tailDigits : ∀ character ∈ tail, isDigit character = true :=
            fun character member => firstDigits character (List.mem_cons_of_mem head member)
          have otherDigits : ∀ character ∈ otherTail, isDigit character = true :=
            fun character member => secondDigits character (List.mem_cons_of_mem otherHead member)
          have heads : digitValue head = digitValue otherHead := by
            rcases Nat.lt_trichotomy (digitValue head) (digitValue otherHead) with
              smaller | heads | greater
            · exact absurd same
                (Nat.ne_of_lt (valueOf_cons_lt_valueOf_cons tailDigits tailLength smaller))
            · exact heads
            · exact absurd same.symm
                (Nat.ne_of_lt (valueOf_cons_lt_valueOf_cons otherDigits tailLength.symm greater))
          have tails : valueOf tail = valueOf otherTail := by
            rw [valueOf_cons, valueOf_cons, tailLength, heads] at same
            omega
          rw [eq_of_digitValue_eq (firstDigits head List.mem_cons_self)
              (secondDigits otherHead List.mem_cons_self) heads,
            inductionHypothesis tailDigits otherDigits tailLength tails]

/-- A number padded to two widths together is its upper part followed by its lower one. -/
theorem padded_add
    (upper lower : Nat)
    {value : Nat}
    (upperPositive : 0 < upper)
    (lowerPositive : 0 < lower)
    (fits : value < 10 ^ (upper + lower)) :
    padded (upper + lower) value =
      padded upper (value / 10 ^ lower) ++ padded lower (value % 10 ^ lower) := by
  have power : 0 < 10 ^ lower := Nat.pow_pos (by decide)
  have upperFits : value / 10 ^ lower < 10 ^ upper := by
    rw [Nat.div_lt_iff_lt_mul power, ← Nat.pow_add]
    exact fits
  have lowerFits : value % 10 ^ lower < 10 ^ lower := Nat.mod_lt _ power
  apply eq_of_valueOf_eq
  · exact fun _ => isDigit_of_mem_padded
  · intro character member
    rcases List.mem_append.mp member with inUpper | inLower
    · exact isDigit_of_mem_padded inUpper
    · exact isDigit_of_mem_padded inLower
  · rw [List.length_append, length_padded (by omega) fits, length_padded upperPositive upperFits,
      length_padded lowerPositive lowerFits]
  · rw [valueOf_append, valueOf_padded, valueOf_padded, valueOf_padded,
      length_padded lowerPositive lowerFits, Nat.div_add_mod']

/-! ## Numbers that texts denote -/

/-- Whether a text denotes a number: by one digit or more, after a plus sign or none. -/
def Denotes (text : String) (value : Nat) : Prop :=
  ∃ digits, (text.toList = digits ∨ text.toList = '+' :: digits) ∧ digits ≠ [] ∧
    (∀ digit ∈ digits, isDigit digit = true) ∧
    value = Nat.ofDigits 10 (digits.reverse.map digitValue)

/-- The last digit of a run counts single, and every other ten times the one after it. -/
theorem valueOf_eq_ofDigits (characters : List Char) :
    valueOf characters = Nat.ofDigits 10 (characters.reverse.map digitValue) := by
  induction characters with
  | nil => rfl
  | cons first rest inductionHypothesis =>
      rw [valueOf_cons, inductionHypothesis, List.reverse_cons, List.map_append,
        Nat.ofDigits_append, List.length_map, List.length_reverse, List.map_singleton,
        Nat.ofDigits_singleton, Nat.mul_comm, Nat.add_comm]

theorem read?_eq_some_iff {characters : List Char} {value : Nat} :
    read? characters = some value ↔
      characters ≠ [] ∧ (∀ character ∈ characters, isDigit character = true) ∧
        value = Nat.ofDigits 10 (characters.reverse.map digitValue) := by
  rw [read?, ← valueOf_eq_ofDigits, Option.ite_none_right_eq_some, List.all_eq_true, and_assoc,
    Option.some.injEq, eq_comm]

/-- A number is read from the texts that denote it, unless it exceeds the limit. -/
theorem readUpTo?_eq_some_iff {limit value : Nat} {text : String} :
    readUpTo? limit text = some value ↔ Denotes text value ∧ value ≤ limit := by
  rw [readUpTo?, Option.filter_eq_some_iff, decide_eq_true_eq, read?_eq_some_iff]
  refine and_congr_left fun _ => ⟨?_, ?_⟩
  · intro reads
    split at reads
    case h_1 rest signed => exact ⟨rest, .inr signed, reads⟩
    case h_2 => exact ⟨text.toList, .inl rfl, reads⟩
  · rintro ⟨digits, plain | signed, reads⟩
    · split
      -- A plus sign is no digit, so digits alone do not begin with one.
      case h_1 rest signed =>
        have isPlus : '+' ∈ digits := by
          rw [← plain, signed]
          exact List.mem_cons_self
        cases reads.2.1 '+' isPlus
      case h_2 =>
        rw [plain]
        exact reads
    · rw [signed]
      exact reads

theorem readUpTo?_eq_none_iff {limit : Nat} {text : String} :
    readUpTo? limit text = none ↔ ∀ value ≤ limit, ¬ Denotes text value := by
  rw [Option.eq_none_iff_forall_ne_some]
  refine forall_congr' fun value => ?_
  rw [ne_eq, readUpTo?_eq_some_iff, not_and']

end Credential.Text.Decimal
