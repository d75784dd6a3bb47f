import Credential.Proofs.Text.Utf8
import Mathlib.Data.String.Basic

/-!
# The order of octets

Texts are ordered by the code points of their characters.  It is the order of
their octets: the first octet of a character tells how many follow, and a longer
character is a later one.
-/

namespace Credential.Text.Utf8

/-! ## Characters -/

/-- The first octet of the character of a code point, as a number. -/
def leadNumber (code : Nat) : Nat :=
  if code < 0x80 then code
  else if code < 0x800 then 0xC0 + code / 64
  else if code < 0x10000 then 0xE0 + code / 4096
  else 0xF0 + code / 262144

/-- The octets of a character begin with its first octet. -/
theorem exists_cons_utf8EncodeChar (character : Char) :
    ∃ lead rest, String.utf8EncodeChar character = lead :: rest ∧
      lead.toNat = leadNumber character.toNat := by
  have bounds := toNat_bounds character
  unfold leadNumber
  split_ifs with one two three
  · exact ⟨_, _, utf8EncodeChar_of_one one, toNat_ofNat (by omega)⟩
  · exact ⟨_, _, utf8EncodeChar_of_two (by omega) two, toNat_ofNat (by omega)⟩
  · exact ⟨_, _, utf8EncodeChar_of_three (by omega) three, toNat_ofNat (by omega)⟩
  · exact ⟨_, _, utf8EncodeChar_of_four (by omega), toNat_ofNat (by omega)⟩

/-- Octets stand in the order of their numbers, and then of what follows. -/
theorem cons_ofNat_lt_cons_ofNat_iff
    {first second : Nat}
    {firstRest secondRest : Octets}
    (firstFits : first < 256)
    (secondFits : second < 256) :
    UInt8.ofNat first :: firstRest < UInt8.ofNat second :: secondRest ↔
      first < second ∨ first = second ∧ firstRest < secondRest := by
  rw [List.cons_lt_cons_iff, UInt8.lt_iff_toNat_lt, ← UInt8.toNat_inj, toNat_ofNat firstFits,
    toNat_ofNat secondFits]

/-- The octets of an earlier character come before those of a later one, whatever follows either. -/
theorem utf8EncodeChar_append_lt
    {first second : Char}
    (less : first < second)
    (firstRest secondRest : Octets) :
    String.utf8EncodeChar first ++ firstRest < String.utf8EncodeChar second ++ secondRest := by
  have firstBounds := toNat_bounds first
  have secondBounds := toNat_bounds second
  have codeLess : first.toNat < second.toNat := by
    rwa [Char.lt_def, UInt32.lt_iff_toNat_lt] at less
  by_cases sameLead : leadNumber first.toNat = leadNumber second.toNat
  · -- Characters with one first octet have equally many, and differ in the octets after it.
    unfold leadNumber at sameLead
    by_cases one : second.toNat < 0x80
    · rw [if_pos (by omega), if_pos one] at sameLead
      omega
    by_cases two : second.toNat < 0x800
    · have firstTwo : 0x80 ≤ first.toNat := by split_ifs at sameLead <;> omega
      rw [utf8EncodeChar_of_two firstTwo (by omega), utf8EncodeChar_of_two (by omega) two]
      simp only [List.cons_append, List.nil_append]
      rw [cons_ofNat_lt_cons_ofNat_iff (by omega) (by omega),
        cons_ofNat_lt_cons_ofNat_iff (by omega) (by omega)]
      omega
    by_cases three : second.toNat < 0x10000
    · have firstThree : 0x800 ≤ first.toNat := by split_ifs at sameLead <;> omega
      rw [utf8EncodeChar_of_three firstThree (by omega), utf8EncodeChar_of_three (by omega) three]
      simp only [List.cons_append, List.nil_append]
      rw [cons_ofNat_lt_cons_ofNat_iff (by omega) (by omega),
        cons_ofNat_lt_cons_ofNat_iff (by omega) (by omega),
        cons_ofNat_lt_cons_ofNat_iff (by omega) (by omega)]
      omega
    · have firstFour : 0x10000 ≤ first.toNat := by split_ifs at sameLead <;> omega
      rw [utf8EncodeChar_of_four firstFour, utf8EncodeChar_of_four (by omega)]
      simp only [List.cons_append, List.nil_append]
      rw [cons_ofNat_lt_cons_ofNat_iff (by omega) (by omega),
        cons_ofNat_lt_cons_ofNat_iff (by omega) (by omega),
        cons_ofNat_lt_cons_ofNat_iff (by omega) (by omega),
        cons_ofNat_lt_cons_ofNat_iff (by omega) (by omega)]
      omega
  · obtain ⟨firstLead, firstLater, firstOctets, firstNumber⟩ :=
      exists_cons_utf8EncodeChar first
    obtain ⟨secondLead, secondLater, secondOctets, secondNumber⟩ :=
      exists_cons_utf8EncodeChar second
    have leadLess : leadNumber first.toNat < leadNumber second.toNat := by
      unfold leadNumber at *
      split_ifs at * <;> omega
    rw [firstOctets, secondOctets, List.cons_append, List.cons_append, List.cons_lt_cons_iff,
      UInt8.lt_iff_toNat_lt, firstNumber, secondNumber]
    exact .inl leadLess

/-! ## Texts -/

/-- Earlier characters have earlier octets. -/
theorem flatMap_utf8EncodeChar_lt
    {first second : List Char}
    (less : first < second) :
    first.flatMap String.utf8EncodeChar < second.flatMap String.utf8EncodeChar := by
  induction first generalizing second with
  | nil =>
      cases second with
      | nil => exact (List.not_lt_nil [] less).elim
      | cons character rest =>
          obtain ⟨lead, later, octets, -⟩ := exists_cons_utf8EncodeChar character
          rw [List.flatMap_nil, List.flatMap_cons, octets]
          exact List.nil_lt_cons _ _
  | cons character rest inductionHypothesis =>
      cases second with
      | nil => exact (List.not_lt_nil _ less).elim
      | cons otherCharacter otherRest =>
          rw [List.flatMap_cons, List.flatMap_cons]
          rcases List.cons_lt_cons_iff.mp less with characterLess | ⟨rfl, restLess⟩
          · exact utf8EncodeChar_append_lt characterLess _ _
          · exact List.append_left_lt (inductionHypothesis restLess)

/-- Earlier texts have earlier octets. -/
theorem encode_lt_encode
    {first second : String}
    (less : first < second) :
    encode first < encode second :=
  flatMap_utf8EncodeChar_lt (String.lt_iff.mp less)

end Credential.Text.Utf8
