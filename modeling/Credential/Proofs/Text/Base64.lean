import Credential.Text.Base64
import Mathlib.Data.List.Basic

/-!
# Base 64 can be read back

Octets that have been written are read back, in either alphabet.  What has been
written holds no characters but those of the alphabet, so others can stand between
written pieces.
-/

namespace Credential.Text.Base64

namespace Alphabet

/-- The character of a value below 64 has that value. -/
theorem value?_character
    (alphabet : Alphabet)
    {value : Nat}
    (inRange : value < 64) :
    alphabet.value? (alphabet.character value) = some value := by
  have all : ∀ value : Fin 64, alphabet.value? (alphabet.character value) = some value.val := by
    cases alphabet <;> decide
  exact all ⟨value, inRange⟩

end Alphabet

/-- An octet is the one of any number that leaves its number modulo 256. -/
private theorem ofNat_eq_of_mod
    (octet : UInt8)
    {value : Nat}
    (same : value % 256 = octet.toNat) :
    UInt8.ofNat value = octet := by
  rw [← UInt8.toNat_inj, UInt8.toNat_ofNat']
  exact same

/-- Octets that have been written are read back. -/
theorem decode?_encode (alphabet : Alphabet) (octets : Octets) :
    decode? alphabet (encode alphabet octets) = some octets := by
  -- A group of octets is a number, which its characters hold in pieces of six bits.
  induction octets using encode.induct with
  | case1 => rfl
  | case2 first =>
      have bound := first.toNat_lt
      rw [encode, decode?, alphabet.value?_character (by omega),
        alphabet.value?_character (by omega)]
      simp only [Option.bind_eq_bind, Option.bind_some]
      rw [if_pos (by omega), ofNat_eq_of_mod first (by omega)]
  | case3 first second =>
      have firstBound := first.toNat_lt
      have secondBound := second.toNat_lt
      rw [encode, decode?, alphabet.value?_character (by omega),
        alphabet.value?_character (by omega), alphabet.value?_character (by omega)]
      simp only [Option.bind_eq_bind, Option.bind_some]
      rw [if_pos (by omega), ofNat_eq_of_mod first (by omega),
        ofNat_eq_of_mod second (by omega)]
  | case4 first second third rest inductionHypothesis =>
      have firstBound := first.toNat_lt
      have secondBound := second.toNat_lt
      have thirdBound := third.toNat_lt
      rw [encode, decode?, alphabet.value?_character (by omega),
        alphabet.value?_character (by omega), alphabet.value?_character (by omega),
        alphabet.value?_character (by omega), inductionHypothesis]
      simp only [Option.bind_eq_bind, Option.bind_some]
      rw [ofNat_eq_of_mod first (by omega), ofNat_eq_of_mod second (by omega),
        ofNat_eq_of_mod third (by omega)]

/-- All that is written is characters of values below 64. -/
theorem exists_of_mem_encode
    {alphabet : Alphabet}
    {octets : Octets}
    {character : Char}
    (member : character ∈ encode alphabet octets) :
    ∃ value, value < 64 ∧ alphabet.character value = character := by
  induction octets using encode.induct with
  | case1 => cases member
  | case2 first =>
      have bound := first.toNat_lt
      simp only [encode, List.mem_cons, List.not_mem_nil, or_false] at member
      rcases member with rfl | rfl
      · exact ⟨_, by omega, rfl⟩
      · exact ⟨_, by omega, rfl⟩
  | case3 first second =>
      have firstBound := first.toNat_lt
      have secondBound := second.toNat_lt
      simp only [encode, List.mem_cons, List.not_mem_nil, or_false] at member
      rcases member with rfl | rfl | rfl
      · exact ⟨_, by omega, rfl⟩
      · exact ⟨_, by omega, rfl⟩
      · exact ⟨_, by omega, rfl⟩
  | case4 first second third rest inductionHypothesis =>
      have firstBound := first.toNat_lt
      have secondBound := second.toNat_lt
      have thirdBound := third.toNat_lt
      simp only [encode, List.mem_cons] at member
      rcases member with rfl | rfl | rfl | rfl | member
      · exact ⟨_, by omega, rfl⟩
      · exact ⟨_, by omega, rfl⟩
      · exact ⟨_, by omega, rfl⟩
      · exact ⟨_, by omega, rfl⟩
      · exact inductionHypothesis member

/-- No character from outside the alphabet is written. -/
theorem not_mem_encode
    {alphabet : Alphabet}
    {separator : Char}
    (outside : ∀ value : Fin 64, alphabet.character value ≠ separator)
    (octets : Octets) :
    separator ∉ encode alphabet octets := by
  intro member
  obtain ⟨value, inRange, same⟩ := exists_of_mem_encode member
  exact outside ⟨value, inRange⟩ same

/-- All that is read is characters that have a value. -/
theorem exists_value?_of_mem
    {alphabet : Alphabet}
    {characters : List Char}
    {octets : Octets}
    {character : Char}
    (reads : decode? alphabet characters = some octets)
    (member : character ∈ characters) :
    ∃ value, alphabet.value? character = some value := by
  induction characters using decode?.induct generalizing octets with
  | case1 => cases member
  | case2 only => cases reads
  | case3 first second =>
      obtain ⟨firstValue, isFirst, reads⟩ := Option.bind_eq_some_iff.mp reads
      obtain ⟨secondValue, isSecond, -⟩ := Option.bind_eq_some_iff.mp reads
      simp only [List.mem_cons, List.not_mem_nil, or_false] at member
      rcases member with rfl | rfl
      · exact ⟨_, isFirst⟩
      · exact ⟨_, isSecond⟩
  | case4 first second third =>
      obtain ⟨firstValue, isFirst, reads⟩ := Option.bind_eq_some_iff.mp reads
      obtain ⟨secondValue, isSecond, reads⟩ := Option.bind_eq_some_iff.mp reads
      obtain ⟨thirdValue, isThird, -⟩ := Option.bind_eq_some_iff.mp reads
      simp only [List.mem_cons, List.not_mem_nil, or_false] at member
      rcases member with rfl | rfl | rfl
      · exact ⟨_, isFirst⟩
      · exact ⟨_, isSecond⟩
      · exact ⟨_, isThird⟩
  | case5 first second third fourth rest inductionHypothesis =>
      obtain ⟨firstValue, isFirst, reads⟩ := Option.bind_eq_some_iff.mp reads
      obtain ⟨secondValue, isSecond, reads⟩ := Option.bind_eq_some_iff.mp reads
      obtain ⟨thirdValue, isThird, reads⟩ := Option.bind_eq_some_iff.mp reads
      obtain ⟨fourthValue, isFourth, reads⟩ := Option.bind_eq_some_iff.mp reads
      obtain ⟨others, readsOthers, -⟩ := Option.bind_eq_some_iff.mp reads
      simp only [List.mem_cons] at member
      rcases member with rfl | rfl | rfl | rfl | member
      · exact ⟨_, isFirst⟩
      · exact ⟨_, isSecond⟩
      · exact ⟨_, isThird⟩
      · exact ⟨_, isFourth⟩
      · exact inductionHypothesis readsOthers member

theorem point_not_mem_of_decode?
    {characters : List Char}
    {octets : Octets}
    (reads : decode? .urlSafe characters = some octets) :
    '.' ∉ characters := by
  intro member
  obtain ⟨value, isValue⟩ := exists_value?_of_mem reads member
  cases isValue

theorem point_not_mem_encode (octets : Octets) : '.' ∉ encode .urlSafe octets :=
  not_mem_encode (by decide) octets

theorem dollar_not_mem_encode (octets : Octets) : '$' ∉ encode .standard octets :=
  not_mem_encode (by decide) octets

/-- Three octets take four characters. -/
theorem length_encode (alphabet : Alphabet) (octets : Octets) :
    (encode alphabet octets).length = (octets.length * 4 + 2) / 3 := by
  induction octets using encode.induct with
  | case1 => rfl
  | case2 first => simp [encode]
  | case3 first second => simp [encode]
  | case4 first second third rest inductionHypothesis =>
      simp only [encode, List.length_cons, inductionHypothesis]
      omega

/-- Three octets are read from four characters. -/
theorem length_of_decode?
    {alphabet : Alphabet}
    {characters : List Char}
    {octets : Octets}
    (reads : decode? alphabet characters = some octets) :
    characters.length = (octets.length * 4 + 2) / 3 := by
  induction characters using decode?.induct generalizing octets with
  | case1 =>
      cases reads
      rfl
  | case2 only => cases reads
  | case3 first second =>
      simp only [decode?, Option.bind_eq_bind, Option.bind_eq_some_iff,
        Option.ite_none_right_eq_some, Option.some.injEq] at reads
      obtain ⟨-, -, -, -, -, rfl⟩ := reads
      simp
  | case4 first second third =>
      simp only [decode?, Option.bind_eq_bind, Option.bind_eq_some_iff,
        Option.ite_none_right_eq_some, Option.some.injEq] at reads
      obtain ⟨-, -, -, -, -, -, -, rfl⟩ := reads
      simp
  | case5 first second third fourth rest inductionHypothesis =>
      simp only [decode?, Option.bind_eq_bind, Option.bind_eq_some_iff, Option.some.injEq] at reads
      obtain ⟨-, -, -, -, -, -, -, -, others, readsOthers, rfl⟩ := reads
      simp only [List.length_cons, inductionHypothesis readsOthers]
      omega

/-- Characters are written for octets, if there are any. -/
theorem encode_ne_nil
    {octets : Octets}
    (notEmpty : octets ≠ [])
    (alphabet : Alphabet) :
    encode alphabet octets ≠ [] := by
  intro nothing
  have read := decode?_encode alphabet octets
  rw [nothing] at read
  exact notEmpty (Option.some.inj read).symm

end Credential.Text.Base64
