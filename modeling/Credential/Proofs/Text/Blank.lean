import Credential.Text.Blank
import Mathlib.Data.List.DropRight

/-!
# Trimmed texts

A trimmed text is the part of a text that neither begins nor ends with a blank
character, where nothing but blank characters stands before and after it.  There is
only one such part.
-/

namespace Credential.Text

variable {whole trimmed : List Char}

/-- Whether characters are what is left of others without the blank ones at either end. -/
structure IsTrimmed (whole trimmed : List Char) : Prop where
  within : ∃ before after,
    whole = before ++ trimmed ++ after ∧ ∀ character ∈ before ++ after, isBlank character = true
  begins : ∀ character ∈ trimmed.head?, isBlank character = false
  ends : ∀ character ∈ trimmed.getLast?, isBlank character = false

theorem trimBlankEnd_eq_rdropWhile (whole : List Char) :
    trimBlankEnd whole = whole.rdropWhile isBlank :=
  rfl

theorem isBlank_of_mem_head?_dropWhile
    {character : Char}
    (first : character ∈ (whole.dropWhile isBlank).head?) :
    isBlank character = false := by
  have fails := List.head?_dropWhile_not isBlank whole
  rw [Option.mem_def.mp first] at fails
  simpa using fails

/-- Characters that do not begin with a blank one are not shortened. -/
theorem dropWhile_isBlank_eq_self
    (begins : ∀ character ∈ trimmed.head?, isBlank character = false) :
    trimmed.dropWhile isBlank = trimmed := by
  cases trimmed with
  | nil => rfl
  | cons first rest => rw [List.dropWhile_cons_of_neg (by simp [begins first rfl])]

/-- Blank characters at the end go, and no others. -/
theorem trimBlankEnd_append
    {after : List Char}
    (ends : ∀ character ∈ trimmed.getLast?, isBlank character = false)
    (blank : ∀ character ∈ after, isBlank character = true) :
    trimBlankEnd (trimmed ++ after) = trimmed := by
  have blankBackwards : ∀ character ∈ after.reverse, isBlank character = true :=
    fun character member => blank character (List.mem_reverse.mp member)
  rw [trimBlankEnd, List.reverse_append, List.dropWhile_append_of_pos blankBackwards,
    dropWhile_isBlank_eq_self (by rwa [List.head?_reverse]), List.reverse_reverse]

theorem isTrimmed_trimBlank (whole : List Char) : IsTrimmed whole (trimBlank whole) where
  within := by
    refine ⟨whole.takeWhile isBlank, (whole.dropWhile isBlank).rtakeWhile isBlank, ?_, ?_⟩
    · rw [trimBlank, trimBlankEnd_eq_rdropWhile, List.append_assoc,
        List.rdropWhile_append_rtakeWhile, List.takeWhile_append_dropWhile]
    · intro character member
      rcases List.mem_append.mp member with isBefore | isAfter
      · exact List.mem_takeWhile_imp isBefore
      · exact List.mem_rtakeWhile_imp isAfter
  begins := by
    intro character first
    obtain ⟨after, split⟩ := List.rdropWhile_prefix isBlank (l := whole.dropWhile isBlank)
    have firstOfRest : character ∈ (whole.dropWhile isBlank).head? := by
      rw [← split]
      exact List.mem_head?_append_of_mem_head? first
    exact isBlank_of_mem_head?_dropWhile firstOfRest
  ends := by
    intro character last
    rw [trimBlank, trimBlankEnd, List.getLast?_reverse] at last
    exact isBlank_of_mem_head?_dropWhile last

/-- Trimming finds the one part that is trimmed. -/
theorem trimBlank_eq_iff : trimBlank whole = trimmed ↔ IsTrimmed whole trimmed := by
  constructor
  · rintro rfl
    exact isTrimmed_trimBlank whole
  · rintro ⟨⟨before, after, rfl, blank⟩, begins, ends⟩
    rw [List.forall_mem_append] at blank
    rw [trimBlank, List.append_assoc, List.dropWhile_append_of_pos blank.1]
    cases trimmed with
    | nil =>
        rw [List.nil_append, List.dropWhile_eq_nil_iff.mpr blank.2]
        rfl
    | cons first rest =>
        rw [dropWhile_isBlank_eq_self (by simpa using begins), trimBlankEnd_append ends blank.2]

/-- Nothing is left of blank characters alone. -/
theorem isTrimmed_nil_iff :
    IsTrimmed whole [] ↔ ∀ character ∈ whole, isBlank character = true := by
  constructor
  · rintro ⟨⟨before, after, rfl, blank⟩, -, -⟩
    simpa using blank
  · intro blank
    exact ⟨⟨whole, [], by simp, by simpa using blank⟩, by simp, by simp⟩

theorem trim_eq_iff {text trimmed : String} :
    trim text = trimmed ↔ IsTrimmed text.toList trimmed.toList := by
  rw [trim, ← trimBlank_eq_iff, ← String.toList_inj, String.toList_ofList]

theorem trim_eq_empty_iff {text : String} :
    trim text = "" ↔ ∀ character ∈ text.toList, isBlank character = true := by
  rw [trim_eq_iff, String.toList_empty, isTrimmed_nil_iff]

end Credential.Text
