import Credential.Proofs.Json.Written

/-!
# Members that are left out

An object of some record has a place for each member, and a member that the record
does not give is left out of the text.  Reading finds every place as it was filled.
-/

namespace Credential.Json

/-! ## Values that are read back -/

namespace Reader.ReadsBack

variable {depth : Nat} {reader : Reader}

theorem flag (depth : Nat) (content : Bool) : Reader.flag.ReadsBack depth (.flag content) := by
  intro rest _
  cases content with
  | false => rfl
  | true => rfl

theorem optional_flag
    {content : Bool}
    (back : reader.ReadsBack depth (.flag content)) :
    reader.optional.ReadsBack depth (.flag content) := by
  intro rest ends
  rw [← back rest ends]
  cases content with
  | false => rfl
  | true => rfl

theorem optional_null (reader : Reader) (depth : Nat) :
    reader.optional.ReadsBack depth .null := by
  intro rest _
  rfl

end Reader.ReadsBack

/-! ## Places of an object -/

/-- A name and the value that is written under it, if it is not left out. -/
abbrev Slot := String × Option Value

/-- The members that are written of places. -/
def writtenSlots (slots : List Slot) : List (String × Value) :=
  slots.filterMap fun slot => slot.2.map (slot.1, ·)

theorem writtenSlots_cons (name : String) (value : Option Value) (slots : List Slot) :
    writtenSlots ((name, value) :: slots) =
      (match value with
        | some value => [(name, value)]
        | none => []) ++ writtenSlots slots := by
  cases value <;> rfl

/-- What is written of places has their names, in order. -/
theorem map_writtenSlots_sublist (slots : List Slot) :
    ((writtenSlots slots).map Prod.fst).Sublist (slots.map Prod.fst) := by
  induction slots with
  | nil => exact .slnil
  | cons slot slots inductionHypothesis =>
      obtain ⟨name, value⟩ := slot
      rw [writtenSlots_cons]
      cases value with
      | none => exact inductionHypothesis.cons name
      | some value => exact inductionHypothesis.cons_cons name

theorem mem_writtenSlots {slots : List Slot} {name : String} {value : Value} :
    (name, value) ∈ writtenSlots slots ↔ (name, some value) ∈ slots := by
  rw [writtenSlots, List.mem_filterMap]
  constructor
  · rintro ⟨⟨other, content⟩, isSlot, written⟩
    obtain ⟨_, rfl, same⟩ := Option.map_eq_some_iff.mp written
    cases same
    exact isSlot
  · intro isSlot
    exact ⟨_, isSlot, rfl⟩

/-- Nothing is written under other names than those of the places. -/
theorem lookup_writtenSlots_eq_none
    {slots : List Slot}
    {name : String}
    (absent : name ∉ slots.map Prod.fst) :
    (writtenSlots slots).lookup name = none := by
  rw [List.lookup_eq_none_iff]
  intro entry isWritten
  rw [bne_iff_ne]
  rintro rfl
  exact absent ((map_writtenSlots_sublist slots).subset (List.mem_map_of_mem isWritten))

/-- Under the name of a place stands what was written there. -/
theorem lookup_writtenSlots
    {slots : List Slot}
    (distinct : (slots.map Prod.fst).Nodup)
    {name : String}
    {value : Option Value}
    (isSlot : (name, value) ∈ slots) :
    (writtenSlots slots).lookup name = value := by
  induction slots with
  | nil => cases isSlot
  | cons slot slots inductionHypothesis =>
      obtain ⟨first, content⟩ := slot
      obtain ⟨isNew, distinct⟩ := List.nodup_cons.mp distinct
      rw [writtenSlots_cons]
      rcases List.mem_cons.mp isSlot with same | later
      · cases same
        cases value with
        | none => exact lookup_writtenSlots_eq_none isNew
        | some value => exact List.lookup_cons_self
      · have isName : name ∈ slots.map Prod.fst := List.mem_map_of_mem later
        have differs : (name == first) = false := by
          rw [beq_eq_false_iff_ne]
          rintro rfl
          exact isNew isName
        have found := inductionHypothesis distinct later
        cases content with
        | none => exact found
        | some content =>
            dsimp only
            rw [List.singleton_append, List.lookup_cons, differs]
            exact found

/-! ## Reading places -/

variable {members : List Member} {slots : List Slot}

/--
A record reads an object of places as it was written.

The places are those of the members, in any order; what must be given is filled.
-/
theorem Reader.whole_writtenSlots
    (distinct : (slots.map Prod.fst).Nodup)
    (known : ∀ slot ∈ slots, isKnown members slot.1 = true)
    (accepts : ∀ slot ∈ slots, ∀ value ∈ slot.2, Accepts members 127 slot.1 value)
    (complete : ∀ member ∈ members, member.presence = .always →
      ∃ value, (member.name, some value) ∈ slots) :
    (record members).whole (inputOf (Value.object (writtenSlots slots)).render) =
      .ok (.object (writtenSlots slots)) := by
  have allKnown : (writtenSlots slots).filter (isKnown members ·.1) = writtenSlots slots := by
    rw [List.filter_eq_self]
    intro entry isWritten
    exact known _ (mem_writtenSlots.mp isWritten)
  have whole : (record members).whole (inputOf (Value.object (writtenSlots slots)).render) =
      .ok (.object ((writtenSlots slots).filter (isKnown members ·.1))) := by
    refine whole_render ?_ ?_ ?_
    · intro entry isWritten
      exact accepts _ (mem_writtenSlots.mp isWritten) _ rfl
    · exact distinct.sublist (map_writtenSlots_sublist slots)
    · rw [allKnown, lacks, List.any_eq_false]
      intro member isMember missing
      rw [Bool.and_eq_true, decide_eq_true_eq, Option.isNone_iff_eq_none,
        List.lookup_eq_none_iff] at missing
      obtain ⟨value, isSlot⟩ := complete member isMember missing.1
      have isWritten := List.mem_reverse.mpr (mem_writtenSlots.mpr isSlot)
      simpa using missing.2 _ isWritten
  rw [whole, allKnown]

end Credential.Json
