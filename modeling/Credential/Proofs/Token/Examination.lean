import Credential.Proofs.Json.Records
import Credential.Token.Verification

/-!
# What the second reading of claims sees

The second reading of claims goes on wherever a value is of the wrong kind, and
still it sees the very times that the first reading reads: whatever it goes on
with, it would not come to the end of the claims otherwise.
-/

namespace Credential.Json.Reader

variable {levels : Nat} {input rest : Input} {value : Value}

/-- A text that is read begins with a quote. -/
theorem text_eq_done (done : text levels input = .done value rest) :
    ∃ later, skipSpace input = some '"' :: later := by
  unfold text at done
  split at done
  case h_1 later found => exact ⟨later, found⟩
  case h_2 => exact absurd done (mismatched_ne_done value)

/-- An integer that is read is a number within the bounds. -/
theorem integer_eq_done
    {least greatest : Int}
    (done : integer least greatest levels input = .done value rest) :
    ∃ number, value = .integer number ∧ numberBegins (skipSpace input) = true ∧
      readNumber (skipSpace input) = .done (.integer number) rest ∧
      least ≤ number ∧ number ≤ greatest := by
  unfold integer at done
  dsimp only at done
  split at done
  case isTrue begins =>
    obtain ⟨found, next, reads, done⟩ := Reading.bind_eq_done done
    split at done
    case h_1 number =>
      split at done
      case isTrue within =>
        cases done
        exact ⟨number, rfl, begins, reads, within⟩
      case isFalse _ => cases done
    case h_2 => cases done
  case isFalse _ => exact absurd done (mismatched_ne_done value)

end Credential.Json.Reader

namespace Credential.Token.Examination

open Credential.Json (Input Value Reader)

variable {levels : Nat} {start rest otherRest : Input} {value other : Value}

/-- What the second reading sees in place of a time. -/
def seenTime : Value → Value
  | .integer number => if 0 ≤ number then .integer number else .null
  | _ => .null

/-- Whether the second reading looks at a time under a name. -/
def isTime (name : String) : Bool :=
  name = "exp" || name = "nbf"

/-- Where no number begins no time is seen. -/
theorem timeReader_of_not_numberBegins
    (noNumber : Json.numberBegins (Json.skipSpace start) = false)
    (reads : timeReader levels start = .done value rest) :
    value = .null := by
  unfold timeReader Reader.tolerant at reads
  split at reads
  case h_1 found =>
    obtain ⟨number, -, begins, -⟩ := Reader.integer_eq_done found
    rw [noNumber] at begins
    cases begins
  case h_2 =>
    cases reads
    rfl

/-- Of a number that is read the time that it may be is seen. -/
theorem timeReader_of_integer
    {otherStart : Input}
    (together : Json.skipSpace otherStart = Json.skipSpace start)
    (first : Claims.numberReader levels start = .done value rest)
    (second : timeReader levels otherStart = .done other otherRest) :
    other = seenTime value := by
  obtain ⟨number, rfl, begins, reads, -, atMost⟩ := Reader.integer_eq_done first
  have bounded : number ≤ (Json.maxWord : Nat) := by
    have less : Int64.maxValue.toInt ≤ (Json.maxWord : Nat) := by decide
    omega
  unfold timeReader Reader.tolerant Reader.integer at second
  dsimp only at second
  rw [together, if_pos begins, reads, Json.Reading.bind] at second
  dsimp only [seenTime] at second ⊢
  by_cases natural : 0 ≤ number
  · rw [if_pos ⟨natural, bounded⟩] at second
    rw [if_pos natural]
    cases second
    rfl
  · rw [if_neg (fun within => natural within.1)] at second
    rw [if_neg natural]
    cases second
    rfl

/-- Of a number that may be null the time that it may be is seen. -/
theorem timeReader_of_optional
    (first : Claims.numberReader.optional levels start = .done value rest)
    (second : timeReader levels start = .done other otherRest) :
    other = seenTime value := by
  unfold Reader.optional at first
  split at first
  case h_1 later found =>
    obtain ⟨_, last, -, done⟩ := Json.Reading.bind_eq_done first
    cases done
    exact timeReader_of_not_numberBegins (by rw [found]; rfl) second
  case h_2 =>
    exact timeReader_of_integer (Json.skipSpace_skipSpace start).symm first second

/-- The members of claims are read by readers that pass their values. -/
theorem areStrict_members : Json.AreStrict Claims.members := by
  have number := Reader.KeepsToValue.integer Int64.minValue.toInt Int64.maxValue.toInt
  intro member isMember
  simp only [Claims.members, List.mem_cons, List.not_mem_nil, or_false] at isMember
  rcases isMember with rfl | rfl | rfl | rfl
  · exact Reader.KeepsToValue.text.passesValue
  · exact number.passesValue
  · exact number.passesValue
  · exact number.optional.passesValue

/-- The second reading is tolerant, and what it looks at may not stand outside of quoted texts. -/
theorem areLax_members : Json.AreLax members := by
  have time : timeReader.StaysWithin := (Reader.KeepsToValue.integer _ _).tolerant
  have any : Reader.any.optional.tolerant.StaysWithin := Reader.KeepsToValue.any.optional.tolerant
  refine ⟨?_, ?_⟩
  · intro member isMember
    simp only [members, List.mem_cons, List.not_mem_nil, or_false] at isMember
    rcases isMember with rfl | rfl | rfl | rfl | rfl
    · exact time
    · exact time
    · exact Reader.KeepsToValue.text.optional.tolerant
    · exact any
    · exact any
  · intro member isMember
    simp only [members, List.mem_cons, List.not_mem_nil, or_false] at isMember
    rcases isMember with rfl | rfl | rfl | rfl | rfl <;> exact fun depth later => rfl

/-- Of an object of claims the second reading sees the times. -/
theorem sees : Json.Sees Claims.members members isTime seenTime := by
  refine ⟨areStrict_members, areLax_members, fun name important => ?_⟩
  rw [isTime, Bool.or_eq_true, decide_eq_true_eq, decide_eq_true_eq] at important
  rcases important with rfl | rfl
  · exact ⟨_, _, rfl, rfl, fun first second => timeReader_of_integer rfl first second⟩
  · exact ⟨_, _, rfl, rfl, fun first second => timeReader_of_optional first second⟩

/-- In an object of claims the second reading finds the times that it sees. -/
theorem lookup_of_object
    {later last otherLast : Input}
    {read otherRead : List (String × Value)}
    {name : String}
    (first : Json.ReadsMembers Claims.members levels true [] later read last)
    (second : Json.ReadsMembers members levels true [] later otherRead otherLast)
    (firstEnds : Json.skipSpace (last.drop 1) = [])
    (secondEnds : Json.skipSpace (otherLast.drop 1) = [])
    (important : isTime name = true) :
    otherRead.lookup name = (read.lookup name).map seenTime := by
  have same := sees.object first second firstEnds secondEnds rfl rfl
  rw [← Json.Sees.lookup_mattering important, same, Json.Sees.lookup_seenAs,
    Json.Sees.lookup_mattering important]

/-- Where claims are written as a list the second reading finds no last second of validity. -/
theorem lookup_of_list
    {later last otherLast : Input}
    {read otherRead : List (String × Value)}
    (first : Reader.listMembers levels Claims.members true [] later = .done read last)
    (second : Reader.listMembers levels members true [] later = .done otherRead otherLast) :
    otherRead.lookup "exp" = some .null := by
  have firstReads := first
  rw [Claims.members, Reader.listMembers] at first
  obtain ⟨comes, start, next, first⟩ := Json.Reading.bind_eq_done first
  cases comes with
  | false => cases first
  | true =>
      obtain ⟨value, rest, -, text, -⟩ : ∃ value rest more,
          Reader.text levels start = .done value rest ∧ read = ("sub", value) :: more :=
        Reader.listMembers_first next firstReads
      obtain ⟨afterQuote, quoted⟩ := Reader.text_eq_done text
      obtain ⟨other, otherRest, more, time, rfl⟩ := Reader.listMembers_first next second
      obtain rfl := timeReader_of_not_numberBegins (by rw [quoted]; rfl) time
      rfl

/-- Whether a time that has been read fits 64 bits. -/
def Fits (name : String) (value : Value) : Prop :=
  isTime name = true → ∀ number, value = .integer number →
    (Int64.ofInt number).toInt = number

/-- A number that claims are read from fits 64 bits. -/
theorem fits_of_numberReader
    (name : String)
    (levels : Nat)
    (reads : Claims.numberReader levels start = .done value rest) :
    Fits name value := by
  obtain ⟨number, rfl, -, -, atLeast, atMost⟩ := Reader.integer_eq_done reads
  intro important found same
  cases same
  exact Int64.toInt_ofInt_of_le atLeast (Int.lt_of_le_of_lt atMost (by decide))

/-- The times that claims are read from fit 64 bits. -/
theorem fits_of_readsMembers
    {later last : Input}
    {read : List (String × Value)}
    (reads : Json.ReadsMembers Claims.members levels true [] later read last) :
    ∀ entry ∈ read, Fits entry.1 entry.2 := by
  refine reads.forall_mem (fun member isMember start value rest done => ?_) (by simp)
  simp only [Claims.members, List.mem_cons, List.not_mem_nil, or_false] at isMember
  rcases isMember with rfl | rfl | rfl | rfl
  · intro important
    cases important
  · exact fits_of_numberReader _ levels done
  · exact fits_of_numberReader _ levels done
  · change Claims.numberReader.optional levels start = _ at done
    unfold Reader.optional at done
    split at done
    case h_1 =>
      obtain ⟨_, _, -, null⟩ := Json.Reading.bind_eq_done done
      cases null
      exact fun _ _ => nofun
    case h_2 => exact fits_of_numberReader _ levels done

/-- What is looked up is a member. -/
theorem mem_of_lookup
    {read : List (String × Value)}
    {name : String}
    (found : read.lookup name = some value) :
    (name, value) ∈ read := by
  obtain ⟨before, after, rfl, -⟩ := List.lookup_eq_some_iff.mp found
  simp

/-- The time of a value is seen if it is not negative. -/
theorem integer?_seenTime (value : Value) :
    (seenTime value).integer? = value.integer?.filter (0 ≤ ·) := by
  cases value with
  | integer number =>
      rw [seenTime, Value.integer?, Option.filter]
      by_cases natural : 0 ≤ number <;> simp [natural, Value.integer?]
  | _ => rfl

/-- The number that is looked up under the name of a time, if it is one. -/
def timeOf? (read : List (String × Value)) (name : String) : Option Int :=
  (read.lookup name).bind Value.integer?

/-- Where times are seen, those are seen that are not negative. -/
theorem timeOf?_of_lookup
    {read otherRead : List (String × Value)}
    {name : String}
    (seen : otherRead.lookup name = (read.lookup name).map seenTime) :
    timeOf? otherRead name = (timeOf? read name).filter (0 ≤ ·) := by
  rw [timeOf?, seen, timeOf?]
  cases read.lookup name with
  | none => rfl
  | some value => exact integer?_seenTime value

/-- A time that has been read is the number of 64 bits that it is kept as. -/
theorem timeOf?_fits
    {read : List (String × Value)}
    {name : String}
    (fits : ∀ entry ∈ read, Fits entry.1 entry.2)
    (important : isTime name = true) :
    ((timeOf? read name).map Int64.ofInt).map Int64.toInt = timeOf? read name := by
  cases found : read.lookup name with
  | none => rw [timeOf?, found]; rfl
  | some value =>
      rw [timeOf?, found]
      have fitsValue := fits _ (mem_of_lookup found) important
      cases value with
      | integer number => exact congrArg some (fitsValue number rfl)
      | _ => rfl

/--
The second reading sees the last second of validity and, unless it is negative,
the first one, or it sees no last second of validity.
-/
theorem times_of_read?
    {input : Input}
    {claims : Claims}
    {examination : Examination}
    {exp : Int}
    (reads : Claims.read? input = some claims)
    (examines : read? input = some examination)
    (found : examination.exp = some exp) :
    exp = claims.exp.toInt ∧
      examination.nbf = (claims.nbf.map Int64.toInt).filter (0 ≤ ·) := by
  obtain ⟨value, readsWhole, rfl⟩ := Option.map_eq_some_iff.mp reads
  obtain ⟨otherValue, examinesWhole, rfl⟩ := Option.map_eq_some_iff.mp examines
  obtain ⟨read, rfl, holds⟩ := Json.HoldsRecord.of_whole readsWhole
  obtain ⟨otherRead, rfl, otherHolds⟩ := Json.HoldsRecord.of_whole examinesWhole
  change timeOf? otherRead "exp" = some exp at found
  cases holds with
  | object opened members ends =>
      cases otherHolds with
      | list otherOpened => cases opened.symm.trans otherOpened
      | object otherOpened otherMembers otherEnds =>
          cases opened.symm.trans otherOpened
          have fits := fits_of_readsMembers members
          have sees := fun {name : String} (important : isTime name = true) =>
            timeOf?_of_lookup (lookup_of_object members otherMembers ends otherEnds important)
          constructor
          · rw [sees rfl, Option.filter_eq_some_iff] at found
            have kept := timeOf?_fits fits (rfl : isTime "exp" = true)
            rw [found.1] at kept
            change exp = (((timeOf? read "exp").map Int64.ofInt).getD 0).toInt
            rw [found.1]
            exact (Option.some.inj kept).symm
          · change timeOf? otherRead "nbf" = _
            rw [sees rfl]
            exact congrArg _ (timeOf?_fits fits rfl).symm
  | list opened members =>
      cases otherHolds with
      | object otherOpened => cases opened.symm.trans otherOpened
      | list otherOpened otherMembers =>
          cases opened.symm.trans otherOpened
          rw [timeOf?, lookup_of_list members otherMembers] at found
          cases found

end Credential.Token.Examination
