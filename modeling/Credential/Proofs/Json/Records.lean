import Credential.Proofs.Json.Opposition
import Mathlib.Data.List.DropRight

/-!
# Two readings of one record

A record may be read twice, strictly and by a reader that goes on where others
stop.  Both readings then come to the same members at the same places: one that
went on elsewhere would have to end the record where it does not end.
-/

namespace Credential.Json

open Credential.Text (Symbol)

variable {members : List Member} {levels : Nat} {isFirst : Bool}
variable {read more result : List (String × Value)} {name : String}
variable {input start rest last : Input} {floor depth : Int}

/-! ## Readings of members -/

/-- A reader that goes on has come through and goes on from there. -/
theorem Reading.bind_eq_done
    {Result Other : Type}
    {reading : Reading Result}
    {next : Result → Input → Reading Other}
    {value : Other}
    (done : reading.bind next = .done value last) :
    ∃ first rest, reading = .done first rest ∧ next first rest = .done value last := by
  cases reading with
  | done first rest => exact ⟨first, rest, rfl, done⟩
  | stop fault rest => cases done

/-- Whether a member of some name comes next, and where its value begins. -/
def Begins (isFirst : Bool) (input : Input) (name : String) (start : Input) : Prop :=
  ∃ first afterName,
    Reader.hasNext '}' isFirst input = .done true first ∧
      Reader.memberName first = .done name afterName ∧
        Reader.passColon afterName = .done () start

/-- What is known by a name has the name. -/
theorem name_of_find?
    {member : Member}
    (isKnown : members.find? (·.name = name) = some member) :
    member.name = name := by
  simpa using List.find?_some isKnown

/-- What has been read after one more member, and what is left. -/
inductive ReadsMember
    (members : List Member)
    (levels : Nat)
    (read : List (String × Value))
    (name : String)
    (start : Input) :
    List (String × Value) → Input → Prop where
  | unknown
      {rest : Input}
      (isUnknown : members.find? (·.name = name) = none)
      (skips : skipValue start = .done () rest) :
      ReadsMember members levels read name start read rest
  | known
      {member : Member}
      {value : Value}
      {rest : Input}
      (isKnown : members.find? (·.name = name) = some member)
      (reads : member.reader levels start = .done value rest) :
      ReadsMember members levels read name start ((name, value) :: read) rest

/-- What has been read after all members of an object, and what is left. -/
inductive ReadsMembers (members : List Member) (levels : Nat) :
    Bool → List (String × Value) → Input → List (String × Value) → Input → Prop where
  | finish
      {isFirst : Bool}
      {read : List (String × Value)}
      {input rest : Input}
      (ends : Reader.hasNext '}' isFirst input = .done false rest)
      (complete : Reader.lacks members read = false) :
      ReadsMembers members levels isFirst read input read.reverse rest
  | member
      {isFirst : Bool}
      {read more result : List (String × Value)}
      {input start rest last : Input}
      {name : String}
      (begins : Begins isFirst input name start)
      (reads : ReadsMember members levels read name start more rest)
      (onward : ReadsMembers members levels false more rest result last) :
      ReadsMembers members levels isFirst read input result last

/-- The members that an object is read from are read one after the other. -/
theorem ReadsMembers.of_objectMembers
    {fuel : Nat}
    (done : Reader.objectMembers members levels fuel isFirst read input = .done result last) :
    ReadsMembers members levels isFirst read input result last := by
  induction fuel generalizing isFirst read input with
  | zero =>
      rw [Reader.objectMembers] at done
      cases done
  | succ fuel inductionHypothesis =>
      rw [Reader.objectMembers] at done
      obtain ⟨comes, first, next, done⟩ := Reading.bind_eq_done done
      cases comes with
      | false =>
          rw [if_neg (by simp)] at done
          split at done
          · cases done
          case isFalse complete =>
            cases done
            exact .finish next (by simpa using complete)
      | true =>
          rw [if_pos rfl] at done
          obtain ⟨name, afterName, named, done⟩ := Reading.bind_eq_done done
          split at done
          case h_1 isUnknown =>
            obtain ⟨_, start, colon, done⟩ := Reading.bind_eq_done done
            obtain ⟨_, rest, skips, done⟩ := Reading.bind_eq_done done
            exact .member ⟨first, afterName, next, named, colon⟩ (.unknown isUnknown skips)
              (inductionHypothesis done)
          case h_2 isKnown =>
            split at done
            · cases done
            · obtain ⟨_, start, colon, done⟩ := Reading.bind_eq_done done
              obtain ⟨value, rest, reads, done⟩ := Reading.bind_eq_done done
              exact .member ⟨first, afterName, next, named, colon⟩ (.known isKnown reads)
                (inductionHypothesis done)

/-- After the members of an object comes its end. -/
theorem ReadsMembers.ends
    (reads : ReadsMembers members levels isFirst read input result last) :
    ∃ later, last = some '}' :: later := by
  induction reads with
  | finish ends complete => exact Reader.end_of_hasNext ends
  | member begins reads onward inductionHypothesis => exact inductionHypothesis

/-- Members are not read on from where there is nothing to go on with. -/
theorem ReadsMembers.not_stuck
    (reads : ReadsMembers members levels false read input result last) :
    ¬ IsStuck input := by
  intro stuck
  have noneComes : ∀ {comes : Bool} {rest : Input},
      Reader.hasNext '}' false input ≠ .done comes rest := by
    intro comes rest next
    cases input with
    | nil => cases next
    | cons symbol later =>
        obtain rfl : symbol = none := stuck
        cases next
  cases reads with
  | finish ended complete => exact noneComes ended
  | member begins reads onward =>
      obtain ⟨first, afterName, next, -⟩ := begins
      exact noneComes next

/-- What holds of all that the readers of the members read holds of all members. -/
theorem ReadsMembers.forall_mem
    {holds : String → Value → Prop}
    (reads : ReadsMembers members levels isFirst read input result last)
    (ofReaders : ∀ member ∈ members, ∀ {start : Input} {value : Value} {rest : Input},
      member.reader levels start = .done value rest → holds member.name value)
    (ofRead : ∀ entry ∈ read, holds entry.1 entry.2) :
    ∀ entry ∈ result, holds entry.1 entry.2 := by
  induction reads with
  | finish ends complete =>
      intro entry isMember
      exact ofRead entry (List.mem_reverse.mp isMember)
  | member begins reads onward inductionHypothesis =>
      refine inductionHypothesis ?_
      cases reads with
      | unknown isUnknown skips => exact ofRead
      | known isKnown done =>
          refine List.forall_mem_cons.mpr ⟨?_, ofRead⟩
          rw [← name_of_find? isKnown]
          exact ofReaders _ (List.mem_of_find?_eq_some isKnown) done

namespace Begins

variable {guard : Guard} {otherName : String} {otherStart : Input}

/-- The name of a member leads nowhere else. -/
theorem path
    (begins : Begins isFirst input name start)
    (passesComma : guard.stops (some ',') = false) :
    Path guard floor ⟨.outside, depth⟩ input ⟨.outside, depth⟩ start := by
  obtain ⟨first, afterName, next, named, colon⟩ := begins
  refine Path.trans ((passes_hasNext passesComma '}' isFirst input).path next) ?_
  exact ((passes_memberName first).path named).trans ((passes_passColon afterName).path colon)

/-- One who stands in a quoted text where a member begins finds no foreign name there. -/
theorem not_isForeign
    {spot : Spot}
    (begins : Begins isFirst input name start)
    (quoted : spot.mode = .quoted)
    (closes : Closes spot input) :
    ¬ IsForeign name := by
  obtain ⟨first, afterName, next, named, -⟩ := begins
  have toName : Path .free 0 ⟨.outside, 0⟩ input ⟨.outside, 0⟩ first :=
    (passes_hasNext rfl '}' isFirst input).path next
  have opposed : Opposed ⟨.outside, 0⟩ spot := Or.inl ⟨trivial, quoted⟩
  obtain ⟨middle, stillQuoted, closesThere⟩ := closes.after_outside opposed toName
  exact not_isForeign_of_memberName stillQuoted closesThere named

/-- At most one member begins at a place. -/
theorem unique
    (begins : Begins isFirst input name start)
    (other : Begins isFirst input otherName otherStart) :
    name = otherName ∧ start = otherStart := by
  obtain ⟨first, afterName, next, named, colon⟩ := begins
  obtain ⟨otherFirst, otherAfterName, otherNext, otherNamed, otherColon⟩ := other
  rw [next] at otherNext
  cases otherNext
  rw [named] at otherNamed
  cases otherNamed
  rw [colon] at otherColon
  cases otherColon
  exact ⟨rfl, rfl⟩

end Begins

/-- Where a member begins, the rest leads out if it did before. -/
theorem Closes.after_begins
    (closes : Closes ⟨.outside, depth⟩ input)
    (begins : Begins isFirst input name start) :
    Closes ⟨.outside, depth⟩ start := by
  have path : Path .free 0 ⟨.outside, depth⟩ input ⟨.outside, depth⟩ start := begins.path rfl
  exact closes.after_path path

/-! ## Readings that have gone astray -/

/-- Whether a reader that comes through has not gone beyond the value at the front. -/
def Reader.StaysWithin (reader : Reader) : Prop :=
  ∀ {levels : Nat} {floor : Int} {input : Input} {value : Value} {rest : Input},
    reader levels input = .done value rest → Leaves .value floor ⟨.outside, floor⟩ input rest

/-- A reader that keeps to its value does not go beyond it, wherever it goes on. -/
theorem Reader.KeepsToValue.tolerant
    {reader : Reader}
    (keeps : reader.KeepsToValue) :
    reader.tolerant.StaysWithin := by
  intro levels floor input value rest done
  have passes := keeps levels floor input
  unfold Reader.tolerant at done
  split at done
  case h_1 found =>
    cases done
    exact (passes.path found).leaves (Or.inl rfl)
  case h_2 found =>
    cases done
    rw [found] at passes
    exact passes

/-- Whether members are read tolerantly, under names that stand in quoted texts only. -/
structure AreLax (members : List Member) : Prop where
  staysWithin : ∀ member ∈ members, member.reader.StaysWithin
  isForeign : ∀ member ∈ members, IsForeign member.name

namespace AreLax

/-- One more member does not go beyond its value. -/
theorem leaves
    (lax : AreLax members)
    (floor : Int)
    (reads : ReadsMember members levels read name start more rest) :
    Leaves .value floor ⟨.outside, floor⟩ start rest := by
  cases reads with
  | unknown isUnknown skips => exact (path_skipValue skips).leaves (Or.inl rfl)
  | known isKnown done =>
      exact lax.staysWithin _ (List.mem_of_find?_eq_some isKnown) done

/-- A member whose name is not foreign is passed over. -/
theorem skips
    (lax : AreLax members)
    (reads : ReadsMember members levels read name start more rest)
    (notForeign : ¬ IsForeign name) :
    skipValue start = .done () rest := by
  cases reads with
  | unknown isUnknown skips => exact skips
  | known isKnown done =>
      have foreign := lax.isForeign _ (List.mem_of_find?_eq_some isKnown)
      rw [name_of_find? isKnown] at foreign
      exact absurd foreign notForeign

/-- No object is read to the end of a text by one who is outside where there is a quoted text. -/
theorem not_quoted
    {spot : Spot}
    (lax : AreLax members)
    (reads : ReadsMembers members levels isFirst read input result last)
    (ends : skipSpace (last.drop 1) = [])
    (quoted : spot.mode = .quoted)
    (closes : Closes spot input) :
    False := by
  have opposed : ∀ {spot : Spot}, spot.mode = .quoted → Opposed ⟨.outside, 0⟩ spot :=
    fun quoted => Or.inl ⟨trivial, quoted⟩
  induction reads generalizing spot with
  | finish ended complete =>
      obtain ⟨later, rfl⟩ := Reader.end_of_hasNext ended
      have toEnd : Path .free 0 ⟨.outside, 0⟩ _ ⟨.outside, -1⟩ (skipSpace later) :=
        Path.trans ((passes_hasNext rfl _ _ _).path ended)
          ((path_symbol rfl (next?_close .object _) later).trans (path_skipSpace later))
      obtain ⟨middle, stillQuoted, closesThere⟩ := closes.after_outside (opposed quoted) toEnd
      rw [List.drop_one, List.tail_cons] at ends
      rw [ends] at closesThere
      cases closesThere
      cases stillQuoted
  | member begins reads onward inductionHypothesis =>
      have passesOver := lax.skips reads (begins.not_isForeign quoted closes)
      have toRest : Path .free 0 ⟨.outside, 0⟩ _ ⟨.outside, 0⟩ _ :=
        (begins.path rfl).trans ((path_skipValue passesOver).free 0)
      obtain ⟨middle, stillQuoted, closesThere⟩ := closes.after_outside (opposed quoted) toRest
      exact inductionHypothesis ends stillQuoted closesThere

/-- Where a member has been read, one stands outside or in a quoted text, no further out. -/
theorem after_member
    (lax : AreLax members)
    (reads : ReadsMember members levels read name start more rest)
    (onward : ReadsMembers members levels false more rest result last)
    (closes : Closes ⟨.outside, depth⟩ start) :
    ∃ spot : Spot, Path .value depth ⟨.outside, depth⟩ start spot rest ∧ Closes spot rest ∧
      depth ≤ spot.depth ∧ (spot.mode = .outside ∨ spot.mode = .quoted) := by
  rcases lax.leaves depth reads with stuck | ⟨word, rfl, within⟩
  · exact absurd stuck onward.not_stuck
  · obtain ⟨spot, reached, closesThere⟩ := closes.split
    obtain ⟨run, mode⟩ := within spot (Guard.run?_free reached depth)
    have high := Guard.floor_le_depth_of_run? (Guard.run?_items run) (Int.le_refl _)
    exact ⟨spot, ⟨word, rfl, run⟩, closesThere, high, mode⟩

/-- No object is read to the end of a text by one who is too deep. -/
theorem not_deeper
    (lax : AreLax members)
    (reads : ReadsMembers members levels isFirst read input result last)
    (ends : skipSpace (last.drop 1) = [])
    (deeper : 1 < depth)
    (closes : Closes ⟨.outside, depth⟩ input) :
    False := by
  induction reads generalizing depth with
  | finish ended complete =>
      obtain ⟨later, rfl⟩ := Reader.end_of_hasNext ended
      have toEnd : Path .free 0 ⟨.outside, depth⟩ _ ⟨.outside, depth - 1⟩ (skipSpace later) :=
        Path.trans ((passes_hasNext rfl _ _ _).path ended)
          ((path_symbol rfl (next?_close .object _) later).trans (path_skipSpace later))
      have closesThere := closes.after_path toEnd
      rw [List.drop_one, List.tail_cons] at ends
      rw [ends] at closesThere
      have same : depth - 1 = 0 := congrArg Spot.depth (Option.some.inj closesThere)
      omega
  | member begins reads onward inductionHypothesis =>
      have closesStart := closes.after_begins begins
      obtain ⟨⟨mode, lower⟩, -, closesThere, high, rfl | rfl⟩ :=
        lax.after_member reads onward closesStart
      · exact inductionHypothesis ends (by simp only at high; omega) closesThere
      · exact lax.not_quoted onward ends rfl closesThere

/-- A member of an object that is read to the end of a text is passed to the end of its value. -/
theorem path
    (lax : AreLax members)
    (reads : ReadsMember members levels read name start more rest)
    (onward : ReadsMembers members levels false more rest result last)
    (ends : skipSpace (last.drop 1) = [])
    (closes : Closes ⟨.outside, 1⟩ start) :
    Path .value 1 ⟨.outside, 1⟩ start ⟨.outside, 1⟩ rest := by
  obtain ⟨⟨mode, depth⟩, path, closesThere, high, rfl | rfl⟩ :=
    lax.after_member reads onward closes
  · by_cases deeper : 1 < depth
    · exact (lax.not_deeper onward ends deeper closesThere).elim
    · obtain rfl : depth = 1 := by
        simp only at high
        omega
      exact path
  · exact (lax.not_quoted onward ends rfl closesThere).elim

end AreLax

/-! ## Readings that stay together -/

/-- Whether a reader that comes through has passed the value at the front. -/
def Reader.PassesValue (reader : Reader) : Prop :=
  ∀ (levels : Nat) (floor : Int) (input : Input) (value : Value) (rest : Input),
    reader levels input = .done value rest →
      Path .value floor ⟨.outside, floor⟩ input ⟨.outside, floor⟩ rest

theorem Reader.KeepsToValue.passesValue
    {reader : Reader}
    (keeps : reader.KeepsToValue) :
    reader.PassesValue :=
  fun levels floor input _ _ done => (keeps levels floor input).path done

/-- Whether members are read by readers that pass their values. -/
def AreStrict (members : List Member) : Prop :=
  ∀ member ∈ members, member.reader.PassesValue

namespace AreStrict

/-- A member is passed to the end of its value. -/
theorem path_member
    (strict : AreStrict members)
    (reads : ReadsMember members levels read name start more rest) :
    Path .value floor ⟨.outside, floor⟩ start ⟨.outside, floor⟩ rest := by
  cases reads with
  | unknown isUnknown skips => exact path_skipValue skips
  | known isKnown done =>
      exact strict _ (List.mem_of_find?_eq_some isKnown) _ _ _ _ _ done

/-- The members of an object are passed to its end. -/
theorem path
    (strict : AreStrict members)
    (reads : ReadsMembers members levels isFirst read input result last) :
    Path .items floor ⟨.outside, floor⟩ input ⟨.outside, floor⟩ last := by
  induction reads with
  | finish ended complete => exact (passes_hasNext rfl _ _ _).path ended
  | member begins reads onward inductionHypothesis =>
      exact (begins.path rfl).trans ((strict.path_member reads).items.trans inductionHypothesis)

/-- Members that are read to the end of a text lead out of everything. -/
theorem closes
    (strict : AreStrict members)
    (reads : ReadsMembers members levels isFirst read input result last)
    (ends : skipSpace (last.drop 1) = []) :
    Closes ⟨.outside, 1⟩ input := by
  obtain ⟨later, rfl⟩ := reads.ends
  rw [List.drop_one, List.tail_cons] at ends
  have toEnd : Path .free 0 ⟨.outside, 1⟩ input ⟨.outside, 0⟩ (skipSpace later) :=
    ((strict.path reads).free 0).trans
      ((path_symbol rfl (next?_close .object _) later).trans (path_skipSpace later))
  obtain ⟨word, rfl, run⟩ := toEnd
  rw [ends, List.append_nil]
  exact run

end AreStrict

/-- Whether, but for space, a symbol comes at which a value ends. -/
def IsDelimited (rest : Input) : Prop :=
  ∃ symbol later, skipSpace rest = symbol :: later ∧ Guard.value.stops symbol = true

/-- Space at the front does not count. -/
theorem skipSpace_cons_of_isSpace
    {symbol : Symbol}
    (isSpace : isSpace symbol = true)
    (rest : Input) :
    skipSpace (symbol :: rest) = skipSpace rest :=
  List.dropWhile_cons_of_pos isSpace

/-- There is no space left to pass over where it has been passed over. -/
theorem skipSpace_skipSpace (input : Input) : skipSpace (skipSpace input) = skipSpace input :=
  List.dropWhile_idempotent isSpace input

/-- Where a value ends after space only, nothing but space is left of it. -/
theorem skipSpace_append_of_run?
    {word : Input}
    (run : Guard.value.run? floor ⟨.outside, floor⟩ word = some ⟨.outside, floor⟩)
    (delimited : IsDelimited (word ++ rest)) :
    skipSpace (word ++ rest) = skipSpace rest := by
  induction word with
  | nil => rfl
  | cons symbol word inductionHypothesis =>
      rw [IsDelimited, List.cons_append] at *
      by_cases space : isSpace symbol = true
      · rw [skipSpace_cons_of_isSpace space] at delimited ⊢
        rw [Guard.run?, next?_of_isBare (isBare_of_isSpace space)] at run
        exact inductionHypothesis run delimited
      · have here : skipSpace (symbol :: (word ++ rest)) = symbol :: (word ++ rest) :=
          List.dropWhile_cons_of_neg space
        obtain ⟨first, later, found, stops⟩ := delimited
        rw [here] at found
        cases found
        rw [Guard.run?, Guard.next?, if_pos ⟨stops, rfl, Int.le_refl _⟩] at run
        cases run

/-- Two readers that come through to the end of a value come to the same place. -/
theorem Path.together
    {first second : Input}
    (firstPath : Path .value floor ⟨.outside, floor⟩ input ⟨.outside, floor⟩ first)
    (secondPath : Path .value floor ⟨.outside, floor⟩ input ⟨.outside, floor⟩ second)
    (firstDelimited : IsDelimited first)
    (secondDelimited : IsDelimited second) :
    skipSpace first = skipSpace second := by
  obtain ⟨firstWord, rfl, firstRun⟩ := firstPath
  obtain ⟨secondWord, same, secondRun⟩ := secondPath
  rcases List.append_eq_append_iff.mp same with ⟨more, rfl, rfl⟩ | ⟨more, rfl, rfl⟩
  · rw [Guard.run?_append, firstRun] at secondRun
    exact skipSpace_append_of_run? secondRun firstDelimited
  · rw [Guard.run?_append, secondRun] at firstRun
    exact (skipSpace_append_of_run? firstRun secondDelimited).symm

/-- What comes before an item or a member does not depend on space. -/
theorem Reader.hasNext_congr
    {first second : Input}
    (together : skipSpace first = skipSpace second)
    (close : Char)
    (isFirst : Bool) :
    hasNext close isFirst first = hasNext close isFirst second := by
  unfold hasNext
  rw [together]

/-- After a member comes another one or the end. -/
theorem ReadsMembers.isDelimited
    (reads : ReadsMembers members levels false read input result last) :
    IsDelimited input := by
  have comesAfter : ∀ {comes : Bool} {rest : Input},
      Reader.hasNext '}' false input = .done comes rest → IsDelimited input := by
    intro comes rest next
    unfold Reader.hasNext at next
    split at next
    · cases next
    case h_2 symbol later found =>
      refine ⟨symbol, later, found, ?_⟩
      split at next
      case isTrue isClose =>
        rw [isClose]
        rfl
      case isFalse _ =>
        rw [if_neg (by simp)] at next
        split at next
        case isTrue isComma =>
          rw [isComma]
          rfl
        case isFalse _ => cases next
  cases reads with
  | finish ended complete => exact comesAfter ended
  | member begins reads onward =>
      obtain ⟨first, afterName, next, -⟩ := begins
      exact comesAfter next

/-! ## What both readings see -/

variable {strict lax : List Member} {seen : Value → Value} {matters : String → Bool}

/-- What matters among the members that have been read. -/
def mattering (matters : String → Bool) (read : List (String × Value)) : List (String × Value) :=
  read.filter fun member => matters member.1

/-- One more member that matters comes first among those. -/
theorem mattering_cons
    (important : matters name = true)
    (value : Value)
    (read : List (String × Value)) :
    mattering matters ((name, value) :: read) = (name, value) :: mattering matters read :=
  List.filter_cons_of_pos important

/-- What a lax reading sees of a member in place of what a strict one reads. -/
def seenAs (seen : Value → Value) (member : String × Value) : String × Value :=
  (member.1, seen member.2)

/-- Whether a lax reading sees what matters of what a strict one reads. -/
structure Sees
    (strict lax : List Member)
    (matters : String → Bool)
    (seen : Value → Value) :
    Prop where
  areStrict : AreStrict strict
  areLax : AreLax lax
  /-- Both know what matters, and a member read strictly is seen. -/
  known : ∀ name, matters name = true → ∃ member other,
    strict.find? (·.name = name) = some member ∧ lax.find? (·.name = name) = some other ∧
      ∀ {levels : Nat} {start : Input} {value : Value} {rest : Input} {otherValue : Value}
        {otherRest : Input},
        member.reader levels start = .done value rest →
          other.reader levels start = .done otherValue otherRest → otherValue = seen value

namespace Sees

variable {other otherMore otherResult : List (String × Value)}
variable {otherInput otherRest otherLast : Input}

/-- One more member leaves what matters seen. -/
theorem member
    (sees : Sees strict lax matters seen)
    (first : ReadsMember strict levels read name start more rest)
    (second : ReadsMember lax levels other name start otherMore otherRest)
    (same : mattering matters other = (mattering matters read).map (seenAs seen)) :
    mattering matters otherMore = (mattering matters more).map (seenAs seen) := by
  have unchanged : ∀ {members : List Member} {read more : List (String × Value)} {rest : Input},
      matters name = false → ReadsMember members levels read name start more rest →
        mattering matters more = mattering matters read := by
    intro members read more rest notMattering reads
    cases reads with
    | unknown isUnknown skips => rfl
    | known isKnown done => exact List.filter_cons_of_neg (by simp [notMattering])
  cases important : matters name with
  | false => rw [unchanged important first, unchanged important second, same]
  | true =>
      obtain ⟨strictMember, laxMember, strictKnown, laxKnown, sameValue⟩ :=
        sees.known name important
      cases first with
      | unknown isUnknown skips =>
          rw [strictKnown] at isUnknown
          cases isUnknown
      | known isKnown done =>
          cases second with
          | unknown isUnknown skips =>
              rw [laxKnown] at isUnknown
              cases isUnknown
          | known otherKnown otherDone =>
              rw [strictKnown] at isKnown
              cases isKnown
              rw [laxKnown] at otherKnown
              cases otherKnown
              obtain rfl := sameValue done otherDone
              rw [mattering_cons important, mattering_cons important, List.map_cons, same]
              rfl

/-- Of an object that both readings read to the end of a text, all that matters is seen. -/
theorem object
    (sees : Sees strict lax matters seen)
    (first : ReadsMembers strict levels isFirst read input result last)
    (second : ReadsMembers lax levels isFirst other otherInput otherResult otherLast)
    (firstEnds : skipSpace (last.drop 1) = [])
    (secondEnds : skipSpace (otherLast.drop 1) = [])
    (together : skipSpace input = skipSpace otherInput)
    (same : mattering matters other = (mattering matters read).map (seenAs seen)) :
    mattering matters otherResult = (mattering matters result).map (seenAs seen) := by
  induction first generalizing other otherInput with
  | finish ended complete =>
      rw [Reader.hasNext_congr together] at ended
      cases second with
      | finish otherEnded otherComplete =>
          rw [mattering, List.filter_reverse, mattering, List.filter_reverse, List.map_reverse]
          exact congrArg List.reverse same
      | member begins reads onward =>
          obtain ⟨first, afterName, next, -⟩ := begins
          rw [ended] at next
          cases next
  | member begins reads onward inductionHypothesis =>
      have closes := (sees.areStrict.closes (.member begins reads onward) firstEnds).after_begins
        begins
      obtain ⟨first, afterName, next, nameAndColon⟩ := begins
      rw [Reader.hasNext_congr together] at next
      cases second with
      | finish otherEnded otherComplete =>
          rw [otherEnded] at next
          cases next
      | member otherBegins otherReads otherOnward =>
          obtain ⟨rfl, rfl⟩ := otherBegins.unique ⟨first, afterName, next, nameAndColon⟩
          refine inductionHypothesis otherOnward firstEnds ?_ (sees.member reads otherReads same)
          exact (sees.areStrict.path_member reads).together
            (sees.areLax.path otherReads otherOnward secondEnds closes)
            onward.isDelimited otherOnward.isDelimited

/-- A member that matters is found among those that matter. -/
theorem lookup_mattering
    (important : matters name = true)
    (read : List (String × Value)) :
    (mattering matters read).lookup name = read.lookup name := by
  induction read with
  | nil => rfl
  | cons member read inductionHypothesis =>
      rw [mattering, List.filter_cons]
      by_cases same : name = member.1
      · rw [if_pos (by rw [← same]; exact important), List.lookup_cons, List.lookup_cons, same]
        simp
      · have differs : (name == member.1) = false := by simpa using same
        have skipped : (member :: read).lookup name = read.lookup name := by
          rw [List.lookup_cons, differs]
        rw [skipped]
        split
        · rw [List.lookup_cons, differs]
          exact inductionHypothesis
        · exact inductionHypothesis

/-- Of a member of a name, what is seen of it is found by that name. -/
theorem lookup_seenAs (name : String) (read : List (String × Value)) :
    (read.map (seenAs seen)).lookup name = (read.lookup name).map seen := by
  induction read with
  | nil => rfl
  | cons member read inductionHypothesis =>
      rw [List.map_cons, List.lookup_cons, List.lookup_cons, seenAs]
      cases name == member.1 with
      | true => rfl
      | false => exact inductionHypothesis

end Sees

/-! ## Records that are all of an input -/

/-- How an input that holds a record and nothing else has been read. -/
inductive HoldsRecord (members : List Member) (input : Input) : List (String × Value) → Prop where
  | object
      {later last : Input}
      {read : List (String × Value)}
      (found : skipSpace input = some '{' :: later)
      (reads : ReadsMembers members (Reader.depthLimit - 1) true [] later read last)
      (ends : skipSpace (last.drop 1) = []) :
      HoldsRecord members input read
  | list
      {later last : Input}
      {read : List (String × Value)}
      (found : skipSpace input = some '[' :: later)
      (reads : Reader.listMembers (Reader.depthLimit - 1) members true [] later =
        .done read last) :
      HoldsRecord members input read

/-- No value of the wrong kind is read. -/
theorem mismatched_ne_done (value : Value) : mismatched input ≠ .done value rest := by
  have never : ∀ {Result : Type} (reading : Reading Result) (fault : Fault),
      (reading.bind fun _ rest => (.stop fault rest : Reading Value)) ≠ .done value rest := by
    intro Result reading fault done
    obtain ⟨first, next, -, stopped⟩ := Reading.bind_eq_done done
    cases stopped
  unfold mismatched
  split
  case h_5 => exact nofun
  case h_6 => exact nofun
  case h_8 =>
    split
    · exact never _ _
    · exact nofun
  case h_9 => exact nofun
  all_goals exact never _ _

/-- An input that holds a record holds an object of the members that have been read. -/
theorem HoldsRecord.of_whole
    {value : Value}
    (holds : ((Reader.record members).whole input).toOption = some value) :
    ∃ read, value = .object read ∧ HoldsRecord members input read := by
  unfold Reader.whole at holds
  split at holds
  case h_1 found rest done =>
    split at holds
    case isFalse _ => cases holds
    case isTrue ended =>
      cases holds
      unfold Reader.record at done
      split at done
      case h_1 later opened =>
        rw [Reader.enter, if_neg (by decide)] at done
        split at done
        case h_1 read last reads =>
          cases done
          exact ⟨read, rfl, .object opened (.of_objectMembers reads) ended⟩
        case h_2 => cases done
      case h_2 later opened =>
        rw [Reader.enter, if_neg (by decide)] at done
        split at done
        case h_1 read last reads =>
          unfold Reader.endList at done
          split at done
          case h_1 =>
            cases done
            exact ⟨read, rfl, .list opened reads⟩
          case h_2 => cases done
        case h_2 => cases done
      case h_3 => exact absurd done (mismatched_ne_done value)
  case h_2 => cases holds

/-- One more member is read in one way only. -/
theorem ReadsMember.unique
    {otherMore : List (String × Value)}
    {otherRest : Input}
    (reads : ReadsMember members levels read name start more rest)
    (other : ReadsMember members levels read name start otherMore otherRest) :
    more = otherMore ∧ rest = otherRest := by
  cases reads with
  | unknown isUnknown skips =>
      cases other with
      | unknown _ otherSkips =>
          rw [skips] at otherSkips
          cases otherSkips
          exact ⟨rfl, rfl⟩
      | known isKnown _ =>
          rw [isUnknown] at isKnown
          cases isKnown
  | known isKnown done =>
      cases other with
      | unknown isUnknown _ =>
          rw [isKnown] at isUnknown
          cases isUnknown
      | known otherKnown otherDone =>
          rw [isKnown] at otherKnown
          cases otherKnown
          rw [done] at otherDone
          cases otherDone
          exact ⟨rfl, rfl⟩

/-- An object is read in one way only. -/
theorem ReadsMembers.unique
    {other : List (String × Value)}
    {otherLast : Input}
    (reads : ReadsMembers members levels isFirst read input result last)
    (otherReads : ReadsMembers members levels isFirst read input other otherLast) :
    result = other := by
  induction reads with
  | finish ends complete =>
      cases otherReads with
      | finish _ _ => rfl
      | member begins _ _ =>
          obtain ⟨first, afterName, next, -⟩ := begins
          rw [ends] at next
          cases next
  | member begins reads onward inductionHypothesis =>
      cases otherReads with
      | finish ends _ =>
          obtain ⟨first, afterName, next, -⟩ := begins
          rw [ends] at next
          cases next
      | member otherBegins otherReads otherOnward =>
          obtain ⟨rfl, rfl⟩ := begins.unique otherBegins
          obtain ⟨rfl, rfl⟩ := reads.unique otherReads
          exact inductionHypothesis otherOnward

/-- An input holds one record at most. -/
theorem HoldsRecord.unique
    {other : List (String × Value)}
    (holds : HoldsRecord members input read)
    (otherHolds : HoldsRecord members input other) :
    read = other := by
  cases holds with
  | object found reads _ =>
      cases otherHolds with
      | object otherFound otherReads _ =>
          rw [found] at otherFound
          cases otherFound
          exact reads.unique otherReads
      | list otherFound _ =>
          rw [found] at otherFound
          cases otherFound
  | list found reads =>
      cases otherHolds with
      | object otherFound _ _ =>
          rw [found] at otherFound
          cases otherFound
      | list otherFound otherReads =>
          rw [found] at otherFound
          cases otherFound
          rw [reads] at otherReads
          cases otherReads
          rfl

/-- What has been read of a list stays at its front. -/
theorem Reader.listMembers_extends
    (done : listMembers levels members isFirst read input = .done result last) :
    ∃ more, result = read.reverse ++ more := by
  induction members generalizing isFirst read input with
  | nil =>
      rw [listMembers] at done
      cases done
      exact ⟨[], (List.append_nil _).symm⟩
  | cons member members inductionHypothesis =>
      rw [listMembers] at done
      obtain ⟨comes, rest, -, done⟩ := Reading.bind_eq_done done
      split at done
      · obtain ⟨value, next, -, done⟩ := Reading.bind_eq_done done
        obtain ⟨more, rfl⟩ := inductionHypothesis done
        exact ⟨(member.name, value) :: more, by rw [List.reverse_cons, List.append_assoc]; rfl⟩
      · split at done
        · cases done
        · exact inductionHypothesis done

/-- A list in which some item comes has the first member first. -/
theorem Reader.listMembers_first
    {member : Member}
    {first : Input}
    (next : hasNext ']' isFirst input = .done true first)
    (done : listMembers levels (member :: members) isFirst [] input = .done result last) :
    ∃ value rest more, member.reader levels first = .done value rest ∧
      result = (member.name, value) :: more := by
  rw [listMembers, next, Reading.bind, if_pos rfl] at done
  obtain ⟨value, rest, reads, done⟩ := Reading.bind_eq_done done
  obtain ⟨more, rfl⟩ := listMembers_extends done
  exact ⟨value, rest, more, reads, rfl⟩

/-! ## Members of a record that has been read -/

variable {holds : String → Value → Prop}

/-- What holds of all that the readers of the members read holds of a list of the members. -/
theorem Reader.forall_mem_listMembers
    (done : listMembers levels members isFirst read input = .done result last)
    (ofReaders : ∀ member ∈ members, ∀ {start : Input} {value : Value} {rest : Input},
      member.reader levels start = .done value rest → holds member.name value)
    (ofRead : ∀ entry ∈ read, holds entry.1 entry.2) :
    ∀ entry ∈ result, holds entry.1 entry.2 := by
  induction members generalizing isFirst read input with
  | nil =>
      rw [listMembers] at done
      cases done
      intro entry isMember
      exact ofRead entry (List.mem_reverse.mp isMember)
  | cons member members inductionHypothesis =>
      have ofRest : ∀ later ∈ members, ∀ {start : Input} {value : Value} {rest : Input},
          later.reader levels start = .done value rest → holds later.name value :=
        fun later isMember => ofReaders later (List.mem_cons_of_mem member isMember)
      rw [listMembers] at done
      obtain ⟨comes, rest, -, done⟩ := Reading.bind_eq_done done
      split at done
      · obtain ⟨value, next, reads, done⟩ := Reading.bind_eq_done done
        refine inductionHypothesis done ofRest (List.forall_mem_cons.mpr ⟨?_, ofRead⟩)
        exact ofReaders member List.mem_cons_self reads
      · split at done
        · cases done
        · exact inductionHypothesis done ofRest ofRead

/-- What holds of all that the readers of the members read holds of a record. -/
theorem HoldsRecord.forall_mem
    (record : HoldsRecord members input read)
    (ofReaders : ∀ member ∈ members, ∀ {levels : Nat} {start : Input} {value : Value}
      {rest : Input}, member.reader levels start = .done value rest → holds member.name value) :
    ∀ entry ∈ read, holds entry.1 entry.2 := by
  cases record with
  | object found reads ends =>
      exact reads.forall_mem (fun member isMember _ _ _ => ofReaders member isMember)
        (List.forall_mem_nil _)
  | list found reads =>
      exact Reader.forall_mem_listMembers reads (fun member isMember _ _ _ =>
        ofReaders member isMember) (List.forall_mem_nil _)

/-- Whether a value is null or is made of some content. -/
def Value.IsNullOr {Content : Type} (render : Content → Value) (value : Value) : Prop :=
  value = .null ∨ ∃ content, value = render content

namespace Reader

variable {value : Value}

/-- Where a text is wanted, nothing but a text is read. -/
theorem exists_text_of_done (done : text levels input = .done value rest) :
    ∃ content, value = .text content := by
  unfold text at done
  split at done
  case h_1 =>
    obtain ⟨content, _, -, done⟩ := Reading.bind_eq_done done
    cases done
    exact ⟨content, rfl⟩
  case h_2 => exact absurd done (mismatched_ne_done value)

/-- Where a truth value is wanted, nothing but a truth value is read. -/
theorem exists_flag_of_done (done : flag levels input = .done value rest) :
    ∃ content, value = .flag content := by
  unfold flag at done
  split at done
  case h_1 =>
    obtain ⟨_, _, -, done⟩ := Reading.bind_eq_done done
    cases done
    exact ⟨true, rfl⟩
  case h_2 =>
    obtain ⟨_, _, -, done⟩ := Reading.bind_eq_done done
    cases done
    exact ⟨false, rfl⟩
  case h_3 => exact absurd done (mismatched_ne_done value)

/-- Where null is allowed, null is read or what is read without it. -/
theorem isNullOr_of_optional
    {Content : Type}
    {render : Content → Value}
    {reader : Reader}
    (onlyContent : reader levels (skipSpace input) = .done value rest →
      ∃ content, value = render content)
    (done : reader.optional levels input = .done value rest) :
    value.IsNullOr render := by
  unfold optional at done
  split at done
  case h_1 =>
    obtain ⟨_, _, -, done⟩ := Reading.bind_eq_done done
    cases done
    exact .inl rfl
  case h_2 => exact .inr (onlyContent done)

theorem isNullOr_text (done : text.optional levels input = .done value rest) :
    value.IsNullOr .text :=
  isNullOr_of_optional exists_text_of_done done

theorem isNullOr_flag (done : flag.optional levels input = .done value rest) :
    value.IsNullOr .flag :=
  isNullOr_of_optional exists_flag_of_done done

end Reader

end Credential.Json
