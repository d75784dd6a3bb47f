import Credential.Proofs.Json.Values

/-!
# Readers keep to their values

A reader of a value that stops has not gone beyond the value either.  So a
reader that goes on in its place, as a tolerant one does, goes on somewhere
within the value or at its end.
-/

namespace Credential.Json

open Credential.Text (Symbol)

variable {guard : Guard} {floor depth : Int} {input rest : Input}

/-! ## Scalars -/

/-- A reader may stop where it begins. -/
theorem Reading.Passes.stop
    {Result : Type}
    (fault : Fault)
    (after : Spot)
    (input : Input) :
    (Reading.stop fault input : Reading Result).Passes guard floor ⟨.outside, depth⟩ after
      input :=
  (Path.refl guard floor ⟨.outside, depth⟩ input).leaves (Or.inl rfl)

/-- A number is read to its end, or up to where it is badly written. -/
theorem passes_readNumber (input : Input) :
    (readNumber input).Passes guard floor ⟨.outside, depth⟩ ⟨.outside, depth⟩ input :=
  (bareTo_readNumber input).passes

/-- A value of the wrong kind is read to its end if it is a scalar. -/
theorem passes_mismatched (input : Input) :
    (mismatched input).Passes guard floor ⟨.outside, depth⟩ ⟨.outside, depth⟩ input := by
  have stops : ∀ {Result : Type} (_ : Result) (rest : Input),
      (Reading.stop .mismatch rest : Reading Value).Passes guard floor ⟨.outside, depth⟩
        ⟨.outside, depth⟩ rest :=
    fun _ rest => .stop .mismatch _ rest
  unfold mismatched
  split
  · exact (passes_word (Or.inl ⟨rfl, rfl⟩) _).bind stops
  · exact (passes_word (Or.inr (Or.inl ⟨rfl, rfl⟩)) _).bind stops
  · exact (passes_word (Or.inr (Or.inr ⟨rfl, rfl⟩)) _).bind stops
  · exact (passes_quoted _).bind stops
  · exact .stop _ _ _
  · exact .stop _ _ _
  · exact (passes_readNumber _).bind stops
  · split
    · exact (passes_readNumber _).bind stops
    · exact .stop _ _ _
  · exact .stop _ _ _

/-- Whether a reader, if it comes through and if it stops, keeps to the value at the front. -/
def Reader.KeepsToValue (reader : Reader) : Prop :=
  ∀ (levels : Nat) (floor : Int) (input : Input),
    (reader levels input).Passes .value floor ⟨.outside, floor⟩ ⟨.outside, floor⟩ input

namespace Reader.KeepsToValue

/-- Space before a value does not matter. -/
theorem of_skipSpace
    {reading : Reading Value}
    (passes : reading.Passes guard floor ⟨.outside, depth⟩ ⟨.outside, depth⟩ (skipSpace input)) :
    reading.Passes guard floor ⟨.outside, depth⟩ ⟨.outside, depth⟩ input :=
  .of_path (path_skipSpace input) passes

/-- A reader of texts keeps to the text. -/
theorem text : Reader.text.KeepsToValue := by
  intro levels floor input
  refine of_skipSpace ?_
  unfold Reader.text
  split
  case h_1 rest found =>
    rw [found]
    exact (passes_quoted rest).map
  case h_2 => exact passes_mismatched _

/-- A value that is tested after it has been read is kept to if it is kept to without the test. -/
theorem tested
    {reader : Reader}
    (keeps : reader.KeepsToValue)
    (accepts : Value → Bool) :
    KeepsToValue fun levels input =>
      (reader levels input).bind fun value rest =>
        if accepts value then .done value rest else .stop .mismatch rest := by
  intro levels floor input
  refine (keeps levels floor input).bind fun value rest => ?_
  split
  · exact Path.refl _ _ _ _
  · exact .stop _ _ _

/-- A reader of texts that pass a test keeps to the text. -/
theorem textThat (accepts : String → Bool) : (Reader.textThat accepts).KeepsToValue := by
  intro levels floor input
  refine (text levels floor input).bind fun value rest => ?_
  split
  · split
    · exact Path.refl _ _ _ _
    · exact .stop _ _ _
  · exact .stop _ _ _

/-- A reader of integers keeps to the number. -/
theorem integer (least greatest : Int) : (Reader.integer least greatest).KeepsToValue := by
  intro levels floor input
  refine of_skipSpace ?_
  unfold Reader.integer
  dsimp only
  split
  case isTrue _ =>
    refine (passes_readNumber (skipSpace input)).bind fun value rest => ?_
    split
    · split
      · exact Path.refl _ _ _ _
      · exact .stop _ _ _
    · exact .stop _ _ _
  case isFalse _ => exact passes_mismatched _

/-- What may be null is kept to if it is kept to otherwise. -/
theorem optional
    {reader : Reader}
    (keeps : reader.KeepsToValue) :
    reader.optional.KeepsToValue := by
  intro levels floor input
  refine of_skipSpace ?_
  unfold Reader.optional
  split
  case h_1 rest found =>
    rw [found]
    exact (passes_word (Or.inl ⟨rfl, rfl⟩) rest).map
  case h_2 => exact keeps levels floor (skipSpace input)

end Reader.KeepsToValue

/-! ## Sequences -/

/-- What comes before an item or a member leads nowhere else, and is not the end. -/
theorem passes_hasNext
    (passesComma : guard.stops (some ',') = false)
    (close : Char)
    (isFirst : Bool)
    (input : Input) :
    (Reader.hasNext close isFirst input).Passes guard floor ⟨.outside, depth⟩ ⟨.outside, depth⟩
      input := by
  refine .of_path (path_skipSpace input) ?_
  unfold Reader.hasNext
  split
  case h_1 found =>
    rw [found]
    exact .stop _ _ _
  case h_2 symbol rest found =>
    rw [found]
    split
    · exact Path.refl _ _ _ _
    · split
      · exact Path.refl _ _ _ _
      · split
        case isTrue isComma =>
          rw [isComma]
          have comma : Path guard floor ⟨.outside, depth⟩ (some ',' :: rest) ⟨.outside, depth⟩
              (skipSpace rest) :=
            (path_symbol passesComma rfl rest).trans (path_skipSpace rest)
          refine .of_path comma ?_
          split
          case h_1 ended =>
            rw [ended]
            exact .stop _ _ _
          case h_2 following =>
            rw [following]
            split
            · exact .stop _ _ _
            · exact Path.refl _ _ _ _
        case isFalse _ => exact .stop _ _ _

/-- Where nothing more comes, the end comes. -/
theorem Reader.end_of_hasNext
    {close : Char}
    {isFirst : Bool}
    (ends : hasNext close isFirst input = .done false rest) :
    ∃ later, rest = some close :: later := by
  unfold hasNext at ends
  split at ends
  · cases ends
  · split at ends
    case isTrue isClose =>
      cases ends
      exact ⟨_, by rw [isClose]⟩
    case isFalse _ =>
      split at ends
      · cases ends
      · split at ends
        · split at ends
          · cases ends
          · split at ends <;> cases ends
        · cases ends

/-- The name of a member leads nowhere else. -/
theorem passes_memberName (input : Input) :
    (Reader.memberName input).Passes guard floor ⟨.outside, depth⟩ ⟨.outside, depth⟩ input := by
  unfold Reader.memberName
  split
  · exact passes_quoted _
  · exact .stop _ _ _

/-- The colon after the name of a member leads nowhere else. -/
theorem passes_passColon (input : Input) :
    (Reader.passColon input).Passes guard floor ⟨.outside, depth⟩ ⟨.outside, depth⟩ input := by
  refine .of_path (path_skipSpace input) ?_
  unfold Reader.passColon
  split
  case h_1 rest found =>
    rw [found]
    exact path_symbol (by cases guard <;> rfl) rfl rest
  case h_2 => exact .stop _ _ _

/-! ## Enclosures -/

/-- Bare symbols change nothing outside of quoted texts and nothing inside of them. -/
theorem run?_of_isBare
    {spot : Spot}
    {word : Input}
    (allBare : ∀ symbol ∈ word, isBare symbol = true)
    (mode : spot.mode = .outside ∨ spot.mode = .quoted) :
    guard.run? floor spot word = some spot := by
  induction word with
  | nil => rfl
  | cons symbol rest inductionHypothesis =>
      rw [List.forall_mem_cons] at allBare
      have stays : guard.next? floor spot symbol = some spot := by
        rcases spot with ⟨spotMode, spotDepth⟩
        rcases mode with rfl | rfl
        · exact next?_of_isBare allBare.1
        · rw [next?_of_mode_ne (by simp)]
          have notQuote : symbol ≠ some '"' := by
            rintro rfl
            exact absurd allBare.1 (by decide)
          have notBackslash : symbol ≠ some '\\' := by
            rintro rfl
            exact absurd allBare.1 (by decide)
          simp [Spot.next?, notQuote, notBackslash]
      rw [Guard.run?, stays]
      exact inductionHypothesis allBare.2

/--
Whether what is left can be left after some more symbols as well, by a reader that
stopped inside of an enclosure.
-/
def Trails (guard : Guard) (floor : Int) (rest last : Input) : Prop :=
  (IsStuck rest → IsStuck last) ∧ ∃ word, rest = word ++ last ∧
    ∀ spot : Spot, floor < spot.depth → (spot.mode = .outside ∨ spot.mode = .quoted) →
      ∃ after, guard.run? floor spot word = some after ∧
        (after.mode = .outside ∨ after.mode = .quoted)

/-- A reader that stops inside of an enclosure may leave a little less. -/
theorem Leaves.trails
    {before : Spot}
    {last : Input}
    (leaves : Leaves .items (floor + 1) before input rest)
    (above : floor < before.depth)
    (trails : Trails guard floor rest last) :
    Leaves guard floor before input last := by
  obtain ⟨staysStuck, second, rfl, onward⟩ := trails
  rcases leaves with stuck | ⟨first, rfl, within⟩
  · exact Or.inl (staysStuck stuck)
  refine Or.inr ⟨first ++ second, (List.append_assoc _ _ _).symm, fun after free => ?_⟩
  rw [Guard.run?_append] at free
  cases reached : Guard.free.run? floor before first with
  | none =>
      rw [reached] at free
      cases free
  | some middle =>
      rw [reached] at free
      obtain ⟨run, mode⟩ := within middle (Guard.run?_free reached (floor + 1))
      obtain ⟨firstRun, inside⟩ : guard.run? floor before first = some middle ∧ _ :=
        Guard.run?_of_lt run (by omega) (Int.lt_succ floor)
      obtain ⟨other, secondRun, otherMode⟩ := onward middle (by omega) mode
      have same := Guard.run?_free secondRun floor
      obtain rfl : other = after := Option.some.inj (same.symm.trans free)
      rw [Guard.run?_append, firstRun]
      exact ⟨secondRun, otherMode⟩

/-- Space may be left out. -/
theorem Trails.skipSpace (rest : Input) : Trails guard floor rest (skipSpace rest) := by
  refine ⟨?_, ?_⟩
  · intro stuck
    cases rest with
    | nil => exact stuck
    | cons symbol later =>
        obtain rfl : symbol = none := stuck
        exact rfl
  · obtain ⟨word, same, allBare⟩ := bareTo_skipSpace rest
    exact ⟨word, same, fun spot _ mode => ⟨spot, run?_of_isBare allBare mode, mode⟩⟩

/-- Inside of an enclosure a comma or the end of an enclosure leaves quoted texts as they are. -/
theorem next?_of_isPart
    (guard : Guard)
    {spot : Spot}
    {symbol : Symbol}
    (isPart : symbol = some ',' ∨ symbol = some ']' ∨ symbol = some '}')
    (inside : floor < spot.depth)
    (mode : spot.mode = .outside ∨ spot.mode = .quoted) :
    ∃ after, guard.next? floor spot symbol = some after ∧ after.mode = spot.mode := by
  rw [next?_of_lt inside]
  rcases spot with ⟨spotMode, spotDepth⟩
  rcases mode with rfl | rfl <;> rcases isPart with rfl | rfl | rfl <;> exact ⟨_, rfl, rfl⟩

/-- After space a symbol that may stand inside of an enclosure may be left out, and more space. -/
theorem Trails.symbol
    {symbol : Symbol}
    {later last : Input}
    (found : Json.skipSpace rest = symbol :: later)
    (isPart : symbol = some ',' ∨ symbol = some ']' ∨ symbol = some '}')
    (bareTo : BareTo later last) :
    Trails guard floor rest last := by
  obtain ⟨space, same, spaceBare⟩ := bareTo_skipSpace rest
  obtain ⟨word, rfl, allBare⟩ := bareTo
  refine ⟨?_, space ++ symbol :: word, ?_, ?_⟩
  · intro stuck
    cases rest with
    | nil => cases found
    | cons first others =>
        obtain rfl : first = none := stuck
        cases found
        simp at isPart
  · rw [List.append_assoc, List.cons_append, ← found]
    exact same
  · intro spot inside mode
    obtain ⟨after, passes, afterMode⟩ := next?_of_isPart guard isPart inside mode
    have settled : after.mode = .outside ∨ after.mode = .quoted := by
      rw [afterMode]
      exact mode
    refine ⟨after, ?_, settled⟩
    rw [Guard.run?_append, run?_of_isBare spaceBare mode, Option.bind_some, Guard.run?, passes]
    exact run?_of_isBare allBare settled

/-- An attempt to end a list leaves what a reader inside of the list may leave. -/
theorem trails_passListEnd (rest : Input) :
    Trails guard floor rest (Reader.passListEnd rest) := by
  unfold Reader.passListEnd
  split
  case h_1 found => exact .symbol found (Or.inr (Or.inl rfl)) (.refl _)
  case h_2 later found => exact .symbol found (Or.inl rfl) (bareTo_skipSpace later)
  case h_3 => exact .skipSpace rest

/-- An attempt to end an object leaves what a reader inside of the object may leave. -/
theorem trails_passObjectEnd (rest : Input) :
    Trails guard floor rest (Reader.passObjectEnd rest) := by
  unfold Reader.passObjectEnd
  split
  case h_1 found => exact .symbol found (Or.inr (Or.inr rfl)) (.refl _)
  case h_2 => exact .skipSpace rest

/-- What is read inside of a list ends with the list, or does not come through. -/
theorem passes_endList
    (value : Value)
    (inside : Path .items (floor + 1) ⟨.outside, floor + 1⟩ input ⟨.outside, floor + 1⟩ rest) :
    (Reader.endList value rest).Passes guard floor ⟨.outside, floor + 1⟩ ⟨.outside, floor⟩
      input := by
  refine .of_path (inside.raised (Int.le_refl _) (Int.lt_succ floor)) ?_
  refine .of_path (path_skipSpace rest) ?_
  unfold Reader.endList
  split
  case h_1 later found =>
    rw [found]
    exact path_close .list (Int.le_refl floor) later
  case h_2 => exact .stop _ _ _

/-! ## Any value -/

/-- What readers of any value, of any items and of any members keep to with some fuel. -/
structure KeepsWithin (fuel : Nat) : Prop where
  value : ∀ (levels : Nat) (floor : Int) (input : Input),
    (Reader.anyWithin fuel levels input).Passes .value floor ⟨.outside, floor⟩ ⟨.outside, floor⟩
      input
  items : ∀ (levels : Nat) (isFirst : Bool) (read : List Value) (floor : Int) (input : Input),
    (Reader.anyItems fuel levels isFirst read input).Passes .items floor ⟨.outside, floor⟩
      ⟨.outside, floor⟩ input
  members : ∀ (levels : Nat) (isFirst : Bool) (read : List (String × Value)) (floor : Int)
      (input : Input),
    (Reader.anyMembers fuel levels isFirst read input).Passes .items floor ⟨.outside, floor⟩
      ⟨.outside, floor⟩ input

/-- A reader that keeps clear of commas keeps clear of ends of enclosures. -/
theorem Reading.Passes.items
    {Result : Type}
    {reading : Reading Result}
    {before after : Spot}
    (passes : reading.Passes .value floor before after input) :
    reading.Passes .items floor before after input := by
  cases reading with
  | done value rest => exact Path.items passes
  | stop fault rest => exact Leaves.items passes

/-- After any members comes the end of their object. -/
theorem Reader.end_of_anyMembers
    {fuel levels : Nat}
    {isFirst : Bool}
    {read members : List (String × Value)}
    (ends : anyMembers fuel levels isFirst read input = .done members rest) :
    ∃ later, rest = some '}' :: later := by
  induction fuel generalizing isFirst read input with
  | zero =>
      rw [anyMembers] at ends
      cases ends
  | succ fuel inductionHypothesis =>
      rw [anyMembers] at ends
      split at ends
      case h_1 =>
        split at ends
        case h_1 =>
          split at ends
          case h_1 =>
            split at ends
            · exact inductionHypothesis ends
            · cases ends
          case h_2 => cases ends
        case h_2 => cases ends
      case h_2 ended =>
        cases ends
        exact end_of_hasNext ended
      case h_3 => cases ends

namespace KeepsWithin

variable {fuel : Nat}

/-- With more fuel the items of a list are kept to. -/
theorem items_succ
    (keeps : KeepsWithin fuel)
    (levels : Nat)
    (isFirst : Bool)
    (read : List Value)
    (floor : Int)
    (input : Input) :
    (Reader.anyItems (fuel + 1) levels isFirst read input).Passes .items floor ⟨.outside, floor⟩
      ⟨.outside, floor⟩ input := by
  have comes : (Reader.hasNext ']' isFirst input).Passes .items floor ⟨.outside, floor⟩
      ⟨.outside, floor⟩ input :=
    passes_hasNext rfl ']' isFirst input
  rw [Reader.anyItems]
  split
  case h_1 rest more =>
    refine .of_path (comes.path more) ?_
    have item := (keeps.value levels floor rest).items
    split
    case h_1 value later done => exact .of_path (item.path done) (keeps.items _ _ _ _ _)
    case h_2 fault later stopped =>
      rw [stopped] at item
      exact item
  case h_2 rest ended => exact comes.path ended
  case h_3 fault rest stopped =>
    rw [stopped] at comes
    exact comes

/-- With more fuel the members of an object are kept to. -/
theorem members_succ
    (keeps : KeepsWithin fuel)
    (levels : Nat)
    (isFirst : Bool)
    (read : List (String × Value))
    (floor : Int)
    (input : Input) :
    (Reader.anyMembers (fuel + 1) levels isFirst read input).Passes .items floor
      ⟨.outside, floor⟩ ⟨.outside, floor⟩ input := by
  have comes : (Reader.hasNext '}' isFirst input).Passes .items floor ⟨.outside, floor⟩
      ⟨.outside, floor⟩ input :=
    passes_hasNext rfl '}' isFirst input
  rw [Reader.anyMembers]
  split
  case h_1 rest more =>
    refine .of_path (comes.path more) ?_
    have name : (Reader.memberName rest).Passes .items floor ⟨.outside, floor⟩ ⟨.outside, floor⟩
        rest :=
      passes_memberName rest
    split
    case h_1 text afterName named =>
      refine .of_path (name.path named) ?_
      have colon : (Reader.passColon afterName).Passes .items floor ⟨.outside, floor⟩
          ⟨.outside, floor⟩ afterName :=
        passes_passColon afterName
      split
      case h_1 afterColon passed =>
        refine .of_path (colon.path passed) ?_
        have value := (keeps.value levels floor afterColon).items
        split
        case h_1 done => exact .of_path (value.path done) (keeps.members _ _ _ _ _)
        case h_2 stopped =>
          rw [stopped] at value
          exact value
      case h_2 stopped =>
        rw [stopped] at colon
        exact colon
    case h_2 stopped =>
      rw [stopped] at name
      exact name
  case h_2 rest ended => exact comes.path ended
  case h_3 fault rest stopped =>
    rw [stopped] at comes
    exact comes

/-- With more fuel a value is kept to. -/
theorem value_succ
    (keeps : KeepsWithin fuel)
    (levels : Nat)
    (floor : Int)
    (input : Input) :
    (Reader.anyWithin (fuel + 1) levels input).Passes .value floor ⟨.outside, floor⟩
      ⟨.outside, floor⟩ input := by
  refine .of_path (path_skipSpace input) ?_
  rw [Reader.anyWithin]
  split
  case h_1 rest found =>
    rw [found]
    exact (passes_word (Or.inl ⟨rfl, rfl⟩) rest).map
  case h_2 rest found =>
    rw [found]
    exact (passes_word (Or.inr (Or.inl ⟨rfl, rfl⟩)) rest).map
  case h_3 rest found =>
    rw [found]
    exact (passes_word (Or.inr (Or.inr ⟨rfl, rfl⟩)) rest).map
  case h_4 rest found =>
    rw [found]
    exact (passes_quoted rest).map
  case h_5 rest found =>
    rw [found]
    split
    · exact .stop _ _ _
    · refine .of_path (path_symbol rfl rfl rest) ?_
      have inside := keeps.items (levels - 1) true [] (floor + 1) rest
      split
      case h_1 values later done => exact passes_endList _ (inside.path done)
      case h_2 fault later stopped =>
        rw [stopped] at inside
        exact Leaves.trails inside (Int.lt_succ floor) (trails_passListEnd later)
  case h_6 rest found =>
    rw [found]
    split
    · exact .stop _ _ _
    · refine .of_path (path_symbol rfl rfl rest) ?_
      have inside := keeps.members (levels - 1) true [] (floor + 1) rest
      split
      case h_1 members later done =>
        refine .of_path ((inside.path done).raised (Int.le_refl _) (Int.lt_succ floor)) ?_
        obtain ⟨last, rfl⟩ := Reader.end_of_anyMembers done
        exact path_close .object (Int.le_refl floor) last
      case h_2 fault later stopped =>
        rw [stopped] at inside
        exact Leaves.trails inside (Int.lt_succ floor) (trails_passObjectEnd later)
  case h_7 =>
    split
    · exact passes_readNumber _
    · exact .stop _ _ _

/-- Values, items and members are kept to with any fuel. -/
theorem all (fuel : Nat) : KeepsWithin fuel := by
  induction fuel with
  | zero =>
      refine ⟨?_, ?_, ?_⟩
      · intro levels floor input
        rw [Reader.anyWithin]
        exact .stop _ _ _
      · intro levels isFirst read floor input
        rw [Reader.anyItems]
        exact .stop _ _ _
      · intro levels isFirst read floor input
        rw [Reader.anyMembers]
        exact .stop _ _ _
  | succ fuel inductionHypothesis =>
      exact ⟨inductionHypothesis.value_succ, inductionHypothesis.items_succ,
        inductionHypothesis.members_succ⟩

end KeepsWithin

/-! ## Lists of values of one kind -/

/-- Items are kept to by a reader that keeps to each of them. -/
theorem passes_items
    {reader : Reader}
    (keeps : reader.KeepsToValue)
    (floor : Int)
    (levels fuel : Nat)
    (isFirst : Bool)
    (read : List Value)
    (input : Input) :
    (Reader.items reader levels fuel isFirst read input).Passes .items floor ⟨.outside, floor⟩
      ⟨.outside, floor⟩ input := by
  induction fuel generalizing isFirst read input with
  | zero =>
      rw [Reader.items]
      exact .stop _ _ _
  | succ fuel inductionHypothesis =>
      rw [Reader.items]
      refine (passes_hasNext rfl ']' isFirst input).bind fun more rest => ?_
      split
      case isTrue =>
        exact (keeps levels floor rest).items.bind fun value later =>
          inductionHypothesis false (value :: read) later
      case isFalse => exact Path.refl _ _ _ _

/-- A reader of lists keeps to the list. -/
theorem Reader.KeepsToValue.listOf
    {reader : Reader}
    (keeps : reader.KeepsToValue) :
    (Reader.listOf reader).KeepsToValue := by
  intro levels floor input
  refine of_skipSpace ?_
  unfold Reader.listOf
  split
  case h_1 rest found =>
    rw [found]
    unfold Reader.enter
    split
    case isTrue => exact .stop _ _ _
    case isFalse =>
      refine .of_path (path_symbol rfl rfl rest) ?_
      rw [List.drop_one, List.tail_cons]
      have inside := passes_items keeps (floor + 1) (levels - 1) (rest.length + 1) true [] rest
      dsimp only
      split
      case h_1 values later done => exact passes_endList _ (inside.path done)
      case h_2 fault later stopped =>
        rw [stopped] at inside
        exact Leaves.trails inside (Int.lt_succ floor) (trails_passListEnd later)
  case h_2 => exact passes_mismatched _

/-- A reader of any value keeps to it. -/
theorem Reader.KeepsToValue.any : Reader.any.KeepsToValue :=
  fun levels floor input => (KeepsWithin.all (2 * input.length + 2)).value levels floor input

end Credential.Json
