import Credential.Proofs.Json.Scalars

/-!
# What readers of values pass

A reader of a value, whatever it makes of it, comes from outside of quoted texts
to outside of them at the same depth, or it stops on the way.  It never comes to
what ends the value.
-/

namespace Credential.Json

open Credential.Text (Symbol)

variable {guard : Guard} {floor depth : Int} {input rest : Input}

/-! ## Single symbols -/

/-- What a guard does not stop it lets pass. -/
theorem next?_of_not_stops
    {symbol : Symbol}
    (passes : guard.stops symbol = false)
    (spot : Spot) :
    guard.next? floor spot symbol = spot.next? symbol := by
  rw [Guard.next?, passes, if_neg (by simp)]

/-- Above its floor a guard lets everything pass. -/
theorem next?_of_lt
    {spot : Spot}
    (above : floor < spot.depth)
    (symbol : Symbol) :
    guard.next? floor spot symbol = spot.next? symbol := by
  rw [Guard.next?, if_neg (by omega)]

/-- Space leads nowhere else. -/
theorem path_skipSpace (input : Input) :
    Path guard floor ⟨.outside, depth⟩ input ⟨.outside, depth⟩ (skipSpace input) :=
  (bareTo_skipSpace input).path

/-- A symbol that no guard stops leads to the spot after it. -/
theorem path_symbol
    {symbol : Symbol}
    {after : Spot}
    (passes : guard.stops symbol = false)
    (leads : Spot.next? ⟨.outside, depth⟩ symbol = some after)
    (rest : Input) :
    Path guard floor ⟨.outside, depth⟩ (symbol :: rest) after rest :=
  Path.step ((next?_of_not_stops passes _).trans leads) rest

/-- An opening quote leads into a quoted text. -/
theorem path_quote (rest : Input) :
    Path guard floor ⟨.outside, depth⟩ (some '"' :: rest) ⟨.quoted, depth⟩ rest :=
  path_symbol (by cases guard <;> rfl) rfl rest

/-- The first character of a word leads into the word. -/
theorem path_word
    {first : Char}
    {word : List Char}
    (isFirst : first = 'n' ∧ word = "ull".toList ∨ first = 't' ∧ word = "rue".toList ∨
      first = 'f' ∧ word = "alse".toList)
    (rest : Input) :
    Path guard floor ⟨.outside, depth⟩ (some first :: rest) ⟨.word word, depth⟩ rest := by
  rcases isFirst with ⟨rfl, rfl⟩ | ⟨rfl, rfl⟩ | ⟨rfl, rfl⟩ <;>
    exact path_symbol (by cases guard <;> rfl) rfl rest

/-- A word is read to its end, or up to a symbol that may not stand in it. -/
theorem passes_word
    {first : Char}
    {word : List Char}
    (isFirst : first = 'n' ∧ word = "ull".toList ∨ first = 't' ∧ word = "rue".toList ∨
      first = 'f' ∧ word = "alse".toList)
    (rest : Input) :
    (readWord word rest).Passes guard floor ⟨.outside, depth⟩ ⟨.outside, depth⟩
      (some first :: rest) := by
  refine .of_path (path_word isFirst rest) ?_
  rcases isFirst with ⟨-, rfl⟩ | ⟨-, rfl⟩ | ⟨-, rfl⟩
  · exact passes_readWord 'u' "ll".toList rest
  · exact passes_readWord 'r' "ue".toList rest
  · exact passes_readWord 'a' "lse".toList rest

/-- A quoted text is read to its closing quote, or up to where it is badly written. -/
theorem passes_quoted (rest : Input) :
    (readQuoted .plain [] false rest).Passes guard floor ⟨.outside, depth⟩ ⟨.outside, depth⟩
      (some '"' :: rest) :=
  .of_path (path_quote rest) (passes_readQuoted rest .plain [] false)

/-! ## Passing over values -/

/-- A reader that came through went the way that readers go. -/
theorem Reading.Passes.path
    {Result : Type}
    {reading : Reading Result}
    {before after : Spot}
    {value : Result}
    (passes : reading.Passes guard floor before after input)
    (done : reading = .done value rest) :
    Path guard floor before input after rest := by
  rw [done] at passes
  exact passes

/-- A scalar that is passed over leads nowhere else. -/
theorem path_skipScalar
    (skips : skipScalar input = .done () rest) :
    Path guard floor ⟨.outside, depth⟩ input ⟨.outside, depth⟩ rest := by
  unfold skipScalar at skips
  split at skips
  · exact (passes_word (Or.inl ⟨rfl, rfl⟩) _).path skips
  · exact (passes_word (Or.inr (Or.inl ⟨rfl, rfl⟩)) _).path skips
  · exact (passes_word (Or.inr (Or.inr ⟨rfl, rfl⟩)) _).path skips
  · exact (path_quote _).trans (path_skipQuoted skips)
  · exact (bareTo_skipNumber _).passes.path skips
  · split at skips
    · exact (bareTo_skipNumber _).passes.path skips
    · cases skips
  · cases skips

/-- The name of a member and its colon, passed over, lead nowhere else. -/
theorem path_skipName
    (skips : skipName input = .done () rest) :
    Path guard floor ⟨.outside, depth⟩ input ⟨.outside, depth⟩ rest := by
  refine (path_skipSpace input).trans ?_
  unfold skipName at skips
  split at skips
  case h_1 later found =>
    rw [found]
    cases skipped : skipQuoted .plain later with
    | stop fault last =>
        rw [skipped] at skips
        cases skips
    | done value last =>
        rw [skipped, Reading.bind] at skips
        refine (path_quote later).trans ((path_skipQuoted skipped).trans ?_)
        refine (path_skipSpace last).trans ?_
        split at skips
        case h_1 colon =>
          rw [colon]
          cases skips
          exact path_symbol (by cases guard <;> rfl) rfl rest
        case h_2 => cases skips
  case h_2 => cases skips

/-- Above its floor a guard lets every symbol lead on. -/
theorem path_inside
    {symbol : Symbol}
    {after : Spot}
    (above : floor < depth)
    (leads : Spot.next? ⟨.outside, depth⟩ symbol = some after)
    (rest : Input) :
    Path guard floor ⟨.outside, depth⟩ (symbol :: rest) after rest :=
  Path.step ((next?_of_lt above symbol).trans leads) rest

/-- The end of an enclosure leads out of it. -/
theorem next?_close (enclosure : Enclosure) (depth : Int) :
    Spot.next? ⟨.outside, depth⟩ (some enclosure.close) = some ⟨.outside, depth - 1⟩ := by
  cases enclosure <;> rfl

/-- The end of an enclosure leads out of it, where that is not below the floor. -/
theorem path_close
    (enclosure : Enclosure)
    (above : floor ≤ depth)
    (rest : Input) :
    Path guard floor ⟨.outside, depth + 1⟩ (some enclosure.close :: rest) ⟨.outside, depth⟩
      rest := by
  have out := next?_close enclosure (depth + 1)
  rw [Int.add_sub_cancel] at out
  exact path_inside (Int.lt_add_one_of_le above) out rest

/-- Closing enclosures leads out of those that are not left. -/
theorem path_closeEnclosures
    {enclosures left : List Enclosure}
    (closes : closeEnclosures enclosures input = .done left rest) :
    Path guard depth ⟨.outside, depth + enclosures.length⟩ input
      ⟨.outside, depth + left.length⟩ rest := by
  induction enclosures generalizing input with
  | nil =>
      cases closes
      exact .refl _ _ _ _
  | cons innermost outer inductionHypothesis =>
      have raised : depth + ((innermost :: outer).length : Nat) =
          depth + (outer.length : Nat) + 1 := by
        rw [List.length_cons]
        omega
      refine (path_skipSpace input).trans ?_
      rw [closeEnclosures] at closes
      split at closes
      case h_1 later found =>
        rw [found]
        cases closes
        exact path_inside (by rw [raised]; omega) rfl rest
      case h_2 character later _ found =>
        rw [found]
        split at closes
        case isTrue isClose =>
          rw [raised, isClose]
          exact (path_close innermost (by omega) later).trans (inductionHypothesis closes)
        case isFalse _ => cases closes
      case h_3 => cases closes

/-- What follows a value leads out of what encloses it, if every value does. -/
theorem path_afterValue
    {next : List Enclosure → Input → Reading Unit}
    {enclosures : List Enclosure}
    (onward : ∀ {enclosures : List Enclosure} {input : Input},
      next enclosures input = .done () rest →
        Path .value depth ⟨.outside, depth + enclosures.length⟩ input ⟨.outside, depth⟩ rest)
    (skips : afterValue next enclosures input = .done () rest) :
    Path .value depth ⟨.outside, depth + enclosures.length⟩ input ⟨.outside, depth⟩ rest := by
  unfold afterValue at skips
  split at skips
  case h_1 => cases skips
  case h_2 closed =>
    cases skips
    simpa using (path_closeEnclosures closed : Path .value depth _ input _ _)
  case h_3 closed => exact (path_closeEnclosures closed).trans (onward skips)
  case h_4 closed =>
    refine (path_closeEnclosures closed).trans ?_
    split at skips
    case h_1 named => exact (path_skipName named).trans (onward skips)
    case h_2 => cases skips

/-- A value that is passed over, and all that encloses it, leads out of what encloses it. -/
theorem path_skipWithin
    {fuel : Nat}
    {enclosures : List Enclosure}
    (skips : skipWithin fuel enclosures input = .done () rest) :
    Path .value depth ⟨.outside, depth + enclosures.length⟩ input ⟨.outside, depth⟩ rest := by
  induction fuel generalizing enclosures input with
  | zero =>
      rw [skipWithin] at skips
      cases skips
  | succ fuel inductionHypothesis =>
      have raises : ∀ (enclosure : Enclosure),
          depth + ((enclosures.length : Nat) : Int) + 1 =
            depth + ((enclosure :: enclosures).length : Nat) := by
        intro enclosure
        rw [List.length_cons]
        omega
      have inside : depth < depth + (enclosures.length : Nat) + 1 := by omega
      refine (path_skipSpace input).trans ?_
      rw [skipWithin] at skips
      split at skips
      case h_1 later found =>
        rw [found]
        refine (path_symbol rfl rfl later).trans ((path_skipSpace later).trans ?_)
        split at skips
        case h_1 last closed =>
          rw [closed]
          refine (path_inside inside rfl last).trans ?_
          simpa using path_afterValue inductionHypothesis skips
        case h_2 =>
          rw [raises .list]
          exact inductionHypothesis skips
      case h_2 later found =>
        rw [found]
        refine (path_symbol rfl rfl later).trans ((path_skipSpace later).trans ?_)
        split at skips
        case h_1 last closed =>
          rw [closed]
          refine (path_inside inside rfl last).trans ?_
          simpa using path_afterValue inductionHypothesis skips
        case h_2 =>
          split at skips
          case h_1 named =>
            rw [raises .object]
            exact (path_skipName named).trans (inductionHypothesis skips)
          case h_2 => cases skips
      case h_3 =>
        split at skips
        case h_1 skipped =>
          exact (path_skipScalar skipped).trans (path_afterValue inductionHypothesis skips)
        case h_2 => cases skips

/-- A value that is passed over leads nowhere else, and is not gone beyond. -/
theorem path_skipValue
    (skips : skipValue input = .done () rest) :
    Path .value depth ⟨.outside, depth⟩ input ⟨.outside, depth⟩ rest := by
  have path : Path .value depth ⟨.outside, depth + ([] : List Enclosure).length⟩ input
      ⟨.outside, depth⟩ rest :=
    path_skipWithin skips
  simpa using path

end Credential.Json
