import Credential.Json.Reader

/-!
# Where a reader stands

Between two symbols of a text one stands outside of quoted texts or inside of
one, and at some depth of enclosures.  A text has a spot at every place, whoever
reads it, and so two readers of one text can be compared by where they stand.

A reader that stands outside at some depth reads a value without ever coming to
the comma or the bracket that ends the value at that depth, whether it reads the
value to its end or stops before.
-/

namespace Credential.Json

open Credential.Text (Symbol)

/-! ## Spots -/

/-- What a spot is in the middle of. -/
inductive Mode where
  | outside
  /-- In one of the words, of which some characters are left. -/
  | word (left : List Char)
  | quoted
  /-- After a backslash. -/
  | escaped
  /-- Among the digits of a numeric escape, of which some are left. -/
  | digits (left : Nat)
  deriving Repr, DecidableEq

/-- A place in a text: what it is in the middle of, and the enclosures around it. -/
structure Spot where
  mode : Mode
  depth : Int
  deriving Repr, DecidableEq

/-- The symbols that may stand outside of quoted texts and change nothing there. -/
def isBare (symbol : Symbol) : Bool :=
  isSpace symbol || (digitSymbol? symbol).isSome ||
    [some ':', some '+', some '-', some '.', some 'e', some 'E'].contains symbol

namespace Spot

/-- The spot after a symbol outside of quoted texts, if the symbol may stand there. -/
def outside? (depth : Int) (symbol : Symbol) : Option Spot :=
  if isBare symbol then
    some ⟨.outside, depth⟩
  else
    match symbol with
    | some ',' => some ⟨.outside, depth⟩
    | some '"' => some ⟨.quoted, depth⟩
    | some '[' => some ⟨.outside, depth + 1⟩
    | some '{' => some ⟨.outside, depth + 1⟩
    | some ']' => some ⟨.outside, depth - 1⟩
    | some '}' => some ⟨.outside, depth - 1⟩
    | some 'n' => some ⟨.word "ull".toList, depth⟩
    | some 't' => some ⟨.word "rue".toList, depth⟩
    | some 'f' => some ⟨.word "alse".toList, depth⟩
    | _ => none

/-- The spot after a symbol, if the symbol may stand there. -/
def next? (spot : Spot) (symbol : Symbol) : Option Spot :=
  match spot.mode with
  | .outside => outside? spot.depth symbol
  | .word [] => none
  | .word (character :: left) =>
      if symbol = some character then
        some { spot with mode := if left = [] then .outside else .word left }
      else
        none
  | .quoted =>
      if symbol = some '"' then some { spot with mode := .outside }
      else if symbol = some '\\' then some { spot with mode := .escaped }
      else some spot
  | .escaped =>
      if (simpleEscape? symbol).isSome then some { spot with mode := .quoted }
      else if symbol = some 'u' then some { spot with mode := .digits 4 }
      else none
  | .digits left =>
      if (hexSymbol? symbol).isSome then
        some { spot with mode := if 1 < left then .digits (left - 1) else .quoted }
      else
        none

end Spot

/-- What a reader does not come to, at the depth where it began. -/
inductive Guard where
  | free
  /-- No end of the enclosure. -/
  | items
  /-- No end of the enclosure, and no comma. -/
  | value
  deriving Repr, DecidableEq

namespace Guard

/-- Whether a guard keeps a symbol from being read at the depth where reading began. -/
def stops : Guard → Symbol → Bool
  | .free, _ => false
  | .items, symbol => symbol = some ']' || symbol = some '}'
  | .value, symbol => symbol = some ']' || symbol = some '}' || symbol = some ','

/-- The spot after a symbol that a guard lets pass. -/
def next? (guard : Guard) (floor : Int) (spot : Spot) (symbol : Symbol) : Option Spot :=
  if guard.stops symbol = true ∧ spot.mode = .outside ∧ spot.depth ≤ floor then none
  else spot.next? symbol

/-- The spot after some symbols that a guard lets pass. -/
def run? (guard : Guard) (floor : Int) : Spot → Input → Option Spot
  | spot, [] => some spot
  | spot, symbol :: rest =>
      match guard.next? floor spot symbol with
      | some next => run? guard floor next rest
      | none => none

variable {guard : Guard} {floor : Int} {spot last : Spot}

/-- Symbols are passed one after the other. -/
theorem run?_append (first second : Input) :
    guard.run? floor spot (first ++ second) =
      (guard.run? floor spot first).bind fun middle => guard.run? floor middle second := by
  induction first generalizing spot with
  | nil => rfl
  | cons symbol rest inductionHypothesis =>
      rw [List.cons_append, run?, run?]
      cases guard.next? floor spot symbol with
      | none => rfl
      | some next => exact inductionHypothesis

/-- What a guard lets pass passes without it. -/
theorem next?_free
    {symbol : Symbol}
    (passes : guard.next? floor spot symbol = some last)
    (otherFloor : Int) :
    Guard.free.next? otherFloor spot symbol = some last := by
  rw [next?] at passes ⊢
  split at passes
  · cases passes
  · rw [if_neg (by simp [stops])]
    exact passes

/-- What a guard lets pass passes without it. -/
theorem run?_free
    {word : Input}
    (passes : guard.run? floor spot word = some last)
    (otherFloor : Int) :
    Guard.free.run? otherFloor spot word = some last := by
  induction word generalizing spot with
  | nil => exact passes
  | cons symbol rest inductionHypothesis =>
      rw [run?] at passes ⊢
      cases stepped : guard.next? floor spot symbol with
      | none =>
          rw [stepped] at passes
          cases passes
      | some next =>
          rw [stepped] at passes
          rw [next?_free stepped otherFloor]
          exact inductionHypothesis passes

/-- A symbol changes the depth by one at most, and lowers it as the end of an enclosure only. -/
theorem depth_next?
    {symbol : Symbol}
    (passes : spot.next? symbol = some last) :
    spot.depth ≤ last.depth ∨
      spot.mode = .outside ∧ (symbol = some ']' ∨ symbol = some '}') ∧
        last.depth = spot.depth - 1 := by
  rcases spot with ⟨mode, depth⟩
  rw [Spot.next?] at passes
  cases mode with
  | outside =>
      dsimp only at passes
      unfold Spot.outside? at passes
      split at passes
      · cases passes
        exact Or.inl (Int.le_refl _)
      · split at passes <;> cases passes
        case h_3 => exact Or.inl (Int.le_of_lt (Int.lt_succ depth))
        case h_4 => exact Or.inl (Int.le_of_lt (Int.lt_succ depth))
        case h_5 => exact Or.inr ⟨rfl, Or.inl rfl, rfl⟩
        case h_6 => exact Or.inr ⟨rfl, Or.inr rfl, rfl⟩
        all_goals exact Or.inl (Int.le_refl depth)
  | word left =>
      cases left with
      | nil => cases passes
      | cons character left =>
          dsimp only at passes
          split at passes <;> cases passes
          exact Or.inl (Int.le_refl _)
  | quoted =>
      dsimp only at passes
      split at passes
      · cases passes
        exact Or.inl (Int.le_refl _)
      · split at passes <;> cases passes <;> exact Or.inl (Int.le_refl _)
  | escaped =>
      dsimp only at passes
      split at passes
      · cases passes
        exact Or.inl (Int.le_refl _)
      · split at passes <;> cases passes
        exact Or.inl (Int.le_refl _)
  | digits left =>
      dsimp only at passes
      split at passes <;> cases passes
      exact Or.inl (Int.le_refl _)

/-- A guard that keeps ends of enclosures out keeps the depth at its floor or above. -/
theorem floor_le_depth
    {symbol : Symbol}
    (passes : Guard.items.next? floor spot symbol = some last)
    (above : floor ≤ spot.depth) :
    floor ≤ last.depth := by
  rw [next?] at passes
  split at passes
  · cases passes
  case isFalse notStopped =>
    rcases depth_next? passes with higher | ⟨mode, isEnd, lower⟩
    · omega
    · have stopped : Guard.items.stops symbol = true := by
        rcases isEnd with rfl | rfl <;> rfl
      have higher : ¬ spot.depth ≤ floor := fun low => notStopped ⟨stopped, mode, low⟩
      omega

/-- What stays at a floor or above passes any guard of a lower floor. -/
theorem run?_of_lt
    {word : Input}
    (passes : Guard.items.run? floor spot word = some last)
    (above : floor ≤ spot.depth)
    {lower : Int}
    (less : lower < floor) :
    guard.run? lower spot word = some last ∧ floor ≤ last.depth := by
  induction word generalizing spot with
  | nil =>
      cases passes
      exact ⟨rfl, above⟩
  | cons symbol rest inductionHypothesis =>
      rw [run?] at passes ⊢
      cases stepped : Guard.items.next? floor spot symbol with
      | none =>
          rw [stepped] at passes
          cases passes
      | some next =>
          rw [stepped] at passes
          have free : spot.next? symbol = some next := by
            rw [next?] at stepped
            split at stepped
            · cases stepped
            · exact stepped
          have lowerStep : guard.next? lower spot symbol = some next := by
            rw [next?, if_neg (by omega)]
            exact free
          rw [lowerStep]
          exact inductionHypothesis passes (floor_le_depth stepped above)

/-- A guard that keeps ends of enclosures out keeps the depth at its floor or above. -/
theorem floor_le_depth_of_run?
    {word : Input}
    (passes : Guard.items.run? floor spot word = some last)
    (above : floor ≤ spot.depth) :
    floor ≤ last.depth := by
  have both : Guard.free.run? (floor - 1) spot word = some last ∧ floor ≤ last.depth :=
    run?_of_lt passes above (by omega)
  exact both.2

/-- What keeps commas out keeps the ends of enclosures out as well. -/
theorem run?_items
    {word : Input}
    (passes : Guard.value.run? floor spot word = some last) :
    Guard.items.run? floor spot word = some last := by
  induction word generalizing spot with
  | nil => exact passes
  | cons symbol rest inductionHypothesis =>
      rw [run?] at passes ⊢
      cases stepped : Guard.value.next? floor spot symbol with
      | none =>
          rw [stepped] at passes
          cases passes
      | some next =>
          rw [stepped] at passes
          have itemsStep : Guard.items.next? floor spot symbol = some next := by
            rw [next?] at stepped ⊢
            split at stepped
            · cases stepped
            case isFalse notStopped =>
              rw [if_neg ?_]
              · exact stepped
              · rintro ⟨stopped, outside⟩
                exact notStopped ⟨by simpa [stops] using Or.inl (by simpa [stops] using stopped),
                  outside⟩
          rw [itemsStep]
          exact inductionHypothesis passes

end Guard

/-! ## Ways through a text -/

/-- Whether symbols that a guard lets pass lead from one spot to another and leave a rest. -/
def Path
    (guard : Guard)
    (floor : Int)
    (before : Spot)
    (input : Input)
    (after : Spot)
    (rest : Input) :
    Prop :=
  ∃ word, input = word ++ rest ∧ guard.run? floor before word = some after

/-- Whether there is no character to go on with. -/
def IsStuck : Input → Prop
  | [] => True
  | symbol :: _ => symbol = none

/--
Whether a reader that stopped may have left a rest.

Unless there is nothing to go on with, the symbols before the rest, if they may
stand there, pass the guard, and do not end within a word or an escape.
-/
def Leaves
    (guard : Guard)
    (floor : Int)
    (before : Spot)
    (input rest : Input) :
    Prop :=
  IsStuck rest ∨ ∃ word, input = word ++ rest ∧
    ∀ after, Guard.free.run? floor before word = some after →
      guard.run? floor before word = some after ∧ (after.mode = .outside ∨ after.mode = .quoted)

variable {guard : Guard} {floor : Int} {before middle after : Spot} {input rest last : Input}

namespace Path

/-- No symbols lead nowhere else. -/
theorem refl (guard : Guard) (floor : Int) (spot : Spot) (input : Input) :
    Path guard floor spot input spot input :=
  ⟨[], rfl, rfl⟩

/-- Ways can be gone one after the other. -/
theorem trans
    (first : Path guard floor before input middle rest)
    (second : Path guard floor middle rest after last) :
    Path guard floor before input after last := by
  obtain ⟨firstWord, rfl, firstRun⟩ := first
  obtain ⟨secondWord, rfl, secondRun⟩ := second
  refine ⟨firstWord ++ secondWord, (List.append_assoc _ _ _).symm, ?_⟩
  rw [Guard.run?_append, firstRun]
  exact secondRun

/-- One symbol that may pass leads to the next spot. -/
theorem step
    {symbol : Symbol}
    (passes : guard.next? floor before symbol = some after)
    (rest : Input) :
    Path guard floor before (symbol :: rest) after rest := by
  refine ⟨[symbol], rfl, ?_⟩
  rw [Guard.run?, passes]
  rfl

/-- A way that passes a guard is a way without it. -/
theorem free
    (path : Path guard floor before input after rest)
    (otherFloor : Int) :
    Path .free otherFloor before input after rest := by
  obtain ⟨word, rfl, run⟩ := path
  exact ⟨word, rfl, Guard.run?_free run otherFloor⟩

/-- A way that keeps clear of commas keeps clear of ends of enclosures. -/
theorem items
    (path : Path .value floor before input after rest) :
    Path .items floor before input after rest := by
  obtain ⟨word, rfl, run⟩ := path
  exact ⟨word, rfl, Guard.run?_items run⟩

/-- A way inside of an enclosure passes any guard outside of it. -/
theorem raised
    (path : Path .items floor before input after rest)
    (above : floor ≤ before.depth)
    {lower : Int}
    (less : lower < floor) :
    Path guard lower before input after rest := by
  obtain ⟨word, rfl, run⟩ := path
  exact ⟨word, rfl, (Guard.run?_of_lt run above less).1⟩

/-- A reader that came through may have stopped there. -/
theorem leaves
    (path : Path guard floor before input after rest)
    (mode : after.mode = .outside ∨ after.mode = .quoted) :
    Leaves guard floor before input rest := by
  obtain ⟨word, rfl, run⟩ := path
  refine Or.inr ⟨word, rfl, fun other free => ?_⟩
  have same := Guard.run?_free run floor
  obtain rfl : after = other := Option.some.inj (same.symm.trans free)
  exact ⟨run, mode⟩

end Path

namespace Leaves

/-- A reader that comes through to a spot and stops after it stops after the beginning. -/
theorem of_path
    (path : Path guard floor before input middle rest)
    (leaves : Leaves guard floor middle rest last) :
    Leaves guard floor before input last := by
  rcases leaves with stuck | ⟨secondWord, rfl, within⟩
  · exact Or.inl stuck
  obtain ⟨firstWord, rfl, firstRun⟩ := path
  refine Or.inr ⟨firstWord ++ secondWord, (List.append_assoc _ _ _).symm, fun after free => ?_⟩
  rw [Guard.run?_append, Guard.run?_free firstRun floor] at free
  rw [Guard.run?_append, firstRun]
  exact within after free

/-- A reader that keeps clear of commas keeps clear of ends of enclosures. -/
theorem items
    (leaves : Leaves .value floor before input rest) :
    Leaves .items floor before input rest := by
  rcases leaves with stuck | ⟨word, rfl, within⟩
  · exact Or.inl stuck
  · refine Or.inr ⟨word, rfl, fun after free => ?_⟩
    obtain ⟨run, mode⟩ := within after free
    exact ⟨Guard.run?_items run, mode⟩

/-- A symbol that may not stand somewhere may be passed there by a reader that stops. -/
theorem of_illegal
    {symbol : Symbol}
    (illegal : before.next? symbol = none)
    (rest : Input) :
    Leaves guard floor before (symbol :: rest) rest := by
  refine Or.inr ⟨[symbol], rfl, fun after free => ?_⟩
  rw [Guard.run?, Guard.next?, illegal] at free
  simp at free

end Leaves

/-- Whether a reader leads from one spot to another, or stops as one that began there may. -/
def Reading.Passes
    {Result : Type}
    (guard : Guard)
    (floor : Int)
    (before after : Spot)
    (input : Input)
    (reading : Reading Result) :
    Prop :=
  match reading with
  | .done _ rest => Path guard floor before input after rest
  | .stop _ rest => Leaves guard floor before input rest

namespace Reading.Passes

variable {Result Other : Type} {reading : Reading Result} {next : Result → Input → Reading Other}

/-- What goes on after a reader leads on from where the reader leads. -/
theorem bind
    (first : reading.Passes guard floor before middle input)
    (second : ∀ value rest, (next value rest).Passes guard floor middle after rest) :
    (reading.bind next).Passes guard floor before after input := by
  cases reading with
  | done value rest =>
      rw [Reading.bind]
      have onward := second value rest
      cases following : next value rest with
      | done other last =>
          rw [following] at onward
          exact Path.trans first onward
      | stop fault last =>
          rw [following] at onward
          exact Leaves.of_path first onward
  | stop fault rest => exact first

/-- What is made of the result does not matter. -/
theorem map
    {change : Result → Other}
    (passes : reading.Passes guard floor before after input) :
    (reading.map change).Passes guard floor before after input :=
  passes.bind fun _ rest => Path.refl guard floor after rest

/-- A reader may begin further on. -/
theorem of_path
    {rest : Input}
    (path : Path guard floor before input middle rest)
    (passes : reading.Passes guard floor middle after rest) :
    reading.Passes guard floor before after input := by
  cases reading with
  | done value last => exact path.trans passes
  | stop fault last => exact Leaves.of_path path passes

end Reading.Passes

end Credential.Json
