import Credential.Proofs.Json.Readers

/-!
# Two ways through one text

One text may be gone through twice, by one who stands inside of a quoted text
and by one who stands outside.  As long as both may go on, no backslash comes,
and at every quote they change places: so they never come to agree.
-/

namespace Credential.Json

open Credential.Text (Symbol)

variable {floor : Int} {input rest : Input}

/-! ## Opposed spots -/

/-- Whether a mode is outside of quoted texts, in a word at most. -/
def Mode.IsClear : Mode → Prop
  | .outside => True
  | .word left => '"' ∉ left ∧ '\\' ∉ left
  | _ => False

/-- Whether one of two spots is inside of a quoted text and the other is outside. -/
def Opposed (first second : Spot) : Prop :=
  first.mode.IsClear ∧ second.mode = .quoted ∨ first.mode = .quoted ∧ second.mode.IsClear

/-- Outside of quoted texts a quote leads into one, and no backslash and no gap may stand there. -/
theorem clear_next?
    {spot next : Spot}
    {symbol : Symbol}
    (clear : spot.mode.IsClear)
    (passes : spot.next? symbol = some next) :
    symbol = some '"' ∧ next.mode = .quoted ∨
      ∃ character, symbol = some character ∧ character ≠ '"' ∧ character ≠ '\\' ∧
        next.mode.IsClear := by
  rcases spot with ⟨mode, depth⟩
  cases mode with
  | outside =>
      change Spot.outside? depth symbol = some next at passes
      unfold Spot.outside? at passes
      split at passes
      case isTrue bare =>
        cases passes
        cases symbol with
        | none => exact absurd bare (by decide)
        | some character =>
            refine Or.inr ⟨character, rfl, ?_, ?_, trivial⟩ <;> rintro rfl <;>
              exact absurd bare (by decide)
      case isFalse _ =>
        split at passes <;> cases passes
        case h_2 => exact Or.inl ⟨rfl, rfl⟩
        all_goals exact Or.inr ⟨_, rfl, by simp, by simp, by simp [Mode.IsClear]⟩
  | word left =>
      cases left with
      | nil => cases passes
      | cons character left =>
          rw [Spot.next?] at passes
          dsimp only at passes
          split at passes
          case isTrue same =>
            cases passes
            obtain ⟨notQuote, notBackslash⟩ := clear
            rw [List.mem_cons, not_or] at notQuote notBackslash
            refine Or.inr ⟨character, same, Ne.symm notQuote.1, Ne.symm notBackslash.1, ?_⟩
            dsimp only
            split
            · exact trivial
            · exact ⟨notQuote.2, notBackslash.2⟩
          case isFalse _ => cases passes
  | quoted => cases clear
  | escaped => cases clear
  | digits left => cases clear

/-- Inside of a quoted text a quote leads out, and all but a backslash leave one there. -/
theorem quoted_next?
    {spot next : Spot}
    {symbol : Symbol}
    (quoted : spot.mode = .quoted)
    (notBackslash : symbol ≠ some '\\')
    (passes : spot.next? symbol = some next) :
    symbol = some '"' ∧ next.mode = .outside ∨ symbol ≠ some '"' ∧ next.mode = .quoted := by
  rw [Spot.next?, quoted] at passes
  dsimp only at passes
  split at passes
  case isTrue isQuote =>
    cases passes
    exact Or.inl ⟨isQuote, rfl⟩
  case isFalse notQuote =>
    cases passes
    exact Or.inr ⟨notQuote, quoted⟩

namespace Opposed

variable {first second firstNext secondNext : Spot}

/-- Opposition goes both ways. -/
theorem symm (opposed : Opposed first second) : Opposed second first := by
  rcases opposed with ⟨clear, quoted⟩ | ⟨quoted, clear⟩
  · exact Or.inr ⟨quoted, clear⟩
  · exact Or.inl ⟨clear, quoted⟩

/-- A symbol that may stand outside and inside of a quoted text keeps both opposed. -/
theorem next?_of_clear
    {symbol : Symbol}
    (clear : first.mode.IsClear)
    (quoted : second.mode = .quoted)
    (firstStep : first.next? symbol = some firstNext)
    (secondStep : second.next? symbol = some secondNext) :
    Opposed firstNext secondNext := by
  rcases clear_next? clear firstStep with
    ⟨rfl, enters⟩ | ⟨character, rfl, notQuote, notBackslash, staysClear⟩
  · rcases quoted_next? quoted (by simp) secondStep with ⟨-, leaves⟩ | ⟨notQuote, -⟩
    · exact Or.inr ⟨enters, by rw [leaves]; exact trivial⟩
    · exact absurd rfl notQuote
  · rcases quoted_next? quoted (by simpa using notBackslash) secondStep with
      ⟨isQuote, -⟩ | ⟨-, staysQuoted⟩
    · exact absurd (Option.some.inj isQuote) notQuote
    · exact Or.inl ⟨staysClear, staysQuoted⟩

/-- A symbol that both may pass keeps them opposed. -/
theorem next?
    {symbol : Symbol}
    (opposed : Opposed first second)
    (firstStep : first.next? symbol = some firstNext)
    (secondStep : second.next? symbol = some secondNext) :
    Opposed firstNext secondNext := by
  rcases opposed with ⟨clear, quoted⟩ | ⟨quoted, clear⟩
  · exact next?_of_clear clear quoted firstStep secondStep
  · exact (next?_of_clear clear quoted secondStep firstStep).symm

end Opposed

/-! ## Runs to the end -/

/-- A step that no guard watches is a step. -/
theorem Guard.free_next? (spot : Spot) (symbol : Symbol) :
    Guard.free.next? floor spot symbol = spot.next? symbol :=
  next?_of_not_stops rfl spot

/-- Symbols that both may pass keep them opposed. -/
theorem Opposed.run?
    {first second firstLast secondLast : Spot}
    {word : Input}
    (opposed : Opposed first second)
    (firstRun : Guard.free.run? floor first word = some firstLast)
    (secondRun : Guard.free.run? floor second word = some secondLast) :
    Opposed firstLast secondLast := by
  induction word generalizing first second with
  | nil =>
      cases firstRun
      cases secondRun
      exact opposed
  | cons symbol rest inductionHypothesis =>
      rw [Guard.run?, Guard.free_next?] at firstRun secondRun
      cases firstStep : first.next? symbol with
      | none =>
          rw [firstStep] at firstRun
          cases firstRun
      | some firstNext =>
          cases secondStep : second.next? symbol with
          | none =>
              rw [secondStep] at secondRun
              cases secondRun
          | some secondNext =>
              rw [firstStep] at firstRun
              rw [secondStep] at secondRun
              exact inductionHypothesis (opposed.next? firstStep secondStep) firstRun secondRun

/-- Whether the rest of a text leads from a spot out of everything. -/
def Closes (spot : Spot) (input : Input) : Prop :=
  Guard.free.run? 0 spot input = some ⟨.outside, 0⟩

namespace Closes

variable {spot : Spot}

/-- The beginning of what leads out leads somewhere, and the rest leads out from there. -/
theorem split
    {word : Input}
    (closes : Closes spot (word ++ rest)) :
    ∃ middle, Guard.free.run? 0 spot word = some middle ∧ Closes middle rest := by
  rw [Closes, Guard.run?_append] at closes
  cases reached : Guard.free.run? 0 spot word with
  | none =>
      rw [reached] at closes
      cases closes
  | some middle =>
      rw [reached] at closes
      exact ⟨middle, rfl, closes⟩

/-- Where a reader comes through, the rest leads out. -/
theorem after_path
    {guard : Guard}
    {middle : Spot}
    (closes : Closes spot input)
    (path : Path guard floor spot input middle rest) :
    Closes middle rest := by
  obtain ⟨word, rfl, run⟩ := path
  obtain ⟨other, reached, closesRest⟩ := closes.split
  obtain rfl : middle = other := Option.some.inj ((Guard.run?_free run 0).symm.trans reached)
  exact closesRest

/-- Who is opposed to one that comes through is opposed to it there as well. -/
theorem after_opposed
    {guard : Guard}
    {before after : Spot}
    (closes : Closes spot input)
    (opposed : Opposed before spot)
    (path : Path guard floor before input after rest) :
    ∃ middle, Opposed after middle ∧ Closes middle rest := by
  obtain ⟨word, rfl, run⟩ := path
  obtain ⟨middle, reached, closesRest⟩ := closes.split
  exact ⟨middle, opposed.run? (Guard.run?_free run 0) reached, closesRest⟩

/-- Who is opposed to one that stands outside of quoted texts stands in one. -/
theorem after_outside
    {guard : Guard}
    {before : Spot}
    {depth : Int}
    (closes : Closes spot input)
    (opposed : Opposed before spot)
    (path : Path guard floor before input ⟨.outside, depth⟩ rest) :
    ∃ middle : Spot, middle.mode = .quoted ∧ Closes middle rest := by
  obtain ⟨middle, stillOpposed, closesRest⟩ := closes.after_opposed opposed path
  rcases stillOpposed with ⟨-, quoted⟩ | ⟨impossible, -⟩
  · exact ⟨middle, quoted, closesRest⟩
  · cases impossible

end Closes

/-! ## Names -/

/-- Whether a name, read as the front of a text, may not stand outside of quoted texts. -/
def IsForeign (name : String) : Prop :=
  ∀ (depth : Int) (later : Input),
    Guard.free.run? 0 ⟨.outside, depth⟩ (name.toList.map some ++ later) = none

/-- A quoted text that may stand outside of quoted texts is read literally. -/
theorem readQuoted_of_clear
    {spot : Spot}
    {read : List Char}
    {gap : Bool}
    {text : String}
    (clear : spot.mode.IsClear)
    (legal : Guard.free.run? 0 spot input ≠ none)
    (reads : readQuoted .plain read gap input = .done text rest) :
    ∃ letters, input = letters.map some ++ some '"' :: rest ∧
      text = String.ofList (read.reverse ++ letters) := by
  induction input generalizing spot read gap with
  | nil => cases reads
  | cons symbol later inductionHypothesis =>
      rw [Guard.run?, Guard.free_next?] at legal
      cases step : spot.next? symbol with
      | none =>
          rw [step] at legal
          exact absurd rfl legal
      | some next =>
          rw [step] at legal
          unfold readQuoted at reads
          rcases clear_next? clear step with
            ⟨rfl, -⟩ | ⟨character, rfl, notQuote, notBackslash, staysClear⟩
          · dsimp only at reads
            rw [if_pos rfl] at reads
            split at reads
            · cases reads
            · cases reads
              exact ⟨[], rfl, by rw [List.append_nil]⟩
          · dsimp only at reads
            rw [if_neg notQuote, if_neg notBackslash] at reads
            split at reads
            · cases reads
            · obtain ⟨letters, rfl, rfl⟩ := inductionHypothesis staysClear legal reads
              refine ⟨character :: letters, rfl, ?_⟩
              rw [List.reverse_cons, List.append_assoc, List.singleton_append]

/-- A name that is read where one may stand outside of quoted texts is not foreign. -/
theorem not_isForeign_of_memberName
    {spot : Spot}
    {name : String}
    (quoted : spot.mode = .quoted)
    (closes : Closes spot input)
    (reads : Reader.memberName input = .done name rest) :
    ¬ IsForeign name := by
  intro foreign
  unfold Reader.memberName at reads
  split at reads
  case h_1 later =>
    rw [Closes, Guard.run?, Guard.free_next?, Spot.next?, quoted] at closes
    dsimp only at closes
    rw [if_pos rfl] at closes
    dsimp only at closes
    have clear : (⟨.outside, spot.depth⟩ : Spot).mode.IsClear := trivial
    obtain ⟨letters, rfl, rfl⟩ := readQuoted_of_clear clear (by rw [closes]; simp) reads
    have impossible := foreign spot.depth (some '"' :: rest)
    rw [List.reverse_nil, List.nil_append, String.toList_ofList] at impossible
    rw [impossible] at closes
    cases closes
  case h_2 => cases reads

end Credential.Json
