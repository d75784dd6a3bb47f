import Credential.Proofs.Json.Lexer

/-!
# What readers of scalars pass

Numbers and space are made of symbols that change nothing outside of quoted
texts, words are passed character by character, and quoted texts end at their
closing quote.
-/

namespace Credential.Json

open Credential.Text (Symbol)

variable {guard : Guard} {floor depth : Int} {input rest last : Input}

/-! ## Bare symbols -/

/-- A bare symbol changes nothing outside of quoted texts. -/
theorem next?_of_isBare
    {symbol : Symbol}
    (bare : isBare symbol = true) :
    guard.next? floor ⟨.outside, depth⟩ symbol = some ⟨.outside, depth⟩ := by
  have notStopped : guard.stops symbol = false := by
    have ends : symbol ≠ some ']' ∧ symbol ≠ some '}' ∧ symbol ≠ some ',' := by
      refine ⟨?_, ?_, ?_⟩ <;> rintro rfl <;> revert bare <;> decide
    cases guard <;> simp [Guard.stops, ends]
  rw [Guard.next?, notStopped, if_neg (by simp)]
  change Spot.outside? depth symbol = _
  unfold Spot.outside?
  rw [if_pos bare]

/-- Whether there are only bare symbols before a rest. -/
def BareTo (input rest : Input) : Prop :=
  ∃ word, input = word ++ rest ∧ ∀ symbol ∈ word, isBare symbol = true

namespace BareTo

/-- There are no symbols before the whole. -/
theorem refl (input : Input) : BareTo input input :=
  ⟨[], rfl, by simp⟩

/-- Bare symbols go on with bare symbols. -/
theorem trans (first : BareTo input rest) (second : BareTo rest last) : BareTo input last := by
  obtain ⟨firstWord, rfl, firstBare⟩ := first
  obtain ⟨secondWord, rfl, secondBare⟩ := second
  refine ⟨firstWord ++ secondWord, (List.append_assoc _ _ _).symm, fun symbol member => ?_⟩
  rcases List.mem_append.mp member with inFirst | inSecond
  · exact firstBare symbol inFirst
  · exact secondBare symbol inSecond

/-- One more bare symbol may come first. -/
theorem cons
    {symbol : Symbol}
    (bare : isBare symbol = true)
    (bareTo : BareTo input rest) :
    BareTo (symbol :: input) rest := by
  obtain ⟨word, rfl, allBare⟩ := bareTo
  exact ⟨symbol :: word, rfl, List.forall_mem_cons.mpr ⟨bare, allBare⟩⟩

/-- Bare symbols lead nowhere else. -/
theorem path (bareTo : BareTo input rest) :
    Path guard floor ⟨.outside, depth⟩ input ⟨.outside, depth⟩ rest := by
  obtain ⟨word, rfl, allBare⟩ := bareTo
  induction word with
  | nil => exact .refl guard floor _ rest
  | cons symbol word inductionHypothesis =>
      rw [List.forall_mem_cons] at allBare
      exact (Path.step (next?_of_isBare allBare.1) (word ++ rest)).trans
        (inductionHypothesis allBare.2)

end BareTo

/-- Space is bare. -/
theorem isBare_of_isSpace
    {symbol : Symbol}
    (space : isSpace symbol = true) :
    isBare symbol = true := by
  simp [isBare, space]

/-- A digit is bare. -/
theorem isBare_of_digit
    {symbol : Symbol}
    {digit : Nat}
    (isDigit : digitSymbol? symbol = some digit) :
    isBare symbol = true := by
  simp [isBare, isDigit]

/-- Passing over space passes bare symbols. -/
theorem bareTo_skipSpace (input : Input) : BareTo input (skipSpace input) := by
  refine ⟨input.takeWhile isSpace, List.takeWhile_append_dropWhile.symm, fun symbol member => ?_⟩
  exact isBare_of_isSpace (List.all_eq_true.mp List.all_takeWhile symbol member)

/-! ## Numbers -/

/-- What a reader leaves, whether it has come through or stopped. -/
def Reading.remaining {Result : Type} : Reading Result → Input
  | .done _ rest => rest
  | .stop _ rest => rest

/-- Digits are bare. -/
theorem bareTo_splitDigits (input : Input) : BareTo input (splitDigits input).2 := by
  induction input with
  | nil => exact .refl []
  | cons symbol rest inductionHypothesis =>
      rw [splitDigits]
      cases isDigit : digitSymbol? symbol with
      | none => exact .refl _
      | some digit => exact inductionHypothesis.cons (isBare_of_digit isDigit)

/-- The digits of a power are bare. -/
theorem bareTo_readPower (value : Nat) (input : Input) :
    BareTo input (readPower value input).2 := by
  induction input generalizing value with
  | nil => exact .refl []
  | cons symbol rest inductionHypothesis =>
      rw [readPower]
      cases isDigit : digitSymbol? symbol with
      | none => exact .refl _
      | some digit =>
          dsimp only
          split
          · exact BareTo.cons (isBare_of_digit isDigit) (.refl rest)
          · exact (inductionHypothesis _).cons (isBare_of_digit isDigit)

/-- The sign of a power is bare. -/
theorem bareTo_readPowerSign (input : Input) : BareTo input (readPowerSign input).2 := by
  unfold readPowerSign
  split
  · exact BareTo.cons (by decide) (.refl _)
  · exact BareTo.cons (by decide) (.refl _)
  · exact .refl _

/-- Ending a number with a point or a power passes nothing. -/
theorem remaining_finishReal (negative : Bool) (number : Scaled) (power : Int) (rest : Input) :
    (finishReal negative number power rest).remaining = rest := by
  rw [finishReal]
  split <;> rfl

/-- Ending a whole number passes nothing. -/
theorem remaining_finishWhole (negative : Bool) (digits : List Nat) (rest : Input) :
    (finishWhole negative digits rest).remaining = rest := by
  rw [finishWhole]
  split
  · exact remaining_finishReal _ _ _ _
  · split
    · split <;> rfl
    · rfl

/-- The power of a number is bare. -/
theorem bareTo_readScaled (negative : Bool) (number : Scaled) (input : Input) :
    BareTo input (readScaled negative number input).remaining := by
  unfold readScaled
  split
  case h_1 mark rest =>
    split
    case isTrue isMark =>
      have markBare : isBare (some mark) = true := by
        rcases isMark with rfl | rfl <;> decide
      have sign := (bareTo_readPowerSign rest).cons markBare
      dsimp only
      split
      case h_1 =>
        split
        · exact sign
        · have power := sign.trans (bareTo_readPower 0 _)
          split
          case h_1 found =>
            rw [found] at power
            rw [remaining_finishReal]
            exact power
          case h_2 found =>
            rw [found] at power
            split
            · exact power
            · exact power.trans (bareTo_splitDigits _)
      case h_2 same =>
        rw [same] at sign
        exact sign
    case isFalse _ =>
      rw [remaining_finishReal]
      exact .refl _
  case h_2 =>
    rw [remaining_finishReal]
    exact .refl _

/-- A number after its sign is bare. -/
theorem bareTo_readUnsigned (negative : Bool) (input : Input) :
    BareTo input (readUnsigned negative input).remaining := by
  have digits := bareTo_splitDigits input
  unfold readUnsigned
  dsimp only
  split
  · exact digits
  · exact digits
  · split
    case h_1 rest same =>
      rw [same] at digits
      have point : BareTo (some '.' :: rest) rest := BareTo.cons (by decide) (.refl rest)
      have fraction := (digits.trans point).trans (bareTo_splitDigits rest)
      split
      · exact fraction
      · exact fraction.trans (bareTo_readScaled _ _ _)
    case h_2 => exact digits.trans (bareTo_readScaled _ _ _)
    case h_3 => exact digits.trans (bareTo_readScaled _ _ _)
    case h_4 =>
      rw [remaining_finishWhole]
      exact digits

/-- A number is bare. -/
theorem bareTo_readNumber (input : Input) : BareTo input (readNumber input).remaining := by
  unfold readNumber
  split
  · exact (bareTo_readUnsigned true _).cons (by decide)
  · exact bareTo_readUnsigned false _

/-- The power of a number that is passed over is bare. -/
theorem bareTo_skipPower (input : Input) : BareTo input (skipPower input).remaining := by
  unfold skipPower
  split
  case h_1 mark rest =>
    split
    case isTrue isMark =>
      have markBare : isBare (some mark) = true := by
        rcases isMark with rfl | rfl <;> decide
      have power := ((bareTo_readPowerSign rest).trans (bareTo_splitDigits _)).cons markBare
      dsimp only
      split
      · exact power
      · exact power
    case isFalse _ => exact .refl _
  case h_2 => exact .refl _

/-- A number that is passed over is bare. -/
theorem bareTo_skipNumber (input : Input) : BareTo input (skipNumber input).remaining := by
  have afterSign : BareTo input (skipMinus input) := by
    unfold skipMinus
    split
    · exact BareTo.cons (by decide) (.refl _)
    · exact .refl _
  have digits := afterSign.trans (bareTo_splitDigits _)
  unfold skipNumber
  dsimp only
  split
  · exact digits
  · exact digits
  · split
    case h_1 rest same =>
      rw [same] at digits
      have point : BareTo (some '.' :: rest) rest := BareTo.cons (by decide) (.refl rest)
      have fraction := (digits.trans point).trans (bareTo_splitDigits rest)
      split
      · exact fraction
      · exact fraction.trans (bareTo_skipPower _)
    case h_2 => exact digits.trans (bareTo_skipPower _)

/-- A reader of bare symbols leads nowhere else, whether it comes through or not. -/
theorem BareTo.passes
    {Result : Type}
    {reading : Reading Result}
    (bareTo : BareTo input reading.remaining) :
    reading.Passes guard floor ⟨.outside, depth⟩ ⟨.outside, depth⟩ input := by
  cases reading with
  | done value rest => exact bareTo.path
  | stop fault rest => exact bareTo.path.leaves (Or.inl rfl)

/-! ## Words -/

/-- Within words and quoted texts a guard lets everything pass. -/
theorem next?_of_mode_ne
    {spot : Spot}
    (inside : spot.mode ≠ .outside)
    (symbol : Symbol) :
    guard.next? floor spot symbol = spot.next? symbol := by
  rw [Guard.next?, if_neg (fun stopped => inside stopped.2.1)]

/-- A word is read to its end, or up to a symbol that may not stand in it. -/
theorem passes_readWord
    (character : Char)
    (word : List Char)
    (input : Input) :
    (readWord (character :: word) input).Passes guard floor ⟨.word (character :: word), depth⟩
      ⟨.outside, depth⟩ input := by
  induction word generalizing character input with
  | nil =>
      cases input with
      | nil => exact Or.inl trivial
      | cons symbol rest =>
          rw [readWord]
          split
          case isTrue same =>
            refine Path.step ?_ rest
            rw [next?_of_mode_ne (by simp)]
            simp [Spot.next?, same]
          case isFalse differs => exact Leaves.of_illegal (by simp [Spot.next?, differs]) rest
  | cons second word inductionHypothesis =>
      cases input with
      | nil => exact Or.inl trivial
      | cons symbol rest =>
          rw [readWord]
          split
          case isTrue same =>
            refine .of_path (Path.step ?_ rest) (inductionHypothesis second rest)
            rw [next?_of_mode_ne (by simp)]
            simp [Spot.next?, same]
          case isFalse differs => exact Leaves.of_illegal (by simp [Spot.next?, differs]) rest

/-! ## Quoted texts -/

/-- Where a reader of a quoted text stands. -/
def Phase.mode : Phase → Mode
  | .plain => .quoted
  | .escape => .escaped
  | .digits left _ _ => .digits left
  | .pair _ => .quoted
  | .pairEscape _ => .escaped

/-- What is left after an octet is what is left after its symbol, or cannot be gone on with. -/
theorem passOctet_cases (symbol : Symbol) (rest : Input) :
    passOctet symbol rest = rest ∨ IsStuck (passOctet symbol rest) := by
  cases symbol with
  | none => exact Or.inl rfl
  | some character =>
      rw [passOctet]
      split
      · exact Or.inl rfl
      · exact Or.inr rfl

/-- A symbol that may stand in a quoted text leads on in it. -/
theorem quoted_path
    {mode next : Mode}
    {symbol : Symbol}
    (inside : mode ≠ .outside)
    (passes : Spot.next? ⟨mode, depth⟩ symbol = some ⟨next, depth⟩)
    (rest : Input) :
    Path guard floor ⟨mode, depth⟩ (symbol :: rest) ⟨next, depth⟩ rest := by
  refine Path.step ?_ rest
  rw [next?_of_mode_ne inside]
  exact passes

/-- Whether a text that begins in the middle of a quoted one is read as such, wherever it is. -/
def ReadsOn (guard : Guard) (floor depth : Int) (rest : Input) : Prop :=
  ∀ phase read gap,
    (readQuoted phase read gap rest).Passes guard floor ⟨phase.mode, depth⟩ ⟨.outside, depth⟩ rest

namespace ReadsOn

variable {symbol : Symbol}

/-- After a symbol that leads to a phase, a quoted text is read on in that phase. -/
theorem after
    (readsOn : ReadsOn guard floor depth rest)
    {mode : Mode}
    (phase : Phase)
    (read : List Char)
    (gap : Bool)
    (inside : mode ≠ .outside)
    (passes : Spot.next? ⟨mode, depth⟩ symbol = some ⟨phase.mode, depth⟩) :
    (readQuoted phase read gap rest).Passes guard floor ⟨mode, depth⟩ ⟨.outside, depth⟩
      (symbol :: rest) :=
  .of_path (quoted_path inside passes rest) (readsOn phase read gap)

/-- A symbol between the quotes. -/
theorem plain
    (readsOn : ReadsOn guard floor depth rest)
    (symbol : Symbol)
    (read : List Char)
    (gap : Bool) :
    (readQuoted .plain read gap (symbol :: rest)).Passes guard floor ⟨.quoted, depth⟩
      ⟨.outside, depth⟩ (symbol :: rest) := by
  unfold readQuoted
  cases symbol with
  | none => exact readsOn.after .plain read true (by simp) rfl
  | some character =>
      dsimp only
      split
      case isTrue isQuote =>
        have closing : Path guard floor ⟨.quoted, depth⟩ (some character :: rest)
            ⟨.outside, depth⟩ rest :=
          quoted_path (by simp) (by simp [Spot.next?, isQuote]) rest
        split
        · exact closing.leaves (Or.inl rfl)
        · exact closing
      case isFalse notQuote =>
        split
        case isTrue isBackslash =>
          exact readsOn.after .escape read gap (by simp)
            (by simp [Spot.next?, Phase.mode, isBackslash])
        case isFalse notBackslash =>
          have passes : Spot.next? ⟨.quoted, depth⟩ (some character) = some ⟨.quoted, depth⟩ := by
            simp [Spot.next?, notQuote, notBackslash]
          split
          · exact (quoted_path (by simp) passes rest).leaves (Or.inr rfl)
          · exact readsOn.after .plain _ gap (by simp) passes

/-- A symbol after a backslash. -/
theorem escape
    (readsOn : ReadsOn guard floor depth rest)
    (symbol : Symbol)
    (read : List Char)
    (gap : Bool) :
    (readQuoted .escape read gap (symbol :: rest)).Passes guard floor ⟨.escaped, depth⟩
      ⟨.outside, depth⟩ (symbol :: rest) := by
  unfold readQuoted
  dsimp only
  cases simple : simpleEscape? symbol with
  | some character =>
      exact readsOn.after .plain _ gap (by simp) (by simp [Spot.next?, Phase.mode, simple])
  | none =>
      dsimp only
      split
      case isTrue isNumeric =>
        rw [isNumeric] at simple
        exact readsOn.after (.digits 4 0 none) read gap (by simp)
          (by simp [Spot.next?, Phase.mode, simple, isNumeric])
      case isFalse notNumeric =>
        exact Leaves.of_illegal (by simp [Spot.next?, simple, notNumeric]) rest

/-- A digit of a numeric escape; the last one leads back between the quotes. -/
theorem digits
    (readsOn : ReadsOn guard floor depth rest)
    (symbol : Symbol)
    (left value : Nat)
    (first : Option Nat)
    (read : List Char)
    (gap : Bool) :
    (readQuoted (.digits left value first) read gap (symbol :: rest)).Passes guard floor
      ⟨.digits left, depth⟩ ⟨.outside, depth⟩ (symbol :: rest) := by
  unfold readQuoted
  dsimp only
  cases isHex : hexSymbol? symbol with
  | none => exact Leaves.of_illegal (by simp [Spot.next?, isHex]) rest
  | some digit =>
      dsimp only
      split
      case isTrue more =>
        exact readsOn.after (.digits (left - 1) _ first) read gap (by simp)
          (by simp [Spot.next?, Phase.mode, isHex, more])
      case isFalse isLast =>
        have passes : Spot.next? ⟨.digits left, depth⟩ symbol = some ⟨.quoted, depth⟩ := by
          simp [Spot.next?, isHex, isLast]
        have stops : Leaves guard floor ⟨.digits left, depth⟩ (symbol :: rest) rest :=
          (quoted_path (by simp) passes rest).leaves (Or.inr rfl)
        cases first with
        | none =>
            dsimp only
            split
            · exact stops
            · split
              · exact readsOn.after (.pair _) read gap (by simp) passes
              · exact readsOn.after .plain _ gap (by simp) passes
        | some high =>
            dsimp only
            split
            · exact readsOn.after .plain _ gap (by simp) passes
            · exact stops

/-- A symbol after the first half of a pair, which has to be a backslash. -/
theorem pair
    (readsOn : ReadsOn guard floor depth rest)
    (symbol : Symbol)
    (first : Nat)
    (read : List Char)
    (gap : Bool) :
    (readQuoted (.pair first) read gap (symbol :: rest)).Passes guard floor ⟨.quoted, depth⟩
      ⟨.outside, depth⟩ (symbol :: rest) := by
  unfold readQuoted
  dsimp only
  split
  case isTrue isBackslash =>
    exact readsOn.after (.pairEscape first) read gap (by simp)
      (by simp [Spot.next?, Phase.mode, isBackslash])
  case isFalse notBackslash =>
    rcases passOctet_cases symbol rest with same | stuck
    · rw [same]
      by_cases isQuote : symbol = some '"'
      · exact (quoted_path (by simp) (by simp [Spot.next?, isQuote]) rest).leaves (Or.inl rfl)
      · exact (quoted_path (by simp) (by simp [Spot.next?, isQuote, notBackslash]) rest).leaves
          (Or.inr rfl)
    · exact Or.inl stuck

/-- A symbol after the backslash of the second half of a pair, which has to be numeric. -/
theorem pairEscape
    (readsOn : ReadsOn guard floor depth rest)
    (symbol : Symbol)
    (first : Nat)
    (read : List Char)
    (gap : Bool) :
    (readQuoted (.pairEscape first) read gap (symbol :: rest)).Passes guard floor
      ⟨.escaped, depth⟩ ⟨.outside, depth⟩ (symbol :: rest) := by
  unfold readQuoted
  dsimp only
  split
  case isTrue isNumeric =>
    exact readsOn.after (.digits 4 0 (some first)) read gap (by simp)
      (by simp [Spot.next?, Phase.mode, isNumeric, simpleEscape?])
  case isFalse notNumeric =>
    rcases passOctet_cases symbol rest with same | stuck
    · rw [same]
      cases simple : simpleEscape? symbol with
      | some character =>
          exact (quoted_path (by simp) (by simp [Spot.next?, simple]) rest).leaves (Or.inr rfl)
      | none => exact Leaves.of_illegal (by simp [Spot.next?, simple, notNumeric]) rest
    · exact Or.inl stuck

end ReadsOn

/-- A quoted text is read to its closing quote, or up to where it is badly written. -/
theorem passes_readQuoted (input : Input) : ReadsOn guard floor depth input := by
  induction input with
  | nil =>
      intro phase read gap
      cases phase <;> exact Or.inl trivial
  | cons symbol rest readsOn =>
      intro phase read gap
      cases phase with
      | plain => exact readsOn.plain symbol read gap
      | escape => exact readsOn.escape symbol read gap
      | digits left value first => exact readsOn.digits symbol left value first read gap
      | pair first => exact readsOn.pair symbol first read gap
      | pairEscape first => exact readsOn.pairEscape symbol first read gap

/-- Where one stands who passes over a quoted text. -/
def Phase.skipMode : Phase → Mode
  | .escape => .escaped
  | .digits left _ _ => .digits left
  | _ => .quoted

/-- Passing over a symbol between the quotes leads on there, and the closing quote out. -/
theorem path_skipPlain
    {symbol : Symbol}
    {later rest : Input}
    (onward : ∀ {phase : Phase}, skipQuoted phase later = .done () rest →
      Path guard floor ⟨phase.skipMode, depth⟩ later ⟨.outside, depth⟩ rest)
    (skips : skipQuoted .plain (symbol :: later) = .done () rest) :
    Path guard floor ⟨.quoted, depth⟩ (symbol :: later) ⟨.outside, depth⟩ rest := by
  unfold skipQuoted at skips
  cases symbol with
  | none =>
      exact (quoted_path (by simp) rfl later).trans (onward skips)
  | some character =>
      dsimp only at skips
      split at skips
      case isTrue isQuote =>
        cases skips
        exact quoted_path (by simp) (by simp [Spot.next?, isQuote]) later
      case isFalse notQuote =>
        split at skips
        case isTrue isBackslash =>
          exact (quoted_path (by simp) (by simp [Spot.next?, isBackslash, Phase.skipMode])
            later).trans (onward skips)
        case isFalse notBackslash =>
          split at skips
          · cases skips
          · exact (quoted_path (by simp)
              (by simp [Spot.next?, notQuote, notBackslash, Phase.skipMode])
              later).trans (onward skips)

/-- A quoted text that is passed over is passed to its closing quote. -/
theorem path_skipQuoted
    {phase : Phase}
    {input rest : Input}
    (skips : skipQuoted phase input = .done () rest) :
    Path guard floor ⟨phase.skipMode, depth⟩ input ⟨.outside, depth⟩ rest := by
  induction input generalizing phase with
  | nil => cases phase <;> cases skips
  | cons symbol later inductionHypothesis =>
      cases phase with
      | plain => exact path_skipPlain inductionHypothesis skips
      | pair first => exact path_skipPlain inductionHypothesis skips
      | pairEscape first => exact path_skipPlain inductionHypothesis skips
      | escape =>
          unfold skipQuoted at skips
          dsimp only at skips
          split at skips
          case isTrue simple =>
            exact (quoted_path (by simp [Phase.skipMode])
              (by simp [Spot.next?, Phase.skipMode, simple]) later).trans
              (inductionHypothesis skips)
          case isFalse notSimple =>
            split at skips
            case isTrue isNumeric =>
              exact (quoted_path (by simp [Phase.skipMode])
                (by simp [Spot.next?, Phase.skipMode, isNumeric, simpleEscape?]) later).trans
                (inductionHypothesis skips)
            case isFalse _ => cases skips
      | digits left value first =>
          unfold skipQuoted at skips
          dsimp only at skips
          split at skips
          · cases skips
          case isFalse isHex =>
            have someHex : (hexSymbol? symbol).isSome = true := by
              simpa [Option.isSome_iff_ne_none] using isHex
            split at skips
            case isTrue more =>
              exact (quoted_path (by simp [Phase.skipMode])
                (by simp [Spot.next?, Phase.skipMode, someHex, more]) later).trans
                (inductionHypothesis skips)
            case isFalse done =>
              exact (quoted_path (by simp [Phase.skipMode])
                (by simp [Spot.next?, Phase.skipMode, someHex, done]) later).trans
                (inductionHypothesis skips)

end Credential.Json
