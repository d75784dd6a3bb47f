import Credential.Proofs.Token.Examination
import Credential.Token.Signing

/-!
# Algorithms of headers

A header names its algorithm by a text.  Whoever reads that text in an object reads
the same one, whatever else is there, so no header is read where it is the name of
no algorithm.
-/

namespace Credential

open Credential.Json (Input Value Reader)

/-! ## Readers that pass their values -/

namespace Json

variable {floor depth : Int} {input rest : Input}

/-- What is read within an enclosure passes it also as seen from outside. -/
theorem Reader.PassesValue.inside
    {reader : Reader}
    {levels : Nat}
    {value : Value}
    (passes : reader.PassesValue)
    (done : reader levels input = .done value rest) :
    Path .value floor ⟨.outside, floor + 1⟩ input ⟨.outside, floor + 1⟩ rest :=
  (passes levels (floor + 1) input value rest done).items.raised (Int.le_refl _)
    (Int.lt_succ floor)

/-- A null that is read is passed. -/
theorem path_null
    {nothing : Unit}
    (done : readWord "null".toList input = .done nothing rest) :
    Path .value floor ⟨.outside, depth⟩ input ⟨.outside, depth⟩ rest := by
  cases input with
  | nil => cases done
  | cons symbol later =>
      change (if symbol = some 'n' then readWord "ull".toList later else .stop .malformed later) = _
        at done
      split at done
      case isTrue isFirst =>
        rw [isFirst]
        exact (passes_word (.inl ⟨rfl, rfl⟩) later).path done
      case isFalse => cases done

end Json

namespace Token

/-- An algorithm that is read is passed, also if it stands in an object. -/
theorem Algorithm.passesValue_reader : Algorithm.reader.PassesValue := by
  intro levels floor input value rest done
  refine (Json.path_skipSpace input).trans ?_
  have named := (Reader.KeepsToValue.textThat fun text => (ofName? text).isSome).passesValue
  unfold Algorithm.reader at done
  dsimp only at done
  split at done
  case h_1 afterBrace found =>
    split at done
    case isTrue => cases done
    case isFalse =>
      obtain ⟨name, afterName, reads, done⟩ := Json.Reading.bind_eq_done done
      obtain ⟨_, afterColon, colon, done⟩ := Json.Reading.bind_eq_done done
      obtain ⟨_, afterNull, null, done⟩ := Json.Reading.bind_eq_done done
      split at done
      case h_1 last closed =>
        cases done
        rw [found]
        refine (Json.path_symbol rfl rfl afterBrace).trans ((named.inside reads).trans ?_)
        refine ((Json.passes_passColon afterName).path colon).trans ?_
        refine (Json.path_skipSpace afterColon).trans ((Json.path_null null).trans ?_)
        refine (Json.path_skipSpace afterNull).trans ?_
        rw [closed]
        exact Json.path_close .object (Int.le_refl floor) rest
      case h_2 => cases done
  case h_2 => exact named _ _ _ _ _ done

theorem EmbeddedKey.keepsToValue_reader : EmbeddedKey.reader.KeepsToValue :=
  Reader.KeepsToValue.any.tested accepts

namespace Header

/-- The members of a header are read by readers that pass their values. -/
theorem areStrict_members : Json.AreStrict members := by
  have text := Reader.KeepsToValue.text.optional.passesValue
  intro member isMember
  simp only [members, List.mem_cons, List.not_mem_nil, or_false] at isMember
  rcases isMember with rfl | rfl | rfl | rfl | rfl | rfl | rfl | rfl | rfl | rfl
  · exact text
  · exact Algorithm.passesValue_reader
  · exact text
  · exact text
  · exact EmbeddedKey.keepsToValue_reader.optional.passesValue
  · exact text
  · exact text
  · exact Reader.KeepsToValue.text.listOf.optional.passesValue
  · exact text
  · exact text

/-! ## The name of the algorithm -/

/-- The only member that matters to one who looks for the name of the algorithm. -/
def nameMembers : List Json.Member :=
  [.mandatory "alg" .text]

/-- Whether a member is the name of the algorithm. -/
def isName (name : String) : Bool :=
  name = "alg"

/-- The text that an object names as its algorithm, whatever its other members are. -/
def algorithmText? (input : Input) : Option String :=
  match Json.skipSpace input with
  | some '{' :: _ =>
      ((Reader.record nameMembers).whole input).toOption.bind fun value =>
        (value.member? "alg").bind Value.text?
  | _ => none

theorem areLax_nameMembers : Json.AreLax nameMembers := by
  refine ⟨?_, ?_⟩
  · intro member isMember
    rw [List.mem_singleton.mp isMember]
    intro levels floor input value rest done
    exact (Reader.KeepsToValue.text.passesValue levels floor input value rest done).leaves
      (.inl rfl)
  · intro member isMember
    rw [List.mem_singleton.mp isMember]
    exact fun depth later => rfl

/-- Where a text is read, an algorithm is read from that text only. -/
theorem eq_of_text
    {levels : Nat}
    {start rest otherRest : Input}
    {value other : Value}
    (first : Algorithm.reader levels start = .done value rest)
    (second : Reader.text levels start = .done other otherRest) :
    other = value := by
  obtain ⟨later, found⟩ := Reader.text_eq_done second
  unfold Algorithm.reader at first
  dsimp only at first
  split at first
  case h_1 brace => cases found.symm.trans brace
  case h_2 =>
    obtain ⟨text, last, reads, accepted⟩ := Json.Reading.bind_eq_done first
    have same : Reader.text levels (Json.skipSpace start) = Reader.text levels start := by
      unfold Reader.text
      rw [Json.skipSpace_skipSpace]
    rw [same, second] at reads
    cases reads
    split at accepted
    case h_1 content =>
      split at accepted
      case isTrue =>
        cases accepted
        rfl
      case isFalse => cases accepted
    case h_2 => cases accepted

/-- Of an object that a header is read from the name of the algorithm is seen. -/
theorem sees : Json.Sees members nameMembers isName id := by
  refine ⟨areStrict_members, areLax_nameMembers, fun name important => ?_⟩
  obtain rfl : name = "alg" := by simpa [isName] using important
  exact ⟨_, _, rfl, rfl, fun first second => eq_of_text first second⟩

/-- No header is read from an object that names its algorithm by the name of none. -/
theorem read?_eq_none_of_algorithmText?
    {input : Input}
    {name : String}
    (named : algorithmText? input = some name)
    (unknown : Algorithm.ofName? name = none) :
    read? input = none := by
  unfold algorithmText? at named
  split at named
  case h_2 => cases named
  case h_1 opened =>
    obtain ⟨other, otherReads, named⟩ := Option.bind_eq_some_iff.mp named
    obtain ⟨otherRead, rfl, otherHolds⟩ := Json.HoldsRecord.of_whole otherReads
    cases reads : ((Reader.record members).whole input).toOption with
    | none =>
        rw [read?, reads]
        rfl
    | some value =>
        obtain ⟨read, rfl, holds⟩ := Json.HoldsRecord.of_whole reads
        cases otherHolds with
        | list otherOpened => cases opened.symm.trans otherOpened
        | object otherOpened otherMembers otherEnds =>
            cases holds with
            | list listOpened => cases otherOpened.symm.trans listOpened
            | object opened members ends =>
                cases otherOpened.symm.trans opened
                have seen := sees.object members otherMembers ends otherEnds rfl rfl
                have matters : isName "alg" = true := rfl
                have same : otherRead.lookup "alg" = read.lookup "alg" := by
                  rw [← Json.Sees.lookup_mattering matters, seen, Json.Sees.lookup_seenAs,
                    Json.Sees.lookup_mattering matters, Option.map_id_fun, id]
                rw [read?, reads]
                change (otherRead.lookup "alg").bind Value.text? = some name at named
                rw [same] at named
                change ((read.lookup "alg").bind Value.text?).bind _ = none
                rw [named, Option.bind_some, unknown]
                rfl

end Header

end Token

end Credential
