import Credential.Proofs.Json.Written
import Credential.Proofs.Text.Base64
import Credential.Proofs.Text.Utf8
import Credential.Proofs.Token.Examination

/-!
# Tokens are read as they were written

The parts of a token are found again at its points, and each part holds the
header or the claims that it was written for.  The second reading of claims
finds in them the times and the subject, unless a time is negative.
-/

namespace Credential.Token

open Credential.Json (Accepts AcceptsAs Input Reader Value inputOf IsReadable)
open Credential.Text

/-! ## Claims -/

namespace Claims

/-- A number of 64 bits is read as an integer. -/
theorem isReadable (number : Int64) : IsReadable number.toInt := by
  have greatest := Int64.toInt_lt number
  refine ⟨Int64.le_toInt number, ?_⟩
  simp only [Json.maxWord]
  omega

theorem numberReader_readsBack (depth : Nat) (number : Int64) :
    numberReader.ReadsBack depth (.integer number.toInt) :=
  .integer (isReadable number) ⟨Int64.minValue_le_toInt number, Int64.toInt_le number⟩ depth

/-- The members that claims are written as. -/
def entries (claims : Claims) : List (String × Value) :=
  [("sub", .text claims.sub), ("iat", .integer claims.iat.toInt),
    ("exp", .integer claims.exp.toInt)] ++
    match claims.nbf with
    | some nbf => [("nbf", .integer nbf.toInt)]
    | none => []

theorem render_eq (claims : Claims) : claims.render = (Value.object claims.entries).render := rfl

/-- What holds of every member that claims may be written with holds of those that they are. -/
theorem forall_mem_entries
    {accepted : String × Value → Prop}
    (claims : Claims)
    (sub : accepted ("sub", .text claims.sub))
    (iat : accepted ("iat", .integer claims.iat.toInt))
    (exp : accepted ("exp", .integer claims.exp.toInt))
    (nbf : ∀ nbf ∈ claims.nbf, accepted ("nbf", .integer nbf.toInt)) :
    ∀ entry ∈ claims.entries, accepted entry := by
  obtain ⟨_, _, _, _ | time⟩ := claims
  · change ∀ entry ∈ [_, _, _], accepted entry
    simp only [List.forall_mem_cons]
    exact ⟨sub, iat, exp, List.forall_mem_nil _⟩
  · change ∀ entry ∈ [_, _, _, _], accepted entry
    simp only [List.forall_mem_cons]
    exact ⟨sub, iat, exp, nbf time rfl, List.forall_mem_nil _⟩

theorem nodup_entries (claims : Claims) : (claims.entries.map Prod.fst).Nodup := by
  obtain ⟨_, _, _, _ | _⟩ := claims
  · change ["sub", "iat", "exp"].Nodup
    decide
  · change ["sub", "iat", "exp", "nbf"].Nodup
    decide

/-- The members of claims that a reading has given are those that were written. -/
theorem whole_render (claims : Claims) :
    reader.whole (inputOf claims.render) = .ok claims.toValue := by
  have accepts : ∀ entry ∈ claims.entries, Accepts members 127 entry.1 entry.2 := by
    refine claims.forall_mem_entries ?_ ?_ ?_ ?_
    · exact .text 127 claims.sub
    · exact numberReader_readsBack 127 claims.iat
    · exact numberReader_readsBack 127 claims.exp
    · exact fun nbf _ => .optional_integer (numberReader_readsBack 127 nbf)
  have distinct := claims.nodup_entries
  rw [render_eq]
  obtain ⟨sub, iat, exp, _ | nbf⟩ := claims
  · exact Reader.whole_render accepts distinct rfl
  · exact Reader.whole_render accepts distinct rfl

/-- Claims are found in the value that they are written as. -/
theorem ofValue_toValue (claims : Claims) : ofValue claims.toValue = claims := by
  obtain ⟨sub, iat, exp, nbf⟩ := claims
  have number (number : Int64) : Int64.ofInt number.toInt = number := Int64.ofInt_toInt number
  cases nbf with
  | none =>
      change (⟨sub, Int64.ofInt iat.toInt, Int64.ofInt exp.toInt, none⟩ : Claims) = _
      rw [number, number]
  | some nbf =>
      change (⟨sub, Int64.ofInt iat.toInt, Int64.ofInt exp.toInt,
        some (Int64.ofInt nbf.toInt)⟩ : Claims) = _
      rw [number, number, number]

/-- Claims are read as they were written. -/
theorem read?_render (claims : Claims) : read? (inputOf claims.render) = some claims := by
  rw [read?, whole_render]
  exact congrArg some (ofValue_toValue claims)

end Claims

namespace Examination

/-- Of a time that was written the second reading sees what may be a time. -/
theorem timeReader_readsAs (depth : Nat) (number : Int64) :
    timeReader.ReadsAs depth (.integer number.toInt) (seenTime (.integer number.toInt)) := by
  have readable := Claims.isReadable number
  have greatest : number.toInt ≤ (Json.maxWord : Nat) := readable.2
  rw [seenTime]
  by_cases natural : 0 ≤ number.toInt
  · rw [if_pos natural]
    have within : Reader.ReadsBack (Reader.integer 0 (Json.maxWord : Nat)) depth
        (.integer number.toInt) :=
      .integer readable ⟨natural, greatest⟩ depth
    exact within.tolerant
  · rw [if_neg natural]
    exact Reader.ReadsBack.tolerant_of_outside readable (fun within => natural within.1) depth

/-- What the second reading sees of a member of claims. -/
def seenClaim (name : String) (value : Value) : Value :=
  if isTime name then seenTime value else value

/-- What there is to examine of written claims: their times, unless negative, and a subject. -/
def ofClaims (claims : Claims) : Examination where
  exp := (some claims.exp.toInt).filter (0 ≤ ·)
  nbf := (claims.nbf.map Int64.toInt).filter (0 ≤ ·)
  hasSubject := true
  hasAudience := false

/-- The second reading of claims finds what there is to examine of them. -/
theorem read?_render (claims : Claims) :
    read? (inputOf claims.render) = some (ofClaims claims) := by
  have accepts : ∀ entry ∈ claims.entries,
      AcceptsAs members 127 entry.1 entry.2 (seenClaim entry.1 entry.2) := by
    refine claims.forall_mem_entries ?_ ?_ ?_ ?_
    · exact Reader.ReadsBack.tolerant (.optional_text (.text 127 claims.sub))
    · exact fun rest ends => Json.skipValue_integerText claims.iat.toInt ends
    · exact timeReader_readsAs 127 claims.exp
    · exact fun nbf _ => timeReader_readsAs 127 nbf
  have distinct := claims.nodup_entries
  rw [claims.render_eq]
  obtain ⟨sub, iat, exp, nbf⟩ := claims
  cases nbf with
  | none =>
      have whole : (Reader.record members).whole
          (inputOf (Value.object (Claims.entries ⟨sub, iat, exp, none⟩)).render) =
            .ok (.object [("sub", .text sub), ("exp", seenTime (.integer exp.toInt))]) :=
        Reader.whole_render_of_seen seenClaim accepts distinct rfl
      have exp_seen := integer?_seenTime (.integer exp.toInt)
      rw [read?, whole]
      generalize seenTime (.integer exp.toInt) = seenExp at exp_seen
      change some (Examination.mk seenExp.integer? none true false) = _
      rw [exp_seen]
      rfl
  | some nbf =>
      have whole : (Reader.record members).whole
          (inputOf (Value.object (Claims.entries ⟨sub, iat, exp, some nbf⟩)).render) =
            .ok (.object [("sub", .text sub), ("exp", seenTime (.integer exp.toInt)),
              ("nbf", seenTime (.integer nbf.toInt))]) :=
        Reader.whole_render_of_seen seenClaim accepts distinct rfl
      have exp_seen := integer?_seenTime (.integer exp.toInt)
      have nbf_seen := integer?_seenTime (.integer nbf.toInt)
      rw [read?, whole]
      generalize seenTime (.integer exp.toInt) = seenExp at exp_seen
      generalize seenTime (.integer nbf.toInt) = seenNbf at nbf_seen
      change some (Examination.mk seenExp.integer? seenNbf.integer? true false) = _
      rw [exp_seen, nbf_seen]
      rfl

end Examination

/-! ## Headers -/

namespace Header

theorem ofName?_name (algorithm : Algorithm) :
    Algorithm.ofName? algorithm.name = some algorithm := by
  cases algorithm <;> decide

theorem algorithmReader_readsBack (depth : Nat) (algorithm : Algorithm) :
    Algorithm.reader.ReadsBack depth (.text algorithm.name) := by
  have known : (Algorithm.ofName? algorithm.name).isSome = true := by
    rw [ofName?_name]
    rfl
  have back : (Reader.textThat fun text => (Algorithm.ofName? text).isSome).ReadsBack depth
      (.text algorithm.name) := .textThat known depth
  intro rest ends
  rw [← back rest ends, Value.characters, Json.map_quote]
  rfl

/-- The members of a header that a reading has given are those that were written. -/
theorem whole_render (header : Header) :
    (Reader.record members).whole (inputOf header.render) = .ok header.toValue := by
  obtain ⟨algorithm, kid⟩ := header
  have typ_accepts : Accepts members 127 "typ" (.text "JWT") := .optional_text (.text 127 "JWT")
  have alg_accepts : Accepts members 127 "alg" (.text algorithm.name) :=
    algorithmReader_readsBack 127 algorithm
  cases kid with
  | none =>
      refine Reader.whole_render ?_ ?_ ?_
      · intro entry member
        simp only [List.append_nil, List.mem_cons, List.not_mem_nil, or_false] at member
        rcases member with rfl | rfl
        · exact typ_accepts
        · exact alg_accepts
      · change ["typ", "alg"].Nodup
        decide
      · rfl
  | some kid =>
      refine Reader.whole_render ?_ ?_ ?_
      · intro entry member
        simp only [List.cons_append, List.nil_append, List.mem_cons, List.not_mem_nil,
          or_false] at member
        rcases member with rfl | rfl | rfl
        · exact typ_accepts
        · exact alg_accepts
        · exact .optional_text (.text 127 kid)
      · change ["typ", "alg", "kid"].Nodup
        decide
      · rfl

/-- A header is read as it was written. -/
theorem read?_render (header : Header) : read? (inputOf header.render) = some header := by
  rw [read?, whole_render]
  obtain ⟨algorithm, kid⟩ := header
  cases kid with
  | none =>
      change ((Algorithm.ofName? algorithm.name).bind fun found =>
        some (Header.mk found none)) = _
      rw [ofName?_name]
      rfl
  | some kid =>
      change ((Algorithm.ofName? algorithm.name).bind fun found =>
        some (Header.mk found (some kid))) = _
      rw [ofName?_name]
      rfl

end Header

/-! ## The parts of a token -/

theorem decode?_encodePart (text : String) :
    Base64.decode? .urlSafe (encodePart text) = some (Utf8.encode text) := by
  rw [encodePart, Base64.decode?_encode]

theorem point_not_mem_encodePart (text : String) : '.' ∉ encodePart text :=
  Base64.point_not_mem_encode (Utf8.encode text)

namespace Parts

/-- A text is cut at a point that no other one follows. -/
theorem cutLast?_append
    (before : List Char)
    {after : List Char}
    (noPoint : '.' ∉ after) :
    cutLast? (before ++ '.' :: after) = some (before, after) := by
  have taken : (after.reverse ++ '.' :: before.reverse).takeWhile (· ≠ '.') = after.reverse := by
    rw [List.takeWhile_append_of_pos]
    · simp
    · intro character member
      rw [decide_eq_true_eq]
      rintro rfl
      exact noPoint (List.mem_reverse.mp member)
  have reversed : (before ++ '.' :: after).reverse = after.reverse ++ '.' :: before.reverse := by
    simp
  rw [cutLast?, reversed, taken, List.drop_left]
  simp

/-- A token is divided into its parts if the last two of them have no points. -/
theorem ofToken?_render
    {parts : Parts}
    (claims : '.' ∉ parts.claims)
    (signature : '.' ∉ parts.signature) :
    ofToken? parts.render = some parts := by
  rw [ofToken?, render, String.toList_ofList, cutLast?_append _ signature]
  change (cutLast? parts.message).bind _ = _
  rw [message, cutLast?_append _ claims]
  rfl

end Parts

end Credential.Token
