import Credential.Http.Bearer
import Credential.Proofs.Text.Blank
import Credential.Proofs.Text.Utf8

/-!
# Which token of a request counts

A request may carry tokens in a form, in its query, in its headers and in its
cookies, and the first place that holds one decides.  What stands in the places
after it changes nothing, and an empty place before it hides nothing.

A place is empty in its own way.  Fields and cookies are taken as they are, and hold
no token if they are missing or empty.  Of the headers only the first authorization
counts, which must be visible and begin with the name of its scheme; blank
characters around its token are dropped.
-/

namespace Credential.Http

open Credential.Text (IsTrimmed Octets isBlank trim)

variable {headers : Headers} {text token : String}

/-! ## Visible headers -/

/-- Whether all octets are visible characters, spaces or tabs. -/
def IsVisible (octets : Octets) : Prop :=
  ∀ octet ∈ octets, octet = 0x09 ∨ 0x20 ≤ octet ∧ octet < 0x7F

theorem isVisible_iff {octets : Octets} : IsVisible octets ↔ octets.all isVisibleOctet = true := by
  simp [IsVisible, isVisibleOctet, or_comm]

/-- Visible octets are those of the characters with their numbers. -/
theorem encode_of_isVisible
    {octets : Octets}
    (visible : IsVisible octets) :
    Text.Utf8.encode (String.ofList (octets.map fun octet => Char.ofNat octet.toNat)) = octets := by
  rw [Text.Utf8.encode, String.toList_ofList]
  induction octets with
  | nil => rfl
  | cons octet rest inductionHypothesis =>
      have small : octet.toNat < 0x80 := by
        rcases visible octet List.mem_cons_self with rfl | ⟨-, below⟩
        · decide
        · have := UInt8.lt_iff_toNat_lt.mp below
          exact Nat.lt_of_lt_of_le this (by decide)
      have code : (Char.ofNat octet.toNat).toNat = octet.toNat :=
        Text.Utf8.toNat_ofNat_char octet.toNat (by omega)
      rw [List.map_cons, List.flatMap_cons, Text.Utf8.utf8EncodeChar_of_one (by omega), code,
        UInt8.ofNat_toNat,
        inductionHypothesis fun later member => visible later (List.mem_cons_of_mem octet member)]
      rfl

/-- The text of a header is the one that its octets spell, if they are visible. -/
theorem Header.text?_eq_some_iff {header : Header} :
    header.text? = some text ↔ IsVisible header.value ∧ header.value = Text.Utf8.encode text := by
  rw [text?]
  constructor
  · intro isText
    split at isText
    case isTrue visible =>
      cases isText
      have isVisible := isVisible_iff.mpr visible
      exact ⟨isVisible, (encode_of_isVisible isVisible).symm⟩
    case isFalse => cases isText
  · rintro ⟨visible, same⟩
    rw [if_pos (isVisible_iff.mp visible)]
    exact congrArg some (Text.Utf8.encode_injective ((encode_of_isVisible visible).trans same))

/-! ## Bearers -/

/-- Whether the first authorization header is visible, and holds a text after its scheme. -/
def Bears (headers : Headers) (text : String) : Prop :=
  ∃ header, (headers.all "authorization").head? = some header ∧
    IsVisible header.value ∧ header.value = Text.Utf8.encode ("Bearer " ++ text)

theorem bears_iff :
    Bears headers text ↔ headers.text? "authorization" = some ("Bearer " ++ text) := by
  simp only [Bears, Headers.text?, Option.bind_eq_some_iff, Header.text?_eq_some_iff]

/-- Headers bear one text. -/
theorem Bears.unique
    {other : String}
    (bears : Bears headers text)
    (alsoBears : Bears headers other) :
    text = other := by
  rw [bears_iff] at bears alsoBears
  have same := String.toList_inj.mpr (Option.some.inj (bears.symm.trans alsoBears))
  rw [String.toList_append, String.toList_append] at same
  exact String.toList_inj.mp (List.append_cancel_left same)

/-- A text begins with another one if it is that one and some text after it. -/
theorem isPrefixOf_iff_exists_append {scheme : String} :
    scheme.isPrefixOf text = true ↔ ∃ rest, text = scheme ++ rest := by
  rw [String.isPrefixOf, String.startsWith_string_iff]
  constructor
  · rintro ⟨rest, split⟩
    refine ⟨String.ofList rest, String.toList_inj.mp ?_⟩
    rw [String.toList_append, String.toList_ofList, split]
  · rintro ⟨rest, rfl⟩
    rw [String.toList_append]
    exact List.prefix_append _ _

/-- The token of the headers is what they bear, without blanks, unless that is nothing. -/
theorem bearerToken?_eq_some_iff :
    bearerToken? headers = some token ↔
      ∃ text, Bears headers text ∧ IsTrimmed text.toList token.toList ∧ token ≠ "" := by
  simp only [bears_iff, ← Text.trim_eq_iff]
  unfold bearerToken?
  cases headers.text? "authorization" with
  | none => simp
  | some whole =>
      rw [Option.bind_eq_bind, Option.bind_some]
      dsimp only
      by_cases begins : "Bearer ".isPrefixOf whole = true
      · obtain ⟨rest, rfl⟩ := isPrefixOf_iff_exists_append.mp begins
        have dropped :
            String.ofList (("Bearer " ++ rest).toList.drop "Bearer ".length) = rest := by
          rw [String.toList_append, ← String.length_toList, List.drop_left, String.ofList_toList]
        rw [if_pos begins, dropped, nonEmpty, Option.filter_eq_some_iff]
        simp
      · rw [if_neg begins]
        constructor
        · nofun
        · rintro ⟨text, same, -⟩
          exact (begins (isPrefixOf_iff_exists_append.mpr ⟨text, Option.some.inj same⟩)).elim

/-- Why headers bear no token. -/
inductive LacksBearer (headers : Headers) : Prop where
  | absent (none : (headers.all "authorization").head? = none)
  | hidden
      {header : Header}
      (first : (headers.all "authorization").head? = some header)
      (hidden : ¬ IsVisible header.value)
  | otherScheme
      {header : Header}
      (first : (headers.all "authorization").head? = some header)
      (differs : ¬ Text.Utf8.encode "Bearer " <+: header.value)
  | blank
      {text : String}
      (bears : Bears headers text)
      (blank : ∀ character ∈ text.toList, isBlank character = true)

/-- A header that begins with the scheme and is visible bears what follows it. -/
theorem Bears.of_prefix
    {header : Header}
    (first : (headers.all "authorization").head? = some header)
    (visible : IsVisible header.value)
    (begins : Text.Utf8.encode "Bearer " <+: header.value) :
    ∃ text, Bears headers text := by
  obtain ⟨rest, split⟩ := begins
  have visibleRest : IsVisible rest := by
    intro octet member
    refine visible octet ?_
    rw [← split]
    exact List.mem_append_right _ member
  refine ⟨String.ofList (rest.map fun octet => Char.ofNat octet.toNat), header, first, visible, ?_⟩
  rw [Text.Utf8.encode_append, encode_of_isVisible visibleRest, split]

theorem lacksBearer_iff : LacksBearer headers ↔ bearerToken? headers = none := by
  constructor
  · intro lacks
    rw [Option.eq_none_iff_forall_ne_some]
    intro token found
    obtain ⟨text, ⟨header, first, visible, value⟩, trimmed, nonempty⟩ :=
      bearerToken?_eq_some_iff.mp found
    cases lacks with
    | absent none => cases first.symm.trans none
    | hidden isFirst hidden =>
        obtain rfl := Option.some.inj (first.symm.trans isFirst)
        exact hidden visible
    | otherScheme isFirst differs =>
        obtain rfl := Option.some.inj (first.symm.trans isFirst)
        rw [value, Text.Utf8.encode_append] at differs
        exact differs (List.prefix_append _ _)
    | blank bears blank =>
        obtain rfl := bears.unique ⟨header, first, visible, value⟩
        rw [← Text.trim_eq_iff, Text.trim_eq_empty_iff.mpr blank] at trimmed
        exact nonempty trimmed.symm
  · intro missing
    cases first : (headers.all "authorization").head? with
    | none => exact .absent first
    | some header =>
        by_cases visible : IsVisible header.value
        · by_cases begins : Text.Utf8.encode "Bearer " <+: header.value
          · obtain ⟨text, bears⟩ := Bears.of_prefix first visible begins
            refine .blank bears (Text.trim_eq_empty_iff.mp ?_)
            by_contra nonempty
            have found : bearerToken? headers = some (trim text) :=
              bearerToken?_eq_some_iff.mpr ⟨text, bears, Text.trim_eq_iff.mp rfl, nonempty⟩
            cases missing.symm.trans found
          · exact .otherScheme first begins
        · exact .hidden first visible

/-! ## Places -/

theorem nonEmpty_eq_some_iff {source : Option String} :
    nonEmpty source = some token ↔ source = some token ∧ token ≠ "" := by
  simp [nonEmpty, Option.filter_eq_some_iff]

theorem nonEmpty_eq_none_iff {source : Option String} :
    nonEmpty source = none ↔ source = none ∨ source = some "" := by
  cases source <;> simp [nonEmpty]

/-- A place where a request may carry a token. -/
inductive TokenPlace where
  | form
  | query
  | header
  | cookie

/-- The places that count before another one. -/
def TokenPlace.earlier : TokenPlace → List TokenPlace
  | .form => []
  | .query => [.form]
  | .header => [.form, .query]
  | .cookie => [.form, .query, .header]

/-- All that the token of a request may be taken from. -/
structure TokenSources where
  form : Option String
  query : Option String
  headers : Headers
  cookies : List Cookie

namespace TokenSources

variable {sources other : TokenSources} {place : TokenPlace}

/-- The token that counts. -/
def token? (sources : TokenSources) : Option String :=
  Http.token? sources.form sources.query sources.headers sources.cookies

/-- Whether a place holds a token: as it is, or in headers without the blanks around it. -/
inductive Holds (sources : TokenSources) (token : String) : TokenPlace → Prop where
  | form
      (given : sources.form = some token)
      (nonempty : token ≠ "") :
      Holds sources token .form
  | query
      (given : sources.query = some token)
      (nonempty : token ≠ "") :
      Holds sources token .query
  | header
      {text : String}
      (bears : Bears sources.headers text)
      (trimmed : IsTrimmed text.toList token.toList)
      (nonempty : token ≠ "") :
      Holds sources token .header
  | cookie
      (given : Cookie.find? sources.cookies tokenName = some token)
      (nonempty : token ≠ "") :
      Holds sources token .cookie

/-- Whether a place holds no token. -/
inductive Lacks (sources : TokenSources) : TokenPlace → Prop where
  | form (missing : sources.form = none ∨ sources.form = some "") : Lacks sources .form
  | query (missing : sources.query = none ∨ sources.query = some "") : Lacks sources .query
  | header (lacks : LacksBearer sources.headers) : Lacks sources .header
  | cookie
      (missing : Cookie.find? sources.cookies tokenName = none ∨
        Cookie.find? sources.cookies tokenName = some "") :
      Lacks sources .cookie

/-- Whether other sources have the same at a place. -/
def AgreesOn (sources other : TokenSources) : TokenPlace → Prop
  | .form => other.form = sources.form
  | .query => other.query = sources.query
  | .header => other.headers = sources.headers
  | .cookie => other.cookies = sources.cookies

/-- The token of a place. -/
def at? (sources : TokenSources) : TokenPlace → Option String
  | .form => nonEmpty sources.form
  | .query => nonEmpty sources.query
  | .header => bearerToken? sources.headers
  | .cookie => cookieToken? sources.cookies

theorem at?_eq_some_iff : sources.at? place = some token ↔ sources.Holds token place := by
  cases place with
  | form =>
      rw [at?, nonEmpty_eq_some_iff]
      exact ⟨fun ⟨given, nonempty⟩ => .form given nonempty,
        fun | .form given nonempty => ⟨given, nonempty⟩⟩
  | query =>
      rw [at?, nonEmpty_eq_some_iff]
      exact ⟨fun ⟨given, nonempty⟩ => .query given nonempty,
        fun | .query given nonempty => ⟨given, nonempty⟩⟩
  | header =>
      rw [at?, bearerToken?_eq_some_iff]
      exact ⟨fun ⟨text, bears, trimmed, nonempty⟩ => .header bears trimmed nonempty,
        fun | .header bears trimmed nonempty => ⟨_, bears, trimmed, nonempty⟩⟩
  | cookie =>
      rw [at?, cookieToken?, nonEmpty_eq_some_iff]
      exact ⟨fun ⟨given, nonempty⟩ => .cookie given nonempty,
        fun | .cookie given nonempty => ⟨given, nonempty⟩⟩

theorem at?_eq_none_iff : sources.at? place = none ↔ sources.Lacks place := by
  cases place with
  | form =>
      rw [at?, nonEmpty_eq_none_iff]
      exact ⟨.form, fun | .form missing => missing⟩
  | query =>
      rw [at?, nonEmpty_eq_none_iff]
      exact ⟨.query, fun | .query missing => missing⟩
  | header =>
      rw [at?, ← lacksBearer_iff]
      exact ⟨.header, fun | .header lacks => lacks⟩
  | cookie =>
      rw [at?, cookieToken?, nonEmpty_eq_none_iff]
      exact ⟨.cookie, fun | .cookie missing => missing⟩

theorem token?_eq (sources : TokenSources) :
    sources.token? =
      (sources.at? .form).or
        ((sources.at? .query).or ((sources.at? .header).or (sources.at? .cookie))) := by
  simp [token?, Http.token?, at?]

theorem AgreesOn.at?_eq (agrees : sources.AgreesOn other place) :
    other.at? place = sources.at? place := by
  cases place with
  | form => rw [at?, agrees, at?]
  | query => rw [at?, agrees, at?]
  | header => rw [at?, agrees, at?]
  | cookie => rw [at?, agrees, at?]

/-- The token that counts is at a place that holds it, and no place before it holds any. -/
theorem token?_eq_some_iff :
    sources.token? = some token ↔
      ∃ place, sources.Holds token place ∧ ∀ earlier ∈ place.earlier, sources.Lacks earlier := by
  simp only [← at?_eq_some_iff, ← at?_eq_none_iff, token?_eq, Option.or_eq_some_iff]
  constructor
  · rintro (form | ⟨noForm, query | ⟨noQuery, header | ⟨noHeader, cookie⟩⟩⟩)
    · exact ⟨.form, form, by simp [TokenPlace.earlier]⟩
    · exact ⟨.query, query, by simp [TokenPlace.earlier, noForm]⟩
    · exact ⟨.header, header, by simp [TokenPlace.earlier, noForm, noQuery]⟩
    · exact ⟨.cookie, cookie, by simp [TokenPlace.earlier, noForm, noQuery, noHeader]⟩
  · rintro ⟨place, isAt, none⟩
    cases place <;> simp_all [TokenPlace.earlier]

theorem token?_eq_none_iff : sources.token? = none ↔ ∀ place, sources.Lacks place := by
  simp only [← at?_eq_none_iff, token?_eq, Option.or_eq_none_iff]
  constructor
  · rintro ⟨noForm, noQuery, noHeader, noCookie⟩ place
    cases place <;> assumption
  · exact fun none => ⟨none .form, none .query, none .header, none .cookie⟩

/-- Whether the first place that holds a token decides which token counts. -/
structure TakesFirst (sources : TokenSources) : Prop where
  missing : sources.token? = none ↔ ∀ place, sources.Lacks place
  /-- A place that holds no token hides none that comes after it. -/
  taken : ∀ token,
    sources.token? = some token ↔
      ∃ place, sources.Holds token place ∧ ∀ earlier ∈ place.earlier, sources.Lacks earlier
  nonempty : ∀ token, sources.token? = some token → token ≠ ""
  /-- What comes after the place of the token that counts may be anything. -/
  independent : ∀ place token, sources.Holds token place →
    (∀ earlier ∈ place.earlier, sources.Lacks earlier) →
      ∀ other, (∀ kept ∈ place :: place.earlier, sources.AgreesOn other kept) →
        other.token? = sources.token?

theorem Holds.nonempty (holds : sources.Holds token place) : token ≠ "" := by
  cases holds <;> assumption

/-- The first place of a request that holds a token decides. -/
theorem takesFirst (sources : TokenSources) : sources.TakesFirst where
  missing := token?_eq_none_iff
  taken := fun _ => token?_eq_some_iff
  nonempty := by
    intro token counts
    obtain ⟨place, holds, -⟩ := token?_eq_some_iff.mp counts
    exact holds.nonempty
  independent := by
    intro place token holds none other agrees
    have counts : sources.token? = some token := token?_eq_some_iff.mpr ⟨place, holds, none⟩
    rw [counts, token?_eq_some_iff]
    refine ⟨place, ?_, fun earlier member => ?_⟩
    · rw [← at?_eq_some_iff, (agrees place List.mem_cons_self).at?_eq, at?_eq_some_iff]
      exact holds
    · rw [← at?_eq_none_iff, (agrees earlier (List.mem_cons_of_mem _ member)).at?_eq,
        at?_eq_none_iff]
      exact none earlier member

/-- An empty form hides no header, the blanks around its token go, and the cookie does not count. -/
example :
    Http.token? (some "") none [⟨"authorization", Text.Utf8.encode "Bearer \tabc "⟩]
        [⟨tokenName, "def"⟩] =
      some "abc" := by
  decide +kernel

end TokenSources

end Credential.Http
