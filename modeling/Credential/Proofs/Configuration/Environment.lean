import Credential.Configuration.Environment
import Credential.Proofs.Text.Blank
import Credential.Proofs.Text.Decimal
import Credential.Proofs.Text.Utf8

/-!
# What an environment comes to

An environment describes one configuration, unless one of its two numbers cannot be
read.  The origins are what the commas of a text leave, without the blanks around
them.  They are in a form that does not change any more: joined by commas again,
they give the same configuration.
-/

namespace Credential

open Credential.Text (Octets IsTrimmed isBlank trim)

namespace Environment

variable {environment first second : Environment} {configuration : Configuration}

/-! ## Items -/

/-- Whether pieces are what the commas of a text leave. -/
structure IsCut (text : String) (pieces : List String) : Prop where
  nonempty : pieces ≠ []
  joined : ",".intercalate pieces = text
  whole : ∀ piece ∈ pieces, ',' ∉ piece.toList

/-- Whether items are pieces without the blanks around them; blank pieces have no item. -/
inductive Itemizes : List String → List String → Prop where
  | nil : Itemizes [] []
  | blank
      {piece : String}
      {pieces items : List String}
      (blank : ∀ character ∈ piece.toList, isBlank character = true)
      (rest : Itemizes pieces items) :
      Itemizes (piece :: pieces) items
  | item
      {piece item : String}
      {pieces items : List String}
      (trimmed : IsTrimmed piece.toList item.toList)
      (notEmpty : item ≠ "")
      (rest : Itemizes pieces items) :
      Itemizes (piece :: pieces) (item :: items)

/-- Whether a text can stand in a list: it has characters, no comma, and no blanks around it. -/
structure IsItem (item : String) : Prop where
  notEmpty : item ≠ ""
  whole : ',' ∉ item.toList
  trimmed : IsTrimmed item.toList item.toList

/-- No part that a separator leaves has the separator in it. -/
theorem not_mem_of_mem_splitOn
    {separator : Char}
    {characters part : List Char}
    (isPart : part ∈ characters.splitOn separator) :
    separator ∉ part := by
  by_cases divided : separator ∈ characters
  · obtain ⟨before, after, split, noneBefore⟩ := List.eq_append_cons_of_mem divided
    rw [split, List.splitOn_append_cons_self, List.splitOn_eq_singleton noneBefore,
      List.singleton_append, List.mem_cons] at isPart
    rcases isPart with rfl | isLater
    · exact noneBefore
    · have shorter : after.length < characters.length := by
        rw [split, List.length_append, List.length_cons]
        omega
      exact not_mem_of_mem_splitOn isLater
  · rw [List.splitOn_eq_singleton divided, List.mem_singleton] at isPart
    rw [isPart]
    exact divided
termination_by characters.length

/-- A text is cut in one way only. -/
theorem isCut_iff {text : String} {pieces : List String} :
    IsCut text pieces ↔ (text.toList.splitOn ',').map String.ofList = pieces := by
  constructor
  · rintro ⟨nonempty, rfl, whole⟩
    rw [String.toList_intercalate]
    change (List.splitOn ',' (List.intercalate [','] (pieces.map String.toList))).map _ = _
    rw [List.splitOn_intercalate, List.map_map]
    · simp
    · simpa using whole
    · simpa using nonempty
  · rintro rfl
    refine ⟨?nonempty, ?joined, ?whole⟩
    case nonempty => simp
    case joined =>
      rw [← String.toList_inj, String.toList_intercalate, List.map_map]
      simp [Function.comp_def, List.intercalate_splitOn]
    case whole =>
      intro piece isPiece
      obtain ⟨part, isPart, rfl⟩ := List.mem_map.mp isPiece
      rw [String.toList_ofList]
      exact not_mem_of_mem_splitOn isPart

theorem itemizes_iff {pieces list : List String} :
    Itemizes pieces list ↔ (pieces.map trim).filter (· ≠ "") = list := by
  constructor
  · intro itemizes
    induction itemizes with
    | nil => rfl
    | blank blank _ inductionHypothesis =>
        have empty := Text.trim_eq_empty_iff.mpr blank
        simpa [empty] using inductionHypothesis
    | item trimmed notEmpty _ inductionHypothesis =>
        have isItem := Text.trim_eq_iff.mpr trimmed
        simpa [isItem, notEmpty] using inductionHypothesis
  · rintro rfl
    induction pieces with
    | nil => exact .nil
    | cons piece rest inductionHypothesis =>
        rw [List.map_cons, List.filter_cons]
        split
        case isTrue notEmpty =>
          exact .item (Text.trim_eq_iff.mp rfl) (by simpa using notEmpty) inductionHypothesis
        case isFalse isEmpty =>
          exact .blank (Text.trim_eq_empty_iff.mp (by simpa using isEmpty)) inductionHypothesis

theorem items_eq_iff {text : String} {list : List String} :
    items text = list ↔ ∃ pieces, IsCut text pieces ∧ Itemizes pieces list := by
  simp only [isCut_iff, itemizes_iff, exists_eq_left', items, List.map_map, Function.comp_def]

/-- An item is a part of a piece. -/
theorem Itemizes.isItem
    {pieces list : List String}
    (itemizes : Itemizes pieces list)
    (whole : ∀ piece ∈ pieces, ',' ∉ piece.toList)
    {item : String}
    (isListed : item ∈ list) :
    IsItem item := by
  induction itemizes with
  | nil => cases isListed
  | blank _ _ inductionHypothesis =>
      exact inductionHypothesis (fun piece isPiece => whole piece (.tail _ isPiece)) isListed
  | item trimmed notEmpty _ inductionHypothesis =>
      rcases List.mem_cons.mp isListed with rfl | isLater
      · obtain ⟨before, after, isPart, -⟩ := trimmed.within
        refine ⟨notEmpty, fun comma => whole _ List.mem_cons_self ?_, ?_⟩
        · rw [isPart]
          simp [comma]
        · exact ⟨⟨[], [], by simp, by simp⟩, trimmed.begins, trimmed.ends⟩
      · exact inductionHypothesis (fun piece isPiece => whole piece (.tail _ isPiece)) isLater

/-- Items are their own pieces. -/
theorem itemizes_self {list : List String} (areItems : ∀ item ∈ list, IsItem item) :
    Itemizes list list := by
  induction list with
  | nil => exact .nil
  | cons item rest inductionHypothesis =>
      have isItem := areItems item List.mem_cons_self
      exact .item isItem.trimmed isItem.notEmpty
        (inductionHypothesis fun other isLater => areItems other (.tail _ isLater))

/-- Items that are joined by commas are listed again. -/
theorem items_intercalate {list : List String} (areItems : ∀ item ∈ list, IsItem item) :
    items (",".intercalate list) = list := by
  by_cases nonempty : list = []
  · rw [nonempty]
    rfl
  · refine items_eq_iff.mpr ⟨list, ⟨nonempty, rfl, ?_⟩, itemizes_self areItems⟩
    exact fun item isListed => (areItems item isListed).whole

/-! ## Numbers -/

/-- Whether a variable gives a number; one that is not set gives the default. -/
inductive Gives (environment : Environment) (name : String) (default : Nat) : Nat → Prop where
  | unset (missing : environment.get? name = none) : Gives environment name default default
  | text
      {text : String}
      {value : Nat}
      (given : environment.get? name = some text)
      (denotes : Text.Decimal.Denotes text value) :
      Gives environment name default value

theorem Gives.congr
    {name : String}
    {default value : Nat}
    (gives : first.Gives name default value)
    (alike : second.get? name = first.get? name) :
    second.Gives name default value := by
  cases gives with
  | unset missing => exact .unset (alike.trans missing)
  | text given denotes => exact .text (alike.trans given) denotes

/-- Whether a variable has a text that denotes no number up to a limit. -/
def Misspells (environment : Environment) (name : String) (limit : Nat) : Prop :=
  ∃ text, environment.get? name = some text ∧
    ∀ value ≤ limit, ¬ Text.Decimal.Denotes text value

section Numbers

variable {name fault : String} {limit default : Nat}

theorem number_eq_ok_iff (within : default ≤ limit) {value : Nat} :
    environment.number name limit default fault = .ok value ↔
      environment.Gives name default value ∧ value ≤ limit := by
  unfold number
  cases given : environment.get? name with
  | none =>
      constructor
      · rintro ⟨⟩
        exact ⟨.unset given, within⟩
      · rintro ⟨missing | ⟨isGiven, -⟩, -⟩
        · rfl
        · cases given.symm.trans isGiven
  | some text =>
      dsimp only
      constructor
      · intro reads
        split at reads
        case h_1 isRead =>
          cases reads
          obtain ⟨denotes, small⟩ := Text.Decimal.readUpTo?_eq_some_iff.mp isRead
          exact ⟨.text given denotes, small⟩
        case h_2 => cases reads
      · rintro ⟨missing | ⟨isGiven, denotes⟩, small⟩
        · cases given.symm.trans ‹_›
        · obtain rfl := Option.some.inj (given.symm.trans isGiven)
          rw [Text.Decimal.readUpTo?_eq_some_iff.mpr ⟨denotes, small⟩]

theorem number_eq_error_iff {error : Error} :
    environment.number name limit default fault = .error error ↔
      environment.Misspells name limit ∧ error = .config fault := by
  unfold number Misspells
  cases given : environment.get? name with
  | none => simp
  | some text =>
      simp only [Option.some.injEq, exists_eq_left', ← Text.Decimal.readUpTo?_eq_none_iff]
      cases Text.Decimal.readUpTo? limit text <;> simp [eq_comm]

end Numbers

/-! ## Configurations -/

/-- Whether an environment describes a configuration. -/
structure Describes (environment : Environment) (configuration : Configuration) : Prop where
  host : configuration.service.host = (environment.get? "KEYSTEAD_HOST").getD "127.0.0.1"
  port : environment.Gives "KEYSTEAD_PORT" 8000 configuration.service.port.toNat
  version : configuration.service.version = serviceVersion
  provider : configuration.store.provider = (environment.get? "KEYSTEAD_STORE").getD "sqlite"
  path : configuration.store.path =
    (environment.get? "KEYSTEAD_STORE_PATH").getD "./data/keystead.sqlite"
  timeout : environment.Gives "KEYSTEAD_STORE_TIMEOUT" 5 configuration.store.timeout.toNat
  origins : ∃ pieces, IsCut ((environment.get? "KEYSTEAD_ORIGINS").getD "*") pieces ∧
    Itemizes pieces configuration.cors.origins
  level : configuration.logging.level =
    (environment.get? "RUST_LOG").getD "keystead=debug,tower_http=debug"
  format : configuration.logging.format =
    (environment.get? "KEYSTEAD_LOG_FORMAT").getD "text"

/-- Whether an error says what is wrong with an environment; the port comes first. -/
inductive Faults (environment : Environment) : Error → Prop where
  | port (misspelt : environment.Misspells "KEYSTEAD_PORT" 65535) :
      Faults environment (.config "Invalid port number")
  | timeout
      (portFits : ¬ environment.Misspells "KEYSTEAD_PORT" 65535)
      (misspelt : environment.Misspells "KEYSTEAD_STORE_TIMEOUT" (2 ^ 64 - 1)) :
      Faults environment (.config "Invalid store timeout")

/-- The port of an environment. -/
def readPort (environment : Environment) : Except Error Nat :=
  environment.number "KEYSTEAD_PORT" 65535 8000 "Invalid port number"

/-- The time in which the store must answer, of an environment. -/
def readTimeout (environment : Environment) : Except Error Nat :=
  environment.number "KEYSTEAD_STORE_TIMEOUT" (2 ^ 64 - 1) 5 "Invalid store timeout"

/-- The configuration of an environment whose numbers have been read. -/
def withNumbers (environment : Environment) (port timeout : Nat) : Configuration where
  service :=
    ⟨(environment.get? "KEYSTEAD_HOST").getD "127.0.0.1", port.toUInt16, serviceVersion⟩
  store :=
    ⟨(environment.get? "KEYSTEAD_STORE").getD "sqlite",
      (environment.get? "KEYSTEAD_STORE_PATH").getD "./data/keystead.sqlite", timeout.toUInt64⟩
  cors := ⟨items ((environment.get? "KEYSTEAD_ORIGINS").getD "*")⟩
  logging :=
    ⟨(environment.get? "RUST_LOG").getD "keystead=debug,tower_http=debug",
      (environment.get? "KEYSTEAD_LOG_FORMAT").getD "text"⟩

/-- The port is read first, and nothing else can fail but the reading of the timeout. -/
theorem configuration_eq (environment : Environment) :
    environment.configuration =
      environment.readPort.bind fun port =>
        environment.readTimeout.bind fun timeout => .ok (environment.withNumbers port timeout) := by
  have origins : ((environment.get? "KEYSTEAD_ORIGINS").map items).getD ["*"] =
      items ((environment.get? "KEYSTEAD_ORIGINS").getD "*") := by
    cases environment.get? "KEYSTEAD_ORIGINS" <;> rfl
  unfold withNumbers
  rw [← origins]
  rfl

theorem readPort_eq_ok_iff {port : Nat} :
    environment.readPort = .ok port ↔ environment.Gives "KEYSTEAD_PORT" 8000 port ∧ port ≤ 65535 :=
  number_eq_ok_iff (by decide)

theorem readTimeout_eq_ok_iff {timeout : Nat} :
    environment.readTimeout = .ok timeout ↔
      environment.Gives "KEYSTEAD_STORE_TIMEOUT" 5 timeout ∧ timeout ≤ 2 ^ 64 - 1 :=
  number_eq_ok_iff (by decide)

theorem configuration_eq_ok_iff :
    environment.configuration = .ok configuration ↔ environment.Describes configuration := by
  rw [configuration_eq]
  constructor
  · intro succeeds
    rcases readsPort : environment.readPort with _ | port <;> rw [readsPort] at succeeds
    · cases succeeds
    · rcases readsTimeout : environment.readTimeout with _ | timeout <;>
        rw [readsTimeout] at succeeds
      · cases succeeds
      · cases succeeds
        obtain ⟨givesPort, smallPort⟩ := readPort_eq_ok_iff.mp readsPort
        obtain ⟨givesTimeout, smallTimeout⟩ := readTimeout_eq_ok_iff.mp readsTimeout
        have portKept : port.toUInt16.toNat = port := Nat.mod_eq_of_lt (by omega)
        have timeoutKept : timeout.toUInt64.toNat = timeout := Nat.mod_eq_of_lt (by omega)
        exact
          { host := rfl
            port := portKept.symm ▸ givesPort
            version := rfl
            provider := rfl
            path := rfl
            timeout := timeoutKept.symm ▸ givesTimeout
            origins := items_eq_iff.mp rfl
            level := rfl
            format := rfl }
  · rintro ⟨host, givesPort, version, provider, path, givesTimeout, origins, level, format⟩
    have smallPort := configuration.service.port.toNat_lt
    have smallTimeout := configuration.store.timeout.toNat_lt
    rw [readPort_eq_ok_iff.mpr ⟨givesPort, by omega⟩,
      readTimeout_eq_ok_iff.mpr ⟨givesTimeout, by omega⟩]
    change Except.ok (environment.withNumbers _ _) = _
    rw [withNumbers, ← host, ← version, ← provider, ← path, items_eq_iff.mpr origins, ← level,
      ← format]
    simp

/-- What is wrong with the port is told, and what is wrong with the timeout if the port is fine. -/
theorem configuration_eq_error_iff {error : Error} :
    environment.configuration = .error error ↔ environment.Faults error := by
  rw [configuration_eq]
  constructor
  · intro fails
    rcases readsPort : environment.readPort with failure | port <;> rw [readsPort] at fails
    · cases fails
      obtain ⟨misspelt, rfl⟩ := number_eq_error_iff.mp readsPort
      exact .port misspelt
    · have portFits : ¬ environment.Misspells "KEYSTEAD_PORT" 65535 := fun misspelt =>
        nomatch readsPort.symm.trans (number_eq_error_iff.mpr ⟨misspelt, rfl⟩)
      rcases readsTimeout : environment.readTimeout with failure | timeout <;>
        rw [readsTimeout] at fails
      · cases fails
        obtain ⟨misspelt, rfl⟩ := number_eq_error_iff.mp readsTimeout
        exact .timeout portFits misspelt
      · cases fails
  · rintro (misspelt | ⟨portFits, misspelt⟩)
    · rw [readPort, number_eq_error_iff.mpr ⟨misspelt, rfl⟩]
      rfl
    · rcases readsPort : environment.readPort with failure | port
      · exact (portFits (number_eq_error_iff.mp readsPort).1).elim
      · rw [readTimeout, number_eq_error_iff.mpr ⟨misspelt, rfl⟩]
        rfl

/-! ## Other environments -/

/-- An environment without a variable. -/
def without (environment : Environment) (name : String) : Environment :=
  ⟨environment.entries.filter (·.1 ≠ name)⟩

theorem get?_cons (environment : Environment) (name other : String) (octets : Octets) :
    (Environment.mk ((name, octets) :: environment.entries)).get? other =
      if other = name then Text.Utf8.decode? octets else environment.get? other := by
  unfold get?
  by_cases same : other = name
  · rw [if_pos same, same, List.lookup_cons_self, Option.bind_some]
  · rw [if_neg same, List.lookup_cons, beq_eq_false_iff_ne.mpr same]

theorem get?_set (environment : Environment) (name other text : String) :
    (environment.set name text).get? other =
      if other = name then some text else environment.get? other := by
  rw [set, get?_cons, Text.Utf8.decode?_encode]

theorem get?_without (environment : Environment) (name other : String) :
    (environment.without name).get? other =
      if other = name then none else environment.get? other := by
  obtain ⟨entries⟩ := environment
  induction entries with
  | nil => simp [without, get?]
  | cons entry rest inductionHypothesis =>
      obtain ⟨key, octets⟩ := entry
      by_cases dropped : key = name
      · have shorter : (Environment.mk ((key, octets) :: rest)).without name =
            (Environment.mk rest).without name := by
          simp [without, dropped]
        rw [shorter, inductionHypothesis, get?_cons ⟨rest⟩, dropped]
        split <;> rfl
      · have longer : (Environment.mk ((key, octets) :: rest)).without name =
            ⟨(key, octets) :: ((Environment.mk rest).without name).entries⟩ := by
          simp [without, dropped]
        rw [longer, get?_cons, inductionHypothesis, get?_cons ⟨rest⟩]
        by_cases found : other = key
        · rw [if_pos found, if_pos found, if_neg (found ▸ dropped)]
        · rw [if_neg found, if_neg found]

/-- Nothing counts of an environment but the texts of its variables. -/
theorem configuration_congr (alike : ∀ name, first.get? name = second.get? name) :
    first.configuration = second.configuration := by
  have port : first.readPort = second.readPort := by
    rw [readPort, readPort, number, number, alike]
  have timeout : first.readTimeout = second.readTimeout := by
    rw [readTimeout, readTimeout, number, number, alike]
  have others : first.withNumbers = second.withNumbers := by
    funext port timeout
    simp only [withNumbers, alike]
  rw [configuration_eq, configuration_eq, port, timeout, others]

/-- What an environment lists as origins can stand in a list again. -/
theorem Describes.isItem
    (describes : environment.Describes configuration)
    {origin : String}
    (isListed : origin ∈ configuration.cors.origins) :
    IsItem origin := by
  obtain ⟨pieces, isCut, itemizes⟩ := describes.origins
  exact itemizes.isItem isCut.whole isListed

/-- Origins that are joined by commas again describe the same configuration. -/
theorem Describes.rejoined (describes : environment.Describes configuration) :
    (environment.set "KEYSTEAD_ORIGINS" (",".intercalate configuration.cors.origins)).Describes
      configuration := by
  -- Whatever else the environment says, it says still.
  have stays {name : String} (other : name ≠ "KEYSTEAD_ORIGINS") (text : String) :
      (environment.set "KEYSTEAD_ORIGINS" text).get? name = environment.get? name := by
    rw [get?_set, if_neg other]
  exact
    { host := by rw [stays (by decide), describes.host]
      port := describes.port.congr (stays (by decide) _)
      version := describes.version
      provider := by rw [stays (by decide), describes.provider]
      path := by rw [stays (by decide), describes.path]
      timeout := describes.timeout.congr (stays (by decide) _)
      origins := by
        rw [get?_set, if_pos rfl, Option.getD_some]
        exact items_eq_iff.mp (items_intercalate fun _ => describes.isItem)
      level := by rw [stays (by decide), describes.level]
      format := by rw [stays (by decide), describes.format] }

/-! ## The configuration of an environment -/

/-- Whether the variables of an environment settle its configuration. -/
structure SettlesConfiguration (environment : Environment) : Prop where
  fails : (∃ error, environment.configuration = .error error) ↔
    environment.Misspells "KEYSTEAD_PORT" 65535 ∨
      environment.Misspells "KEYSTEAD_STORE_TIMEOUT" (2 ^ 64 - 1)
  fault : ∀ error, environment.configuration = .error error ↔ environment.Faults error
  described : ∀ configuration,
    environment.configuration = .ok configuration ↔ environment.Describes configuration
  origins : ∀ configuration, environment.configuration = .ok configuration →
    ∀ origin ∈ configuration.cors.origins, IsItem origin
  rejoined : ∀ configuration, environment.configuration = .ok configuration →
    (environment.set "KEYSTEAD_ORIGINS"
      (",".intercalate configuration.cors.origins)).configuration = .ok configuration
  /-- A variable whose octets spell no text is as good as one that is not set. -/
  illegible : ∀ name octets, (∀ text, Text.Utf8.encode text ≠ octets) →
    (Environment.mk ((name, octets) :: environment.entries)).configuration =
      (environment.without name).configuration

/--
The variables of every environment settle its configuration.

Only a number that cannot be read, or that is too large, makes it fail.
-/
theorem configuration_settled (environment : Environment) :
    environment.SettlesConfiguration where
  fails := by
    simp only [configuration_eq_error_iff]
    constructor
    · rintro ⟨error, misspelt | ⟨-, misspelt⟩⟩
      · exact .inl misspelt
      · exact .inr misspelt
    · intro either
      by_cases misspelt : environment.Misspells "KEYSTEAD_PORT" 65535
      · exact ⟨_, .port misspelt⟩
      · exact ⟨_, .timeout misspelt (either.resolve_left misspelt)⟩
  fault := fun _ => configuration_eq_error_iff
  described := fun _ => configuration_eq_ok_iff
  origins := fun _ succeeds _ => (configuration_eq_ok_iff.mp succeeds).isItem
  rejoined := fun configuration succeeds =>
    configuration_eq_ok_iff.mpr (configuration_eq_ok_iff.mp succeeds).rejoined
  illegible := by
    intro name octets illegible
    have noText : Text.Utf8.decode? octets = none := by
      refine Option.eq_none_iff_forall_ne_some.mpr fun text decoded => ?_
      exact illegible text ((Text.Utf8.decode?_eq_some_iff octets text).mp decoded)
    refine configuration_congr fun other => ?_
    rw [get?_cons, get?_without, noText]

/-- The greatest port may have a sign and zeros before it, and blanks may stand around origins. -/
theorem configuration_settled_spaced :
    let environment : Environment :=
      ⟨[("KEYSTEAD_PORT", Text.Utf8.encode "+0065535"),
        ("KEYSTEAD_ORIGINS", Text.Utf8.encode " https://a.example ,,\t,b")]⟩
    let configuration : Configuration :=
      { Configuration.default with
        service := ⟨"127.0.0.1", 65535, serviceVersion⟩
        cors := ⟨["https://a.example", "b"]⟩ }
    environment.configuration = .ok configuration ∧
      environment.Describes configuration ∧
      (environment.set "KEYSTEAD_ORIGINS" "https://a.example,b").configuration =
        .ok configuration ∧
      (Environment.mk (("KEYSTEAD_STORE_TIMEOUT", [0xFF]) :: environment.entries)).configuration =
        (environment.without "KEYSTEAD_STORE_TIMEOUT").configuration := by
  intro environment configuration
  have settles := configuration_settled environment
  have succeeds : environment.configuration = .ok configuration := by rfl
  have joined : ",".intercalate configuration.cors.origins = "https://a.example,b" := by
    decide +kernel
  have rejoined := settles.rejoined configuration succeeds
  rw [joined] at rejoined
  refine ⟨succeeds, (settles.described configuration).mp succeeds, rejoined, ?_⟩
  refine settles.illegible "KEYSTEAD_STORE_TIMEOUT" [0xFF] fun text written => ?_
  have decoded := (Text.Utf8.decode?_eq_some_iff [0xFF] text).mpr written
  cases decoded

end Environment

end Credential
