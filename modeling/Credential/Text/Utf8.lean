/-!
# Texts as octets

Texts are carried as UTF-8 octets.  Reading octets gives a list of symbols: the
characters that the octets spell, with a gap wherever octets spell none.  A gap
stands for a longest run of octets that begins some character but completes
none, or for one octet that begins no character at all.
-/

namespace Credential.Text

/-- A finite sequence of octets. -/
abbrev Octets := List UInt8

/-- One symbol read from octets: a character, or a gap. -/
abbrev Symbol := Option Char

namespace Utf8

/-- The octets of a text. -/
def encode (text : String) : Octets :=
  text.toList.flatMap String.utf8EncodeChar

/-- A character of which the first octets have been read. -/
structure Pending where
  /-- Number of octets still to come. -/
  needed : Nat
  /-- The least octet that may come next. -/
  least : UInt8
  /-- The greatest octet that may come next. -/
  greatest : UInt8
  /-- The code point's leading bits. -/
  code : Nat
  deriving Repr, DecidableEq

/-- What a first octet says about the character that it begins. -/
inductive Beginning where
  | whole (symbol : Symbol)
  | part (pending : Pending)
  deriving Repr, DecidableEq

/--
Classify a first octet.

The bounds on the second octet exclude overlong forms, surrogates and code
points above U+10FFFF.
-/
def Beginning.ofOctet (octet : UInt8) : Beginning :=
  let value := octet.toNat
  if value < 0x80 then
    .whole (some (Char.ofNat value))
  else if value < 0xC2 then
    .whole none
  else if value < 0xE0 then
    .part ⟨1, 0x80, 0xBF, value - 0xC0⟩
  else if value = 0xE0 then
    .part ⟨2, 0xA0, 0xBF, 0⟩
  else if value = 0xED then
    .part ⟨2, 0x80, 0x9F, 0xD⟩
  else if value < 0xF0 then
    .part ⟨2, 0x80, 0xBF, value - 0xE0⟩
  else if value = 0xF0 then
    .part ⟨3, 0x90, 0xBF, 0⟩
  else if value < 0xF4 then
    .part ⟨3, 0x80, 0xBF, value - 0xF0⟩
  else if value = 0xF4 then
    .part ⟨3, 0x80, 0x8F, 4⟩
  else
    .whole none

/-- The state of a reader: the character under way, and the symbols so far, latest first. -/
structure Reader where
  pending : Option Pending
  symbols : List Symbol
  deriving Repr, DecidableEq

namespace Reader

/-- Take an octet as the first one of a character. -/
def start (symbols : List Symbol) (octet : UInt8) : Reader :=
  match Beginning.ofOctet octet with
  | .whole symbol => ⟨none, symbol :: symbols⟩
  | .part pending => ⟨some pending, symbols⟩

/-- Read one octet; an octet that cannot go on with a character begins the next one. -/
def step (reader : Reader) (octet : UInt8) : Reader :=
  match reader.pending with
  | none => start reader.symbols octet
  | some pending =>
      if pending.least ≤ octet ∧ octet ≤ pending.greatest then
        let code := pending.code * 64 + (octet.toNat - 0x80)
        if pending.needed ≤ 1 then
          ⟨none, some (Char.ofNat code) :: reader.symbols⟩
        else
          ⟨some ⟨pending.needed - 1, 0x80, 0xBF, code⟩, reader.symbols⟩
      else
        start (none :: reader.symbols) octet

/-- The symbols of a finished reader, in order. -/
def finish (reader : Reader) : List Symbol :=
  match reader.pending with
  | none => reader.symbols.reverse
  | some _ => (none :: reader.symbols).reverse

end Reader

/-- The symbols that octets spell. -/
def symbols (octets : Octets) : List Symbol :=
  (octets.foldl Reader.step ⟨none, []⟩).finish

/-- The text that octets spell, if they spell one without a gap. -/
def decode? (octets : Octets) : Option String :=
  ((symbols octets).mapM id).map String.ofList

/-- The text that octets spell, with the replacement character for every gap. -/
def decodeLossy (octets : Octets) : String :=
  String.ofList ((symbols octets).map (·.getD '\uFFFD'))

end Utf8

end Credential.Text
