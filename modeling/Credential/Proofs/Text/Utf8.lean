import Credential.Text.Utf8

/-!
# Octets that spell a text

Octets spell a text without a gap exactly if they are the octets of the text.
-/

namespace Credential.Text.Utf8

/-! ## The octets of one character -/

/-- A code point is below the end of Unicode, and no half of a pair. -/
theorem toNat_bounds (character : Char) :
    character.toNat < 0xD800 ∨ 0xDFFF < character.toNat ∧ character.toNat < 0x110000 :=
  character.valid

/-- A character of seven bits has one octet. -/
theorem utf8EncodeChar_of_one
    {character : Char}
    (small : character.toNat < 0x80) :
    String.utf8EncodeChar character = [UInt8.ofNat character.toNat] := by
  change character.val.toNat < 0x80 at small
  rw [String.utf8EncodeChar]
  rw [if_pos (by omega)]
  rfl

/-- A character of eleven bits has two octets. -/
theorem utf8EncodeChar_of_two
    {character : Char}
    (large : 0x80 ≤ character.toNat)
    (small : character.toNat < 0x800) :
    String.utf8EncodeChar character =
      [UInt8.ofNat (0xC0 + character.toNat / 64), UInt8.ofNat (0x80 + character.toNat % 64)] := by
  have first : character.toNat / 64 % 0x20 + 0xC0 = 0xC0 + character.toNat / 64 := by omega
  have second : character.toNat % 0x40 + 0x80 = 0x80 + character.toNat % 64 := by omega
  rw [← first, ← second]
  change 0x80 ≤ character.val.toNat at large
  change character.val.toNat < 0x800 at small
  rw [String.utf8EncodeChar]
  rw [if_neg (by omega), if_pos (by omega)]
  rfl

/-- A character of sixteen bits has three octets. -/
theorem utf8EncodeChar_of_three
    {character : Char}
    (large : 0x800 ≤ character.toNat)
    (small : character.toNat < 0x10000) :
    String.utf8EncodeChar character =
      [UInt8.ofNat (0xE0 + character.toNat / 4096),
        UInt8.ofNat (0x80 + character.toNat / 64 % 64),
        UInt8.ofNat (0x80 + character.toNat % 64)] := by
  have first : character.toNat / 4096 % 0x10 + 0xE0 = 0xE0 + character.toNat / 4096 := by omega
  have second : character.toNat / 64 % 0x40 + 0x80 = 0x80 + character.toNat / 64 % 64 := by omega
  have third : character.toNat % 0x40 + 0x80 = 0x80 + character.toNat % 64 := by omega
  rw [← first, ← second, ← third]
  change 0x800 ≤ character.val.toNat at large
  change character.val.toNat < 0x10000 at small
  rw [String.utf8EncodeChar]
  rw [if_neg (by omega), if_neg (by omega), if_pos (by omega)]
  rfl

/-- Any other character has four octets. -/
theorem utf8EncodeChar_of_four
    {character : Char}
    (large : 0x10000 ≤ character.toNat) :
    String.utf8EncodeChar character =
      [UInt8.ofNat (0xF0 + character.toNat / 262144),
        UInt8.ofNat (0x80 + character.toNat / 4096 % 64),
        UInt8.ofNat (0x80 + character.toNat / 64 % 64),
        UInt8.ofNat (0x80 + character.toNat % 64)] := by
  have bounds := toNat_bounds character
  have first : character.toNat / 262144 % 0x08 + 0xF0 = 0xF0 + character.toNat / 262144 := by omega
  have second :
      character.toNat / 4096 % 0x40 + 0x80 = 0x80 + character.toNat / 4096 % 64 := by omega
  have third : character.toNat / 64 % 0x40 + 0x80 = 0x80 + character.toNat / 64 % 64 := by omega
  have fourth : character.toNat % 0x40 + 0x80 = 0x80 + character.toNat % 64 := by omega
  rw [← first, ← second, ← third, ← fourth]
  change 0x10000 ≤ character.val.toNat at large
  rw [String.utf8EncodeChar]
  rw [if_neg (by omega), if_neg (by omega), if_neg (by omega)]
  rfl

/-! ## Reading the octets of a character -/

/-- The octet of a small number has that number. -/
theorem toNat_ofNat
    {value : Nat}
    (small : value < 256) :
    (UInt8.ofNat value).toNat = value := by
  rw [UInt8.toNat_ofNat']
  exact Nat.mod_eq_of_lt small

/-- An octet within bounds completes a character that needs one more. -/
theorem step_of_last
    {least greatest octet : UInt8}
    (lower : least.toNat ≤ octet.toNat)
    (upper : octet.toNat ≤ greatest.toNat)
    (code : Nat)
    (symbols : List Symbol) :
    Reader.step ⟨some ⟨1, least, greatest, code⟩, symbols⟩ octet =
      ⟨none, some (Char.ofNat (code * 64 + (octet.toNat - 0x80))) :: symbols⟩ := by
  rw [Reader.step]
  dsimp only
  rw [if_pos ⟨UInt8.le_iff_toNat_le.mpr lower, UInt8.le_iff_toNat_le.mpr upper⟩,
    if_pos (Nat.le_refl 1)]

/-- An octet within bounds goes on with a character that needs several more. -/
theorem step_of_more
    {least greatest octet : UInt8}
    (lower : least.toNat ≤ octet.toNat)
    (upper : octet.toNat ≤ greatest.toNat)
    (needed code : Nat)
    (symbols : List Symbol) :
    Reader.step ⟨some ⟨needed + 2, least, greatest, code⟩, symbols⟩ octet =
      ⟨some ⟨needed + 1, 0x80, 0xBF, code * 64 + (octet.toNat - 0x80)⟩, symbols⟩ := by
  rw [Reader.step]
  dsimp only
  rw [if_pos ⟨UInt8.le_iff_toNat_le.mpr lower, UInt8.le_iff_toNat_le.mpr upper⟩,
    if_neg (by omega)]
  rfl

/-- An octet that is a whole character is read as that character. -/
theorem step_of_whole
    {octet : UInt8}
    {symbol : Symbol}
    (begins : Beginning.ofOctet octet = .whole symbol)
    (symbols : List Symbol) :
    Reader.step ⟨none, symbols⟩ octet = ⟨none, symbol :: symbols⟩ := by
  change Reader.start symbols octet = _
  rw [Reader.start, begins]

/-- An octet that begins a character leaves that character under way. -/
theorem step_of_part
    {octet : UInt8}
    {pending : Pending}
    (begins : Beginning.ofOctet octet = .part pending)
    (symbols : List Symbol) :
    Reader.step ⟨none, symbols⟩ octet = ⟨some pending, symbols⟩ := by
  change Reader.start symbols octet = _
  rw [Reader.start, begins]

/-- The first octet of three lets the second one follow. -/
theorem ofOctet_of_three
    {character : Char}
    (large : 0x800 ≤ character.toNat)
    (small : character.toNat < 0x10000) :
    ∃ least greatest,
      Beginning.ofOctet (UInt8.ofNat (0xE0 + character.toNat / 4096)) =
        .part ⟨2, least, greatest, character.toNat / 4096⟩ ∧
      least.toNat ≤ 0x80 + character.toNat / 64 % 64 ∧
      0x80 + character.toNat / 64 % 64 ≤ greatest.toNat := by
  have bounds := toNat_bounds character
  have first := toNat_ofNat (show 0xE0 + character.toNat / 4096 < 256 by omega)
  by_cases lowest : character.toNat < 0x1000
  · refine ⟨0xA0, 0xBF, ?_, by change 160 ≤ _; omega, by change _ ≤ 191; omega⟩
    rw [Beginning.ofOctet, first, if_neg (by omega), if_neg (by omega), if_neg (by omega),
      if_pos (by omega), Nat.div_eq_of_lt lowest]
  by_cases surrogates : character.toNat / 4096 = 0xD
  · refine ⟨0x80, 0x9F, ?_, by change 128 ≤ _; omega, by change _ ≤ 159; omega⟩
    rw [Beginning.ofOctet, first, if_neg (by omega), if_neg (by omega), if_neg (by omega),
      if_neg (by omega), if_pos (by omega), surrogates]
  · refine ⟨0x80, 0xBF, ?_, by change 128 ≤ _; omega, by change _ ≤ 191; omega⟩
    rw [Beginning.ofOctet, first, if_neg (by omega), if_neg (by omega), if_neg (by omega),
      if_neg (by omega), if_neg (by omega), if_pos (by omega), Nat.add_sub_cancel_left]

/-- The first octet of four lets the second one follow. -/
theorem ofOctet_of_four
    {character : Char}
    (large : 0x10000 ≤ character.toNat) :
    ∃ least greatest,
      Beginning.ofOctet (UInt8.ofNat (0xF0 + character.toNat / 262144)) =
        .part ⟨3, least, greatest, character.toNat / 262144⟩ ∧
      least.toNat ≤ 0x80 + character.toNat / 4096 % 64 ∧
      0x80 + character.toNat / 4096 % 64 ≤ greatest.toNat := by
  have bounds := toNat_bounds character
  have first := toNat_ofNat (show 0xF0 + character.toNat / 262144 < 256 by omega)
  by_cases lowest : character.toNat < 0x40000
  · refine ⟨0x90, 0xBF, ?_, by change 144 ≤ _; omega, by change _ ≤ 191; omega⟩
    rw [Beginning.ofOctet, first, if_neg (by omega), if_neg (by omega), if_neg (by omega),
      if_neg (by omega), if_neg (by omega), if_neg (by omega), if_pos (by omega),
      Nat.div_eq_of_lt lowest]
  by_cases highest : character.toNat / 262144 = 4
  · refine ⟨0x80, 0x8F, ?_, by change 128 ≤ _; omega, by change _ ≤ 143; omega⟩
    rw [Beginning.ofOctet, first, if_neg (by omega), if_neg (by omega), if_neg (by omega),
      if_neg (by omega), if_neg (by omega), if_neg (by omega), if_neg (by omega),
      if_neg (by omega), if_pos (by omega), highest]
  · refine ⟨0x80, 0xBF, ?_, by change 128 ≤ _; omega, by change _ ≤ 191; omega⟩
    rw [Beginning.ofOctet, first, if_neg (by omega), if_neg (by omega), if_neg (by omega),
      if_neg (by omega), if_neg (by omega), if_neg (by omega), if_neg (by omega),
      if_pos (by omega), Nat.add_sub_cancel_left]

/-- A later octet of a character is within the bounds of any octet that goes on with one. -/
theorem bounds_of_later (value : Nat) :
    (0x80 : UInt8).toNat ≤ 0x80 + value % 64 ∧ 0x80 + value % 64 ≤ (0xBF : UInt8).toNat := by
  constructor
  · exact Nat.le_add_right _ _
  · change _ ≤ 191
    omega

/-- The octets of a character are read as that character. -/
theorem foldl_step_utf8EncodeChar (character : Char) (symbols : List Symbol) :
    (String.utf8EncodeChar character).foldl Reader.step ⟨none, symbols⟩ =
      ⟨none, some character :: symbols⟩ := by
  have bounds := toNat_bounds character
  by_cases one : character.toNat < 0x80
  · have octet := toNat_ofNat (show character.toNat < 256 by omega)
    have whole : Beginning.ofOctet (UInt8.ofNat character.toNat) = .whole (some character) := by
      rw [Beginning.ofOctet, octet, if_pos one, Char.ofNat_toNat]
    rw [utf8EncodeChar_of_one one, List.foldl_cons, List.foldl_nil, step_of_whole whole]
  by_cases two : character.toNat < 0x800
  · have first := toNat_ofNat (show 0xC0 + character.toNat / 64 < 256 by omega)
    have second := toNat_ofNat (show 0x80 + character.toNat % 64 < 256 by omega)
    have part : Beginning.ofOctet (UInt8.ofNat (0xC0 + character.toNat / 64)) =
        .part ⟨1, 0x80, 0xBF, character.toNat / 64⟩ := by
      rw [Beginning.ofOctet, first, if_neg (by omega), if_neg (by omega), if_pos (by omega),
        Nat.add_sub_cancel_left]
    have code : character.toNat / 64 * 64 + (0x80 + character.toNat % 64 - 0x80) =
        character.toNat := by omega
    have later := bounds_of_later character.toNat
    rw [utf8EncodeChar_of_two (by omega) two, List.foldl_cons, List.foldl_cons, List.foldl_nil,
      step_of_part part,
      step_of_last (by rw [second]; exact later.1) (by rw [second]; exact later.2),
      second, code, Char.ofNat_toNat]
  by_cases three : character.toNat < 0x10000
  · have second := toNat_ofNat (show 0x80 + character.toNat / 64 % 64 < 256 by omega)
    have third := toNat_ofNat (show 0x80 + character.toNat % 64 < 256 by omega)
    have code : (character.toNat / 4096 * 64 + (0x80 + character.toNat / 64 % 64 - 0x80)) * 64 +
        (0x80 + character.toNat % 64 - 0x80) = character.toNat := by omega
    obtain ⟨least, greatest, part, lower, upper⟩ := ofOctet_of_three (by omega) three
    have later := bounds_of_later character.toNat
    rw [utf8EncodeChar_of_three (by omega) three]
    simp only [List.foldl_cons, List.foldl_nil]
    rw [step_of_part part,
      step_of_more (by rw [second]; exact lower) (by rw [second]; exact upper),
      step_of_last (by rw [third]; exact later.1) (by rw [third]; exact later.2),
      second, third, code, Char.ofNat_toNat]
  · have second := toNat_ofNat (show 0x80 + character.toNat / 4096 % 64 < 256 by omega)
    have third := toNat_ofNat (show 0x80 + character.toNat / 64 % 64 < 256 by omega)
    have fourth := toNat_ofNat (show 0x80 + character.toNat % 64 < 256 by omega)
    have code : ((character.toNat / 262144 * 64 +
          (0x80 + character.toNat / 4096 % 64 - 0x80)) * 64 +
          (0x80 + character.toNat / 64 % 64 - 0x80)) * 64 +
        (0x80 + character.toNat % 64 - 0x80) = character.toNat := by omega
    obtain ⟨least, greatest, part, lower, upper⟩ :=
      @ofOctet_of_four character (by omega)
    have middle := bounds_of_later (character.toNat / 64)
    have later := bounds_of_later character.toNat
    rw [utf8EncodeChar_of_four (by omega)]
    simp only [List.foldl_cons, List.foldl_nil]
    rw [step_of_part part,
      step_of_more (by rw [second]; exact lower) (by rw [second]; exact upper),
      step_of_more (by rw [third]; exact middle.1) (by rw [third]; exact middle.2),
      step_of_last (by rw [fourth]; exact later.1) (by rw [fourth]; exact later.2),
      second, third, fourth, code, Char.ofNat_toNat]

/-- The octets of a text are read as the characters of that text. -/
theorem symbols_flatMap (characters : List Char) (symbols : List Symbol) :
    (characters.flatMap String.utf8EncodeChar).foldl Reader.step ⟨none, symbols⟩ =
      ⟨none, (characters.map some).reverse ++ symbols⟩ := by
  induction characters generalizing symbols with
  | nil =>
      rfl
  | cons character rest inductionHypothesis =>
      rw [List.flatMap_cons, List.foldl_append, foldl_step_utf8EncodeChar, inductionHypothesis,
        List.map_cons, List.reverse_cons, List.append_assoc, List.singleton_append]

/-- The octets of a text spell its characters. -/
theorem symbols_encode (text : String) : symbols (encode text) = text.toList.map some := by
  rw [symbols, encode, symbols_flatMap]
  simp [Reader.finish]

/-- A list of symbols without a gap is the list of its characters. -/
theorem mapM_id_eq_some_iff (symbols : List Symbol) (characters : List Char) :
    symbols.mapM id = some characters ↔ symbols = characters.map some := by
  induction symbols generalizing characters with
  | nil =>
      cases characters <;> simp
  | cons symbol rest inductionHypothesis =>
      cases symbol with
      | none =>
          cases characters <;> simp [List.mapM_cons]
      | some character =>
          rw [List.mapM_cons]
          cases characters with
          | nil =>
              simp [Option.bind_eq_some_iff]
          | cons first later =>
              simp [Option.bind_eq_some_iff, inductionHypothesis, and_assoc, and_comm]

/-- The octets of a text spell that text. -/
@[simp]
theorem decode?_encode (text : String) :
    decode? (encode text) = some text := by
  rw [decode?, symbols, encode, symbols_flatMap]
  dsimp only [Reader.finish]
  rw [List.append_nil, List.reverse_reverse, (mapM_id_eq_some_iff _ _).mpr rfl, Option.map_some,
    String.ofList_toList]

/-- The octets of a text are those of its parts. -/
theorem encode_append (first second : String) :
    encode (first ++ second) = encode first ++ encode second := by
  rw [encode, String.toList_append, List.flatMap_append, encode, encode]

/-- Texts with the same octets are the same. -/
theorem encode_injective : Function.Injective encode := by
  intro first second same
  have decoded := congrArg decode? same
  rw [decode?_encode, decode?_encode] at decoded
  exact Option.some.inj decoded

/-! ## Octets that complete a character -/

/-- Whatever octets go on with what is read, all of them are the octets of one character. -/
def Begins (needed : Nat) (least greatest : UInt8) (code : Nat) (read : Octets) : Prop :=
  match needed with
  | 0 => False
  | 1 => ∀ octet : UInt8, least.toNat ≤ octet.toNat → octet.toNat ≤ greatest.toNat →
      String.utf8EncodeChar (Char.ofNat (code * 64 + (octet.toNat - 0x80))) = read ++ [octet]
  | more + 2 => ∀ octet : UInt8, least.toNat ≤ octet.toNat → octet.toNat ≤ greatest.toNat →
      Begins (more + 1) 0x80 0xBF (code * 64 + (octet.toNat - 0x80)) (read ++ [octet])

/-- The character of a code point outside the surrogates has that code point. -/
theorem toNat_ofNat_char
    (code : Nat)
    (valid : code < 0xD800 ∨ 0xDFFF < code ∧ code < 0x110000) :
    (Char.ofNat code).toNat = code := by
  rw [Char.ofNat, dif_pos valid]
  rfl

/-- An octet is the octet of its number. -/
theorem ofNat_eq
    {octet : UInt8}
    {value : Nat}
    (number : octet.toNat = value) :
    UInt8.ofNat value = octet := by
  rw [← number, UInt8.ofNat_toNat]

/-- A first octet below `0xE0` begins a character of two octets. -/
theorem begins_two
    {first : UInt8}
    (lower : 0xC2 ≤ first.toNat)
    (upper : first.toNat < 0xE0) :
    Begins 1 0x80 0xBF (first.toNat - 0xC0) [first] := by
  intro second (least : 128 ≤ second.toNat) (greatest : second.toNat ≤ 191)
  have code := toNat_ofNat_char ((first.toNat - 0xC0) * 64 + (second.toNat - 0x80)) (by omega)
  rw [utf8EncodeChar_of_two (by omega) (by omega), code,
    @ofNat_eq first _ (by omega), @ofNat_eq second _ (by omega)]
  rfl

/-- A first octet below `0xF0` begins a character of three octets within the bounds given. -/
theorem begins_three
    {first least greatest : UInt8}
    (lower : 0xE0 ≤ first.toNat)
    (upper : first.toNat < 0xF0)
    (later : 0x80 ≤ least.toNat ∧ greatest.toNat ≤ 0xBF)
    (short : first.toNat = 0xE0 → 0xA0 ≤ least.toNat)
    (surrogates : first.toNat = 0xED → greatest.toNat ≤ 0x9F) :
    Begins 2 least greatest (first.toNat - 0xE0) [first] := by
  intro second secondLeast secondGreatest third (least : 128 ≤ third.toNat)
    (greatest : third.toNat ≤ 191)
  have code := toNat_ofNat_char
    (((first.toNat - 0xE0) * 64 + (second.toNat - 0x80)) * 64 + (third.toNat - 0x80))
    (by omega)
  rw [utf8EncodeChar_of_three (by omega) (by omega), code,
    @ofNat_eq first _ (by omega), @ofNat_eq second _ (by omega),
    @ofNat_eq third _ (by omega)]
  rfl

/-- A first octet up to `0xF4` begins a character of four octets within the bounds given. -/
theorem begins_four
    {first least greatest : UInt8}
    (lower : 0xF0 ≤ first.toNat)
    (upper : first.toNat ≤ 0xF4)
    (later : 0x80 ≤ least.toNat ∧ greatest.toNat ≤ 0xBF)
    (short : first.toNat = 0xF0 → 0x90 ≤ least.toNat)
    (beyond : first.toNat = 0xF4 → greatest.toNat ≤ 0x8F) :
    Begins 3 least greatest (first.toNat - 0xF0) [first] := by
  intro second secondLeast secondGreatest third (thirdLeast : 128 ≤ third.toNat)
    (thirdGreatest : third.toNat ≤ 191) fourth (least : 128 ≤ fourth.toNat)
    (greatest : fourth.toNat ≤ 191)
  have code := toNat_ofNat_char
    ((((first.toNat - 0xF0) * 64 + (second.toNat - 0x80)) * 64 +
      (third.toNat - 0x80)) * 64 + (fourth.toNat - 0x80))
    (by omega)
  rw [utf8EncodeChar_of_four (by omega), code,
    @ofNat_eq first _ (by omega), @ofNat_eq second _ (by omega),
    @ofNat_eq third _ (by omega), @ofNat_eq fourth _ (by omega)]
  rfl

/-- A first octet is a character by itself, begins one, or begins none. -/
theorem begins_ofOctet (octet : UInt8) :
    match Beginning.ofOctet octet with
    | .whole none => True
    | .whole (some character) => String.utf8EncodeChar character = [octet]
    | .part ⟨needed, least, greatest, code⟩ => Begins needed least greatest code [octet] := by
  rw [Beginning.ofOctet]
  by_cases ascii : octet.toNat < 0x80
  · have code := toNat_ofNat_char octet.toNat (by omega)
    rw [if_pos ascii]
    dsimp only
    rw [utf8EncodeChar_of_one (by omega), code, UInt8.ofNat_toNat]
  rw [if_neg ascii]
  by_cases stray : octet.toNat < 0xC2
  · rw [if_pos stray]
    trivial
  rw [if_neg stray]
  by_cases two : octet.toNat < 0xE0
  · rw [if_pos two]
    exact begins_two (by omega) two
  rw [if_neg two]
  by_cases short : octet.toNat = 0xE0
  · have begins : Begins 2 0xA0 0xBF (octet.toNat - 0xE0) [octet] :=
      begins_three (by omega) (by omega) (by decide) (fun _ => by decide) (by omega)
    rw [if_pos short]
    rwa [short] at begins
  rw [if_neg short]
  by_cases surrogates : octet.toNat = 0xED
  · have begins : Begins 2 0x80 0x9F (octet.toNat - 0xE0) [octet] :=
      begins_three (by omega) (by omega) (by decide) (by omega) (fun _ => by decide)
    rw [if_pos surrogates]
    rwa [surrogates] at begins
  rw [if_neg surrogates]
  by_cases three : octet.toNat < 0xF0
  · rw [if_pos three]
    exact begins_three (by omega) three (by decide) (by omega) (by omega)
  rw [if_neg three]
  by_cases shortest : octet.toNat = 0xF0
  · have begins : Begins 3 0x90 0xBF (octet.toNat - 0xF0) [octet] :=
      begins_four (by omega) (by omega) (by decide) (fun _ => by decide) (by omega)
    rw [if_pos shortest]
    rwa [shortest] at begins
  rw [if_neg shortest]
  by_cases four : octet.toNat < 0xF4
  · rw [if_pos four]
    exact begins_four (by omega) (by omega) (by decide) (by omega) (by omega)
  rw [if_neg four]
  by_cases beyond : octet.toNat = 0xF4
  · have begins : Begins 3 0x80 0x8F (octet.toNat - 0xF0) [octet] :=
      begins_four (by omega) (by omega) (by decide) (by omega) (fun _ => by decide)
    rw [if_pos beyond]
    rwa [beyond] at begins
  · rw [if_neg beyond]
    trivial

/-! ## Octets without a gap -/

/-- What a reader has read: a gap, or whole characters and maybe the beginning of another. -/
def Reader.Spells (reader : Reader) (octets : Octets) : Prop :=
  none ∈ reader.symbols ∨
    ∃ (characters : List Char) (read : Octets),
      reader.symbols = (characters.map some).reverse ∧
      octets = characters.flatMap String.utf8EncodeChar ++ read ∧
      match reader.pending with
      | none => read = []
      | some ⟨needed, least, greatest, code⟩ => Begins needed least greatest code read

/-- Taking an octet as a first one keeps every gap. -/
theorem gap_start
    {symbols : List Symbol}
    (gap : none ∈ symbols)
    (octet : UInt8) :
    none ∈ (Reader.start symbols octet).symbols := by
  rw [Reader.start]
  cases Beginning.ofOctet octet with
  | whole symbol =>
      exact List.mem_cons_of_mem _ gap
  | part pending =>
      exact gap

/-- Reading an octet keeps every gap. -/
theorem gap_step
    {reader : Reader}
    (gap : none ∈ reader.symbols)
    (octet : UInt8) :
    none ∈ (reader.step octet).symbols := by
  rw [Reader.step]
  split
  · exact gap_start gap octet
  · split
    · dsimp only
      split
      · exact List.mem_cons_of_mem _ gap
      · exact gap
    · exact gap_start (List.mem_cons_of_mem _ gap) octet

/-- Taking an octet as a first one after whole characters spells that octet as well. -/
theorem spells_start (characters : List Char) (octet : UInt8) :
    (Reader.start (characters.map some).reverse octet).Spells
      (characters.flatMap String.utf8EncodeChar ++ [octet]) := by
  have begins := begins_ofOctet octet
  rw [Reader.start]
  cases beginning : Beginning.ofOctet octet with
  | whole symbol =>
      rw [beginning] at begins
      cases symbol with
      | none =>
          exact .inl List.mem_cons_self
      | some character =>
          refine .inr ⟨characters ++ [character], [], ?_, ?_, rfl⟩
          · simp
          · rw [List.flatMap_append, List.flatMap_singleton, begins, List.append_nil]
  | part pending =>
      rw [beginning] at begins
      exact .inr ⟨characters, [octet], rfl, rfl, begins⟩

/-- Reading one more octet spells that octet as well. -/
theorem spells_step
    {reader : Reader}
    {octets : Octets}
    (spells : reader.Spells octets)
    (octet : UInt8) :
    (reader.step octet).Spells (octets ++ [octet]) := by
  rcases spells with gap | ⟨characters, read, whole, rfl, begun⟩
  · exact .inl (gap_step gap octet)
  rcases reader with ⟨pending, symbols⟩
  change symbols = _ at whole
  subst whole
  cases pending with
  | none =>
      change read = [] at begun
      rw [begun, List.append_nil]
      exact spells_start characters octet
  | some pending =>
      rcases pending with ⟨needed, least, greatest, code⟩
      change Begins needed least greatest code read at begun
      by_cases within : least.toNat ≤ octet.toNat ∧ octet.toNat ≤ greatest.toNat
      · match needed with
        | 1 =>
            rw [step_of_last within.1 within.2]
            refine .inr ⟨characters ++ [Char.ofNat (code * 64 + (octet.toNat - 0x80))], [], ?_, ?_,
              rfl⟩
            · simp
            · rw [List.flatMap_append, List.flatMap_singleton, begun octet within.1 within.2,
                List.append_nil, List.append_assoc]
        | more + 2 =>
            rw [step_of_more within.1 within.2]
            exact .inr ⟨characters, read ++ [octet], rfl, List.append_assoc _ _ _,
              begun octet within.1 within.2⟩
      · rw [Reader.step]
        dsimp only
        rw [if_neg (by rwa [UInt8.le_iff_toNat_le, UInt8.le_iff_toNat_le])]
        exact .inl (gap_start List.mem_cons_self octet)

/-- A reader spells all the octets that it has read. -/
theorem spells_foldl
    {reader : Reader}
    {before : Octets}
    (spells : reader.Spells before)
    (octets : Octets) :
    (octets.foldl Reader.step reader).Spells (before ++ octets) := by
  induction octets generalizing reader before with
  | nil =>
      rwa [List.append_nil]
  | cons octet rest inductionHypothesis =>
      have next := inductionHypothesis (spells_step spells octet)
      rwa [List.append_assoc, List.singleton_append] at next

/-- Octets that spell a text are the octets of that text. -/
theorem encode_of_decode?
    {octets : Octets}
    {text : String}
    (decoded : decode? octets = some text) :
    encode text = octets := by
  have spells : (octets.foldl Reader.step ⟨none, []⟩).Spells ([] ++ octets) :=
    spells_foldl (.inr ⟨[], [], rfl, rfl, rfl⟩) octets
  rw [decode?, symbols, Option.map_eq_some_iff] at decoded
  obtain ⟨characters, found, rfl⟩ := decoded
  rw [mapM_id_eq_some_iff, Reader.finish] at found
  rw [encode, String.toList_ofList]
  rcases spells with gap | ⟨spelled, read, whole, split, begun⟩
  · exfalso
    have member : none ∈ characters.map some := by
      rw [← found]
      cases (octets.foldl Reader.step ⟨none, []⟩).pending with
      | none =>
          exact List.mem_reverse.mpr gap
      | some pending =>
          exact List.mem_reverse.mpr List.mem_cons_self
    simp at member
  · cases pending : (octets.foldl Reader.step ⟨none, []⟩).pending with
    | none =>
        rw [pending] at found begun
        dsimp only at found begun
        rw [whole, List.reverse_reverse] at found
        have same : spelled = characters :=
          (List.map_inj_right (fun _ _ => Option.some.inj)).mp found
        rw [← same, ← List.nil_append octets, split, begun, List.append_nil]
    | some unfinished =>
        rw [pending] at found
        have member : none ∈ characters.map some := by
          rw [← found]
          exact List.mem_reverse.mpr List.mem_cons_self
        simp at member

/-- Octets spell a text exactly if they are the octets of that text. -/
theorem decode?_eq_some_iff (octets : Octets) (text : String) :
    decode? octets = some text ↔ encode text = octets := by
  constructor
  · exact encode_of_decode?
  · rintro rfl
    exact decode?_encode text

end Credential.Text.Utf8
