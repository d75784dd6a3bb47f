/-!
# Blank characters

The characters that count as white space, and the trimming of a text.
-/

namespace Credential.Text

/-- The characters with the Unicode property White_Space. -/
def isBlank (character : Char) : Bool :=
  let code := character.toNat
  (0x09 ≤ code && code ≤ 0x0D) || code == 0x20 || code == 0x85 || code == 0xA0 ||
    code == 0x1680 || (0x2000 ≤ code && code ≤ 0x200A) || code == 0x2028 || code == 0x2029 ||
    code == 0x202F || code == 0x205F || code == 0x3000

/-- Characters without the blank ones at the end. -/
def trimBlankEnd (characters : List Char) : List Char :=
  (characters.reverse.dropWhile isBlank).reverse

/-- Characters without the blank ones at either end. -/
def trimBlank (characters : List Char) : List Char :=
  trimBlankEnd (characters.dropWhile isBlank)

/-- A text without the blank characters at either end. -/
def trim (text : String) : String :=
  String.ofList (trimBlank text.toList)

end Credential.Text
