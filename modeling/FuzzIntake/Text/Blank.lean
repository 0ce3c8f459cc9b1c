/-!
# Blank characters and trimming

A character is blank when Unicode gives it the property White_Space.  Trimming
removes the blanks at both ends of a text and keeps those inside it.
-/

namespace FuzzIntake
namespace Text

/-- A character with the Unicode property White_Space. -/
def isBlank (c : Char) : Bool :=
  let n := c.toNat
  (9 ≤ n && n ≤ 13) || n == 0x20 || n == 0x85 || n == 0xA0 || n == 0x1680 ||
    (0x2000 ≤ n && n ≤ 0x200A) || n == 0x2028 || n == 0x2029 || n == 0x202F ||
    n == 0x205F || n == 0x3000

/-- The characters left when the blanks at both ends are removed. -/
def trimChars (cs : List Char) : List Char :=
  ((cs.dropWhile isBlank).reverse.dropWhile isBlank).reverse

/-- The text without the blanks at its ends. -/
def trim (text : String) : String :=
  String.ofList (trimChars text.toList)

/-- A text is blank when nothing is left of it after trimming. -/
def isBlankText (text : String) : Bool :=
  (trimChars text.toList).isEmpty

end Text
end FuzzIntake
