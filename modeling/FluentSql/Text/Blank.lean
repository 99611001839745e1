/-!
# Blanks

Which characters count as blank, and how they are taken off the ends of a text.

There are two sets. `isBlank` is the wide one: every character that Unicode lists as white space,
together with the four information separators `U+001C` to `U+001F`. `isSpacing` leaves the
separators out, and is the set that a numeral may be surrounded by. `trim` is generic in the set,
and `strip` is `trim` for the wide one.
-/

namespace FluentSql.Text

/-- Unicode white space: the blanks that may surround a numeral. -/
def isSpacing (c : Char) : Bool :=
  let n := c.toNat
  (9 ≤ n && n ≤ 13) || n == 0x20 || n == 0x85 || n == 0xA0 || n == 0x1680 ||
    (0x2000 ≤ n && n ≤ 0x200A) || n == 0x2028 || n == 0x2029 || n == 0x202F ||
    n == 0x205F || n == 0x3000

/-- White space in the wide sense, with the information separators. -/
def isBlank (c : Char) : Bool :=
  isSpacing c || (0x1C ≤ c.toNat && c.toNat ≤ 0x1F)

/-- Take the characters of a set off both ends. -/
def trim (p : Char → Bool) (s : List Char) : List Char :=
  ((s.dropWhile p).reverse.dropWhile p).reverse

/-- A text without the blanks at its ends. -/
def strip (s : String) : String :=
  String.ofList (trim isBlank s.toList)

end FluentSql.Text
