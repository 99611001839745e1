import FluentSql.Text.Printable

/-!
# Quoted texts

The quoted form of a text and of a byte string, as error messages show them. The quote is a single
one unless the text holds a single quote and no double one. Inside, the quote and the backslash are
escaped, tab, newline and carriage return have short escapes, and a character that is not printable
is written by its code in hexadecimal.

A byte string that can change differs in one point: its single quotes are escaped whatever encloses
them.
-/

namespace FluentSql.Text

/-- The number in small hexadecimal digits, filled up with zeros to a width. -/
def hexDigits (width n : Nat) : List Char :=
  let digits := Nat.toDigits 16 n
  List.replicate (width - digits.length) '0' ++ digits

/-- The quote that encloses a text holding the characters. -/
def chooseQuote (s : List Char) : Char :=
  if s.contains '\x27' && !s.contains '\x22' then '\x22' else '\x27'

/-- A character by its code: two, four or eight hexadecimal digits. -/
def codeEscape (c : Char) : List Char :=
  if c.toNat < 0x100 then '\\' :: 'x' :: hexDigits 2 c.toNat
  else if c.toNat < 0x10000 then '\\' :: 'u' :: hexDigits 4 c.toNat
  else '\\' :: 'U' :: hexDigits 8 c.toNat

/-- A character inside quotes; `quote` stands behind a backslash, and `shown` tells what needs no
escape. -/
def escapeChar (shown : Char → Bool) (quote c : Char) : List Char :=
  if c == quote || c == '\\' then ['\\', c]
  else if c == '\t' then ['\\', 't']
  else if c == '\n' then ['\\', 'n']
  else if c == '\r' then ['\\', 'r']
  else if shown c then [c]
  else codeEscape c

/-- The characters between the quotes `outer`, the quotes `inner` among them escaped. -/
def enclose (shown : Char → Bool) (outer inner : Char) (s : List Char) : List Char :=
  outer :: s.flatMap (escapeChar shown inner) ++ [outer]

/-- A text in quotes. -/
def quoted (s : String) : String :=
  let quote := chooseQuote s.toList
  String.ofList (enclose isPrintable quote quote s.toList)

/-- The printable characters of ASCII. -/
def isVisibleAscii (c : Char) : Bool :=
  0x20 ≤ c.toNat && c.toNat ≤ 0x7E

/-- The bytes as characters. -/
def byteChars (data : List UInt8) : List Char :=
  data.map fun b ↦ Char.ofNat b.toNat

/-- A byte string in quotes, after the mark `b`. -/
def quotedBytes (data : List UInt8) : String :=
  let quote := chooseQuote (byteChars data)
  String.ofList ('b' :: enclose isVisibleAscii quote quote (byteChars data))

/-- A byte string that can change in quotes, after the mark `b`. -/
def quotedBuffer (data : List UInt8) : String :=
  String.ofList
    ('b' :: enclose isVisibleAscii (chooseQuote (byteChars data)) '\x27' (byteChars data))

end FluentSql.Text
