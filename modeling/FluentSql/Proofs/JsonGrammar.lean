import FluentSql.Json
import FluentSql.Number.Binary64

/-!
# The grammar of JSON

Which texts are JSON, and what they mean. `Json.Means` is the grammar of the standard production by
production, each with the tree that it stands for; it is given on lists of characters, without a
look at how texts are written or read.

* A number has no zero in front of other digits, no sign but a minus, and digits on both sides of
  its point. There are no words for numbers that are not finite.
* A text is given by code units of sixteen bits, as the standard has it. A character above them
  stands for two units, and so do two escapes in a row; a unit that is half of such a pair and has
  no other half is read as the replacement character, so that every text of the grammar has a
  meaning.
* Arrays and objects differ in their brackets and their elements only (`Bracket`), and the rules for
  the elements between brackets are given once for both. Names in an object may repeat.

The tree of a number without fraction and exponent is an integer, and that of any other number is
the nearest number in binary floating point.
-/

namespace FluentSql.Json

open FluentSql.Number

/-! ### Blanks -/

/-- The characters that may stand between two tokens. -/
def isSpace (c : Char) : Bool :=
  c == ' ' || c == '\t' || c == '\n' || c == '\r'

/-- Nothing but such characters. -/
def Blank (s : List Char) : Prop :=
  ∀ c ∈ s, isSpace c = true

/-! ### Numbers -/

/-- One digit or more. -/
def IsDigits (s : List Char) : Prop :=
  s ≠ [] ∧ ∀ c ∈ s, c.isDigit = true

/-- The digits in front of a point: a zero there is the only one. -/
def IsWhole (s : List Char) : Prop :=
  IsDigits s ∧ (s.head? = some '0' → s = ['0'])

/-- A point with digits behind it, or nothing. -/
def IsFraction (s : List Char) : Prop :=
  s = [] ∨ ∃ digits, IsDigits digits ∧ s = '.' :: digits

/-- A letter, a sign or none, and digits, or nothing. -/
def IsExponent (s : List Char) : Prop :=
  s = [] ∨ ∃ letter ∈ ['e', 'E'], ∃ sign ∈ [[], ['-'], ['+']], ∃ digits, IsDigits digits ∧
    s = letter :: (sign ++ digits)

/-- A number. -/
def IsNumber (s : List Char) : Prop :=
  ∃ sign ∈ [[], ['-']], ∃ whole fraction exponent, IsWhole whole ∧ IsFraction fraction ∧
    IsExponent exponent ∧ s = sign ++ (whole ++ (fraction ++ exponent))

/-- The tree of a number. -/
def numberTree (s : List Char) : Json :=
  let (negative, body) := splitSign s
  if body.all Char.isDigit then .integer (signed negative (Nat.ofDigitChars 10 body 0))
  else .number ((Binary64.readDecimal? negative body).getD .nan)

/-! ### Texts -/

/-- The code units of a character: itself, or a pair of surrogates. -/
def units (c : Char) : List Nat :=
  if c.toNat < 0x10000 then [c.toNat]
  else
    let offset := c.toNat - 0x10000
    [0xD800 + offset / 0x400, 0xDC00 + offset % 0x400]

/-- The unit is the first half of a pair. -/
def isHigh (u : Nat) : Bool :=
  0xD800 ≤ u && u < 0xDC00

/-- The unit is the second half of a pair. -/
def isLow (u : Nat) : Bool :=
  0xDC00 ≤ u && u < 0xE000

/-- The character of a unit that has no other half. -/
def soleUnit (u : Nat) : Char :=
  if isHigh u || isLow u then '\ufffd' else Char.ofNat u

/-- The characters of some code units. -/
def ofUnits : List Nat → List Char
  | [] => []
  | [u] => [soleUnit u]
  | u :: w :: rest =>
    if isHigh u && isLow w then
      Char.ofNat (0x10000 + ((u - 0xD800) * 0x400 + (w - 0xDC00))) :: ofUnits rest
    else soleUnit u :: ofUnits (w :: rest)

/-- The value of a hexadecimal digit in either case. -/
def hexDigit? (c : Char) : Option Nat :=
  if '0' ≤ c ∧ c ≤ '9' then some (c.toNat - '0'.toNat)
  else if 'a' ≤ c ∧ c ≤ 'f' then some (c.toNat - 'a'.toNat + 10)
  else if 'A' ≤ c ∧ c ≤ 'F' then some (c.toNat - 'A'.toNat + 10)
  else none

/-- The number that hexadecimal digits denote. -/
def hexValue? (digits : List Char) : Option Nat :=
  digits.foldlM (fun n c ↦ (hexDigit? c).map (16 * n + ·)) 0

/-- The unit of an escape of one character. -/
def shortEscape? : Char → Option Nat
  | '"' => some 0x22
  | '\\' => some 0x5C
  | '/' => some 0x2F
  | 'b' => some 0x08
  | 'f' => some 0x0C
  | 'n' => some 0x0A
  | 'r' => some 0x0D
  | 't' => some 0x09
  | _ => none

/-- The character stands for itself in a text. -/
def isPlain (c : Char) : Bool :=
  0x20 ≤ c.toNat && c != '"' && c != '\\'

/-- What stands between the quotes of a text, and the code units that it means. -/
inductive TextBody : List Char → List Nat → Prop where
  | nil : TextBody [] []
  | plain {c : Char} {s : List Char} {us : List Nat} (hc : isPlain c = true) (hs : TextBody s us) :
    TextBody (c :: s) (units c ++ us)
  | short {c : Char} {u : Nat} {s : List Char} {us : List Nat} (hc : shortEscape? c = some u)
    (hs : TextBody s us) : TextBody ('\\' :: c :: s) (u :: us)
  | unit {c₁ c₂ c₃ c₄ : Char} {u : Nat} {s : List Char} {us : List Nat}
    (hc : hexValue? [c₁, c₂, c₃, c₄] = some u) (hs : TextBody s us) :
    TextBody ('\\' :: 'u' :: c₁ :: c₂ :: c₃ :: c₄ :: s) (u :: us)

/-! ### Trees -/

/-- The words of JSON, and their trees. -/
def words : List (List Char × Json) :=
  [("null".toList, .null), ("true".toList, .bool true), ("false".toList, .bool false)]

/-- The two kinds of brackets. -/
inductive Bracket where
  | array
  | object

namespace Bracket

/-- The character that opens a bracket. -/
def opening : Bracket → Char
  | array => '['
  | object => '\x7b'

/-- The character that closes a bracket. -/
def closing : Bracket → Char
  | array => ']'
  | object => '\x7d'

/-- The meaning of an element of a bracket. -/
def Element : Bracket → Type
  | array => Json
  | object => String × Json

/-- The tree of a bracket with its elements. -/
def tree : (b : Bracket) → List b.Element → Json
  | array, items => .array items
  | object, entries => .object entries

end Bracket

/-- The parts of a JSON text that have a meaning: a value, an element of a bracket, and all elements
of a bracket that has any. -/
inductive Part where
  | value
  | element (b : Bracket)
  | elements (b : Bracket)

/-- What the meaning of a part is. -/
def Part.Meaning : Part → Type
  | value => Json
  | element b => b.Element
  | elements b => List b.Element

/-- Characters that are a part of a JSON text, and what they mean. -/
inductive Means : (p : Part) → List Char → p.Meaning → Prop where
  | word {s : List Char} {j : Json} (h : (s, j) ∈ words) : Means .value s j
  | number {s : List Char} (h : IsNumber s) : Means .value s (numberTree s)
  | text {s : List Char} {us : List Nat} (h : TextBody s us) :
    Means .value ('"' :: (s ++ ['"'])) (.text (String.ofList (ofUnits us)))
  | empty (b : Bracket) {space : List Char} (hspace : Blank space) :
    Means .value (b.opening :: (space ++ [b.closing])) (b.tree [])
  | bracket (b : Bracket) {s : List Char} {es : List b.Element} (h : Means (.elements b) s es) :
    Means .value (b.opening :: (s ++ [b.closing])) (b.tree es)
  | item {s : List Char} {j : Json} (h : Means .value s j) : Means (.element .array) s j
  | entry {name before after s : List Char} {us : List Nat} {j : Json} (hname : TextBody name us)
    (hbefore : Blank before) (hafter : Blank after) (h : Means .value s j) :
    Means (.element .object) ('"' :: (name ++ '"' :: (before ++ ':' :: (after ++ s))))
      (String.ofList (ofUnits us), j)
  | last {b : Bracket} {before s after : List Char} {e : b.Element} (hbefore : Blank before)
    (hafter : Blank after) (h : Means (.element b) s e) :
    Means (.elements b) (before ++ (s ++ after)) [e]
  | next {b : Bracket} {before s after rest : List Char} {e : b.Element} {es : List b.Element}
    (hbefore : Blank before) (hafter : Blank after) (h : Means (.element b) s e)
    (hrest : Means (.elements b) rest es) :
    Means (.elements b) (before ++ (s ++ (after ++ ',' :: rest))) (e :: es)

/-- The text is JSON and means the tree: it is a value, with blanks around it or not. -/
def Denotes (s : List Char) (j : Json) : Prop :=
  ∃ before value after, Blank before ∧ Blank after ∧ Means .value value j ∧
    s = before ++ (value ++ after)

end FluentSql.Json
