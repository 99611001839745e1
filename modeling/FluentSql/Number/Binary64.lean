import FluentSql.Text.Blank
import FluentSql.Number.Numeral

/-!
# Binary floating-point numbers

The numbers of IEEE 754 binary64, held exactly: a finite number is `mantissa * 2 ^ exponent` with
the sign apart, so that everything said about it is said in integers. `round` takes a quotient of
naturals to the nearest such number, a tie going to the even mantissa, and is the only place where
precision is lost; `ofDecimal` and `read?` go through it.

Finite numbers come from `round` in canonical form: the mantissa is below `2 ^ 53`, and is at least
`2 ^ 52` unless the exponent is the least one, `-1074`.
-/

namespace FluentSql.Number

open FluentSql.Text

/-- A binary64 number. -/
inductive Binary64 where
  /-- Not a number. -/
  | nan
  /-- An infinity, negative or not. -/
  | infinite (negative : Bool)
  /-- The number `mantissa * 2 ^ exponent`, negated if `negative`. -/
  | finite (negative : Bool) (mantissa : Nat) (exponent : Int)
deriving Repr, DecidableEq, Inhabited

namespace Binary64

/-- The least exponent of a finite number. -/
def minExponent : Int := -1074

/-- The greatest exponent of a finite number. -/
def maxExponent : Int := 971

/-- The quotient rounded to the nearest natural number, a tie to the even one. -/
def divNearest (num den : Nat) : Nat :=
  let q := num / den
  let twice := 2 * (num % den)
  if twice < den then q else if den < twice then q + 1 else q + q % 2

/-- Numerator and denominator of a quotient divided by `2 ^ e`. -/
def unscale (num den : Nat) (e : Int) : Nat × Nat :=
  (num * Nat.pow 2 (-e).toNat, den * Nat.pow 2 e.toNat)

/-- The exponent of the binary64 number next to a positive quotient. -/
def exponentOf (num den : Nat) : Int :=
  let guess : Int := (num.log2 : Int) - den.log2 - 53
  let (n, d) := unscale num den guess
  max minExponent (if n / d < Nat.pow 2 53 then guess else guess + 1)

/-- The binary64 number nearest to a quotient with a positive denominator. -/
def round (negative : Bool) (num den : Nat) : Binary64 :=
  if num == 0 then .finite negative 0 minExponent
  else
    let e := exponentOf num den
    let (n, d) := unscale num den e
    let m := divNearest n d
    let (m, e) := if m < Nat.pow 2 53 then (m, e) else (Nat.pow 2 52, e + 1)
    if maxExponent < e then .infinite negative else .finite negative m e

/-- The binary64 number nearest to `digits * 10 ^ exponent`. Numbers that are out of range by many
orders of magnitude are settled before any power of ten is formed. -/
def ofDecimal (negative : Bool) (digits : Nat) (exponent : Int) : Binary64 :=
  if digits == 0 then .finite negative 0 minExponent
  else
    let magnitude := (Nat.toDigits 10 digits).length + exponent
    if 400 < magnitude then .infinite negative
    else if magnitude < -400 then .finite negative 0 minExponent
    else round negative (digits * Nat.pow 10 exponent.toNat) (Nat.pow 10 (-exponent).toNat)

/-- The binary64 number nearest to an integer. -/
def ofInt (n : Int) : Binary64 :=
  round (n < 0) n.natAbs 1

/-- The number is positive; not a number is not. -/
def isPositive : Binary64 → Bool
  | .nan => false
  | .infinite negative => !negative
  | .finite negative m _ => !negative && m != 0

/-- A finite number as a quotient of an integer and a positive natural number. -/
def ratio? : Binary64 → Option (Int × Nat)
  | .finite negative m e => some (signed negative (m * Nat.pow 2 e.toNat), Nat.pow 2 (-e).toNat)
  | _ => none

/-! ### Reading -/

/-- The words for the numbers that have no digits. -/
def readWord? (negative : Bool) (s : List Char) : Option Binary64 :=
  let word := s.map Char.toLower
  if word == "inf".toList || word == "infinity".toList then some (.infinite negative)
  else if word == "nan".toList then some .nan
  else none

/-- The exponent part of a numeral: `e`, a sign, and at least one digit. -/
def readExponent? : List Char → Option Int
  | [] => some 0
  | c :: rest =>
    let (negative, digits) := splitSign rest
    if (c == 'e' || c == 'E') && !digits.isEmpty && digits.all Char.isDigit then
      some (signed negative (Nat.ofDigitChars 10 digits 0))
    else none

/-- A decimal numeral without sign: digits, with a point among them or not, and an exponent. -/
def readDecimal? (negative : Bool) (s : List Char) : Option Binary64 :=
  let whole := s.takeWhile Char.isDigit
  let rest := s.dropWhile Char.isDigit
  let (fraction, rest) :=
    match rest with
    | '.' :: rest => (rest.takeWhile Char.isDigit, rest.dropWhile Char.isDigit)
    | rest => ([], rest)
  if whole.isEmpty && fraction.isEmpty then none
  else
    (readExponent? rest).map fun e ↦
      ofDecimal negative (Nat.ofDigitChars 10 (whole ++ fraction) 0) (e - fraction.length)

/-- A numeral with a sign or without, in any of its forms, with nothing around it. -/
def readBare? (s : List Char) : Option Binary64 :=
  let (negative, body) := splitSign s
  readWord? negative body <|> readDecimal? negative body

/-- Underscores that do not stand at an end or side by side are dropped. -/
def dropUnderscores? (s : List Char) : Option (List Char) :=
  if s.head? == some '_' || !underscoresSeparate s then none
  else some (s.filter (· != '_'))

/-- Read a number that may be surrounded by white space and hold underscores. -/
def read? (s : List Char) : Option Binary64 :=
  let body := trim isSpacing s
  readBare? body <|> (dropUnderscores? body).bind readBare?

end Binary64

end FluentSql.Number
