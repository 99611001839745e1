import FluentSql.Number.Binary64

/-!
# Decimal numbers

Decimal numbers as they were written: a coefficient and an exponent, so that `1.0` and `1.00` are
two numbers with one value. The text of a number keeps its exponent. It is positional as long as
the exponent is not positive and the number is not far below one, and scientific otherwise.
-/

namespace FluentSql.Number

open FluentSql.Text

/-- A decimal number. -/
inductive Decimal where
  /-- Not a number, with the digits that follow the word, and signaling or quiet. -/
  | nan (negative signaling : Bool) (payload : Nat)
  /-- An infinity, negative or not. -/
  | infinite (negative : Bool)
  /-- The number `coefficient * 10 ^ exponent`, negated if `negative`. -/
  | finite (negative : Bool) (coefficient : Nat) (exponent : Int)
deriving Repr, DecidableEq, Inhabited

namespace Decimal

/-- A finite number as a quotient of an integer and a positive natural number. -/
def ratio? : Decimal → Option (Int × Nat)
  | .finite negative c e => some (signed negative (c * Nat.pow 10 e.toNat), Nat.pow 10 (-e).toNat)
  | _ => none

/-- The binary64 number nearest to a decimal number; a signaling one has none. -/
def toBinary64? : Decimal → Option Binary64
  | .nan _ signaling _ => if signaling then none else some .nan
  | .infinite negative => some (.infinite negative)
  | .finite negative c e => some (Binary64.ofDecimal negative c e)

/-! ### Reading and writing -/

/-- The digits behind the word for not a number, leading zeros apart. -/
def readPayload? (negative signaling : Bool) (digits : List Char) : Option Decimal :=
  if digits.all Char.isDigit then some (.nan negative signaling (Nat.ofDigitChars 10 digits 0))
  else none

/-- The words for the numbers that have no value. -/
def readWord? (negative : Bool) (s : List Char) : Option Decimal :=
  let word := s.map Char.toLower
  if word == "inf".toList || word == "infinity".toList then some (.infinite negative)
  else if word.take 3 == "nan".toList then readPayload? negative false (word.drop 3)
  else if word.take 4 == "snan".toList then readPayload? negative true (word.drop 4)
  else none

/-- A decimal numeral without sign. -/
def readFinite? (negative : Bool) (s : List Char) : Option Decimal :=
  let whole := s.takeWhile Char.isDigit
  let rest := s.dropWhile Char.isDigit
  let (fraction, rest) :=
    match rest with
    | '.' :: rest => (rest.takeWhile Char.isDigit, rest.dropWhile Char.isDigit)
    | rest => ([], rest)
  if whole.isEmpty && fraction.isEmpty then none
  else
    (Binary64.readExponent? rest).map fun e ↦
      .finite negative (Nat.ofDigitChars 10 (whole ++ fraction) 0) (e - fraction.length)

/-- Read a decimal number. -/
def read? (s : List Char) : Option Decimal :=
  let (negative, body) := splitSign ((trim isSpacing s).filter (· != '_'))
  readWord? negative body <|> readFinite? negative body

/-- The digits of a finite number with `point` of them before the point. -/
def withPoint (digits : List Char) (point : Int) : List Char :=
  if point ≤ 0 then '0' :: '.' :: List.replicate (-point).toNat '0' ++ digits
  else if point < digits.length then digits.take point.toNat ++ '.' :: digits.drop point.toNat
  else digits

/-- The text of a finite number without its sign. -/
def finiteText (coefficient : Nat) (exponent : Int) : List Char :=
  let digits := Nat.toDigits 10 coefficient
  let left := digits.length + exponent
  if exponent ≤ 0 && -6 < left then withPoint digits left
  else
    withPoint digits 1 ++
      if left == 1 then []
      else 'E' :: (if left < 1 then '-' else '+') :: Nat.toDigits 10 (left - 1).natAbs

/-- The text of a number. -/
def text : Decimal → String
  | .nan negative signaling payload =>
    (if negative then "-" else "") ++ (if signaling then "sNaN" else "NaN") ++
      (if payload == 0 then "" else payload.repr)
  | .infinite negative => if negative then "-Infinity" else "Infinity"
  | .finite negative c e => (if negative then "-" else "") ++ String.ofList (finiteText c e)

end Decimal

end FluentSql.Number
