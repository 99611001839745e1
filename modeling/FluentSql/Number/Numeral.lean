import FluentSql.Text.Blank
import FluentSql.Text.Digit

/-!
# Integer numerals

Writing an integer in decimal, and reading one back. `writeInteger` is the plain notation: a minus
sign for a negative number, then the digits. `readInteger` is more generous: the numeral may be
surrounded by white space, carry a sign, have leading zeros, take its digits from any script, and
separate digits by single underscores. A numeral of more than `digitLimit` digits is refused, and
that refusal comes before the one for a text that goes on after the digits.
-/

namespace FluentSql.Number

open FluentSql.Text

/-- The decimal notation of an integer. -/
def writeInteger (n : Int) : String :=
  if n < 0 then "-" ++ n.natAbs.repr else n.natAbs.repr

/-- How many digits the magnitude of an integer has. -/
def digitCount (n : Int) : Nat :=
  (Nat.toDigits 10 n.natAbs).length

/-- How many digits a numeral may have. -/
def digitLimit : Nat := 4300

/-- Why a text is not read as an integer. -/
inductive NumeralRefusal where
  /-- The text is no numeral. -/
  | malformed
  /-- The numeral has more digits than `digitLimit`. -/
  | tooLong (digits : Nat)
deriving Repr, DecidableEq

/-- Each underscore of a run of digits stands between two digits. -/
def underscoresSeparate : List Char → Bool
  | [] => true
  | ['_'] => false
  | '_' :: '_' :: _ => false
  | _ :: rest => underscoresSeparate rest

/-- The sign in front of a numeral, as negative or not, and what follows it. -/
def splitSign : List Char → Bool × List Char
  | '-' :: rest => (true, rest)
  | '+' :: rest => (false, rest)
  | rest => (false, rest)

/-- The number that a row of digit values denotes. -/
def digitsValue (digits : List Nat) : Nat :=
  digits.foldl (fun n d ↦ 10 * n + d) 0

/-- An integer with the sign of a numeral. -/
def signed (negative : Bool) (n : Nat) : Int :=
  if negative then -n else n

/-- Read an integer. -/
def readInteger (s : List Char) : Except NumeralRefusal Int :=
  let (negative, body) := splitSign (s.dropWhile isSpacing)
  let inRun := fun c ↦ c == '_' || (digitValue? c).isSome
  let run := body.takeWhile inRun
  let digits := run.filterMap digitValue?
  if run.head? == some '_' || !underscoresSeparate run then .error .malformed
  else if digitLimit < digits.length then .error (.tooLong digits.length)
  else if digits.isEmpty || !(body.dropWhile inRun).all isSpacing then .error .malformed
  else .ok (signed negative (digitsValue digits))

end FluentSql.Number
