import FluentSql.Value.Members

/-!
# Coercion of field values

What a field of a row model makes of the value it is given. Fields hold texts, integers or binary64
numbers; each kind takes some values of other kinds that mean the same, and refuses the rest by a
cause that tells whether the kind or the content is at fault.

A text becomes an integer if it is a whole number in decimal notation, with a fraction of zeros at
most. A floating-point number becomes an integer only inside the 64-bit range, while decimals and
texts may be of any size.
-/

namespace FluentSql.Model

open FluentSql.Text FluentSql.Number

/-- The text that bytes encode in UTF-8. -/
def decodeUtf8? (data : List UInt8) : Option String :=
  String.fromUTF8? (ByteArray.mk data.toArray)

/-- The whole number that a text denotes. -/
def readWhole? (s : List Char) : Option Int :=
  let (negative, body) := splitSign (trim isSpacing s)
  let inRun := fun c ↦ c == '_' || c.isDigit
  let run := body.takeWhile inRun
  let digits := run.filter Char.isDigit
  let zeroFraction :=
    match body.dropWhile inRun with
    | [] => true
    | '.' :: fraction => fraction.all (· == '0')
    | _ => false
  if digits.isEmpty || run.head? == some '_' || !underscoresSeparate run || !zeroFraction then none
  else some (signed negative (Nat.ofDigitChars 10 digits 0))

/-- The integer that a quotient is. -/
def wholeRatio (num : Int) (den : Nat) : Except IssueCause Int :=
  if num % den == 0 then .ok (num / den) else .error .integerFraction

/-- A value as a text. -/
def toText : Value → Except IssueCause String
  | .text s => .ok s
  | .bytes data | .buffer data =>
    match decodeUtf8? data with
    | some s => .ok s
    | none => .error .textEncoding
  | _ => .error .textKind

/-- An integer from a floating-point number must lie strictly inside the 64-bit range. -/
def inWordRange (n : Int) : Except IssueCause Int :=
  if -0x8000000000000000 < n && n < 0x8000000000000000 then .ok n else .error .integerSize

/-- A text as an integer. -/
def textToInteger (s : String) : Except IssueCause Int :=
  match readWhole? s.toList with
  | some n => .ok n
  | none => .error .integerText

/-- A value as an integer. -/
def toInteger : Value → Except IssueCause Int
  | .int n => .ok n
  | .bool b => .ok (if b then 1 else 0)
  | .float x =>
    match x.ratio? with
    | some (num, den) => wholeRatio num den >>= inWordRange
    | none => .error .notFinite
  | .decimal d =>
    match d.ratio? with
    | some (num, den) => wholeRatio num den
    | none => .error .notFinite
  | .text s => textToInteger s
  | .bytes data =>
    match decodeUtf8? data with
    | some s => textToInteger s
    | none => .error .integerText
  | _ => .error .integerKind

/-- A text as a binary64 number. -/
def textToNumber (s : String) : Except IssueCause Binary64 :=
  match Binary64.read? s.toList with
  | some x => .ok x
  | none => .error .numberText

/-- A value as a binary64 number. An integer beyond the range of the finite numbers is none. -/
def toNumber : Value → Except IssueCause Binary64
  | .float x => .ok x
  | .bool b => .ok (Binary64.ofInt (if b then 1 else 0))
  | .int n =>
    match Binary64.ofInt n with
    | .infinite _ => .error .numberKind
    | x => .ok x
  | .decimal d =>
    match d.toBinary64? with
    | some x => .ok x
    | none => .error .numberKind
  | .text s => textToNumber s
  | .bytes data =>
    match decodeUtf8? data with
    | some s => textToNumber s
    | none => .error .numberText
  | _ => .error .numberKind

end FluentSql.Model
