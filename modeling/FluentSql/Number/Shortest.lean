import FluentSql.Number.Binary64

/-!
# Shortest decimal notation

The text of a binary64 number has the fewest digits that read back as the same number, and of the
texts with that many digits it is the nearest to it, the one with an even last digit if two are
equally near. The decimals with a last digit at `10 ^ k`
form a grid; if a point of the grid reads back, then so does one of the two neighbours of the number
on it, so it is enough to try those two, from the coarsest grid to finer ones.

Notation is positional for numbers from `0.0001` up to, and without, `10 ^ 16`, and always shows a
fraction; otherwise it is scientific, with a sign and at least two digits in the exponent.
-/

namespace FluentSql.Number

namespace Binary64

/-- A positive finite number and the ends of the interval that reads back as it, as multiples of
`2 ^ (exponent - 2)`: the lower end, the number, the upper end. -/
def readingInterval (m : Nat) (e : Int) : Nat × Nat × Nat :=
  (if m == Nat.pow 2 52 && minExponent < e then 4 * m - 1 else 4 * m - 2, 4 * m, 4 * m + 2)

/-- The point of the grid of step `10 ^ k` that reads back as `m * 2 ^ e` and is nearest to it, as a
multiple of the step. -/
def gridPoint? (m : Nat) (e k : Int) : Option Nat :=
  let (low, value, high) := readingInterval m e
  let unit := Nat.pow 2 (e - 2).toNat * Nat.pow 10 (-k).toNat
  let step := Nat.pow 10 k.toNat * Nat.pow 2 (2 - e).toNat
  let (low, value, high) := (low * unit, value * unit, high * unit)
  let inside := fun p ↦
    if m % 2 == 0 then low ≤ p && p ≤ high else low < p && p < high
  let below := value / step
  let above := below + 1
  match inside (below * step), inside (above * step) with
  | true, true =>
    let twice := 2 * (value - below * step)
    some (if twice < step then below else if step < twice then above else below + below % 2)
  | true, false => some below
  | false, true => some above
  | false, false => none

/-- The first grid with a point that reads back, from the one of step `10 ^ k` on: the point and
the exponent of its step. -/
def firstPoint (m : Nat) (e : Int) : Nat → Int → Nat × Int
  | 0, k => (0, k)
  | fuel + 1, k =>
    match gridPoint? m e k with
    | some p => (p, k)
    | none => firstPoint m e fuel (k - 1)

/-- The exponent of a power of ten that is not below a positive quotient, and is at most two places
above its first digit. Below one the binary magnitude is scaled down by a little less than the
decimal logarithm of two. -/
def gridStart (num den : Nat) : Int :=
  if num < den then -((den / num).log2 * 30102 / 100000 : Nat)
  else (Nat.toDigits 10 (num / den)).length

/-- The shortest decimal `p * 10 ^ k` that reads back as a positive finite number. Seventeen digits
always suffice, and the first of them is at most two places below the start. -/
def shortest (m : Nat) (e : Int) : Nat × Int :=
  firstPoint m e 24 (gridStart (m * Nat.pow 2 e.toNat) (Nat.pow 2 (-e).toNat))

/-- The digits with a point after the first `point` of them, filled up with zeros. -/
def positional (digits : List Char) (point : Int) : List Char :=
  if point ≤ 0 then '0' :: '.' :: List.replicate (-point).toNat '0' ++ digits
  else
    let whole := digits.take point.toNat
    let fraction := digits.drop point.toNat
    whole ++ List.replicate (point.toNat - digits.length) '0' ++
      '.' :: (if fraction.isEmpty then ['0'] else fraction)

/-- The digits with a point after the first one and the exponent behind them. -/
def scientific (digits : List Char) (exponent : Int) : List Char :=
  let power := Nat.toDigits 10 exponent.natAbs
  digits.take 1 ++ (if digits.length ≤ 1 then [] else '.' :: digits.drop 1) ++
    'e' :: (if exponent < 0 then '-' else '+') ::
      (List.replicate (2 - power.length) '0' ++ power)

/-- The text of a number without its sign. -/
def magnitudeText (m : Nat) (e : Int) : List Char :=
  if m == 0 then "0.0".toList
  else
    let (p, k) := shortest m e
    let digits := Nat.toDigits 10 p
    let point := digits.length + k
    if -4 < point && point ≤ 16 then positional digits point
    else scientific digits (point - 1)

/-- The text of a number. -/
def text : Binary64 → String
  | .nan => "nan"
  | .infinite false => "inf"
  | .infinite true => "-inf"
  | .finite negative m e =>
    String.ofList ((if negative then ['-'] else []) ++ magnitudeText m e)

end Binary64

end FluentSql.Number
