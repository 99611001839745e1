import FluentSql.Column
import FluentSql.Text.Blank
import FluentSql.Value.Members

/-!
# Guards

The checks between a caller and a query. Each takes what it was given, whatever kind of value that
is, and either returns what the query will hold or names the misuse.

Operators and directions are words from two short lists, which are met up to letter case and blanks
at the ends; what is returned is the word as the list spells it. A membership test takes a
collection that can be read more than once, or a range or a changeable byte string, which can be
too; a text is refused although it has members.
-/

namespace FluentSql.Guard

open FluentSql.Text

/-- The operators of a filter. -/
def allowedOperators : List String :=
  ["=", "!=", "<>", "<", "<=", ">", ">=", "LIKE", "ILIKE", "IN"]

/-- The directions of a sort term. -/
def directions : List String :=
  ["asc", "desc"]

/-- The operator that tests for membership. -/
def membership : String := "IN"

/-- An operator, in capitals and without blanks around it. A value that is no text has neither, a
byte string apart, which is never an operator. -/
def operator (given : Value) : Except Fault Value :=
  let refused := .error (.misuse (.operator given (.texts allowedOperators)))
  match given with
  | .text s =>
    let word := upper (strip s)
    if allowedOperators.contains word then .ok (.text word) else refused
  | .bytes _ | .buffer _ => refused
  | v => .error (.mismatch (.noFunction v.kindName "strip"))

/-- A column. -/
def column (given : Value) : Except Fault Value :=
  match given with
  | .text s =>
    if Column.isColumn s.toList then .ok given
    else .error (.misuse (.identifier given))
  | v => .error (.misuse (.identifier (.text v.display)))

/-- A direction, in small letters and without blanks around it. -/
def direction (given : Value) : Except Fault Value :=
  let word := lower (strip given.display)
  if directions.contains word then .ok (.text word)
  else .error (.misuse (.direction (.text given.display)))

/-- A limit or an offset: a natural number. The clause is named in capitals, so its name must be a
value that has capitals. -/
def pagination (clause given : Value) : Except Fault Value :=
  let refused :=
    match clause.capitals? with
    | some _ => .error (.misuse (.pagination clause given))
    | none => .error (.mismatch (.noFunction clause.kindName "upper"))
  match given with
  | .int n => if 0 ≤ n then .ok given else refused
  | _ => refused

/-- The values that a membership test accepts. -/
def isMembershipList : Value → Bool
  | .collection .stream _ => false
  | .collection .. | .range .. | .buffer _ => true
  | _ => false

/-- A value for an operator. -/
def value (column op given : Value) : Except Fault Unit :=
  if op.same (.text membership) && !isMembershipList given then
    .error (.misuse
      (.value column op (.text "IN expects a list, tuple or set of values.") none))
  else .ok ()

end FluentSql.Guard
