import FluentSql.Value
import FluentSql.Text.Quoted
import FluentSql.Number.Shortest

/-!
# Texts of values

Two texts of a value. `literal` shows how the value is written: texts stand in quotes, and
calendar data and decimals show how they are built. `display` is the text itself for a text, the
plain notation for calendar data, decimals and identifiers, and the literal for everything else.
Inside a collection members always appear by their literals.
-/

namespace FluentSql

open FluentSql.Text FluentSql.Number FluentSql.Calendar

/-- An identifier in its canonical form: five groups of small hexadecimal digits. -/
def uuidText (bits : Nat) : String :=
  let digits := hexDigits 32 bits
  let group := fun start count ↦ String.ofList ((digits.drop start).take count)
  "-".intercalate [group 0 8, group 8 4, group 12 4, group 16 4, group 20 12]

/-- A text between two others. -/
def between (left right s : String) : String :=
  left ++ s ++ right

/-- The literal of a collection with the given literals of its members. A set without members has
no notation of its own, and a tuple of one member keeps a comma. -/
def Collection.literal (kind : Collection) (members : List String) : String :=
  let inside := ", ".intercalate members
  match kind with
  | .list => between "[" "]" inside
  | .tuple => if members.length == 1 then between "(" ",)" inside else between "(" ")" inside
  | .deque => between "deque([" "])" inside
  | .set => if members.isEmpty then "set()" else between "\x7b" "\x7d" inside
  | .frozenSet =>
    if members.isEmpty then "frozenset()" else between "frozenset(\x7b" "\x7d)" inside
  | .stream => "<generator object>"

/-- The literal of a range: the step only if it is not one. -/
def rangeLiteral (start stop step : Int) : String :=
  callText "range"
    ([writeInteger start, writeInteger stop] ++ if step == 1 then [] else [writeInteger step])

mutual

/-- How a value is written. -/
def Value.literal : Value → String
  | .null => "None"
  | .bool b => if b then "True" else "False"
  | .int n => writeInteger n
  | .float x => x.text
  | .text s => quoted s
  | .bytes data => quotedBytes data
  | .buffer data => callText "bytearray" [quotedBuffer data]
  | .collection kind members => kind.literal (literals members)
  | .range start stop step => rangeLiteral start stop step
  | .dictionary entries => between "\x7b" "\x7d" (", ".intercalate (entryLiterals entries))
  | .date d => d.call
  | .dateTime t => t.call
  | .time t => t.call
  | .duration d => d.call
  | .decimal d => callText "Decimal" [quoted d.text]
  | .uuid bits => callText "UUID" [quoted (uuidText bits)]
  | .record model fields extras _ =>
    callText model (fieldLiterals fields ++ fieldLiterals extras)

/-- The literals of a list of values. -/
def literals : List Value → List String
  | [] => []
  | v :: rest => v.literal :: literals rest

/-- The literals of the entries of a dictionary. -/
def entryLiterals : List (Value × Value) → List String
  | [] => []
  | (k, v) :: rest => (k.literal ++ ": " ++ v.literal) :: entryLiterals rest

/-- The literals of named values. -/
def fieldLiterals : List (String × Value) → List String
  | [] => []
  | (name, v) :: rest => (name ++ "=" ++ v.literal) :: fieldLiterals rest

end

/-- The text of a value. -/
def Value.display : Value → String
  | .text s => s
  | .date d => d.isoText
  | .dateTime t => t.isoText " "
  | .time t => t.isoText
  | .duration d => d.text
  | .decimal d => d.text
  | .uuid bits => uuidText bits
  | .record _ fields extras _ =>
    " ".intercalate (fieldLiterals fields ++ fieldLiterals extras)
  | v => v.literal

end FluentSql
