import FluentSql.Calendar
import FluentSql.Number.Decimal

/-!
# Values

The values that callers hand over, that statements bind, and that rows hold. A query is gathered
from whatever it is given, so there is one type for all of them, and it is the guards that say which
values may stand where.

Collections differ in kind only: what is ordered, what can be a key and how a collection is shown
are functions of `Collection`. A stream is a collection whose members can be read once. A record is
an instance of a row model: its declared fields in the order of the model, further entries that the
model keeps, and the names that were given explicitly.

`kindName` is the full name of a value's kind and `shortName` the name without what qualifies it.
-/

namespace FluentSql

open FluentSql.Number FluentSql.Calendar

/-- The kinds of collections. -/
inductive Collection where
  | list
  | tuple
  | deque
  | set
  | frozenSet
  | stream
deriving Repr, DecidableEq, Inhabited

/-- A value. -/
inductive Value where
  | null
  | bool (b : Bool)
  | int (n : Int)
  | float (x : Binary64)
  | text (s : String)
  /-- A byte string. -/
  | bytes (data : List UInt8)
  /-- A byte string that can change. -/
  | buffer (data : List UInt8)
  | collection (kind : Collection) (members : List Value)
  /-- The integers from `start`, in steps of `step`, before `stop`. -/
  | range (start stop step : Int)
  | dictionary (entries : List (Value × Value))
  | date (d : Date)
  | dateTime (t : DateTime)
  | time (t : TimeOfDay)
  | duration (d : Duration)
  | decimal (d : Decimal)
  /-- A universally unique identifier, by its 128 bits. -/
  | uuid (bits : Nat)
  /-- An instance of a row model. -/
  | record (model : String) (fields extras : List (String × Value)) (given : List String)
deriving Repr, Inhabited

namespace Value

/-- A list of values. -/
abbrev list (members : List Value) : Value := .collection .list members

/-- A tuple of values. -/
abbrev tuple (members : List Value) : Value := .collection .tuple members

/-- A list of texts. -/
def texts (ss : List String) : Value := .list (ss.map .text)

end Value

/-! ### Names of kinds -/

/-- The full name of a kind of collection. -/
def Collection.kindName : Collection → String
  | .list => "list"
  | .tuple => "tuple"
  | .deque => "collections.deque"
  | .set => "set"
  | .frozenSet => "frozenset"
  | .stream => "generator"

/-- The full name of the kind of a value. -/
def Value.kindName : Value → String
  | .null => "NoneType"
  | .bool _ => "bool"
  | .int _ => "int"
  | .float _ => "float"
  | .text _ => "str"
  | .bytes _ => "bytes"
  | .buffer _ => "bytearray"
  | .collection kind _ => kind.kindName
  | .range .. => "range"
  | .dictionary _ => "dict"
  | .date _ => "datetime.date"
  | .dateTime _ => "datetime.datetime"
  | .time _ => "datetime.time"
  | .duration _ => "datetime.timedelta"
  | .decimal _ => "decimal.Decimal"
  | .uuid _ => "UUID"
  | .record model .. => model

/-- The name of the kind of a value, without what qualifies it. -/
def Value.shortName : Value → String
  | .collection .deque _ => "deque"
  | .date _ => "date"
  | .dateTime _ => "datetime"
  | .time _ => "time"
  | .duration _ => "timedelta"
  | .decimal _ => "Decimal"
  | v => v.kindName

/-! ### Ranges -/

/-- How many integers a range holds. -/
def rangeLength (start stop step : Int) : Nat :=
  if 0 < step then ((stop - start + step - 1) / step).toNat
  else if step < 0 then ((start - stop - step - 1) / (-step)).toNat
  else 0

/-- The integers of a range. -/
def rangeMembers (start stop step : Int) : List Int :=
  (List.range (rangeLength start stop step)).map fun (i : Nat) ↦ start + i * step

end FluentSql
