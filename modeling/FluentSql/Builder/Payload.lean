import FluentSql.Builder

/-!
# Payloads and rows

The data that go into a statement and the data that come back. A payload is a dictionary of columns
and values, read from a dictionary, from pairs, or from an instance of a row model, of which it
takes the entries that were given. It must not be empty, and its keys must have the shape of
columns. A row comes back as an instance of the builder's model, or as a dictionary if there is
none.
-/

namespace FluentSql

/-- Data as a dictionary: what was given to an instance, or the entries of anything else. -/
def Value.asPayload : Value → Except Mismatch (List (Value × Value))
  | .record model fields extras given =>
    match (Value.record model fields extras given).plain with
    | .dictionary entries => .ok entries
    | v => .error (.notIterable v.kindName)
  | v => v.entries

/-- The first of some keys that is no column is refused. -/
def checkKeys : List Value → Except Fault Unit
  | [] => .ok ()
  | k :: rest => do
    let _ ← Guard.column k
    checkKeys rest

/-- The payload of an operation. -/
def payload (operation : String) (data : Value) : Except Fault (List (Value × Value)) := do
  match data.asPayload with
  | .error m => throw (.mismatch m)
  | .ok entries =>
    if entries.isEmpty then throw (.misuse (.emptyPayload (.text operation)))
    checkKeys (entries.map Prod.fst)
    return entries

/-- A row as an instance of the model, or as a dictionary. -/
def readRow (model : Option RowModel) (row : Value) : Except Fault Value :=
  match row.entries with
  | .error m => .error (.mismatch m)
  | .ok entries =>
    match model with
    | some m => m.validate entries
    | none => .ok (.dictionary entries)

/-- All rows, up to the first that does not fit. -/
def readRows (model : Option RowModel) : List Value → Except Fault (List Value)
  | [] => .ok []
  | row :: rest => do
    let v ← readRow model row
    let vs ← readRows model rest
    return v :: vs

/-- The name of the column that a count comes back in. -/
def countColumn : String := "count"

/-- The count in a row. The row must be looked up by names as it came. -/
def countCell (row : Value) : Except Mismatch Value :=
  match row with
  | .dictionary entries =>
    match lookupKey? (.text countColumn) entries with
    | some v => .ok v
    | none => .error (.missingKey countColumn)
  | .text _ | .bytes _ | .buffer _ | .range .. => .error (.numberedPlaces row.kindName)
  | .collection .list _ | .collection .tuple _ | .collection .deque _ =>
    .error (.numberedPlaces row.kindName)
  | _ => .error (.notSubscriptable row.kindName)

/-- The text of a count. An integer has one unless its numeral would have too many digits. -/
def countText (cell : Value) : Except Mismatch String :=
  match cell with
  | .int n =>
    if Number.digitLimit < Number.digitCount n then .error .integerTooLong else .ok cell.display
  | _ => .ok cell.display

/-- The integer that the text of a count denotes as a numeral. -/
def readCount (text : String) : Except Mismatch Int :=
  match Number.readInteger text.toList with
  | .ok n => .ok n
  | .error .malformed => .error (.notNumeral text)
  | .error (.tooLong digits) => .error (.numeralTooLong digits)

/-- The integer that a count denotes: the text of the count, read as a numeral. -/
def countValue (cell : Value) : Except Mismatch Int :=
  countText cell >>= readCount

end FluentSql
