import FluentSql.Dialect

/-!
# Statements

The SQL of queries and payloads. A statement is a text with marks in it and the values that belong
to the marks, in order. Values never become part of the text.

The marks of a statement are numbered from one, in the order in which they stand in it: an update
numbers its assignments first, and its filters go on from there (`whereClause` takes the number of
marks before it). The clauses of a read stand in a fixed order.

Nothing is checked here beyond what is needed to write the text: columns must be texts, and a
direction must have capitals.
-/

namespace FluentSql

open FluentSql.Number

/-- A text with marks, and the values of the marks. -/
structure Statement where
  sql : String
  values : List Value
deriving Repr

namespace Statement

/-- The label of the mark with a number. -/
def label (n : Int) : String := writeInteger n

/-- The marks with the numbers after `before`. -/
def marks (d : Dialect) (before : Int) : Nat → List String
  | 0 => []
  | count + 1 => d.mark (label (before + 1)) :: marks d (before + 1) count

/-! ### Clauses -/

/-- What is read, and from where. An empty projection reads everything. -/
def selectClause (distinct : Bool) (table columns : Value) : Except Mismatch String := do
  let count ← columns.length
  let names ← if count == 0 then .ok "*" else columns.commaJoined
  return "SELECT " ++ (if distinct then "DISTINCT " else "") ++ names ++ " FROM " ++ table.display

/-- The filters in SQL, with the numbers after `before`. -/
def predicates (d : Dialect) (before : Int) : List Filter → List String
  | [] => []
  | f :: rest => d.filterText f (label (before + 1)) :: predicates d (before + 1) rest

/-- The conditions, numbered after `before`; nothing if there are none. -/
def whereClause (d : Dialect) (before : Int) (filters : List Filter) : String :=
  if filters.isEmpty then ""
  else " WHERE " ++ " AND ".intercalate (predicates d before filters)

/-- A value as the number of a place, if it is an integer. -/
def position (v : Value) : Except Mismatch Int :=
  match v with
  | .int n => .ok n
  | .bool b => .ok (if b then 1 else 0)
  | v => .error (.noSum v.kindName "int")

/-- The conditions, numbered after a value. If there are none, the value does not matter. -/
def whereClauseAfter (d : Dialect) (before : Value) (filters : List Filter) :
    Except Mismatch String :=
  if filters.isEmpty then .ok ""
  else (position before).map fun n ↦ whereClause d n filters

/-- A sort term in SQL. -/
def sortTerm (t : SortTerm) : Except Mismatch String :=
  match t.direction.capitals? with
  | some word => .ok (t.column.display ++ " " ++ word)
  | none => .error (.noFunction t.direction.kindName "upper")

/-- The order; nothing if there is none. -/
def orderClause (orders : List SortTerm) : Except Mismatch String :=
  if orders.isEmpty then .ok ""
  else do
    let terms ← orders.mapM sortTerm
    return " ORDER BY " ++ ", ".intercalate terms

/-- A keyword and a value, unless the value is null. -/
def boundClause (keyword : String) (v : Value) : String :=
  match v with
  | .null => ""
  | v => " " ++ keyword ++ " " ++ v.display

/-- The columns of a payload set to marks, with the numbers after `before`. -/
def assignments (d : Dialect) (before : Int) : List (Value × Value) → List String
  | [] => []
  | (k, _) :: rest =>
    (k.display ++ " = " ++ d.mark (label (before + 1))) :: assignments d (before + 1) rest

/-! ### Whole statements -/

/-- Read the rows of a query. -/
def read (d : Dialect) (q : Query) : Except Mismatch Statement := do
  let select ← selectClause q.distinct.truthy q.table q.columns
  let order ← orderClause q.orders
  let values ← q.bindings.members
  return {
    sql := select ++ whereClause d 0 q.filters ++ order ++ boundClause "LIMIT" q.limit ++
      boundClause "OFFSET" q.offset
    values }

/-- Count the rows of a table that pass the filters. -/
def count (d : Dialect) (table : Value) (filters : List Filter) : String :=
  "SELECT COUNT(*) as count FROM " ++ table.display ++ whereClause d 0 filters

/-- Delete the rows of a table that pass the filters. -/
def delete (d : Dialect) (table : Value) (filters : List Filter) : String :=
  "DELETE FROM " ++ table.display ++ whereClause d 0 filters

/-- Insert a row and read it back. -/
def insert (d : Dialect) (table : Value) (payload : List (Value × Value)) :
    Except Mismatch Statement := do
  let keys ← textsFrom 0 (payload.map Prod.fst)
  return {
    sql := "INSERT INTO " ++ table.display ++ " (" ++ ", ".intercalate keys ++ ") VALUES (" ++
      ", ".intercalate (marks d 0 payload.length) ++ ") RETURNING *"
    values := payload.map Prod.snd }

/-- Set columns in the rows of a table that pass the filters. The values are those of the
assignments only; the values of the filters follow them. -/
def update (d : Dialect) (table : Value) (payload : List (Value × Value)) (filters : List Filter) :
    Statement :=
  { sql := "UPDATE " ++ table.display ++ " SET " ++ ", ".intercalate (assignments d 0 payload) ++
      whereClause d payload.length filters
    values := payload.map Prod.snd }

/-- The entries of a value that is a dictionary. -/
def mapping : Value → Except Mismatch (List (Value × Value))
  | .dictionary entries => .ok entries
  | v => .error (.noFunction v.kindName "keys")

end Statement

end FluentSql
