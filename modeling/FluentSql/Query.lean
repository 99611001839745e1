import FluentSql.Value.Members

/-!
# Queries

The shape of one query, as it is gathered call by call: a table, a projection, filters, sort terms,
a limit, an offset, and whether duplicates are left out. `bindings` holds, filter by filter, the
value that a statement binds.

A query holds values as they came. What they are in a query that was gathered through the guards is
a matter of the calls (`FluentSql.Builder`), not of this type.
-/

namespace FluentSql

/-- A condition on the rows: a column, an operator and the value to compare with. -/
structure Filter where
  column : Value
  operator : Value
  value : Value
deriving Repr, Inhabited

/-- The direction of a sort term that names none. -/
def usualDirection : Value := .text "asc"

/-- A term of the order of the rows. -/
structure SortTerm where
  column : Value
  direction : Value := usualDirection
deriving Repr, Inhabited

/-- A query. A table of the empty text means that none is selected. -/
structure Query where
  table : Value := .text ""
  columns : Value := .list [.text "*"]
  filters : List Filter := []
  orders : List SortTerm := []
  limit : Value := .null
  offset : Value := .null
  distinct : Value := .bool false
  bindings : Value := .list []
deriving Repr, Inhabited

/-- A collection with a value added at the end, for the kinds of collections that can grow. -/
def Value.append (v new : Value) : Except Mismatch Value :=
  match v with
  | .collection .list members => .ok (.collection .list (members ++ [new]))
  | .collection .deque members => .ok (.collection .deque (members ++ [new]))
  | v => .error (.noFunction v.kindName "append")

namespace Query

/-- Add a filter, and then the value that is bound for it. If the bindings cannot grow, the filter
has been added all the same. -/
def addFilter (q : Query) (f : Filter) (binding : Value) : Query × Except Fault Unit :=
  let q := { q with filters := q.filters ++ [f] }
  match q.bindings.append binding with
  | .ok bindings => ({ q with bindings }, .ok ())
  | .error m => (q, .error (.mismatch m))

/-- The query as it was before anything but its table was set. -/
def reset (q : Query) : Query :=
  { table := q.table }

/-- The query once its bindings have been read: a stream of bindings is then empty. -/
def drained (q : Query) : Query :=
  match q.bindings with
  | .collection .stream _ => { q with bindings := .collection .stream [] }
  | _ => q

end Query

/-- Two filters are the same for a caller. -/
def Filter.same (f g : Filter) : Bool :=
  f.column.same g.column && f.operator.same g.operator && f.value.same g.value

/-- Two sort terms are the same for a caller. -/
def SortTerm.same (s t : SortTerm) : Bool :=
  s.column.same t.column && s.direction.same t.direction

/-- Two lists agree place by place. -/
def agree {α : Type} (same : α → α → Bool) : List α → List α → Bool
  | [], [] => true
  | a :: as, b :: bs => same a b && agree same as bs
  | _, _ => false

/-- Two queries are the same for a caller. -/
def Query.same (q r : Query) : Bool :=
  q.table.same r.table && q.columns.same r.columns && agree Filter.same q.filters r.filters &&
    agree SortTerm.same q.orders r.orders && q.limit.same r.limit && q.offset.same r.offset &&
    q.distinct.same r.distinct && q.bindings.same r.bindings

end FluentSql
