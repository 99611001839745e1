import FluentSql.Builder.Payload
import FluentSql.Statement

/-!
# Terminal calls

A terminal call sends one statement and answers with what came back. It has two halves, between
which the statement is on its way.

* `Builder.prepare` checks that there is a table, checks the payload, and compiles the statement. If
  any of that fails, nothing is sent.
* `Builder.absorb` takes the reply and makes the answer of it.

However a call ends, the query of its builder is then reset: by `prepare` if nothing is sent, and by
`absorb` otherwise. So the next query of a builder never inherits anything but the table.

`Builder.run` joins the two halves over anything that executes requests, and `Builder.createMany`
inserts one item after the other, each by a call of its own.
-/

namespace FluentSql

/-- A call that sends one statement. -/
inductive Terminal where
  /-- Read all rows. -/
  | get
  /-- Read the first row. -/
  | first
  /-- Count the rows. -/
  | count
  /-- Insert a row. -/
  | create (data : Value)
  /-- Set columns of the rows. -/
  | update (data : Value)
  /-- Delete the rows. -/
  | delete
deriving Repr

/-- A statement on its way, with the values of all its marks. -/
structure Request where
  sql : String
  params : List Value
deriving Repr

/-- What the log says of a request. -/
def Request.logLine (r : Request) : String :=
  "Executing " ++ r.sql ++ " (" ++ r.params.length.repr ++ " bindings)"

/-- The name that a call has in messages. Reading the first row is reading all rows of a query with
a limit. -/
def Terminal.operation : Terminal → String
  | .get | .first => "get"
  | .count => "count"
  | .create _ => "create"
  | .update _ => "update"
  | .delete => "delete"

/-- A mismatch as a fault. -/
def liftMismatch {α : Type} : Except Mismatch α → Except Fault α
  | .ok a => .ok a
  | .error m => .error (.mismatch m)

namespace Query

/-- The table of a query, which an operation needs. -/
def requireTable (q : Query) (operation : String) : Except Fault Value :=
  if q.table.truthy then .ok q.table
  else .error (.misuse (.noTable (.text operation)))

/-- The values that are bound for the filters of a query. -/
def bound (q : Query) : Except Fault (List Value) :=
  liftMismatch q.bindings.members

/-- The request of a call. -/
def request (q : Query) (d : Dialect) (op : Terminal) : Except Fault Request := do
  let table ← q.requireTable op.operation
  match op with
  | .get | .first =>
    let s ← liftMismatch (Statement.read d q)
    return { sql := s.sql, params := s.values }
  | .count => return { sql := Statement.count d table q.filters, params := ← q.bound }
  | .delete => return { sql := Statement.delete d table q.filters, params := ← q.bound }
  | .create data =>
    let entries ← payload op.operation data
    let s ← liftMismatch (Statement.insert d table entries)
    return { sql := s.sql, params := s.values }
  | .update data =>
    let entries ← payload op.operation data
    let s := Statement.update d table entries q.filters
    return { sql := s.sql, params := s.values ++ (← q.bound) }

end Query

/-- The answer of a call to the rows that came back. -/
def Terminal.answer (op : Terminal) (model : Option RowModel) (table : Value) (rows : List Value) :
    Except Fault Value :=
  match op with
  | .get | .update _ => (readRows model rows).map .list
  | .first => (readRows model rows).map fun vs ↦ vs.head?.getD .null
  | .count =>
    match rows with
    | [] => .ok (.int 0)
    | row :: _ => liftMismatch (countCell row >>= countValue) |>.map .int
  | .create _ =>
    match rows with
    | [] => .error (.missingReturning table)
    | row :: _ => readRow model row
  | .delete => .ok .null

namespace Builder

/-- The builder with its query reset. -/
def reset (b : Builder) : Builder :=
  { b with query := b.query.reset }

/-- The builder as a call finds it: reading the first row sets a limit of one. -/
def focus (b : Builder) : Terminal → Builder
  | .first => { b with query := { b.query with limit := .int 1 } }
  | _ => b

/-- The first half of a call. -/
def prepare (b : Builder) (op : Terminal) : Builder × Except Fault Request :=
  let b := b.focus op
  match b.query.request b.dialect op with
  | .ok r => (b, .ok r)
  | .error f => (b.reset, .error f)

/-- The rows of a reply. -/
def rowsOf (reply : Except Fault Value) : Except Fault (List Value) := do
  liftMismatch (← reply).members

/-- The second half of a call. -/
def absorb (b : Builder) (op : Terminal) (reply : Except Fault Value) :
    Builder × Except Fault Value :=
  (b.reset, rowsOf reply >>= op.answer b.model b.query.table)

/-- The end of a run over an executor with states in `σ`: the builder and the executor after it, the
requests that were sent, and the result. -/
structure Run (σ : Type) where
  builder : Builder
  state : σ
  sent : List Request
  result : Except Fault Value

/-- What executes requests: it replies, and goes on to another state. -/
abbrev Executor (σ : Type) := Request → σ → Except Fault Value × σ

variable {σ : Type}

/-- A whole call. -/
def run (execute : Executor σ) (b : Builder) (op : Terminal) (s : σ) : Run σ :=
  match b.prepare op with
  | (b, .error f) => { builder := b, state := s, sent := [], result := .error f }
  | (b, .ok r) =>
    let (reply, s) := execute r s
    let (b, result) := b.absorb op reply
    { builder := b, state := s, sent := [r], result }

/-- Insert some items one after the other, up to the first that fails; `created` are the rows of
those before. -/
def createEach (execute : Executor σ) (b : Builder) (s : σ) (created : List Value) :
    List Value → Run σ
  | [] => { builder := b, state := s, sent := [], result := .ok (.list created) }
  | item :: rest =>
    let one := b.run execute (.create item) s
    match one.result with
    | .error f => { one with result := .error f }
    | .ok row =>
      let others := createEach execute one.builder one.state (created ++ [row]) rest
      { others with sent := one.sent ++ others.sent }

/-- The items of an insertion of many, once there is a table. -/
def itemsToCreate (b : Builder) (items : Value) : Except Fault (List Value) := do
  let _ ← b.query.requireTable "create_many"
  liftMismatch items.members

/-- Insert many rows. -/
def createMany (execute : Executor σ) (b : Builder) (items : Value) (s : σ) : Run σ :=
  match b.itemsToCreate items with
  | .error f => { builder := b.reset, state := s, sent := [], result := .error f }
  | .ok members =>
    let all := createEach execute b s [] members
    { all with builder := all.builder.reset }

end Builder

end FluentSql
