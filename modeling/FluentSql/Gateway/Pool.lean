import FluentSql.Gateway.Event
import FluentSql.Settings
import FluentSql.Value.Members

/-!
# A pool of connections

A gateway that holds at most one pool and takes a connection from it for every statement. `connect`
makes a pool and opens it, and holds it only once the opening has succeeded; `disconnect` lets go
of the pool first and closes it then. A connection that was taken goes back in any case, and the
pool is told the class of the failure, if there was one: of the statement, of the reading of its
rows, or of the parameters, which are only looked at once there is a connection.

Of several columns of one name the first keeps its place and the last gives the value.
-/

namespace FluentSql.Gateway

open FluentSql FluentSql.Number

/-- A gateway that shares a pool. `held` is the number of the pool, if there is one, and `count` the
number of pools that have been made. -/
structure Pool where
  settings : PoolSettings
  script : Script := {}
  held : Option Nat := none
  count : Nat := 0
  trace : List Event := []
  log : List LogRecord := []

/-- The options of a pool; it is made closed. -/
def poolOptions (s : PoolSettings) : List (String × Value) :=
  [("conninfo", .text s.dsn), ("max_size", .int s.maxSize), ("min_size", .int s.minSize),
    ("open", .bool false), ("timeout", .float s.timeout)]

/-- The options of the connections of a pool: each statement commits on its own, marks reach the
server as they are, and rows are dictionaries. -/
def pooledOptions : List (String × Value) :=
  [("autocommit", .bool true), ("cursor_factory", .text "AsyncRawCursor"),
    ("row_factory", .text "dict_row")]

/-- The options of an opening: it waits until the pool has its connections at rest. -/
def openOptions (s : PoolSettings) : List (String × Value) :=
  [("timeout", .float s.timeout), ("wait", .bool true)]

namespace Pool

/-- Record some events. -/
def note (p : Pool) (events : List Event) : Pool :=
  { p with trace := p.trace ++ events }

/-- Write a line to the log. -/
def report (p : Pool) (message : String) : Pool :=
  { p with log := p.log ++ [⟨"INFO", "chainql.drivers.postgres", message⟩] }

/-- Make and open a pool and hold it, unless the opening fails. -/
def openNew (p : Pool) : Except Fault Value × Pool :=
  let (failure, script) := p.script.nextOpen
  let p' := { p with script, count := p.count + 1 }.note
    [.built p.count (poolOptions p.settings) pooledOptions,
      .poolOpened p.count (openOptions p.settings)]
  match failure with
  | some f => (.error f.fault, p')
  | none =>
    (.ok .null, { p' with held := some p.count }.report
      ("PostgreSQL pool opened (min_size=" ++ writeInteger p.settings.minSize ++ ", max_size=" ++
        writeInteger p.settings.maxSize ++ ")"))

/-- Be connected. -/
def connect (p : Pool) : Except Fault Value × Pool :=
  match p.held with
  | some _ => (.ok .null, p)
  | none => p.openNew

/-- Close a pool. -/
def closeOld (p : Pool) (id : Nat) : Except Fault Value × Pool :=
  let (failure, script) := p.script.nextClose
  let p := { p with script }.note [.closed id]
  match failure with
  | some f => (.error f.fault, p)
  | none => (.ok .null, p.report "PostgreSQL pool closed")

/-- Be disconnected. -/
def disconnect (p : Pool) : Except Fault Value × Pool :=
  match p.held with
  | none => (.ok .null, p)
  | some id => { p with held := none }.closeOld id

/-- A row as a dictionary from the names of its columns. -/
def rowOf (columns : List String) (row : List Value) : Value :=
  .dictionary (dictionaryOf ((columns.map Value.text).zip row))

/-- Run a statement on a connection that has been taken from the pool. Only a statement that has
columns has rows to read. -/
def runStatement (p : Pool) (id : Nat) (sql : Value) (params : List Value) :
    Except Fault Value × Pool :=
  let (response, script) := p.script.nextResponse
  let p := { p with script }.note [.executed id sql params]
  match response.failure, response.columns with
  | some f, _ => (.error f.fault, p)
  | none, none => (.ok (.list []), p)
  | none, some columns =>
    let p := p.note [.fetched id]
    match response.fetchFailure with
    | some f => (.error f.fault, p)
    | none => (.ok (.list (response.rows.map (rowOf columns))), p)

/-- The class of the failure in a result. -/
def failureClass : Except Fault Value → Option String
  | .ok _ => none
  | .error f => some f.className

/-- Give a connection back. -/
def release (id : Nat) (run : Except Fault Value × Pool) : Except Fault Value × Pool :=
  (run.1, run.2.note [.released id (failureClass run.1)])

/-- The fault of a gateway that is not connected. -/
def notConnected : Fault := .notConnected (.text "PostgresDriver")

/-- Run a statement. -/
def execute (p : Pool) (sql params : Value) : Except Fault Value × Pool :=
  match p.held with
  | none => (.error notConnected, p)
  | some id =>
    let (failure, script) := p.script.nextAcquire
    let p := { p with script }.note [.acquired id]
    match failure with
    | some f => (.error f.fault, p)
    | none =>
      release id <|
        match params.members with
        | .error m => (.error (.mismatch m), p)
        | .ok values => p.runStatement id sql values

end Pool

end FluentSql.Gateway
