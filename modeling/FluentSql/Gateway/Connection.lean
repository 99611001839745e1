import FluentSql.Gateway.Event
import FluentSql.Settings
import FluentSql.Value.Members

/-!
# A shared connection

A gateway that holds at most one connection and runs every statement on it. `connect` opens a
connection unless one is held, `disconnect` lets go of the connection first and closes it then, so
that the gateway is disconnected even if the closing fails, and `execute` refuses to run without a
connection.

Whatever touches the database is a job (`Job`), which a worker does while the caller waits for it.
`work` is what the worker does, and `conclude` what the caller does then: only the caller takes hold
of a connection that has been opened. `carryOut` is the two with nothing in between. What else can
happen in between is the matter of `FluentSql.Gateway.Tasks`.

A statement that got as far as a cursor closes it, whether or not its rows could be read. The value
of a column is looked up by the name of the column, and a look-up finds the first column of that
name, up to the case of ASCII letters: two columns whose names differ in case only give the value
of the first.
-/

namespace FluentSql.Gateway

open FluentSql

/-- A gateway that shares one connection. `held` is the number of the connection, if there is one,
and `count` the number of connections that have been asked for. -/
structure Connection where
  settings : ConnectionSettings
  script : Script := {}
  held : Option Nat := none
  count : Nat := 0
  trace : List Event := []
  log : List LogRecord := []

/-- What a worker does to a connection. -/
inductive Job where
  /-- It is opened. -/
  | opening (id : Nat)
  /-- A statement runs on it. -/
  | statement (id : Nat) (sql : Value) (params : List Value)
  /-- It is closed. -/
  | closing (id : Nat)
deriving Repr

/-- The options of a connection: it may be used from any thread, each statement commits on its own,
and a lock is waited for. -/
def connectionOptions (s : ConnectionSettings) : List (String × Value) :=
  [("check_same_thread", .bool false), ("isolation_level", .null), ("timeout", .float s.timeout)]

/-! ### Rows -/

/-- Two texts in ASCII are equal up to letter case, and other texts if they are equal. -/
def sameName (s t : String) : Bool :=
  let ascii := fun u : String ↦ u.toList.all fun c ↦ c.toNat < 128
  s == t || (ascii s && ascii t && s.toList.map Char.toLower == t.toList.map Char.toLower)

/-- The value of the first column with a name. -/
def cellNamed (columns : List String) (row : List Value) (name : String) : Value :=
  (((columns.zip row).find? fun c ↦ sameName c.1 name).map Prod.snd).getD .null

/-- A row as a dictionary from the names of its columns. -/
def rowByName (columns : List String) (row : List Value) : Value :=
  .dictionary (dictionaryOf (columns.map fun name ↦ (.text name, cellNamed columns row name)))

namespace Connection

/-- Record some events. -/
def note (c : Connection) (events : List Event) : Connection :=
  { c with trace := c.trace ++ events }

/-- Write a line to the log. -/
def report (c : Connection) (message : String) : Connection :=
  { c with log := c.log ++ [⟨"INFO", "chainql.drivers.sqlite", message⟩] }

/-- Open a connection. -/
def openOne (c : Connection) (id : Nat) : Except Fault Value × Connection :=
  let (failure, script) := c.script.nextOpen
  let opening := .opened id c.settings.database (connectionOptions c.settings)
  let c := { c with script }.note [opening]
  match failure with
  | some f => (.error f.fault, c)
  | none => (.ok .null, c)

/-- Close a connection. -/
def closeOne (c : Connection) (id : Nat) : Except Fault Value × Connection :=
  let (failure, script) := c.script.nextClose
  let c := { c with script }.note [.closed id]
  match failure with
  | some f => (.error f.fault, c)
  | none => (.ok .null, c)

/-- The rows of a response, or the failure to read them; a failure to close the cursor prevails. -/
def rowsOf (r : Response) : Except Fault Value :=
  match r.cursorFailure, r.fetchFailure with
  | some f, _ | none, some f => .error f.fault
  | none, none => .ok (.list (r.rows.map (rowByName (r.columns.getD []))))

/-- Run a statement on a connection. -/
def runStatement (c : Connection) (id : Nat) (sql : Value) (params : List Value) :
    Except Fault Value × Connection :=
  let (response, script) := c.script.nextResponse
  let c := { c with script }.note [.rowsNamed id, .executed id sql params]
  match response.failure with
  | some f => (.error f.fault, c)
  | none => (rowsOf response, c.note [.fetched id, .cursorClosed id])

/-- Do a job. -/
def work (c : Connection) : Job → Except Fault Value × Connection
  | .opening id => c.openOne id
  | .statement id sql params => c.runStatement id sql params
  | .closing id => c.closeOne id

/-- Go on when a job has been done: only a connection that has been opened is held. -/
def conclude (c : Connection) : Job → Except Fault Value → Connection
  | .opening id, .ok _ =>
    { c with held := some id }.report
      ("SQLite connection opened (database=" ++ c.settings.database ++ ")")
  | .closing _, .ok _ => c.report "SQLite connection closed"
  | _, _ => c

/-- Do a job and go on. -/
def carryOut (c : Connection) (job : Job) : Except Fault Value × Connection :=
  let (result, c) := c.work job
  (result, c.conclude job result)

/-- Be connected. -/
def connect (c : Connection) : Except Fault Value × Connection :=
  match c.held with
  | some _ => (.ok .null, c)
  | none => { c with count := c.count + 1 }.carryOut (.opening c.count)

/-- Be disconnected. -/
def disconnect (c : Connection) : Except Fault Value × Connection :=
  match c.held with
  | none => (.ok .null, c)
  | some id => { c with held := none }.carryOut (.closing id)

/-- The fault of a gateway that is not connected. -/
def notConnected : Fault := .notConnected (.text "SQLiteDriver")

/-- Run a statement. -/
def execute (c : Connection) (sql params : Value) : Except Fault Value × Connection :=
  match c.held with
  | none => (.error notConnected, c)
  | some id =>
    match params.members with
    | .error m => (.error (.mismatch m), c)
    | .ok values => c.carryOut (.statement id sql values)

end Connection

end FluentSql.Gateway
