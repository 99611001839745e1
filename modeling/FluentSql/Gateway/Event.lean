import FluentSql.Fault

/-!
# What reaches a database

A gateway hands statements to a database and brings rows back. What it does to the database is
recorded as a list of events, and what the database does in return is given beforehand as a script:
which calls fail, and what each statement replies. So a gateway is a function of its script, and
its conduct can be read off the events.

Connections and pools are numbered in the order in which they were asked for. Every event tells the
number of the connection or pool that it belongs to.
-/

namespace FluentSql.Gateway

/-- A call that reaches the database. -/
inductive Event where
  /-- A connection is opened. -/
  | opened (id : Nat) (database : String) (options : List (String × Value))
  /-- Rows of the connection are looked up by the names of their columns. -/
  | rowsNamed (id : Nat)
  /-- A pool is made, with what each of its connections is given. -/
  | built (id : Nat) (options connection : List (String × Value))
  /-- A pool is opened. -/
  | poolOpened (id : Nat) (options : List (String × Value))
  /-- A connection is taken from the pool. -/
  | acquired (id : Nat)
  /-- A connection goes back to the pool, after a failure of this class or after none. -/
  | released (id : Nat) (failure : Option String)
  /-- A statement runs. -/
  | executed (id : Nat) (sql : Value) (params : List Value)
  /-- The rows of a statement are read. -/
  | fetched (id : Nat)
  /-- The cursor of a statement is closed. -/
  | cursorClosed (id : Nat)
  /-- The connection or the pool is closed. -/
  | closed (id : Nat)
deriving Repr

/-- A line of the log. -/
structure LogRecord where
  level : String
  source : String
  message : String
deriving Repr, DecidableEq

/-- What a statement does when it is run: it may fail at once, have no columns, give rows, fail
while its rows are read, or fail when its cursor is closed. -/
structure Response where
  failure : Option Failure := none
  columns : Option (List String) := none
  rows : List (List Value) := []
  fetchFailure : Option Failure := none
  cursorFailure : Option Failure := none
deriving Repr, Inhabited

/-- What a database does, call by call. A script that has run out gives statements without columns,
and lets everything else succeed. -/
structure Script where
  responses : List Response := []
  openFailures : List (Option Failure) := []
  acquireFailures : List (Option Failure) := []
  closeFailures : List (Option Failure) := []
deriving Repr, Inhabited

namespace Script

/-- The response to the next statement. -/
def nextResponse (s : Script) : Response × Script :=
  (s.responses.head?.getD {}, { s with responses := s.responses.tail })

/-- Whether the next opening fails. -/
def nextOpen (s : Script) : Option Failure × Script :=
  (s.openFailures.head?.join, { s with openFailures := s.openFailures.tail })

/-- Whether the next connection cannot be had from the pool. -/
def nextAcquire (s : Script) : Option Failure × Script :=
  (s.acquireFailures.head?.join, { s with acquireFailures := s.acquireFailures.tail })

/-- Whether the next closing fails. -/
def nextClose (s : Script) : Option Failure × Script :=
  (s.closeFailures.head?.join, { s with closeFailures := s.closeFailures.tail })

end Script

end FluentSql.Gateway
