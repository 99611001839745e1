import FluentSql.Gateway.Recorder
import FluentSql.Gateway.Pool
import FluentSql.Gateway.Tasks

/-!
# Gateways

Whatever statements can be sent through: a gateway that records them, a gateway that shares one
connection, or a gateway that shares a pool. A gateway tells which dialect its database speaks, if
it knows.

Every kind of gateway does the same three tasks, one after the other by `Gateway.perform`. Several
tasks at the same time are a matter of the shared connection (`Gateway.together`); what the other
gateways do then does not depend on their tasks running at the same time.
-/

namespace FluentSql

open FluentSql.Gateway

/-- A gateway. -/
inductive Gateway where
  | recorder (r : Recorder)
  | connection (c : Connection)
  | pool (p : Pool)

namespace Gateway

/-- The name of the dialect of a gateway. -/
def dialect? : Gateway → Option Value
  | .recorder r => r.dialect
  | .connection _ => some (.text "sqlite")
  | .pool _ => some (.text "postgres")

/-- What has reached the database so far. -/
def trace : Gateway → List Event
  | .recorder r => r.trace
  | .connection c => c.trace
  | .pool p => p.trace

/-- The log of a gateway. -/
def log : Gateway → List LogRecord
  | .recorder _ => []
  | .connection c => c.log
  | .pool p => p.log

/-- The result of a step of one kind of gateway, as a step of gateways. -/
def wrap {α : Type} (make : α → Gateway) (run : Except Fault Value × α) :
    Except Fault Value × Gateway :=
  (run.1, make run.2)

/-- Be connected. A gateway that records always is. -/
def connect : Gateway → Except Fault Value × Gateway
  | .recorder r => (.ok .null, .recorder r)
  | .connection c => wrap .connection c.connect
  | .pool p => wrap .pool p.connect

/-- Be disconnected. -/
def disconnect : Gateway → Except Fault Value × Gateway
  | .recorder r => (.ok .null, .recorder r)
  | .connection c => wrap .connection c.disconnect
  | .pool p => wrap .pool p.disconnect

/-- Run a statement. -/
def execute (sql params : Value) : Gateway → Except Fault Value × Gateway
  | .recorder r => wrap .recorder (r.execute sql params)
  | .connection c => wrap .connection (c.execute sql params)
  | .pool p => wrap .pool (p.execute sql params)

/-- Do a task. -/
def perform (gateway : Gateway) : Task → Except Fault Value × Gateway
  | .connect => gateway.connect
  | .disconnect => gateway.disconnect
  | .execute sql params => gateway.execute sql params

/-- Do some tasks one after the other. -/
def performEach (gateway : Gateway) : List Task → List (Except Fault Value) × Gateway
  | [] => ([], gateway)
  | t :: rest =>
    let (result, gateway) := gateway.perform t
    let (results, gateway) := performEach gateway rest
    (result :: results, gateway)

/-- Do some tasks at the same time. -/
def together (gateway : Gateway) (tasks : List Task) : List (Except Fault Value) × Gateway :=
  match gateway with
  | .connection c =>
    let (results, c) := Tasks.together c tasks
    (results, .connection c)
  | gateway => gateway.performEach tasks

end Gateway

end FluentSql
