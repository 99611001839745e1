import FluentSql.Gateway.Event
import FluentSql.Value.Members

/-!
# A gateway that records

A gateway without a database behind it. It records every statement and replies what it was told to,
which may be any value, or a failure; when it runs out of replies it gives no rows.
-/

namespace FluentSql.Gateway

open FluentSql

/-- A gateway that records. It may name a dialect, or not. -/
structure Recorder where
  dialect : Option Value := none
  replies : List (Except Failure Value) := []
  trace : List Event := []

namespace Recorder

/-- Record a statement and give the next reply. -/
def execute (r : Recorder) (sql params : Value) : Except Fault Value × Recorder :=
  match params.members with
  | .error m => (.error (.mismatch m), r)
  | .ok values =>
    let reply :=
      match r.replies.head? with
      | none => .ok (.list [])
      | some (.ok v) => .ok v
      | some (.error f) => .error f.fault
    (reply, { r with replies := r.replies.tail, trace := r.trace ++ [.executed 0 sql values] })

end Recorder

end FluentSql.Gateway
