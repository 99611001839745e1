import FluentSql.Gateway

/-!
# Using a gateway

What a caller can do with a gateway when calls are made one after the other. What comes next may
depend on how the calls before it ended, so a caller may try again, put a failure aside, or stop at
it. In a block the gateway is connected: the block begins with a connect, and if that succeeds, the
block ends with a disconnect, however its body ends.

`Usage.run` keeps account of every call that is made on the way, also of those that blocks make. It
works for every kind of gateway alike, and knows nothing of it but how it does a task.
-/

namespace FluentSql.Gateway

open FluentSql

/-- How a kind of gateway does a task. -/
abbrev Performer (σ : Type) := σ → Task → Except Fault Value × σ

/-- Do a task on a shared connection. -/
def Connection.perform : Performer Connection
  | c, .connect => c.connect
  | c, .disconnect => c.disconnect
  | c, .execute sql params => c.execute sql params

/-- Do a task on a pool. -/
def Pool.perform : Performer Pool
  | p, .connect => p.connect
  | p, .disconnect => p.disconnect
  | p, .execute sql params => p.execute sql params

theorem perform_connection (c : Connection) (t : Task) :
    (Gateway.connection c).perform t = wrap .connection (c.perform t) := by
  cases t <;> rfl

theorem perform_pool (p : Pool) (t : Task) :
    (Gateway.pool p).perform t = wrap .pool (p.perform t) := by
  cases t <;> rfl

/-- What a caller does with a gateway. -/
inductive Usage where
  /-- The caller ends, with a result or with a failure that is not the gateway's. -/
  | done (result : Except Fault Value)
  /-- A call is made. -/
  | call (t : Task)
  /-- What comes next depends on how the first part ended. -/
  | andThen (first : Usage) (next : Except Fault Value → Usage)
  /-- A block in which the gateway is connected. -/
  | block (body : Usage)

/-- A call that has been made, with the gateway before it and after it. -/
structure Made (σ : Type) where
  task : Task
  before : σ
  result : Except Fault Value
  after : σ

/-- What has become of a gateway and of its caller, and all calls that were made on the way. -/
structure Course (σ : Type) where
  calls : List (Made σ)
  state : σ
  result : Except Fault Value

variable {σ : Type}

/-- Make one call. -/
def make (perform : Performer σ) (s : σ) (t : Task) : Made σ :=
  { task := t, before := s, result := (perform s t).1, after := (perform s t).2 }

/-- The result of a block whose body has ended: a failure to leave the block prevails. -/
def blockResult (body : Except Fault Value) : Except Fault Value → Except Fault Value
  | .error f => .error f
  | .ok _ => body

/-- Use a gateway. -/
def Usage.run (perform : Performer σ) (s : σ) : Usage → Course σ
  | .done result => { calls := [], state := s, result }
  | .call t =>
    let m := make perform s t
    { calls := [m], state := m.after, result := m.result }
  | .andThen first next =>
    let one := first.run perform s
    let others := (next one.result).run perform one.state
    { others with calls := one.calls ++ others.calls }
  | .block body =>
    let entry := make perform s .connect
    match entry.result with
    | .error f => { calls := [entry], state := entry.after, result := .error f }
    | .ok _ =>
      let inside := body.run perform entry.after
      let exit := make perform inside.state .disconnect
      { calls := entry :: inside.calls ++ [exit], state := exit.after
        result := blockResult inside.result exit.result }

end FluentSql.Gateway
