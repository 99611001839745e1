import FluentSql.Builder.Terminal

/-!
# Runs of calls

A call on a builder changes its query, sends one statement, or inserts many rows. `Builder.perform`
makes one call over anything that executes requests, and `Builder.performAll` makes a run of calls,
each on the builder that the call before it left, whatever the outcomes were.
-/

namespace FluentSql

/-- A call on a builder. -/
inductive Call where
  | fluent (c : Fluent)
  | terminal (op : Terminal)
  | createMany (items : Value)
deriving Repr

namespace Builder

variable {σ : Type}

/-- Make a call that changes the query; it sends nothing and answers with null. -/
def runFluent (b : Builder) (c : Fluent) (s : σ) : Run σ :=
  let (builder, result) := b.configure c
  { builder, state := s, sent := [], result := result.map fun _ ↦ .null }

/-- Make a call. -/
def perform (execute : Executor σ) (b : Builder) (call : Call) (s : σ) : Run σ :=
  match call with
  | .fluent c => b.runFluent c s
  | .terminal op => b.run execute op s
  | .createMany items => b.createMany execute items s

/-- Make some calls one after the other. The requests of all of them are `sent`, and the result is
that of the last call, null if there is none. -/
def performAll (execute : Executor σ) (b : Builder) (s : σ) : List Call → Run σ
  | [] => { builder := b, state := s, sent := [], result := .ok .null }
  | [call] => b.perform execute call s
  | call :: rest =>
    let one := b.perform execute call s
    let others := performAll execute one.builder one.state rest
    { others with sent := one.sent ++ others.sent }

end Builder

end FluentSql
