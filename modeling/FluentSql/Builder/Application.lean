import FluentSql.Builder.Family

/-!
# Applications

An application has one registry of dialects, and makes builders while dialects are registered. Which
dialect a builder gets is decided when it is made: the one that it is given or, without one, what is
registered for its gateway at that moment. The builder then becomes the root of a family, and from
there on the family goes its own way.

Making a builder fails if no dialect is registered for its gateway. Nothing else comes of that, so
every attempt to make a builder is kept, and attempts go by the order in which they were made.
-/

namespace FluentSql

/-- An application: its registry, and what has come of its attempts to make a builder. -/
structure Application where
  registry : Registry := .initial
  attempts : List (Except Fault Family) := []

namespace Application

/-- What can happen in an application. -/
inductive Event where
  /-- A dialect is registered under a name. -/
  | register (name : String) (d : Dialect)
  /-- A builder is made. -/
  | make (given : Option Dialect) (gatewayDialect : Option Value) (model : Option RowModel)
  /-- Something happens in the family of a builder. -/
  | move (i : Nat) (move : Move)

/-- The family of a builder that is made now. -/
def made (r : Registry) (given : Option Dialect) (gatewayDialect : Option Value)
    (model : Option RowModel) : Except Fault Family :=
  (Builder.chooseDialect r given gatewayDialect).map fun dialect ↦ Family.root { dialect, model }

/-- The application after an event, if the event is possible. -/
def step? (app : Application) : Event → Option Application
  | .register name d => do
    let registry ← (app.registry.register (.text name) (.complete d)).toOption
    return { app with registry }
  | .make given gatewayDialect model =>
    some { app with attempts := app.attempts ++ [made app.registry given gatewayDialect model] }
  | .move i move => do
    let attempt ← app.attempts[i]?
    let family ← attempt.toOption
    let family ← family.step? move
    return { app with attempts := app.attempts.set i (.ok family) }

/-- The application after some events, if they are possible one after the other. -/
def run? (app : Application) (events : List Event) : Option Application :=
  events.foldlM step? app

end Application

end FluentSql
