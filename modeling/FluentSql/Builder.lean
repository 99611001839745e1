import FluentSql.Model
import FluentSql.Registry

/-!
# Builders

A builder gathers one query. It knows the dialect that its statements are written in and, perhaps,
the model of the rows that it works with; the dialect never changes, and a builder for another
table shares it and nothing else.

`configure` makes one call that changes the query. All checks of a call come before its first
change: the shape of a column, that it is a field of the model, the operator, the kind of the
value, and last that the dialect can bind the value.
-/

namespace FluentSql

open FluentSql.Number

/-- A builder. Without a model, rows are dictionaries and columns only need the right shape. -/
structure Builder where
  dialect : Dialect
  model : Option RowModel := none
  query : Query := {}

/-- A call that changes the query of a builder. -/
inductive Fluent where
  /-- Read these columns. -/
  | select (columns : List Value)
  /-- Leave out duplicates. -/
  | distinct
  /-- Keep the rows that pass a filter. -/
  | filter (column operator value : Value)
  /-- Sort by a column, after the terms so far. -/
  | orderBy (column direction : Value)
  /-- Read so many rows at most. -/
  | limit (n : Value)
  /-- Leave out so many rows first. -/
  | offset (n : Value)
deriving Repr

namespace Builder

/-- The dialect that a builder uses: the one it is given, or the registered one of its gateway. -/
def chooseDialect (r : Registry) (given : Option Dialect) (gatewayDialect : Option Value) :
    Except Fault Dialect :=
  match given with
  | some d => .ok d
  | none => r.create (gatewayDialect.getD (.text "postgres"))

/-- A builder for a table, with the dialect of this one and nothing else of it. -/
def table (b : Builder) (name : Value) (model : Option RowModel) : Builder :=
  { dialect := b.dialect, model, query := { table := name } }

/-- A column whose last part must be a field of the model, if there is one. -/
def checkField (model : Option RowModel) (column : Value) : Except Fault Value :=
  match model, column with
  | some m, .text s =>
    if m.columns.contains (String.ofList (Column.unqualified s.toList)) then .ok column
    else .error (.misuse (.unknownColumn column (.text m.name) (.texts m.columns)))
  | _, _ => .ok column

/-- A column of the right shape that the model knows. -/
def checkColumn (model : Option RowModel) (column : Value) : Except Fault Value := do
  checkField model (← Guard.column column)

/-- A filter that has passed all checks, with the value that the dialect binds for it. -/
def checkFilter (b : Builder) (column operator value : Value) : Except Fault (Filter × Value) := do
  let column ← checkColumn b.model column
  let operator ← Guard.operator operator
  Guard.value column operator value
  let f : Filter := { column, operator, value }
  return (f, ← b.dialect.bind f)

/-- A sort term that has passed all checks. -/
def checkSortTerm (b : Builder) (column direction : Value) : Except Fault SortTerm := do
  let column ← checkColumn b.model column
  return { column, direction := ← Guard.direction direction }

/-- Apply a change that needs the outcome of a check; without it nothing changes. -/
def changeWith {α : Type} (b : Builder) (check : Except Fault α)
    (change : Query → α → Query × Except Fault Unit) : Builder × Except Fault Unit :=
  match check with
  | .error f => (b, .error f)
  | .ok a =>
    let (query, result) := change b.query a
    ({ b with query }, result)

/-- Make a call that changes the query. -/
def configure (b : Builder) : Fluent → Builder × Except Fault Unit
  | .select columns => ({ b with query := { b.query with columns := .list columns } }, .ok ())
  | .distinct => ({ b with query := { b.query with distinct := .bool true } }, .ok ())
  | .filter column operator value =>
    b.changeWith (b.checkFilter column operator value) fun q (f, binding) ↦ q.addFilter f binding
  | .orderBy column direction =>
    b.changeWith (b.checkSortTerm column direction) fun q t ↦
      ({ q with orders := q.orders ++ [t] }, .ok ())
  | .limit n =>
    b.changeWith (Guard.pagination (.text "limit") n) fun q n ↦ ({ q with limit := n }, .ok ())
  | .offset n =>
    b.changeWith (Guard.pagination (.text "offset") n) fun q n ↦ ({ q with offset := n }, .ok ())

end Builder

end FluentSql
