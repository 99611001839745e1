import FluentSql.Guard
import FluentSql.Json
import FluentSql.Query

/-!
# Dialects

What one database wants differently from another: how the place of a value is marked, how a filter
is written around that mark, and what is bound for a filter. Statements are written once for all
dialects (`FluentSql.Statement`) and ask the dialect for these three things.

A filter always has exactly one mark. So a membership test cannot list its members: one dialect
binds them as one array, and another as the text of one JSON array.
-/

namespace FluentSql

/-- A dialect of SQL. -/
structure Dialect where
  name : String
  /-- The mark of a place, from the label of the place. -/
  mark : String → String
  /-- A filter in SQL, from the mark of its value. -/
  predicate : Filter → String → String
  /-- The value that is bound for a filter. -/
  bind : Filter → Except Fault Value

namespace Dialect

/-- The filter tests for membership. -/
def isMembership (f : Filter) : Bool :=
  f.operator.same (.text Guard.membership)

/-- Column, operator and mark, one after the other. -/
def comparison (f : Filter) (mark : String) : String :=
  f.column.display ++ " " ++ f.operator.display ++ " " ++ mark

/-- The members of a value as a list. -/
def bindList (v : Value) : Except Fault Value :=
  match v.members with
  | .ok members => .ok (.list members)
  | .error m => .error (.mismatch m)

/-- The members of a value as the text of a JSON array. -/
def bindJson (f : Filter) : Except Fault Value :=
  match f.value.members >>= toJsonItems with
  | .ok items => .ok (.text (Json.array items).render)
  | .error m => .error (.misuse (.value f.column f.operator (.text m.message) (some m)))

/-- A dialect that leaves filters and values as they are. -/
def plain (name : String) (mark : String → String) : Dialect :=
  { name, mark, predicate := comparison, bind := fun f ↦ .ok f.value }

/-- A dialect that binds the members of a membership test as an array. -/
def withArrays (name : String) (mark : String → String) : Dialect :=
  { name
    mark
    predicate := fun f mark ↦
      if isMembership f then f.column.display ++ " = ANY(" ++ mark ++ ")" else comparison f mark
    bind := fun f ↦ if isMembership f then bindList f.value else .ok f.value }

/-- PostgreSQL: numbered places, and arrays. -/
def postgres : Dialect :=
  withArrays "postgres" ("$" ++ ·)

/-- The places of PostgreSQL numbered in another style. -/
def numeric : Dialect :=
  withArrays "numeric" (":" ++ ·)

/-- A dialect without any choices of its own. -/
def bare : Dialect :=
  plain "bare" fun _ ↦ "%s"

/-- SQLite: places are told apart by their order only, the members of a membership test are unpacked
from JSON, and there is one operator for patterns, which does not tell letter case. -/
def sqlite : Dialect :=
  { name := "sqlite"
    mark := fun _ ↦ "?"
    predicate := fun f mark ↦
      if isMembership f then
        f.column.display ++ " IN (SELECT value FROM json_each(" ++ mark ++ "))"
      else if f.operator.same (.text "ILIKE") then f.column.display ++ " LIKE " ++ mark
      else comparison f mark
    bind := fun f ↦ if isMembership f then bindJson f else .ok f.value }

/-- A filter in SQL, with its value at the place of the given label. -/
def filterText (d : Dialect) (f : Filter) (label : String) : String :=
  d.predicate f (d.mark label)

end Dialect

/-- A description of a dialect, which may leave functions open. -/
inductive Blueprint where
  | complete (d : Dialect)
  | incomplete (missing : List String)

namespace Blueprint

/-- The dialect that a blueprint describes, if it leaves nothing open. -/
def build : Blueprint → Except Fault Dialect
  | .complete d => .ok d
  | .incomplete missing => .error (.mismatch (.incompleteDialect missing))

/-- The blueprint that leaves everything open that a dialect must decide. -/
def abstract : Blueprint :=
  .incomplete ["dialect_name", "placeholder"]

/-- The blueprints that are known by name. -/
def named? : String → Option Blueprint
  | "postgres" => some (.complete .postgres)
  | "sqlite" => some (.complete .sqlite)
  | "numeric" => some (.complete .numeric)
  | "bare" => some (.complete .bare)
  | "abstract" => some abstract
  | _ => none

end Blueprint

end FluentSql
