import FluentSql.Model

/-!
# Settings of the gateways

What a gateway needs to know to reach its database. Settings are read by the same rules as rows, and
an entry that is no setting is refused. A pool may be asked for more connections at rest than it may
have open; the two bounds are checked one by one.
-/

namespace FluentSql

open FluentSql.Number

/-- The settings of a gateway that shares one connection. -/
structure ConnectionSettings where
  database : String
  timeout : Binary64
deriving Repr

/-- The settings of a gateway that shares a pool of connections. -/
structure PoolSettings where
  dsn : String
  minSize : Int
  maxSize : Int
  timeout : Binary64
deriving Repr

/-- The seconds that a shared connection waits for a lock unless told otherwise. -/
def connectionTimeout : Binary64 := .ofInt 5

/-- The seconds that a pool waits for a connection unless told otherwise. -/
def poolTimeout : Binary64 := .ofInt 30

namespace RowModel

/-- How the settings of a shared connection are read. -/
def connectionSettings : RowModel :=
  { name := "SQLiteConfig"
    fields :=
      [{ name := "database", kind := .text, fallback := some (.text ":memory:") },
        { name := "timeout", kind := .number true, fallback := some (.float connectionTimeout) }]
    extras := .forbidden }

/-- How the settings of a pool are read. -/
def poolSettings : RowModel :=
  { name := "PostgresConfig"
    fields :=
      [{ name := "dsn", kind := .text },
        { name := "min_size", kind := .integer (some 0), fallback := some (.int 1) },
        { name := "max_size", kind := .integer (some 1), fallback := some (.int 10) },
        { name := "timeout", kind := .number true, fallback := some (.float poolTimeout) }]
    extras := .forbidden }

end RowModel

/-- Every entry must have a name. -/
def checkNames : List (Value × Value) → Except Fault Unit
  | [] => .ok ()
  | (.text _, _) :: rest => checkNames rest
  | _ => .error (.mismatch .settingName)

/-- The instance of some settings. -/
def RowModel.readSettings (m : RowModel) (entries : List (Value × Value)) : Except Fault Value := do
  checkNames entries
  m.validate entries

/-- The settings in an instance of `RowModel.connectionSettings`. -/
def ConnectionSettings.ofRecord? : Value → Option ConnectionSettings
  | .record _ [(_, .text database), (_, .float timeout)] _ _ => some { database, timeout }
  | _ => none

/-- The settings in an instance of `RowModel.poolSettings`. -/
def PoolSettings.ofRecord? : Value → Option PoolSettings
  | .record _ [(_, .text dsn), (_, .int minSize), (_, .int maxSize), (_, .float timeout)] _ _ =>
    some { dsn, minSize, maxSize, timeout }
  | _ => none

/-- An instance of a model of settings that was made by other means holds no settings. -/
def foreignInstance (m : RowModel) : Fault :=
  .invalid m.name []

/-- Read the settings of a shared connection. -/
def ConnectionSettings.read (entries : List (Value × Value)) : Except Fault ConnectionSettings := do
  match ConnectionSettings.ofRecord? (← RowModel.connectionSettings.readSettings entries) with
  | some s => return s
  | none => throw (foreignInstance .connectionSettings)

/-- Read the settings of a pool. -/
def PoolSettings.read (entries : List (Value × Value)) : Except Fault PoolSettings := do
  match PoolSettings.ofRecord? (← RowModel.poolSettings.readSettings entries) with
  | some s => return s
  | none => throw (foreignInstance .poolSettings)

end FluentSql
