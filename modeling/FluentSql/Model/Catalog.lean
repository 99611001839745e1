import FluentSql.Model

/-!
# A catalog of row models

The row models that are known by name: users in several degrees of detail, and small models that
differ in what they do with entries beyond their fields and with keys of their own.
-/

namespace FluentSql.RowModel

/-- A field that may be null, and is null unless it is given. -/
def optional (name : String) (kind : FieldKind) : Field :=
  { name, kind, nullable := true, fallback := some .null }

/-- The key and name of a user. -/
def identity : List Field :=
  [{ name := "id", kind := .integer none }, { name := "name", kind := .text }]

/-- A user. -/
def user : RowModel :=
  { name := "User", fields := identity ++ [optional "age" (.integer none)] }

/-- A user before it has a key. -/
def newUser : RowModel :=
  { name := "NewUser"
    fields := [{ name := "name", kind := .text }, optional "age" (.integer none)] }

/-- A user with all there is to know. -/
def fullUser : RowModel :=
  { name := "FullUser"
    fields :=
      identity ++
        [optional "email" .text, optional "age" (.integer none),
          { name := "active", kind := .integer none, fallback := some (.int 1) },
          optional "created_at" .text] }

/-- A model that forbids further entries. -/
def strict : RowModel :=
  { name := "Strict"
    fields :=
      [{ name := "id", kind := .integer none },
        { name := "name", kind := .text, fallback := some (.text "anon") }]
    extras := .forbidden }

/-- A model that keeps further entries. -/
def loose : RowModel :=
  { name := "Loose", fields := [{ name := "id", kind := .integer none }], extras := .kept }

/-- A model with a field whose key differs from its name. -/
def aliased : RowModel :=
  { name := "Aliased"
    fields :=
      [{ name := "user_id", kind := .integer none, key := "userId" }, optional "note" .text] }

/-- A model without fields. -/
def empty : RowModel :=
  { name := "Empty", fields := [] }

/-- All models of the catalog. -/
def catalog : List RowModel :=
  [user, newUser, fullUser, strict, loose, aliased, empty]

/-- The model of a name. A name that belongs to none leaves rows as they are. -/
def named? (name : String) : Option RowModel :=
  catalog.find? fun m ↦ m.name == name

end FluentSql.RowModel
