import FluentSql.Dialect

/-!
# The registry of dialects

Which dialect goes by which name. A name that is registered twice means the later dialect, and keeps
its place; names are listed in order. Any value that can be a key can be a name.
-/

namespace FluentSql

/-- Names and the blueprints registered under them, in the order of first registration. -/
structure Registry where
  entries : List (Value × Blueprint)

namespace Registry

/-- The registry as the library sets it up. -/
def initial : Registry :=
  { entries :=
      [(.text "postgres", .complete .postgres), (.text "sqlite", .complete .sqlite)] }

/-- The registry without any names. -/
def empty : Registry := { entries := [] }

/-- Set the blueprint of a name in a list of entries. -/
def put (name : Value) (b : Blueprint) : List (Value × Blueprint) → List (Value × Blueprint)
  | [] => [(name, b)]
  | (n, c) :: rest => if n.same name then (n, b) :: rest else (n, c) :: put name b rest

/-- Register a blueprint under a name. -/
def register (r : Registry) (name : Value) (b : Blueprint) : Except Fault Registry :=
  match name.asKey with
  | .ok name => .ok { entries := put name b r.entries }
  | .error m => .error (.mismatch m)

/-- The blueprint of a name. -/
def find? (r : Registry) (name : Value) : Option Blueprint :=
  (r.entries.find? fun e ↦ e.1.same name).map Prod.snd

/-- All names, in order. -/
def names (r : Registry) : Except Mismatch (List Value) :=
  sortValues (r.entries.map Prod.fst)

/-- The fault of a name that is not registered, with the names that are. -/
def unknown (r : Registry) (name : Value) : Fault :=
  match r.names >>= textsFrom 0 with
  | .error m => .mismatch m
  | .ok names =>
    let known := ", ".intercalate names
    .compilation
      (.text ("No grammar registered for dialect '" ++ name.display ++ "' (known: " ++
        (if known == "" then "none" else known) ++ ")."))
      .null

/-- The dialect of a name. -/
def create (r : Registry) (name : Value) : Except Fault Dialect :=
  match name.asKey with
  | .error m => .error (.mismatch m)
  | .ok name =>
    match r.find? name with
    | some b => b.build
    | none => .error (r.unknown name)

end Registry

end FluentSql
