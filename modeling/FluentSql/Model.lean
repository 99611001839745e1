import FluentSql.Model.Coercion

/-!
# Row models

A row model says what the rows of a table look like: fields with a kind, a key under which a row
holds them, and perhaps a value to fall back on, and a rule for entries beyond them.

`RowModel.validate` turns the entries of a row into an instance or lists every issue, those of
declared fields in the order of the model first, then those of further entries in the order of the
row. `Value.dump` goes back: the entries of an instance that were given explicitly, by the names of
the fields. The two use different names as soon as a field has a key of its own.
-/

namespace FluentSql

open FluentSql.Model FluentSql.Number

/-- What a field holds. -/
inductive FieldKind where
  | text
  /-- An integer, at least the bound if there is one. -/
  | integer (atLeast : Option Int)
  /-- A binary64 number, positive if that is asked for. -/
  | number (positive : Bool)
deriving Repr, DecidableEq

/-- A field of a row model. -/
structure Field where
  name : String
  kind : FieldKind
  /-- The key under which rows hold the field. -/
  key : String := name
  /-- The field may hold null. -/
  nullable : Bool := false
  /-- The value of the field in a row that does not have it. -/
  fallback : Option Value := none
deriving Repr

/-- What becomes of the entries of a row that belong to no field. -/
inductive Extras where
  | ignored
  | kept
  | forbidden
deriving Repr, DecidableEq

/-- A row model. -/
structure RowModel where
  name : String
  fields : List Field
  extras : Extras := .ignored
deriving Repr

/-- The value that a kind of field makes of the one it is given. -/
def FieldKind.admit (kind : FieldKind) (v : Value) : Except IssueCause Value :=
  match kind with
  | .text => (toText v).map .text
  | .integer atLeast => do
    let n ← toInteger v
    match atLeast with
    | some bound => if bound ≤ n then return .int n else throw (.below bound)
    | none => return .int n
  | .number positive => do
    let x ← toNumber v
    if positive && !x.isPositive then throw (.notAbove 0) else return .float x

/-- The value that a field makes of the one it is given. -/
def Field.admit (f : Field) (v : Value) : Except IssueCause Value :=
  match v with
  | .null => if f.nullable then .ok .null else f.kind.admit v
  | v => f.kind.admit v

/-- The value of a field in a row. -/
def Field.read (f : Field) (row : List (Value × Value)) : Except Issue Value :=
  let refused := fun cause ↦ .error ⟨.text f.key, cause⟩
  match lookupKey? (.text f.key) row with
  | some v =>
    match f.admit v with
    | .ok w => .ok w
    | .error cause => refused cause
  | none =>
    match f.fallback with
    | some v => .ok v
    | none => refused .missing

/-- The row holds the field. -/
def Field.isGiven (f : Field) (row : List (Value × Value)) : Bool :=
  (lookupKey? (.text f.key) row).isSome

/-- The successes of a list of attempts. -/
def successes {ε α : Type} (attempts : List (Except ε α)) : List α :=
  attempts.filterMap fun
    | .ok a => some a
    | .error _ => none

/-- The failures of a list of attempts. -/
def failures {ε α : Type} (attempts : List (Except ε α)) : List ε :=
  attempts.filterMap fun
    | .ok _ => none
    | .error e => some e

namespace RowModel

/-- The names of the fields. -/
def columns (m : RowModel) : List String :=
  m.fields.map Field.name

/-- The key of a row belongs to a field. -/
def claims (m : RowModel) (key : Value) : Bool :=
  m.fields.any fun f ↦ (Value.text f.key).same key

/-- The place of a key that is no text. -/
def placeOf : Value → Value
  | .int n => .int n
  | .bool b => .int (if b then 1 else 0)
  | v => .text v.literal

/-- What becomes of an entry that belongs to no field: its name and value, or an issue. -/
def readExtra (m : RowModel) (entry : Value × Value) : Except Issue (String × Value) :=
  match entry.1 with
  | .text name =>
    if m.extras == .forbidden then .error ⟨.text name, .extraForbidden⟩ else .ok (name, entry.2)
  | key => .error ⟨placeOf key, .keyNotText⟩

/-- The declared fields of a row, one by one. -/
def readFields (m : RowModel) (row : List (Value × Value)) : List (Except Issue (String × Value)) :=
  m.fields.map fun f ↦ (f.read row).map fun v ↦ (f.name, v)

/-- The further entries of a row, one by one; none of them counts if they are ignored. -/
def readExtras (m : RowModel) (row : List (Value × Value)) : List (Except Issue (String × Value)) :=
  if m.extras == .ignored then []
  else (row.filter fun e ↦ !m.claims e.1).map m.readExtra

/-- The instance of a row. -/
def validate (m : RowModel) (row : List (Value × Value)) : Except Fault Value :=
  let fields := m.readFields row
  let extras := m.readExtras row
  let issues := failures fields ++ failures extras
  if issues.isEmpty then
    let given := (m.fields.filter fun f ↦ f.isGiven row).map Field.name
    .ok (.record m.name (successes fields) (successes extras)
      (given ++ (successes extras).map Prod.fst))
  else .error (.invalid m.name issues)

end RowModel

/-! ### Dumping -/

mutual

/-- A value with every instance in it as a dictionary of what it was given. Queues and streams are
handed on as they are. -/
def Value.plain : Value → Value
  | .collection .deque members => .collection .deque members
  | .collection .stream members => .collection .stream members
  | .collection kind members => .collection kind (plainMembers members)
  | .dictionary entries => .dictionary (plainEntries entries)
  | .record _ fields extras given =>
    let shown := plainFields given fields ++ plainFields given extras
    .dictionary (shown.map fun f ↦ (.text f.1, f.2))
  | v => v

/-- The plain forms of some values. -/
def plainMembers : List Value → List Value
  | [] => []
  | v :: rest => v.plain :: plainMembers rest

/-- The plain forms of some entries. -/
def plainEntries : List (Value × Value) → List (Value × Value)
  | [] => []
  | (k, v) :: rest => (k, v.plain) :: plainEntries rest

/-- The plain forms of those named values that are given. -/
def plainFields (given : List String) : List (String × Value) → List (String × Value)
  | [] => []
  | (name, v) :: rest =>
    if given.contains name then (name, v.plain) :: plainFields given rest
    else plainFields given rest

end

end FluentSql
