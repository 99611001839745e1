import FluentSql.Fault
import FluentSql.Value.Same

/-!
# Members of values

What a value is made of, for the operations that take a value apart: reading its members in order,
counting them, joining them to a text, looking at a value as true or false, and reading it as a
dictionary. Each fails by the mismatch that its first offender is.

A dictionary keeps the place, and the key, of the first entry of a key and the value of the last
one (`insertEntry`). Keys are compared by `Value.same`, and a value that can change is no key.
-/

namespace FluentSql

open FluentSql.Text FluentSql.Number

/-- A named value as a pair. -/
def fieldPair (f : String × Value) : Value :=
  .tuple [.text f.1, f.2]

/-- The members of a value in order, if it has any: characters of a text, numbers of a byte string,
keys of a dictionary, named values of a record. -/
def Value.members? : Value → Option (List Value)
  | .text s => some (s.toList.map fun c ↦ .text (String.singleton c))
  | .bytes data | .buffer data => some (data.map fun b ↦ .int b.toNat)
  | .collection _ members => some members
  | .range start stop step => some ((rangeMembers start stop step).map .int)
  | .dictionary entries => some (entries.map Prod.fst)
  | .record _ fields extras _ => some ((fields ++ extras).map fieldPair)
  | _ => none

/-- The members of a value. -/
def Value.members (v : Value) : Except Mismatch (List Value) :=
  match v.members? with
  | some members => .ok members
  | none => .error (.notIterable v.kindName)

/-- How many members a value has. A stream cannot tell, nor can a record. -/
def Value.length (v : Value) : Except Mismatch Nat :=
  match v with
  | .collection .stream _ | .record .. => .error (.noLength v.kindName)
  | _ =>
    match v.members? with
    | some members => .ok members.length
    | none => .error (.noLength v.kindName)

/-- The texts in a list of values, if all of them are texts; the first that is not is named by its
place, counted from `position`. -/
def textsFrom (position : Nat) : List Value → Except Mismatch (List String)
  | [] => .ok []
  | .text s :: rest => (textsFrom (position + 1) rest).map (s :: ·)
  | v :: _ => .error (.notText position v.kindName)

/-- The members of a value, all of them texts, with commas between them. -/
def Value.commaJoined (v : Value) : Except Mismatch String := do
  let members ← v.members
  let words ← textsFrom 0 members
  return ", ".intercalate words

/-- A value counts as true unless it is empty or zero. -/
def Value.truthy : Value → Bool
  | .null => false
  | .bool b => b
  | .text s => s != ""
  | .bytes data | .buffer data => !data.isEmpty
  | .collection .stream _ => true
  | .collection _ members => !members.isEmpty
  | .range start stop step => rangeLength start stop step != 0
  | .dictionary entries => !entries.isEmpty
  | .duration d => d != ⟨0, 0, 0⟩
  | .int n => n != 0
  | .float (.finite _ m _) => m != 0
  | .decimal (.finite _ c _) => c != 0
  | _ => true

/-! ### Dictionaries -/

mutual

/-- Why a value cannot be a key, if it cannot. A tuple is a key if all its members are. -/
def Value.keyMismatch? : Value → Option Mismatch
  | .buffer _ => some (.unhashable "bytearray")
  | .dictionary _ => some (.unhashable "dict")
  | .record model .. => some (.unhashable model)
  | .collection .tuple members => firstKeyMismatch? members
  | .collection .list _ => some (.unhashable "list")
  | .collection .deque _ => some (.unhashable "collections.deque")
  | .collection .set _ => some (.unhashable "set")
  | .decimal (.nan _ true _) => some .signalingKey
  | _ => none

/-- Why the first of some values that cannot be a key cannot be one. -/
def firstKeyMismatch? : List Value → Option Mismatch
  | [] => none
  | v :: rest => v.keyMismatch?.or (firstKeyMismatch? rest)

end

/-- The value, checked to be a key. -/
def Value.asKey (v : Value) : Except Mismatch Value :=
  match v.keyMismatch? with
  | some m => .error m
  | none => .ok v

/-- Set the value of a key: in its place if the key is there, at the end if it is not. -/
def insertEntry (key v : Value) : List (Value × Value) → List (Value × Value)
  | [] => [(key, v)]
  | (k, w) :: rest => if k.same key then (k, v) :: rest else (k, w) :: insertEntry key v rest

/-- The value of a key. -/
def lookupKey? (key : Value) (entries : List (Value × Value)) : Option Value :=
  (entries.find? fun e ↦ e.1.same key).map Prod.snd

/-- The dictionary of some entries, the later ones prevailing. -/
def dictionaryOf (entries : List (Value × Value)) : List (Value × Value) :=
  entries.foldl (fun d e ↦ insertEntry e.1 e.2 d) []

/-- A member read as a pair. -/
def pairAt (position : Nat) (v : Value) : Except Mismatch (Value × Value) :=
  match v.members? with
  | none => .error (.notPair position)
  | some [k, w] => .ok (k, w)
  | some members => .error (.pairLength position members.length)

/-- Members read as pairs, counted from `position`, put into a dictionary. -/
def insertPairs (position : Nat) (entries : List (Value × Value)) :
    List Value → Except Mismatch (List (Value × Value))
  | [] => .ok entries
  | v :: rest => do
    let (k, w) ← pairAt position v
    let k ← k.asKey
    insertPairs (position + 1) (insertEntry k w entries) rest

/-- A value read as a dictionary: its entries if it is one, its members as pairs otherwise. -/
def Value.entries : Value → Except Mismatch (List (Value × Value))
  | .dictionary entries => .ok entries
  | v => do insertPairs 0 [] (← v.members)

/-! ### Order -/

/-- A value comes before another in a sorted list. -/
def Value.precedes (v w : Value) : Except Mismatch Bool :=
  match v, w with
  | .text s, .text t => .ok (s < t)
  | _, _ =>
    match v.quantity?, w.quantity? with
    | some a, some b => .ok (a.less b)
    | _, _ => .error (.unordered v.kindName w.kindName)

/-- Put a value behind those of a sorted list that it does not come before. -/
def insertSorted (v : Value) : List Value → Except Mismatch (List Value)
  | [] => .ok [v]
  | w :: rest => do
    if ← v.precedes w then return v :: w :: rest
    else return w :: (← insertSorted v rest)

/-- The values in order. -/
def sortValues (vs : List Value) : Except Mismatch (List Value) :=
  vs.foldlM (fun sorted v ↦ insertSorted v sorted) []

end FluentSql
