import FluentSql.Value

/-!
# Equality of values

`Value.same` is the equality that values have for the callers, which is coarser than equality of
terms: numbers are compared by value whatever their kind, so `1`, `1.0` and `true` are the same;
sets and dictionaries do not depend on the order of their members; times with an offset are compared
as instants. It is finer in two places: not a number differs from everything, itself included, and
so does a stream.

Instances of row models are the same if they belong to one model and agree in their fields and in
the entries beside them; which of the names were given does not count.
-/

namespace FluentSql

open FluentSql.Number

/-- A number of any kind, by its value. -/
inductive Quantity where
  | nan
  | infinite (negative : Bool)
  | ratio (num : Int) (den : Nat)
deriving Repr, DecidableEq

/-- Two numbers have one value. -/
def Quantity.same : Quantity → Quantity → Bool
  | .infinite a, .infinite b => a == b
  | .ratio n d, .ratio n' d' => n * d' == n' * d
  | _, _ => false

/-- One number is less than another; not a number never is. -/
def Quantity.less : Quantity → Quantity → Bool
  | .infinite a, .infinite b => a && !b
  | .infinite a, .ratio .. => a
  | .ratio .., .infinite b => !b
  | .ratio n d, .ratio n' d' => n * d' < n' * d
  | _, _ => false

/-- The number that a value is, if it is one. -/
def Value.quantity? : Value → Option Quantity
  | .bool b => some (.ratio (if b then 1 else 0) 1)
  | .int n => some (.ratio n 1)
  | .float .nan => some .nan
  | .float (.infinite negative) => some (.infinite negative)
  | .float x => x.ratio?.map fun r ↦ .ratio r.1 r.2
  | .decimal (.nan ..) => some .nan
  | .decimal (.infinite negative) => some (.infinite negative)
  | .decimal d => d.ratio?.map fun r ↦ .ratio r.1 r.2
  | _ => none

/-- Two values are numbers of one value. -/
def sameQuantity (v w : Value) : Bool :=
  match v.quantity?, w.quantity? with
  | some a, some b => a.same b
  | _, _ => false

/-- The kind is a set, whatever else. -/
def Collection.isSet : Collection → Bool
  | .set | .frozenSet => true
  | _ => false

mutual

/-- Two values are the same for a caller. -/
def Value.same : Value → Value → Bool
  | .null, .null => true
  | .text s, .text t => s == t
  | .bytes a, .bytes b | .bytes a, .buffer b | .buffer a, .bytes b | .buffer a, .buffer b => a == b
  | .collection j xs, .collection k ys =>
    if j.isSet && k.isSet then xs.length == ys.length && allAmong xs ys
    else j == k && j != .stream && sameMembers xs ys
  | .range a b c, .range a' b' c' => rangeMembers a b c == rangeMembers a' b' c'
  | .dictionary es, .dictionary fs => es.length == fs.length && entriesAmong es fs
  | .date d, .date d' => d == d'
  | .dateTime t, .dateTime t' => t.same t'
  | .time t, .time t' => t.same t'
  | .duration d, .duration d' => d == d'
  | .uuid a, .uuid b => a == b
  | .record m fs es _, .record m' fs' es' _ =>
    m == m' && fieldsAmong fs fs' && es.length == es'.length && fieldsAmong es es'
  | v, w => sameQuantity v w

/-- Two lists have the same values in the same places. -/
def sameMembers : List Value → List Value → Bool
  | [], [] => true
  | v :: vs, w :: ws => v.same w && sameMembers vs ws
  | _, _ => false

/-- Every value of the first list is among the second. -/
def allAmong : List Value → List Value → Bool
  | [], _ => true
  | v :: vs, ws => ws.any (fun w ↦ v.same w) && allAmong vs ws

/-- Every entry of the first dictionary is among the second. -/
def entriesAmong : List (Value × Value) → List (Value × Value) → Bool
  | [], _ => true
  | (k, v) :: es, fs => fs.any (fun f ↦ k.same f.1 && v.same f.2) && entriesAmong es fs

/-- Every named value of the first list is among the second. -/
def fieldsAmong : List (String × Value) → List (String × Value) → Bool
  | [], _ => true
  | (name, v) :: es, fs => fs.any (fun f ↦ name == f.1 && v.same f.2) && fieldsAmong es fs

end

end FluentSql
