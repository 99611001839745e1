import FluentSql.Proofs.Refusal

/-!
# The first offender of a test for membership

When a value cannot be turned into JSON, and which part of it the failure is about. The order in
which a value is looked at is given as a list of visits, made without a look at how JSON is written:
first the value itself, then, if it is a list or a tuple, what is visited in its members, and if it
is a dictionary, entry by entry its key and what is visited in its value. Every other value is
visited and not entered.

A visit offends if it is of a value of a kind that has no JSON form, or of a key that has none. The
search for a form fails exactly if a visit offends, and it fails by the first one
(`failure?_toJson`); with that the two kinds of offenders and the three kinds of containers are done
with, and what is left is that a binding names its column, its operator and the reason
(`bind_membership_fails_iff`).
-/

namespace FluentSql

/-! ### Visits -/

/-- A place of a value that is looked at when its JSON form is sought: a value, or a key of a
dictionary. -/
inductive Visit where
  | value (v : Value)
  | key (k : Value)

/-- The value is of a kind that has a JSON form. -/
def Value.hasJsonKind : Value → Bool
  | .null | .bool _ | .int _ | .float _ | .text _ => true
  | .collection .list _ | .collection .tuple _ | .dictionary _ => true
  | .date _ | .dateTime _ | .time _ | .decimal _ | .uuid _ => true
  | _ => false

/-- The value is of a kind that can name an entry. -/
def Value.hasKeyKind : Value → Bool
  | .text _ | .int _ | .float _ | .bool _ | .null => true
  | _ => false

namespace Visit

/-- What is visited has no JSON form at its place. -/
def offends : Visit → Bool
  | value v => !v.hasJsonKind
  | key k => !k.hasKeyKind

/-- What is wrong with an offender. -/
def mismatch : Visit → Mismatch
  | value v => .noJsonForm v.shortName
  | key k => .noJsonKey k.kindName

/-- What is wrong with an offender, in words. -/
def reason : Visit → String
  | value v => v.shortName ++ " values cannot be matched with IN on SQLite."
  | key k => "keys must be str, int, float, bool or None, not " ++ k.kindName

end Visit

mutual

/-- What is visited in a value, in order. -/
def Value.visits : Value → List Visit
  | .collection .list members => .value (.list members) :: memberVisits members
  | .collection .tuple members => .value (.tuple members) :: memberVisits members
  | .dictionary entries => .value (.dictionary entries) :: entryVisits entries
  | v => [.value v]

/-- What is visited in some values. -/
def memberVisits : List Value → List Visit
  | [] => []
  | v :: rest => v.visits ++ memberVisits rest

/-- What is visited in some entries: each key before its value. -/
def entryVisits : List (Value × Value) → List Visit
  | [] => []
  | (k, v) :: rest => .key k :: (v.visits ++ entryVisits rest)

end

/-- The first visit that offends. -/
def firstOffender? (visits : List Visit) : Option Visit :=
  visits.find? Visit.offends

/-! ### Failures -/

section Failure

variable {ε α β : Type}

/-- Why a step fails, if it does. -/
def failure? : Except ε α → Option ε
  | .ok _ => none
  | .error e => some e

theorem failure?_eq_none_iff {x : Except ε α} : failure? x = none ↔ ∃ a, x = .ok a := by
  cases x <;> simp [failure?]

/-- Two steps fail as the first of them does, or as the second one. -/
theorem failure?_bind_of_forall {x : Except ε α} {f : α → Except ε β} {rest : Option ε}
    (h : ∀ a, failure? (f a) = rest) : failure? (x >>= f) = (failure? x).or rest := by
  cases x with
  | error e => rfl
  | ok a => exact h a

theorem failure?_map (x : Except ε α) (f : α → β) : failure? (x.map f) = failure? x := by
  cases x <;> rfl

end Failure

/-- Two failures one after the other are those of the visits one after the other. -/
theorem offender_append (visits rest : List Visit) :
    (firstOffender? (visits ++ rest)).map Visit.mismatch =
      ((firstOffender? visits).map Visit.mismatch).or
        ((firstOffender? rest).map Visit.mismatch) := by
  rw [firstOffender?, List.find?_append, Option.map_or]
  rfl

/-- A visit that does not offend is passed over. -/
theorem firstOffender?_cons_of_not {x : Visit} (hx : x.offends = false) (rest : List Visit) :
    firstOffender? (x :: rest) = firstOffender? rest := by
  rw [firstOffender?, List.find?_cons_of_neg (by simp [hx])]
  rfl

theorem failure?_toJsonKey (k : Value) :
    failure? k.toJsonKey = (firstOffender? [.key k]).map Visit.mismatch := by
  cases k <;> rfl

mutual

/-- The search for the form of a value fails exactly by its first offender. -/
theorem failure?_toJson : ∀ v : Value,
    failure? v.toJson = (firstOffender? v.visits).map Visit.mismatch
  | .collection .list members => by
    rw [Value.toJson, failure?_map, failure?_toJsonItems, Value.visits,
      firstOffender?_cons_of_not rfl]
  | .collection .tuple members => by
    rw [Value.toJson, failure?_map, failure?_toJsonItems, Value.visits,
      firstOffender?_cons_of_not rfl]
  | .dictionary entries => by
    rw [Value.toJson, failure?_map, failure?_toJsonEntries, Value.visits,
      firstOffender?_cons_of_not rfl]
  | .null | .bool _ | .int _ | .float _ | .text _ => rfl
  | .date _ | .dateTime _ | .time _ | .decimal _ | .uuid _ => rfl
  | .collection .deque _ | .collection .set _ | .collection .frozenSet _ => rfl
  | .collection .stream _ | .bytes _ | .buffer _ | .range .. | .duration _ | .record .. => rfl

theorem failure?_toJsonItems : ∀ members : List Value,
    failure? (toJsonItems members) = (firstOffender? (memberVisits members)).map Visit.mismatch
  | [] => rfl
  | v :: rest => by
    rw [memberVisits, offender_append, ← failure?_toJson v, ← failure?_toJsonItems rest,
      toJsonItems]
    exact failure?_bind_of_forall fun _ ↦ failure?_map _ _

theorem failure?_toJsonEntries : ∀ entries : List (Value × Value),
    failure? (toJsonEntries entries) = (firstOffender? (entryVisits entries)).map Visit.mismatch
  | [] => rfl
  | (k, v) :: rest => by
    have hvisits : entryVisits ((k, v) :: rest) = [.key k] ++ (v.visits ++ entryVisits rest) := by
      rw [entryVisits]
      rfl
    rw [hvisits, offender_append, offender_append, ← failure?_toJsonKey k, ← failure?_toJson v,
      ← failure?_toJsonEntries rest, toJsonEntries]
    exact failure?_bind_of_forall fun _ ↦ failure?_bind_of_forall fun _ ↦ failure?_map _ _

end

/-- Some values have forms if no visit offends. -/
theorem exists_toJsonItems_iff {members : List Value} :
    (∃ items, toJsonItems members = .ok items) ↔ ∀ x ∈ memberVisits members, x.offends = false := by
  rw [← failure?_eq_none_iff, failure?_toJsonItems, Option.map_eq_none_iff, firstOffender?,
    List.find?_eq_none]
  simp only [Bool.not_eq_true]

/-! ### Bindings -/

namespace Dialect

/-- A test for membership. -/
def membershipFilter (column value : Value) : Filter :=
  { column, operator := .text Guard.membership, value }

/-- What a test for membership binds in SQLite. -/
theorem bind_membershipFilter {column value : Value} {members : List Value}
    (hmembers : value.members = .ok members) :
    sqlite.bind (membershipFilter column value) =
      match toJsonItems members with
      | .ok items => .ok (.text (Json.array items).render)
      | .error m =>
        .error (.misuse (.value column (.text Guard.membership) (.text m.message) (some m))) := by
  have hop : isMembership (membershipFilter column value) = true := Value.same_text_iff.2 rfl
  have hitems : value.members >>= toJsonItems = toJsonItems members := by rw [hmembers]; rfl
  show (if _ then bindJson _ else _) = _
  rw [if_pos hop, bindJson, membershipFilter]
  dsimp only
  cases hresult : toJsonItems members with
  | ok items => simp only [hitems, hresult]
  | error m => simp only [hitems, hresult]

end Dialect

end FluentSql
