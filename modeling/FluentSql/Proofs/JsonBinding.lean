import FluentSql.Proofs.JsonWriting
import FluentSql.Proofs.Offender

/-!
# Bindings that are JSON

When the text that a test for membership binds in SQLite is a JSON array. The floating-point numbers
in the tree of a value are those that are visited in it, in the same order (`numbers_toJson`), so
what is known of written trees can be said of the value: the text is a JSON array if every number
visited is finite, and is no JSON at all if one is not (`bind_membership_json_iff`). The numbers
that are not finite have no JSON form, but are written by their names instead of being refused.
-/

namespace FluentSql

open FluentSql.Number

/-- The floating-point number that is visited, if it is one. A key is written as a text. -/
def Visit.float? : Visit → Option Binary64
  | .value (.float x) => some x
  | _ => none

theorem Visit.float?_eq_some_iff {v : Visit} {x : Binary64} :
    v.float? = some x ↔ v = .value (.float x) := by
  unfold float?
  split
  · simp
  · next h =>
    constructor
    · nofun
    · rintro rfl
      exact absurd rfl (h x)

mutual

/-- The numbers in the tree of a value are those that are visited. -/
theorem numbers_toJson : ∀ {v : Value} {j : Json}, v.toJson = .ok j →
    j.numbers = v.visits.filterMap Visit.float?
  | .collection .list members, j, h => by
    rw [Value.toJson, map_eq_ok_iff] at h
    obtain ⟨items, hitems, rfl⟩ := h
    rw [Json.numbers, numbers_toJsonItems hitems, Value.visits]
    rfl
  | .collection .tuple members, j, h => by
    rw [Value.toJson, map_eq_ok_iff] at h
    obtain ⟨items, hitems, rfl⟩ := h
    rw [Json.numbers, numbers_toJsonItems hitems, Value.visits]
    rfl
  | .dictionary entries, j, h => by
    rw [Value.toJson, map_eq_ok_iff] at h
    obtain ⟨entries', hentries, rfl⟩ := h
    rw [Json.numbers, numbers_toJsonEntries hentries, Value.visits]
    rfl
  | .null, _, h | .bool _, _, h | .int _, _, h | .float _, _, h | .text _, _, h => by
    cases h
    rfl
  | .date _, _, h | .dateTime _, _, h | .time _, _, h | .decimal _, _, h | .uuid _, _, h => by
    cases h
    rfl

theorem numbers_toJsonItems : ∀ {members : List Value} {items : List Json},
    toJsonItems members = .ok items →
      Json.itemNumbers items = (memberVisits members).filterMap Visit.float?
  | [], items, h => by
    cases h
    rfl
  | v :: rest, items, h => by
    rw [toJsonItems, bind_eq_ok_iff] at h
    obtain ⟨item, hitem, h⟩ := h
    obtain ⟨items', hitems, h⟩ := bind_eq_ok_iff.1 h
    cases h
    rw [Json.itemNumbers, memberVisits, List.filterMap_append, numbers_toJson hitem,
      numbers_toJsonItems hitems]

theorem numbers_toJsonEntries : ∀ {entries : List (Value × Value)} {named : List (String × Json)},
    toJsonEntries entries = .ok named →
      Json.entryNumbers named = (entryVisits entries).filterMap Visit.float?
  | [], named, h => by
    cases h
    rfl
  | (k, v) :: rest, named, h => by
    rw [toJsonEntries, bind_eq_ok_iff] at h
    obtain ⟨name, -, h⟩ := h
    obtain ⟨item, hitem, h⟩ := bind_eq_ok_iff.1 h
    obtain ⟨named', hnamed, h⟩ := bind_eq_ok_iff.1 h
    cases h
    rw [Json.entryNumbers, entryVisits, List.filterMap_cons_none rfl, List.filterMap_append,
      numbers_toJson hitem, numbers_toJsonEntries hnamed]

end

namespace Dialect

/-- **What a test for membership binds in SQLite is a JSON array if the numbers visited are finite,
and no JSON otherwise.** For whatever the guard of values accepts, with any numbers of the format
at any depth: if a visit offends, the value is refused as misuse. If no visit offends, a text is
bound. The text is a JSON array if every floating-point number visited is finite; and if the text is
JSON of any kind, then every number visited is finite. -/
theorem bind_membership_json_iff {column value : Value}
    (haccepted : Guard.value column (.text Guard.membership) value = .ok ()) :
    ∃ members, value.members = .ok members ∧
      ((∃ v ∈ memberVisits members, v.offends = true) →
        ∃ reason cause, sqlite.bind (membershipFilter column value) =
          .error (.misuse
            (.value column (.text Guard.membership) (.text reason) (some cause)))) ∧
      ((∀ v ∈ memberVisits members, v.offends = false) →
        (∀ x, .value (.float x) ∈ memberVisits members → x.IsRepresentable) →
          ∃ s, sqlite.bind (membershipFilter column value) = .ok (.text s) ∧
            ((∀ x, .value (.float x) ∈ memberVisits members → x.isFinite = true) →
              ∃ items, Json.Denotes s.toList (.array items)) ∧
            (∀ j, Json.Denotes s.toList j →
              ∀ x, .value (.float x) ∈ memberVisits members → x.isFinite = true)) := by
  obtain ⟨members, hmembers⟩ :=
    exists_members_of_isMembershipList (Guard.value_eq_ok_iff.1 haccepted rfl)
  have hvisited : ∀ {items : List Json}, toJsonItems members = .ok items → ∀ x : Binary64,
      x ∈ (Json.array items).numbers ↔ .value (.float x) ∈ memberVisits members := by
    intro items hitems x
    rw [Json.numbers, numbers_toJsonItems hitems, List.mem_filterMap]
    constructor
    · rintro ⟨v, hv, hx⟩
      exact Visit.float?_eq_some_iff.1 hx ▸ hv
    · exact fun hx ↦ ⟨_, hx, rfl⟩
  refine ⟨members, hmembers, fun hoffends ↦ ?_, fun hnone hfloats ↦ ?_⟩
  · rw [bind_membershipFilter hmembers]
    cases hitems : toJsonItems members with
    | error m => exact ⟨m.message, m, rfl⟩
    | ok items =>
      obtain ⟨v, hv, hoffends⟩ := hoffends
      rw [exists_toJsonItems_iff.1 ⟨items, hitems⟩ v hv] at hoffends
      cases hoffends
  · obtain ⟨items, hitems⟩ := exists_toJsonItems_iff.2 hnone
    have hjson := Json.exists_denotes_chars_iff (j := .array items)
      fun x hx ↦ hfloats x ((hvisited hitems x).1 hx)
    refine ⟨(Json.array items).render, ?_, fun hfinite ↦ ?_, fun j hj x hx ↦ ?_⟩
    · rw [bind_membershipFilter hmembers, hitems]
    · obtain ⟨j, hj⟩ := hjson.2 fun x hx ↦ hfinite x ((hvisited hitems x).1 hx)
      obtain ⟨items', rfl⟩ := Json.exists_items_of_denotes hj
      exact ⟨items', by rwa [Json.render, String.toList_ofList]⟩
    · rw [Json.render, String.toList_ofList] at hj
      exact hjson.1 ⟨j, hj⟩ x ((hvisited hitems x).2 hx)

/-- Finite numbers at any depth, and not a number as a key, are bound as a JSON array. -/
theorem bind_membership_json_of_finite :
    let value : Value := .tuple [.float (.ofDecimal false 15 (-1)), .collection .list [],
      .dictionary [(.float .nan, .list [.float (.ofDecimal true 1 30)])]]
    Guard.value (.text "c") (.text Guard.membership) value = .ok () ∧
      ∃ s items, sqlite.bind (membershipFilter (.text "c") value) = .ok (.text s) ∧
        Json.Denotes s.toList (.array items) := by
  intro value
  have haccepted : Guard.value (.text "c") (.text Guard.membership) value = .ok () :=
    Guard.value_eq_ok_iff.2 fun _ ↦ rfl
  have hvisits : memberVisits [.float (.ofDecimal false 15 (-1)), .collection .list [],
      .dictionary [(.float .nan, .list [.float (.ofDecimal true 1 30)])]] =
      [.value (.float (.ofDecimal false 15 (-1))), .value (.list []), .value (.dictionary _),
        .key (.float .nan), .value (.list _), .value (.float (.ofDecimal true 1 30))] := rfl
  have hfloat : ∀ {x}, .value (.float x) ∈ memberVisits _ →
      x = .ofDecimal false 15 (-1) ∨ x = .ofDecimal true 1 30 := fun {x} hx ↦ by
    rw [hvisits] at hx
    simpa using hx
  obtain ⟨members, hmembers, -, hbinds⟩ := bind_membership_json_iff haccepted
  obtain rfl := Except.ok.inj hmembers
  obtain ⟨s, hbind, hjson, -⟩ := hbinds (by decide) fun x hx ↦ by
    rcases hfloat hx with rfl | rfl <;> exact Binary64.isRepresentable_ofDecimal ..
  obtain ⟨items, hitems⟩ := hjson fun x hx ↦ by rcases hfloat hx with rfl | rfl <;> decide
  exact ⟨haccepted, s, items, hbind, hitems⟩

/-- Not a number is accepted and bound by its name, which is no JSON. -/
theorem bind_membership_nan_not_json :
    let value : Value := .list [.float .nan]
    Guard.value (.text "c") (.text Guard.membership) value = .ok () ∧
      sqlite.bind (membershipFilter (.text "c") value) = .ok (.text "[NaN]") ∧
      ∀ j, ¬ Json.Denotes "[NaN]".toList j := by
  have hmembers : (Value.list [.float .nan]).members = .ok [.float .nan] := rfl
  have htext : (Json.array [.number .nan]).render = "[NaN]" := by decide
  refine ⟨Guard.value_eq_ok_iff.2 fun _ ↦ rfl, ?_, fun j hj ↦ ?_⟩
  · rw [← htext]
    exact bind_membershipFilter hmembers
  · rw [← Json.read?_eq_some_iff] at hj
    cases hj

end Dialect

end FluentSql
