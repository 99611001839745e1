import FluentSql.Proofs.Echo
import FluentSql.Proofs.Footprint
import FluentSql.Proofs.JsonWriting
import FluentSql.Proofs.Offender

/-!
# What is stored and what is looked for

A day reaches SQLite in two ways. As a value of its own, in an insertion or in a comparison, it is
bound as it came, and the database module makes a text of it (`Value.stored?`). As a member of a
test for membership it is written into the text of a JSON array, and that text is compared with what
is stored. A test finds the row of its member only if the two texts are one.

They are one for a day without a time, and never for a day with a time: the database module puts a
blank between the two, and the JSON array has a letter there (`lists_stored_iff`). As both are
texts, nothing fails when they differ. The row is just not found.

* What stands in the array is read off by the grammar of JSON, at the place of the member and
  whatever the other members are (`listed_of_denotes`).
* What is bound in an insertion and in a comparison is said of the builder that makes them, after
  any calls.
-/

namespace FluentSql

open FluentSql.Calendar

/-! ### Texts of days with times -/

/-- The text of a day with a time tells the separator. -/
theorem Calendar.DateTime.isoText_eq_iff {t : DateTime} {s s' : String} :
    t.isoText s = t.isoText s' ↔ s = s' := by
  simp only [DateTime.isoText, ← String.toList_inj, String.toList_append]
  rw [List.append_left_inj, List.append_right_inj]

/-- What the database module stores for a day, with a time or without, and what it compares with:
the ISO text, with a blank between the day and the time. -/
def Value.stored? : Value → Option String
  | .date d => some d.isoText
  | .dateTime t => some (t.isoText " ")
  | _ => none

/-- A day is listed by a text of JSON, which is the stored one for a day without a time only. -/
theorem Value.exists_toJson_of_stored {v : Value} {stored : String} (h : v.stored? = some stored) :
    ∃ listed, v.toJson = .ok (.text listed) ∧ (listed = stored ↔ ∃ d, v = .date d) := by
  cases v with
  | date d =>
    obtain rfl := Option.some.inj h
    exact ⟨d.isoText, rfl, iff_of_true rfl ⟨d, rfl⟩⟩
  | dateTime t =>
    obtain rfl := Option.some.inj h
    refine ⟨t.isoText "T", rfl, iff_of_false (fun heq ↦ ?_) nofun⟩
    exact absurd (DateTime.isoText_eq_iff.1 heq) (by decide)
  | _ => cases h

/-! ### Items of a bound array -/

/-- The trees of some values are the trees of each. -/
theorem toJsonItems_eq_ok_iff {members : List Value} {items : List Json} :
    toJsonItems members = .ok items ↔ List.Forall₂ (fun v j ↦ v.toJson = .ok j) members items := by
  have hmapM : ∀ vs : List Value, toJsonItems vs = vs.mapM Value.toJson := by
    intro vs
    induction vs with
    | nil => rfl
    | cons v rest ih => rw [toJsonItems, ih, List.mapM_cons]
  rw [hmapM, mapM_eq_ok_iff]

/-- Trees that are all read are read one by one. -/
theorem Json.itemsAsRead_mapM_eq_some_iff {items items' : List Json} :
    (itemsAsRead items).mapM id = some items' ↔
      List.Forall₂ (fun j j' ↦ j.asRead? = some j') items items' := by
  induction items generalizing items' with
  | nil => simp [itemsAsRead, eq_comm]
  | cons j rest ih =>
    rw [itemsAsRead, mapM_id_cons, List.forall₂_cons_left_iff]
    simp only [Option.bind_eq_some_iff, Option.map_eq_some_iff, ih]
    constructor
    · rintro ⟨j', hj, items, hitems, rfl⟩
      exact ⟨j', items, hj, hitems, rfl⟩
    · rintro ⟨j', items, hj, hitems, rfl⟩
      exact ⟨j', hj, items, hitems, rfl⟩

namespace Dialect

/-- If what a test for membership binds in SQLite is read as a JSON array, then a member that is
listed by a text has this text at its place. -/
theorem listed_of_denotes {column value : Value} {members : List Value} {s : String}
    {items : List Json} (hmembers : value.members = .ok members)
    (hbind : sqlite.bind (membershipFilter column value) = .ok (.text s))
    (hitems : Json.Denotes s.toList (.array items)) {i : ℕ} {v : Value} {listed : String}
    (hv : members[i]? = some v) (hlisted : v.toJson = .ok (.text listed)) :
    items[i]? = some (.text listed) := by
  rw [bind_membershipFilter hmembers] at hbind
  cases htrees : toJsonItems members with
  | error m => rw [htrees] at hbind; cases hbind
  | ok trees =>
    rw [htrees] at hbind
    cases hbind
    rw [Json.render, String.toList_ofList, ← Json.read?_eq_some_iff, Json.read?_chars, Json.asRead?,
      Option.map_eq_some_iff] at hitems
    obtain ⟨items', hread, heq⟩ := hitems
    obtain rfl := Json.array.inj heq
    obtain ⟨j, hj, hjson⟩ := exists_of_forall₂ (toJsonItems_eq_ok_iff.1 htrees) hv
    obtain rfl := Except.ok.inj (hlisted.symm.trans hjson)
    obtain ⟨j', hj', hself⟩ := exists_of_forall₂ (Json.itemsAsRead_mapM_eq_some_iff.1 hread) hj
    obtain rfl := Option.some.inj hself
    exact hj'

end Dialect

namespace Builder

/-! ### Values that are bound -/

/-- The call succeeds, and the value is bound after those that are bound already. -/
def Binds (b : Builder) (c : Fluent) (v : Value) : Prop :=
  ∃ bindings q, b.configure c = ({ b with query := q }, .ok ()) ∧
    b.query.bindings = .list bindings ∧ q.bindings = .list (bindings ++ [v])

/-- A filter that passes its checks binds what they return. -/
theorem Sound.binds_of_checkFilter {b : Builder} (hb : b.Sound)
    {column operator value binding : Value} {f : Filter}
    (h : b.checkFilter column operator value = .ok (f, binding)) :
    b.Binds (.filter column operator value) binding := by
  obtain ⟨bindings, hbindings, -⟩ := hb.bound
  refine ⟨bindings, { b.query with filters := b.query.filters ++ [f]
                                   bindings := .list (bindings ++ [binding]) }, ?_, hbindings, rfl⟩
  simp [configure, changeWith, h, Query.addFilter, hbindings, Value.append]

/-- A comparison in SQLite binds its value as it came. -/
theorem Sound.binds_equal {b : Builder} (hb : b.Sound) (hdialect : b.dialect = .sqlite)
    {column : Value} (hcolumn : IsColumnOf b.model column) (v : Value) :
    b.Binds (.filter column (.text "=") v) v := by
  have hoperator : Guard.operator (.text "=") = .ok (.text "=") := rfl
  refine hb.binds_of_checkFilter (f := ⟨column, .text "=", v⟩)
    (checkFilter_eq_ok_iff.2 ⟨hcolumn, hoperator, fun h ↦ ?_, rfl, ?_⟩)
  · exact absurd (Value.text.inj h) (by decide)
  · have hop : Dialect.isMembership ⟨column, .text "=", v⟩ = false := by
      simp [Dialect.isMembership, Guard.membership, Value.same]
    rw [hdialect]
    simp only [Dialect.sqlite, hop, Bool.false_eq_true, if_false]

/-- A test for membership in SQLite binds what the dialect binds for it. -/
theorem Sound.binds_membership {b : Builder} (hb : b.Sound) (hdialect : b.dialect = .sqlite)
    {column value binding : Value} (hcolumn : IsColumnOf b.model column)
    (hvalue : Guard.isMembershipList value = true)
    (hbind : Dialect.sqlite.bind (Dialect.membershipFilter column value) = .ok binding) :
    b.Binds (.filter column (.text Guard.membership) value) binding := by
  have hoperator : Guard.operator (.text Guard.membership) = .ok (.text Guard.membership) := rfl
  refine hb.binds_of_checkFilter (f := Dialect.membershipFilter column value)
    (checkFilter_eq_ok_iff.2 ⟨hcolumn, hoperator, fun _ ↦ hvalue, rfl, ?_⟩)
  rwa [hdialect]

/-- An insertion of one column has its value as it came. -/
theorem exists_request_create_single {b : Builder} (htable : b.query.table.truthy = true)
    {column : Value} (hcolumn : IsColumnOf b.model column) (v : Value) :
    ∃ r, b.request (.create (.dictionary [(column, v)])) = .ok r ∧ r.params = [v] := by
  obtain ⟨s, rfl, hs, -⟩ := hcolumn
  have hpayload : IsPayload (.dictionary [(.text s, v)]) [(.text s, v)] :=
    ⟨rfl, by simp, [s], rfl, by simpa using hs⟩
  obtain ⟨_, r, hr, -, -, -, hvalues⟩ := exists_request_create htable hpayload
  exact ⟨r, hr, hvalues.symm⟩

/-! ### The two texts -/

/-- **A day is looked for as it is stored, and a day with a time is not.** On a builder for SQLite,
after any calls, an insertion and a comparison bind a day as it came, so that the database module
stores `stored` and compares with it. A test for membership in this day alone binds a JSON array of
one text; and whatever is tested for membership, if what is bound is a JSON array at all, the day
has this text at its place. The text is the stored one if and only if the day has no time. -/
theorem lists_stored_iff {model : Option RowModel} {table : Value} (calls : List Call)
    (htable : table.truthy = true) {column : Value} (hcolumn : IsColumnOf model column) {v : Value}
    {stored : String} (hstored : v.stored? = some stored) :
    let b := calls.foldl after (fresh .sqlite model table)
    (∃ r, b.request (.create (.dictionary [(column, v)])) = .ok r ∧ r.params = [v]) ∧
      b.Binds (.filter column (.text "=") v) v ∧
      ∃ listed,
        (∃ s, b.Binds (.filter column (.text Guard.membership) (.list [v])) (.text s) ∧
          Json.Denotes s.toList (.array [.text listed])) ∧
        (∀ (value : Value) members s items (i : ℕ), value.members = .ok members →
          Dialect.sqlite.bind (Dialect.membershipFilter column value) = .ok (.text s) →
            Json.Denotes s.toList (.array items) → members[i]? = some v →
              items[i]? = some (.text listed)) ∧
        (listed = stored ↔ ∃ d, v = .date d) := by
  intro b
  have hb : b.Sound := (fresh_sound .sqlite model table).foldl_after calls
  have hdialect : b.dialect = .sqlite := foldl_after_dialect calls _
  have hmodel : b.model = model := foldl_after_model calls _
  have htable' : b.query.table.truthy = true := by
    rw [foldl_after_table]
    exact htable
  have hcolumn' : IsColumnOf b.model column := hmodel ▸ hcolumn
  obtain ⟨listed, hlisted, hiff⟩ := Value.exists_toJson_of_stored hstored
  refine ⟨exists_request_create_single htable' hcolumn' v, hb.binds_equal hdialect hcolumn' v,
    listed, ⟨(Json.array [.text listed]).render, ?_, ?_⟩, ?_, hiff⟩
  · refine hb.binds_membership hdialect hcolumn' rfl ?_
    have hmembers : (Value.list [v]).members = .ok [v] := rfl
    have htrees : toJsonItems [v] = .ok [.text listed] :=
      toJsonItems_eq_ok_iff.2 (.cons hlisted .nil)
    rw [Dialect.bind_membershipFilter hmembers, htrees]
  · rw [Json.render, String.toList_ofList]
    exact Json.denotes_chars rfl
  · intro value members s items i hmembers hbind hitems hv
    exact Dialect.listed_of_denotes hmembers hbind hitems hv hlisted

/-- A leap day is looked for as it is stored, and its last microsecond, east of Greenwich, is
not. -/
theorem lists_stored_leap_day :
    let day : Date := ⟨2024, 2, 29⟩
    let last : DateTime := ⟨day, ⟨23, 59, 59, 999999, some 19800⟩⟩
    let b := fresh .sqlite none (.text "users")
    (∃ s, b.Binds (.filter (.text "born") (.text "IN") (.list [.date day])) (.text s) ∧
        Json.Denotes s.toList (.array [.text "2024-02-29"])) ∧
      Value.stored? (.dateTime last) = some "2024-02-29 23:59:59.999999+05:30" ∧
      ∃ s listed, b.Binds (.filter (.text "born") (.text "IN") (.list [.dateTime last])) (.text s) ∧
        Json.Denotes s.toList (.array [.text listed]) ∧
        listed ≠ "2024-02-29 23:59:59.999999+05:30" := by
  intro day last b
  have hcolumn : IsColumnOf none (.text "born") := ⟨"born", rfl, by decide, nofun⟩
  have hday : Value.stored? (.date day) = some "2024-02-29" := by decide
  have hlast : Value.stored? (.dateTime last) = some "2024-02-29 23:59:59.999999+05:30" := by decide
  obtain ⟨-, -, listed, ⟨s, hbinds, hdenotes⟩, -, hiff⟩ :=
    @lists_stored_iff none (.text "users") [] rfl _ hcolumn _ _ hday
  obtain ⟨-, -, listed', ⟨s', hbinds', hdenotes'⟩, -, hiff'⟩ :=
    @lists_stored_iff none (.text "users") [] rfl _ hcolumn _ _ hlast
  obtain rfl := hiff.2 ⟨day, rfl⟩
  exact ⟨⟨s, hbinds, hdenotes⟩, hlast, s', listed', hbinds', hdenotes', fun h ↦
    nomatch hiff'.1 h⟩

/-- A test for membership in a day with a time lists a text that is not the stored one. -/
theorem membership_lists_other_text :
    let v : Value := .dateTime ⟨⟨2024, 1, 31⟩, ⟨8, 30, 0, 0, none⟩⟩
    v.stored? = some "2024-01-31 08:30:00" ∧
      Dialect.sqlite.bind (Dialect.membershipFilter (.text "c") (.list [v])) =
        .ok (.text "[\"2024-01-31T08:30:00\"]") ∧
      ∀ items, Json.Denotes "[\"2024-01-31T08:30:00\"]".toList (.array items) →
        .text "2024-01-31 08:30:00" ∉ items := by
  intro v
  have hmembers : (Value.list [v]).members = .ok [v] := rfl
  have htext : (Json.array [.text "2024-01-31T08:30:00"]).render =
      "[\"2024-01-31T08:30:00\"]" := by decide
  have htime : DateTime.isoText "T" ⟨⟨2024, 1, 31⟩, ⟨8, 30, 0, 0, none⟩⟩ =
      "2024-01-31T08:30:00" := by
    decide
  have htrees : toJsonItems [v] = .ok [.text "2024-01-31T08:30:00"] := by
    rw [← htime]
    rfl
  refine ⟨by decide, ?_, fun items hitems hmem ↦ ?_⟩
  · rw [Dialect.bind_membershipFilter hmembers, htrees, ← htext]
  · have hread : Json.Denotes "[\"2024-01-31T08:30:00\"]".toList
        (.array [.text "2024-01-31T08:30:00"]) := by
      rw [← htext, Json.render, String.toList_ofList]
      exact Json.denotes_chars rfl
    obtain rfl := Json.array.inj (hitems.unique hread)
    simp at hmem

end Builder

end FluentSql
