import FluentSql.Proofs.Instance
import FluentSql.Proofs.Request

/-!
# Rows that come back as they were inserted

An insertion of an instance joins two ways between instances and rows. The payload is what the
instance is dumped to, and the row that comes back is validated by the model of the builder. If the
row is an echo, nothing but the columns of the insertion and their values, the two should cancel.

They do if the model holds its fields in rows under their names, and otherwise they do not
(`create_echoed_iff_keyed`). The checks of columns and the payload both go by names, while
validation goes by keys; in the catalog there is one model where this makes a difference, and none
of its instances can be inserted and read back (`echoed_aliased_refused`).
-/

namespace FluentSql

open Statement

/-! ### Models of the catalog -/

/-- A null, a truth value, an integer or a text. -/
def Value.IsScalar : Value → Prop
  | .null | .bool _ | .int _ | .text _ => True
  | _ => False

theorem Value.IsScalar.plain_eq {v : Value} (h : v.IsScalar) : v.plain = v := by
  cases v with
  | null | bool | int | text => rfl
  | _ => exact h.elim

namespace RowModel

theorem nodup_columns_of_mem_catalog {m : RowModel} (hm : m ∈ catalog) : m.columns.Nodup := by
  simp only [catalog, List.mem_cons, List.not_mem_nil, or_false] at hm
  rcases hm with rfl | rfl | rfl | rfl | rfl | rfl | rfl <;> decide

/-- There is one model in the catalog with a field whose key is not its name. -/
theorem keyed_or_eq_aliased {m : RowModel} (hm : m ∈ catalog) : m.Keyed ∨ m = aliased := by
  simp only [catalog, List.mem_cons, List.not_mem_nil, or_false] at hm
  rcases hm with rfl | rfl | rfl | rfl | rfl | rfl | rfl
  case inr.inr.inr.inr.inr.inl => exact Or.inr rfl
  all_goals exact Or.inl (by decide)

end RowModel

namespace Builder

/-- The request of an insertion has the columns of its payload and their values. -/
theorem exists_request_create {b : Builder} (htable : b.query.table.truthy = true) {data : Value}
    {columns : List (Value × Value)} (hpayload : IsPayload data columns) :
    ∃ (names : List String) (r : Request), b.request (.create data) = .ok r ∧
      r.sql = "INSERT INTO " ++ b.query.table.display ++ " (" ++ ", ".intercalate names ++
        ") VALUES (" ++ ", ".intercalate (marks b.dialect 0 names.length) ++ ") RETURNING *" ∧
      (∀ column ∈ names, Column.isColumn column.toList = true) ∧
      columns.map Prod.fst = names.map .text ∧ columns.map Prod.snd = r.params := by
  obtain ⟨names, hnames, hshape⟩ := hpayload.keys
  have hlength : columns.length = names.length := by simpa using congrArg List.length hnames
  have hrequest : b.request (.create data) = .ok _ :=
    Query.request_eq_ok_iff.2 ⟨htable, .create hpayload (insert_eq hnames)⟩
  exact ⟨names, _, hrequest, by rw [hlength]; rfl, hshape, hnames, rfl⟩

/-- The answer to an insertion is what the model makes of the row that comes back. -/
theorem run_create_result {σ : Type} {execute : Executor σ} {b : Builder} {m : RowModel}
    (hmodel : b.model = some m) {data : Value} {r : Request}
    (hr : b.request (.create data) = .ok r) {s : σ} {columns : List (Value × Value)}
    (hreply : (execute r s).1 = .ok (.list [.dictionary columns])) :
    (b.run execute (.create data) s).result = m.validate columns := by
  rw [run_eq, hr]
  simp only [hreply, hmodel]
  rfl

/-- **An echoed row is read as the instance that was inserted, exactly if rows hold the fields of
the model under their names.** For a validated instance of a model of the catalog, whose further
entries are scalars and whose dump is a payload, there is a request, with the columns and the values
of the insertion; and whatever replies to it with one row of these columns and values, the answer is
the instance again (its fields, its further entries and what was given to it) if and only if the
model is keyed by names. -/
theorem create_echoed_iff_keyed {m : RowModel} (hm : m ∈ RowModel.catalog)
    {row : List (Value × Value)} {name : String} {fields extras : List (String × Value)}
    {given : List String} (hvalid : m.validate row = .ok (.record name fields extras given))
    (hextras : ∀ e ∈ extras, e.2.IsScalar) {columns : List (Value × Value)}
    (hpayload : IsPayload (.record name fields extras given) columns) {b : Builder}
    (hmodel : b.model = some m) (htable : b.query.table.truthy = true) :
    ∃ (names : List String) (r : Request),
      b.request (.create (.record name fields extras given)) = .ok r ∧
        r.sql = "INSERT INTO " ++ b.query.table.display ++ " (" ++ ", ".intercalate names ++
          ") VALUES (" ++ ", ".intercalate (Statement.marks b.dialect 0 names.length) ++
            ") RETURNING *" ∧
        (∀ column ∈ names, Column.isColumn column.toList = true) ∧
        columns.map Prod.fst = names.map .text ∧ columns.map Prod.snd = r.params ∧
        ∀ {σ : Type} (execute : Executor σ) (s : σ),
          (execute r s).1 = .ok (.list [.dictionary ((names.map .text).zip r.params)]) →
            ((b.run execute (.create (.record name fields extras given)) s).result =
              .ok (.record name fields extras given) ↔ m.Keyed) := by
  obtain ⟨_, _, _, hrecord, h⟩ := RowModel.validate_eq_ok_iff.1 hvalid
  obtain ⟨rfl, rfl, rfl, rfl⟩ := Value.record.inj hrecord
  have hnodup := RowModel.nodup_columns_of_mem_catalog hm
  have hkeyed := RowModel.keyed_or_eq_aliased hm
  have hkept : m.Keyed ∨ m.extras ≠ .kept := hkeyed.imp_right (by rintro rfl; decide)
  have hcolumns : columns = namedEntries (RowModel.shown fields extras given) := Except.ok.inj
    (hpayload.asPayload.symm.trans
      (h.asPayload_eq hnodup hkept fun e he ↦ (hextras e he).plain_eq))
  obtain ⟨names, r, hrequest, hsql, hshape, hnames, hvalues⟩ :=
    exists_request_create htable hpayload
  refine ⟨names, r, hrequest, hsql, hshape, hnames, hvalues, fun execute s hreply ↦ ?_⟩
  rw [← List.zip_of_prod hnames hvalues] at hreply
  rw [run_create_result hmodel hrequest hreply, hcolumns]
  refine ⟨fun hread ↦ hkeyed.resolve_right ?_, fun hm ↦ h.validate_shown hm hnodup⟩
  rintro rfl
  exact h.validate_shown_ne (by decide) (List.mem_cons_self ..) rfl (by decide) _ hread

/-- The echo of an instance with an entry beside its fields is read with that entry. -/
theorem create_echoed_loose :
    let v : Value := .record "Loose" [("id", .int 1)] [("note", .text "new")] ["id", "note"]
    let b := fresh .sqlite (some RowModel.loose) (.text "users")
    let echo : Executor Unit := fun r s ↦
      (.ok (.list [.dictionary ([.text "id", .text "note"].zip r.params)]), s)
    (b.run echo (.create v) ()).result = .ok v := by
  intro v b echo
  have hvalid : RowModel.loose.validate [(.text "note", .text "new"), (.text "id", .text "1")] =
      .ok v := by
    have hone : Model.toInteger (.text "1") = .ok 1 := by rfl
    simp [RowModel.validate, RowModel.loose, RowModel.readFields, RowModel.readExtras,
      RowModel.readExtra, RowModel.claims, Field.read, Field.isGiven, lookupKey?, Value.same,
      Field.admit, FieldKind.admit, hone, failures, successes, bind, Except.bind, pure,
      Except.pure, Except.map, v]
  have hpayload : IsPayload v [(.text "id", .int 1), (.text "note", .text "new")] :=
    ⟨rfl, by simp, ["id", "note"], rfl, by decide⟩
  have hextras : ∀ e ∈ [("note", Value.text "new")], e.2.IsScalar := by
    intro e he
    obtain rfl := List.mem_singleton.1 he
    trivial
  obtain ⟨names, r, hrequest, -, -, hnames, -, hecho⟩ := create_echoed_iff_keyed
    (by simp [RowModel.catalog]) hvalid hextras hpayload (b := b) rfl rfl
  refine (hecho echo () ?_).2 (by decide)
  rw [← hnames]
  rfl

/-- A model with a key that is not the name of the field: its instance is inserted under the name,
and the row that comes back is refused because it has no such key. -/
theorem echoed_aliased_refused :
    let v : Value := .record "Aliased" [("user_id", .int 1), ("note", .null)] [] ["user_id"]
    let b := fresh .postgres (some RowModel.aliased) (.text "users")
    RowModel.aliased.validate [(.text "userId", .int 1)] = .ok v ∧
      b.request (.create v) =
        .ok { sql := "INSERT INTO users (user_id) VALUES ($1) RETURNING *", params := [.int 1] } ∧
      (b.run (fun _ s ↦ (.ok (.list [.dictionary [(.text "user_id", .int 1)]]), s))
        (.create v) ()).result = .error (.invalid "Aliased" [⟨.text "userId", .missing⟩]) := by
  intro v b
  have hrequest : b.request (.create v) =
      .ok { sql := "INSERT INTO users (user_id) VALUES ($1) RETURNING *", params := [.int 1] } :=
    rfl
  refine ⟨?_, hrequest, ?_⟩
  · simp [RowModel.validate, RowModel.aliased, RowModel.readFields, RowModel.readExtras, Field.read,
      Field.isGiven, lookupKey?, Value.same, RowModel.optional, Field.admit, FieldKind.admit,
      Model.toInteger, failures, successes, bind, Except.bind, pure, Except.pure, Except.map, v]
  · rw [run_create_result rfl hrequest rfl]
    simp [RowModel.validate, RowModel.aliased, RowModel.readFields, RowModel.readExtras, Field.read,
      lookupKey?, Value.same, RowModel.optional, failures, Except.map]

end Builder

end FluentSql
