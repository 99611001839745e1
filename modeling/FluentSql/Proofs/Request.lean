import FluentSql.Proofs.Run

/-!
# The requests of a query

Which requests a query makes, and what they look like. A request exists if there is a table and the
statement can be written; `Query.request_eq_ok_iff` lists, call by call, what its text and its
values are then (`Query.Requests`), and nothing later opens `Query.request` again.

The two parts that depend on what a caller gave are described by their texts:

* a payload has at least one entry and its keys are columns (`IsPayload`), so the statement of an
  insertion can always be written (`insert_eq`);
* the clauses of a read can be written if the columns of the projection are texts and the directions
  have capitals (`selectClause_eq_ok_iff`, `orderClause_eq_ok_iff`).
-/

namespace FluentSql

/-! ### Clauses -/

/-- The texts in a list of values are found if there is nothing else in it. -/
theorem textsFrom_eq_ok_iff {vs : List Value} {words : List String} {position : ℕ} :
    textsFrom position vs = .ok words ↔ vs = words.map .text := by
  induction vs generalizing words position with
  | nil => simp [textsFrom, eq_comm]
  | cons v rest ih =>
    cases v with
    | text s =>
      cases words with
      | nil => cases h : textsFrom (position + 1) rest <;> simp [textsFrom, h, Except.map]
      | cons word words =>
        rw [List.map_cons, List.cons.injEq, ← @ih words (position + 1), Value.text.injEq]
        cases h : textsFrom (position + 1) rest <;> simp [textsFrom, h, Except.map]
    | _ => cases words <;> simp [textsFrom]

/-- Values that are texts are the texts of a list of strings, with what is known of each. -/
theorem exists_texts {P : String → Prop} {vs : List Value}
    (h : ∀ v ∈ vs, ∃ s, v = .text s ∧ P s) :
    ∃ words : List String, vs = words.map .text ∧ ∀ w ∈ words, P w := by
  induction vs with
  | nil => exact ⟨[], rfl, by simp⟩
  | cons v rest ih =>
    obtain ⟨⟨s, rfl, hs⟩, hrest⟩ := List.forall_mem_cons.1 h
    obtain ⟨words, rfl, hwords⟩ := ih hrest
    exact ⟨s :: words, rfl, List.forall_mem_cons.2 ⟨hs, hwords⟩⟩

namespace Statement

/-- What is read is written if the columns are texts. -/
theorem selectClause_eq_ok_iff {distinct : Bool} {table : Value} {columns : List Value}
    {sql : String} :
    selectClause distinct table (.list columns) = .ok sql ↔
      ∃ words : List String, columns = words.map .text ∧
        sql = "SELECT " ++ (if distinct then "DISTINCT " else "") ++
          (if words.isEmpty then "*" else ", ".intercalate words) ++ " FROM " ++ table.display := by
  have hlength : (Value.list columns).length = .ok columns.length := rfl
  have hmembers : (Value.list columns).members = .ok columns := rfl
  cases columns with
  | nil =>
    simp [selectClause, hlength, bind_eq_ok_iff, pure, Except.pure, eq_comm (b := sql)]
  | cons v rest =>
    have hselect : selectClause distinct table (.list (v :: rest)) =
        (textsFrom 0 (v :: rest)).map fun words ↦
          "SELECT " ++ (if distinct then "DISTINCT " else "") ++ ", ".intercalate words ++
            " FROM " ++ table.display := by
      rcases htexts : textsFrom 0 (v :: rest) with m | words
      all_goals
        simp [selectClause, hlength, Value.commaJoined, hmembers, htexts, bind, Except.bind, pure,
          Except.pure, Except.map]
    rw [hselect, map_eq_ok_iff]
    constructor
    · rintro ⟨words, hwords, rfl⟩
      have hwords := textsFrom_eq_ok_iff.1 hwords
      have hne : words ≠ [] := by rintro rfl; simp at hwords
      exact ⟨words, hwords, by simp [hne]⟩
    · rintro ⟨words, hwords, rfl⟩
      have hne : words ≠ [] := by rintro rfl; simp at hwords
      exact ⟨words, textsFrom_eq_ok_iff.2 hwords, by simp [hne]⟩

/-- The order is written if the directions have capitals. -/
theorem orderClause_eq_ok_iff {orders : List SortTerm} {sql : String} :
    orderClause orders = .ok sql ↔
      ∃ terms : List String, List.Forall₂ (fun t s ↦ sortTerm t = .ok s) orders terms ∧
        sql = if orders.isEmpty then "" else " ORDER BY " ++ ", ".intercalate terms := by
  cases orders with
  | nil => simp [orderClause, eq_comm]
  | cons t rest =>
    simp only [orderClause, List.isEmpty_cons, Bool.false_eq_true, if_false, bind_eq_ok_iff,
      mapM_eq_ok_iff, pure, Except.pure, Except.ok.injEq, eq_comm (b := sql)]

/-- A read is written if its clauses are, and the bindings have members. -/
theorem read_eq_ok_iff {d : Dialect} {q : Query} {s : Statement} :
    read d q = .ok s ↔
      ∃ select order : String, selectClause q.distinct.truthy q.table q.columns = .ok select ∧
        orderClause q.orders = .ok order ∧ q.bindings.members = .ok s.values ∧
        s.sql = select ++ whereClause d 0 q.filters ++ order ++ boundClause "LIMIT" q.limit ++
          boundClause "OFFSET" q.offset := by
  simp only [read, bind_eq_ok_iff, pure, Except.pure, Except.ok.injEq]
  constructor
  · rintro ⟨select, hselect, order, horder, values, hvalues, rfl⟩
    exact ⟨select, order, hselect, horder, hvalues, rfl⟩
  · rintro ⟨select, order, hselect, horder, hvalues, hsql⟩
    exact ⟨select, hselect, order, horder, s.values, hvalues, by rw [← hsql]⟩

/-- An insertion is written if the keys of the payload are texts. -/
theorem insert_eq {d : Dialect} {table : Value} {payload : List (Value × Value)}
    {keys : List String} (hkeys : payload.map Prod.fst = keys.map .text) :
    insert d table payload = .ok
      { sql := "INSERT INTO " ++ table.display ++ " (" ++ ", ".intercalate keys ++ ") VALUES (" ++
          ", ".intercalate (marks d 0 payload.length) ++ ") RETURNING *"
        values := payload.map Prod.snd } := by
  have htexts : textsFrom 0 (payload.map Prod.fst) = .ok keys := textsFrom_eq_ok_iff.2 hkeys
  simp [insert, htexts, bind, Except.bind, pure, Except.pure]

end Statement

/-! ### Payloads -/

/-- Entries that data give for a payload: there is at least one, and the keys are columns. -/
structure IsPayload (data : Value) (entries : List (Value × Value)) : Prop where
  asPayload : data.asPayload = .ok entries
  ne_nil : entries ≠ []
  keys : ∃ keys : List String, entries.map Prod.fst = keys.map .text ∧
    ∀ key ∈ keys, Column.isColumn key.toList = true

/-- Keys pass their check if all of them are columns. -/
theorem checkKeys_eq_ok_iff {vs : List Value} {u : Unit} :
    checkKeys vs = .ok u ↔ ∃ keys : List String, vs = keys.map .text ∧
      ∀ key ∈ keys, Column.isColumn key.toList = true := by
  induction vs with
  | nil => simp [checkKeys]
  | cons v rest ih =>
    simp only [checkKeys, bind_eq_ok_iff, Guard.column_eq_ok_iff, ih]
    constructor
    · rintro ⟨_, ⟨s, rfl, hs, rfl⟩, keys, rfl, hkeys⟩
      exact ⟨s :: keys, rfl, List.forall_mem_cons.2 ⟨hs, hkeys⟩⟩
    · rintro ⟨keys, hvs, hkeys⟩
      cases keys with
      | nil => simp at hvs
      | cons s keys =>
        obtain ⟨rfl, hrest⟩ := List.cons.inj hvs
        obtain ⟨hs, hkeys⟩ := List.forall_mem_cons.1 hkeys
        exact ⟨_, ⟨s, rfl, hs, rfl⟩, keys, hrest, hkeys⟩

/-- What the checks of a payload establish. -/
theorem payload_eq_ok_iff {operation : String} {data : Value} {entries : List (Value × Value)} :
    payload operation data = .ok entries ↔ IsPayload data entries := by
  unfold payload
  rcases hdata : data.asPayload with m | given
  · have hno : ¬ IsPayload data entries := fun h ↦ by simpa [hdata] using h.asPayload
    simp [hno, throw, throwThe, MonadExceptOf.throw]
  · by_cases hnil : given = []
    · have hno : ¬ IsPayload data entries := fun h ↦
        h.ne_nil ((Except.ok.inj (hdata.symm.trans h.asPayload)).symm.trans hnil)
      simp [hno, hnil, throw, throwThe, MonadExceptOf.throw, bind, Except.bind]
    · simp only [List.isEmpty_iff, hnil, if_false, bind_eq_ok_iff, checkKeys_eq_ok_iff, pure,
        Except.pure, Except.ok.injEq]
      constructor
      · rintro ⟨_, hkeys, rfl⟩
        exact ⟨hdata, hnil, hkeys⟩
      · intro h
        obtain rfl := Except.ok.inj (hdata.symm.trans h.asPayload)
        exact ⟨(), h.keys, rfl⟩

/-! ### Requests -/

namespace Query

theorem requireTable_eq_ok_iff {q : Query} {operation : String} {v : Value} :
    q.requireTable operation = .ok v ↔ q.table.truthy = true ∧ v = q.table := by
  by_cases htable : q.table.truthy = true <;> simp [requireTable, htable, eq_comm (b := v)]

/-- The request that a query makes for a call, if there is a table. -/
inductive Requests (d : Dialect) (q : Query) : Terminal → Request → Prop
  | get {s : Statement} (h : Statement.read d q = .ok s) :
    Requests d q .get { sql := s.sql, params := s.values }
  | first {s : Statement} (h : Statement.read d q = .ok s) :
    Requests d q .first { sql := s.sql, params := s.values }
  | count {values : List Value} (h : q.bindings.members = .ok values) :
    Requests d q .count { sql := Statement.count d q.table q.filters, params := values }
  | create {data : Value} {entries : List (Value × Value)} {s : Statement}
    (hdata : IsPayload data entries) (h : Statement.insert d q.table entries = .ok s) :
    Requests d q (.create data) { sql := s.sql, params := s.values }
  | update {data : Value} {entries : List (Value × Value)} {values : List Value}
    (hdata : IsPayload data entries) (h : q.bindings.members = .ok values) :
    Requests d q (.update data)
      { sql := (Statement.update d q.table entries q.filters).sql
        params := entries.map Prod.snd ++ values }
  | delete {values : List Value} (h : q.bindings.members = .ok values) :
    Requests d q .delete { sql := Statement.delete d q.table q.filters, params := values }

/-- A query makes a request for a call if there is a table and the statement can be written. -/
theorem request_eq_ok_iff {d : Dialect} {q : Query} {op : Terminal} {r : Request} :
    q.request d op = .ok r ↔ q.table.truthy = true ∧ q.Requests d op r := by
  simp only [request, bind_eq_ok_iff, requireTable_eq_ok_iff]
  constructor
  · rintro ⟨_, ⟨htable, rfl⟩, h⟩
    refine ⟨htable, ?_⟩
    cases op <;> simp only [bind_eq_ok_iff, liftMismatch_eq_ok_iff, payload_eq_ok_iff, bound, pure,
      Except.pure, Except.ok.injEq] at h
    case get => obtain ⟨s, hs, rfl⟩ := h; exact .get hs
    case first => obtain ⟨s, hs, rfl⟩ := h; exact .first hs
    case count => obtain ⟨values, hvalues, rfl⟩ := h; exact .count hvalues
    case create data => obtain ⟨entries, hdata, s, hs, rfl⟩ := h; exact .create hdata hs
    case update data =>
      obtain ⟨entries, hdata, values, hvalues, rfl⟩ := h
      exact .update hdata hvalues
    case delete => obtain ⟨values, hvalues, rfl⟩ := h; exact .delete hvalues
  · rintro ⟨htable, h⟩
    refine ⟨q.table, ⟨htable, rfl⟩, ?_⟩
    cases h <;> simp only [bind_eq_ok_iff, liftMismatch_eq_ok_iff, payload_eq_ok_iff, bound, pure,
      Except.pure, Except.ok.injEq]
    case get s hs => exact ⟨s, hs, rfl⟩
    case first s hs => exact ⟨s, hs, rfl⟩
    case count values hvalues => exact ⟨values, hvalues, rfl⟩
    case create entries s hdata hs => exact ⟨entries, hdata, s, hs, rfl⟩
    case update entries values hdata hvalues => exact ⟨entries, hdata, values, hvalues, rfl⟩
    case delete values hvalues => exact ⟨values, hvalues, rfl⟩

end Query

end FluentSql
