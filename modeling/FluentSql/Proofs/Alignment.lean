import FluentSql.Proofs.Clauses
import FluentSql.Proofs.Projection

/-!
# Every value stands at its mark

The text of a statement and its values are made in different places: the marks are numbered while
the clauses are written, and the values come from the payload and from the bindings of the query.
The two agree in every request that is sent, at whatever point of whatever run of calls: read from
left to right, the text has one mark for each value, and each mark stands where its value belongs.

* `Backend.FiltersAligned` is the part about filters. It is stated over the number of marks before
  the conditions, as an update has those of its assignments there.
* `Backend.Aligned` says for each call of a single statement where its marks stand.
* `Query.Plain` is the proviso. A table and a projection become part of the text as they are, so
  they must bring no opening characters of their own. Columns, operators and directions need no such
  proviso: they have passed their guards.
-/

namespace FluentSql

open Statement

/-! ### Queries -/

/-- What becomes part of a statement without a guard, table and projection, brings no marks. -/
structure Query.Plain (q : Query) : Prop where
  table : Unmarked q.table.display
  columns : ∃ columns, q.columns = .list columns ∧
    ∀ word : String, .text word ∈ columns → Unmarked word

theorem Query.Projects.plain {q : Query} (h : q.Projects (Value.Avoids ['$', '?']))
    (htable : Unmarked q.table.display) : q.Plain where
  table := htable
  columns := by
    obtain ⟨columns, hcolumns, hwords⟩ := h.columns
    exact ⟨columns, hcolumns, fun word hword ↦ unmarked_iff_avoids.2 (hwords _ hword word rfl)⟩

/-- The values that a sound query binds are those of its filters. -/
theorem Query.Sound.bound_of_members {d : Dialect} {model : Option RowModel} {q : Query}
    {values : List Value} (hq : q.Sound d model) (h : q.bindings.members = .ok values) :
    List.Forall₂ (fun f v ↦ d.bind f = .ok v) q.filters values := by
  obtain ⟨bindings, hbindings, hbound⟩ := hq.bound
  have hmembers : q.bindings.members = .ok bindings := by rw [hbindings]; rfl
  obtain rfl := Except.ok.inj (hmembers.symm.trans h)
  exact hbound

/-- The first clause of a read brings no marks. -/
theorem Query.Plain.unmarked_selectClause {q : Query} (hplain : q.Plain) {distinct : Bool}
    {sql : String} (h : selectClause distinct q.table q.columns = .ok sql) : Unmarked sql := by
  obtain ⟨columns, hcolumns, hwords⟩ := hplain.columns
  rw [hcolumns] at h
  exact unmarked_iff_avoids.2 (avoids_selectClause foreign_openers
    (unmarked_iff_avoids.1 hplain.table)
    (fun word hword ↦ unmarked_iff_avoids.1 (hwords word hword)) h)

namespace Backend

/-! ### Requests -/

/-- The values of a request after the first `before` are those of the filters, and they stand where
the filters do: the mark of the filter at place `j` is in the text of this filter, and the value at
this place is what the dialect binds for it. -/
structure FiltersAligned (be : Backend) (filters : List Filter) (before : ℕ) (r : Request) :
    Prop where
  length : r.params.length = before + filters.length
  holds : ∀ (j : ℕ) f, filters[j]? = some f →
    be.Holds 0 r.sql (before + j) (be.dialect.filterText f (label (before + j + 1 : ℕ)))
  bound : ∀ (j : ℕ) f, filters[j]? = some f →
    ∃ v, r.params[before + j]? = some v ∧ be.dialect.bind f = .ok v

/-- The assignments of an update are at the places of their keys, and hold the values of these. -/
structure AssignmentsAligned (be : Backend) (entries : List (Value × Value)) (r : Request) :
    Prop where
  holds : ∀ (k : ℕ) key value, entries[k]? = some (key, value) →
    be.Holds 0 r.sql k (key.display ++ " = " ++ be.mark (k + 1))
  values : ∀ (k : ℕ) key value, entries[k]? = some (key, value) → r.params[k]? = some value

/-- The values of a request stand where they belong: those of an insertion under their keys, those
of an update in the assignments to their keys, and in all other places those of the filters. -/
def Aligned (be : Backend) (q : Query) (r : Request) : Terminal → Prop
  | .get | .first | .count | .delete => be.FiltersAligned q.filters 0 r
  | .create data => ∃ entries keys, data.asPayload = .ok entries ∧
      entries.map Prod.fst = keys.map Value.text ∧ r.params = entries.map Prod.snd ∧
      r.sql = "INSERT INTO " ++ q.table.display ++ " (" ++ ", ".intercalate keys ++ ") VALUES (" ++
        ", ".intercalate (be.marks 0 keys.length) ++ ") RETURNING *"
  | .update data => ∃ entries, data.asPayload = .ok entries ∧ be.AssignmentsAligned entries r ∧
      be.FiltersAligned q.filters entries.length r

variable {be : Backend} {model : Option RowModel} {q : Query}

/-- A statement with its conditions after the first marks has a mark for each value, if its other
parts bring none, and the filters are aligned. -/
theorem filtersAligned_of_text (front : List Value) {values : List Value} {head tail : String}
    (hq : q.Sound be.dialect model) (hvalues : q.bindings.members = .ok values)
    (hhead : be.marksIn head = be.marks 0 front.length) (htail : IsTail tail) {r : Request}
    (hsql : r.sql = head ++ whereClause be.dialect front.length q.filters ++ tail)
    (hparams : r.params = front ++ values) :
    be.marksIn r.sql = be.marks 0 r.params.length ∧
      be.FiltersAligned q.filters front.length r := by
  have hbound := hq.bound_of_members hvalues
  have hlength : r.params.length = front.length + q.filters.length := by
    rw [hparams, List.length_append, hbound.length_eq]
  refine ⟨?_, hlength, ?_, ?_⟩
  · rw [hsql, hlength]
    exact marksIn_conditions hq.filters hhead htail
  · intro j f hf
    rw [hsql]
    exact holds_conditions hq.filters hhead hf tail
  · intro j f hf
    obtain ⟨v, hv, hbind⟩ := exists_of_forall₂ hbound hf
    refine ⟨v, ?_, hbind⟩
    rw [hparams, List.getElem?_append_right (Nat.le_add_right _ _), Nat.add_sub_cancel_left, hv]

/-- The case of a statement whose filters have the first marks. -/
theorem filtersAligned_of_unmarked {values : List Value} {head tail : String}
    (hq : q.Sound be.dialect model) (hvalues : q.bindings.members = .ok values)
    (hhead : Unmarked head) (htail : IsTail tail) {r : Request}
    (hsql : r.sql = head ++ whereClause be.dialect 0 q.filters ++ tail)
    (hparams : r.params = values) :
    be.marksIn r.sql = be.marks 0 r.params.length ∧ be.FiltersAligned q.filters 0 r :=
  filtersAligned_of_text [] hq hvalues (marksIn_of_unmarked be hhead) htail hsql hparams

/-- What a sound query reads is aligned. -/
theorem aligned_read (hq : q.Sound be.dialect model) (hplain : q.Plain) {s : Statement}
    (h : Statement.read be.dialect q = .ok s) {r : Request} (hr : r = ⟨s.sql, s.values⟩) :
    be.marksIn r.sql = be.marks 0 r.params.length ∧ be.FiltersAligned q.filters 0 r := by
  obtain ⟨select, order, hselect, horder, hvalues, hsql⟩ := read_eq_ok_iff.1 h
  have hhead : Unmarked select := hplain.unmarked_selectClause hselect
  have htail : IsTail (order ++ boundClause "LIMIT" q.limit ++ boundClause "OFFSET" q.offset) :=
    ((isTail_orderClause hq.orders horder).append
      (isTail_boundClause hq.limit (by decide))).append (isTail_boundClause hq.offset (by decide))
  subst hr
  refine filtersAligned_of_unmarked hq hvalues hhead htail ?_ rfl
  rw [hsql]
  simp only [String.append_assoc]

/-- An insertion has one mark for each key of its payload. -/
theorem aligned_insert (hplain : q.Plain) {data : Value} {entries : List (Value × Value)}
    (hdata : IsPayload data entries) {s : Statement}
    (h : Statement.insert be.dialect q.table entries = .ok s) :
    be.marksIn s.sql = be.marks 0 s.values.length ∧
      be.Aligned q ⟨s.sql, s.values⟩ (.create data) := by
  obtain ⟨keys, hkeys, hcolumns⟩ := hdata.keys
  have hcount : entries.length = keys.length := by
    simpa using congrArg List.length hkeys
  have hmarks : Statement.marks be.dialect 0 entries.length = be.marks 0 keys.length := by
    rw [hcount]
    exact be.statementMarks_eq 0 keys.length
  rw [insert_eq hkeys, Except.ok.injEq, hmarks] at h
  subst h
  refine ⟨?_, entries, keys, hdata.asPayload, hkeys, rfl, rfl⟩
  have hhead : Unmarked ("INSERT INTO " ++ q.table.display ++ " (" ++ ", ".intercalate keys ++
      ") VALUES (") := by
    simp only [unmarked_append]
    have hkeyTexts : ∀ key ∈ keys, Unmarked key := fun key hkey ↦
      unmarked_iff_avoids.2 (foreign_openers.avoids_column (hcolumns key hkey))
    exact ⟨⟨⟨⟨by decide, hplain.table⟩, by decide⟩, unmarked_intercalate (by decide) hkeyTexts⟩,
      by decide⟩
  show be.marksIn (_ ++ ", ".intercalate (be.marks 0 keys.length) ++ ") RETURNING *") =
    be.marks 0 (entries.map Prod.snd).length
  rw [be.marksIn_append_right _ (by decide) (by decide), be.marksIn_append_of_unmarked hhead,
    (be.numbered_marks 0 keys.length).marksIn_intercalate (by decide) (by decide) (by decide),
    marks_length, List.length_map, hcount]

/-- An update has the marks of its assignments first, and then those of its filters. -/
theorem aligned_update (hq : q.Sound be.dialect model) (hplain : q.Plain) {data : Value}
    {entries : List (Value × Value)} {values : List Value} (hdata : IsPayload data entries)
    (hvalues : q.bindings.members = .ok values) {r : Request}
    (hr : r = ⟨(Statement.update be.dialect q.table entries q.filters).sql,
      entries.map Prod.snd ++ values⟩) :
    be.marksIn r.sql = be.marks 0 r.params.length ∧ be.Aligned q r (.update data) := by
  have hintro : Unmarked ("UPDATE " ++ q.table.display ++ " SET ") := by
    simp only [unmarked_append]
    exact ⟨⟨by decide, hplain.table⟩, by decide⟩
  have hhead : be.marksIn ("UPDATE " ++ q.table.display ++ " SET " ++
      ", ".intercalate (assignments be.dialect 0 entries)) =
        be.marks 0 (entries.map Prod.snd).length := by
    rw [be.marksIn_append_of_unmarked hintro, List.length_map]
    exact be.marksIn_assignments hdata.unmarked 0
  -- The conditions are numbered after the keys, and the values of the keys come first as well.
  have hsql : r.sql = "UPDATE " ++ q.table.display ++ " SET " ++
      ", ".intercalate (assignments be.dialect 0 entries) ++
        whereClause be.dialect (entries.map Prod.snd).length q.filters ++ "" := by
    rw [hr, List.length_map, String.append_empty]
    rfl
  obtain ⟨hmarks, hfilters⟩ := filtersAligned_of_text (entries.map Prod.snd) hq hvalues hhead
    isTail_empty hsql (by rw [hr])
  rw [List.length_map] at hfilters
  refine ⟨hmarks, entries, hdata.asPayload, ⟨?_, ?_⟩, hfilters⟩
  · intro k key value hentry
    have hplace := be.holds_assignments hdata.unmarked 0 hentry
    rw [Nat.zero_add] at hplace
    rw [hsql]
    exact ((hplace.after_unmarked hintro).append _).append _
  · intro k key value hentry
    have hplace : (entries.map Prod.snd)[k]? = some value := by
      rw [List.getElem?_map, hentry]
      rfl
    rw [hr, List.getElem?_append_left (List.getElem?_eq_some_iff.1 hplace).1, hplace]

/-- Every request of a sound query is aligned. -/
theorem aligned_of_requests (hq : q.Sound be.dialect model) (hplain : q.Plain) {op : Terminal}
    {r : Request} (h : q.Requests be.dialect op r) :
    be.marksIn r.sql = be.marks 0 r.params.length ∧ be.Aligned q r op := by
  cases h with
  | get h => exact aligned_read hq hplain h rfl
  | first h => exact aligned_read hq hplain h rfl
  | count hvalues =>
    refine filtersAligned_of_unmarked hq hvalues ?_ isTail_empty (String.append_empty.symm) rfl
    exact unmarked_append.2 ⟨by decide, hplain.table⟩
  | create hdata h => exact aligned_insert hplain hdata h
  | update hdata hvalues => exact aligned_update hq hplain hdata hvalues rfl
  | delete hvalues =>
    refine filtersAligned_of_unmarked hq hvalues ?_ isTail_empty (String.append_empty.symm) rfl
    exact unmarked_append.2 ⟨by decide, hplain.table⟩

end Backend

/-! ### Runs -/

/-- The columns that a call selects, if it does, bring no marks. -/
def Call.Plain : Call → Prop
  | .fluent (.select columns) => ∀ word : String, .text word ∈ columns → Unmarked word
  | _ => True

theorem Call.Plain.selects {call : Call} (h : call.Plain) :
    call.Selects (Value.Avoids ['$', '?']) := by
  cases call with
  | fluent c =>
    cases c with
    | select columns => rintro _ hv word rfl; exact unmarked_iff_avoids.1 (h word hv)
    | _ => trivial
  | _ => trivial

namespace Builder

variable {b : Builder}

/-- Calls that select no marks leave a query without them, whether they succeed or not. -/
theorem plain_of_fresh (d : Dialect) (model : Option RowModel) {table : Value}
    (htable : Unmarked table.display) {calls : List Call} (hcalls : ∀ call ∈ calls, call.Plain) :
    (calls.foldl after (fresh d model table)).query.Plain := by
  refine (projects_of_fresh foreign_openers.avoids_star d model table
    fun call hcall ↦ (hcalls call hcall).selects).plain ?_
  rw [foldl_after_table]
  exact htable

theorem plain_focus (hplain : b.query.Plain) (op : Terminal) : (b.focus op).query.Plain := by
  cases op with
  | first => exact ⟨hplain.table, hplain.columns⟩
  | _ => exact hplain

/-- What a builder asks for is aligned, and no limit that it sets for that moves a mark. -/
theorem aligned_of_request {be : Backend} (hdialect : b.dialect = be.dialect) (hb : b.Sound)
    (hplain : b.query.Plain) {op : Terminal} {r : Request} (h : b.request op = .ok r) :
    be.marksIn r.sql = be.marks 0 r.params.length ∧ be.Aligned b.query r op := by
  have hsound := hb.focus op
  rw [request, hdialect, Query.request_eq_ok_iff] at h
  rw [hdialect] at hsound
  obtain ⟨hmarks, haligned⟩ := Backend.aligned_of_requests hsound (plain_focus hplain op) h.2
  refine ⟨hmarks, ?_⟩
  -- The limit of `focus` is no part of what `Aligned` reads.
  cases op <;> exact haligned

/-- **Alignment of marks and values.** In every request that a call sends after any run of calls,
whatever their arguments and outcomes were, there is one mark for each value, the marks are numbered
from one in the order in which they stand, and each stands where its value belongs. Of the callers
only this is asked, that the table and the columns that they select bring no marks themselves. -/
theorem aligned_of_sent (be : Backend) {σ : Type} (execute : Executor σ) (s : σ)
    (model : Option RowModel) {table : Value} (htable : Unmarked table.display)
    {history : List Call} (hhistory : ∀ call ∈ history, call.Plain) (call : Call) {k : ℕ}
    {r : Request} :
    let before := (fresh be.dialect model table).performAll execute s history
    (before.builder.perform execute call before.state).sent[k]? = some r →
      ∃ op, call.part k = some op ∧ be.marksIn r.sql = be.marks 0 r.params.length ∧
        be.Aligned before.builder.query r op := by
  intro before hsent
  obtain ⟨op, hpart, hrequest⟩ := request_of_sent hsent
  have hfresh := fresh_sound be.dialect model table
  have hbuilder : before.builder = history.foldl after (fresh be.dialect model table) :=
    performAll_builder execute history _ s
  have hdialect : before.builder.dialect = be.dialect := by
    rw [hbuilder, foldl_after_dialect]
    rfl
  have hsound : before.builder.Sound := hbuilder ▸ hfresh.foldl_after history
  have hplain : before.builder.query.Plain := by
    rw [hbuilder]
    exact plain_of_fresh be.dialect model htable hhistory
  exact ⟨op, hpart, aligned_of_request hdialect hsound hplain hrequest⟩

/-- In an update of the rows that pass a filter, the second mark is the one of the filter. -/
theorem aligned_update_of_filtered :
    let filter : Fluent := .filter (.text "age") (.text ">") (.int 18)
    let update : Terminal := .update (.dictionary [(.text "name", .text "Al")])
    let before := (fresh Backend.postgres.dialect none (.text "users")).performAll
      (fun _ s ↦ (.ok .null, s)) () [.fluent filter]
    let r : Request :=
      { sql := "UPDATE users SET name = $1 WHERE age > $2", params := [.text "Al", .int 18] }
    ∃ op, (Call.terminal update).part 0 = some op ∧
      Backend.postgres.marksIn r.sql = ["$1", "$2"] ∧
        Backend.postgres.Aligned before.builder.query r op := by
  intro filter update before r
  let filtered : Builder :=
    { dialect := .postgres
      query :=
        { table := .text "users"
          filters := [{ column := .text "age", operator := .text ">", value := .int 18 }]
          bindings := .list [.int 18] } }
  have hcolumn : Guard.column (.text "age") = .ok (.text "age") := rfl
  have hoperator : Guard.operator (.text ">") = .ok (.text ">") := rfl
  have hfilter : (fresh .postgres none (.text "users")).configure filter = (filtered, .ok ()) := by
    simp [filter, filtered, configure, fresh, changeWith, checkFilter, checkColumn, checkField,
      hcolumn, hoperator, Guard.value, Guard.membership, Value.same, bind, Except.bind, pure,
      Except.pure, Dialect.postgres, Dialect.withArrays, Dialect.isMembership, Query.addFilter,
      Value.append]
  have hrequest : filtered.request update = .ok r := by
    have hcomparison : Dialect.isMembership ⟨.text "age", .text ">", .int 18⟩ = false := by
      simp [Dialect.isMembership, Guard.membership, Value.same]
    have hsql : (Statement.update .postgres (.text "users") [(.text "name", .text "Al")]
        filtered.query.filters).sql = r.sql := by
      simp only [Statement.update, filtered, whereClause, predicates, Dialect.filterText,
        Dialect.postgres, Dialect.withArrays, hcomparison]
      rfl
    have hdata : IsPayload (.dictionary [(.text "name", .text "Al")])
        [(.text "name", .text "Al")] := ⟨rfl, by simp, ["name"], rfl, by decide⟩
    have hupdate := Query.Requests.update (d := .postgres) (q := filtered.query) hdata rfl
    rw [show filtered.query.table = .text "users" from rfl, hsql] at hupdate
    exact Query.request_eq_ok_iff.2 ⟨rfl, hupdate⟩
  have hhistory : ∀ call ∈ [Call.fluent filter], call.Plain := by
    intro call hcall
    obtain rfl := List.mem_singleton.1 hcall
    trivial
  refine aligned_of_sent .postgres _ () none (by decide) hhistory (.terminal update) (k := 0) ?_
  show (((fresh .postgres none (.text "users")).configure filter).1.run
    (fun _ s ↦ (.ok .null, s)) update ()).sent[0]? = some r
  rw [hfilter, run_eq, hrequest]
  rfl

end Builder

end FluentSql
