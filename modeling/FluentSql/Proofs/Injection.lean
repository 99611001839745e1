import FluentSql.Proofs.Clauses
import FluentSql.Proofs.Projection

/-!
# Nothing is injected into the text of a statement

Columns, operators, directions, payload keys and numbers become part of the text of a statement.
They pass a guard before that, and what the guards let through has none of the characters that could
end a name and start something else. `Harmless` lists those characters; they are foreign to clauses
(`foreign_hazards`), and no mark starts with one.

The law is shown for any such characters. Clause by clause a text avoids them, so every request that
a sound query makes does (`Backend.avoids_of_requests`), in the four kinds of statements alike. The
table and the columns that are selected pass no guard, so here it depends on the callers, for the
table all along and for columns in every call that selects some (`Call.Selects`).
-/

namespace FluentSql

open Statement

/-! ### Statements without some foreign characters -/

namespace Backend

section

variable {be : Backend} {cs : List Char} (hcs : Foreign cs) (hopener : be.opener ∉ cs)
  {model : Option RowModel} {q : Query}

include hcs hopener

theorem avoids_mark (n : ℕ) : Avoids cs (be.mark n) := by
  have hmem : ∀ {c : Char}, c ∈ cs → c ≠ be.opener := by
    rintro _ hc rfl
    exact hopener hc
  cases be with
  | postgres =>
    have hdollar : Avoids cs "$" := fun c hc ↦ by simpa [opener] using hmem hc
    exact avoids_append.2 ⟨hdollar, hcs.avoids_repr n⟩
  | sqlite =>
    show Avoids cs "?"
    exact fun c hc ↦ by simpa [opener] using hmem hc

theorem avoids_marks (before count : ℕ) : ∀ mark ∈ be.marks before count, Avoids cs mark := by
  intro mark hmark
  obtain ⟨n, -, rfl⟩ := List.mem_map.1 hmark
  exact avoids_mark hcs hopener n

/-- A filter that has passed its guards is written with their characters only. -/
theorem avoids_filterText {f : Filter} (hf : f.Sound model) (n : ℕ) :
    Avoids cs (be.dialect.filterText f (label n)) := by
  obtain ⟨word, hword, hoperator⟩ := hf.operator
  have hcolumn : Avoids cs f.column.display := hf.column.avoids hcs
  have hmark : Avoids cs (be.mark n) := avoids_mark hcs hopener n
  have haround : ∀ before after : String, before.toList.all isClauseChar = true →
      after.toList.all isClauseChar = true →
        Avoids cs (f.column.display ++ before ++ be.mark n ++ after) := fun before after hb ha ↦
    avoids_append.2 ⟨avoids_append.2 ⟨avoids_append.2 ⟨hcolumn, hcs.avoids hb⟩, hmark⟩,
      hcs.avoids ha⟩
  have hcomparison : Avoids cs (Dialect.comparison f (be.mark n)) := by
    have hdisplay : f.operator.display = word := by rw [hoperator]; rfl
    simp only [Dialect.comparison, hdisplay, avoids_append]
    exact ⟨⟨⟨⟨hcolumn, hcs.avoids (by decide)⟩, hcs.avoids_operator hword⟩,
      hcs.avoids (by decide)⟩, hmark⟩
  rw [Dialect.filterText, mark_label]
  cases be with
  | postgres =>
    simp only [dialect, Dialect.postgres, Dialect.withArrays]
    split
    · exact haround " = ANY(" ")" (by decide) (by decide)
    · exact hcomparison
  | sqlite =>
    simp only [dialect, Dialect.sqlite]
    split
    · exact haround " IN (SELECT value FROM json_each(" "))" (by decide) (by decide)
    · split
      · simpa using haround " LIKE " "" (by decide) (by decide)
      · exact hcomparison

theorem avoids_whereClause {filters : List Filter} (h : ∀ f ∈ filters, f.Sound model)
    (before : ℕ) : Avoids cs (whereClause be.dialect before filters) := by
  unfold whereClause
  split
  · exact hcs.avoids (by decide)
  · refine avoids_append.2 ⟨hcs.avoids (by decide), avoids_intercalate (hcs.avoids (by decide)) ?_⟩
    rw [predicates_eq]
    exact forall_mem_mapIdx fun i f hf ↦ avoids_filterText hcs hopener (h f hf) _

theorem avoids_assignments {data : Value} {entries : List (Value × Value)}
    (hdata : IsPayload data entries) (before : ℕ) :
    ∀ text ∈ assignments be.dialect before entries, Avoids cs text := by
  rw [assignments_eq]
  refine forall_mem_mapIdx fun i entry hentry ↦ ?_
  simp only [avoids_append]
  exact ⟨⟨hdata.avoids hcs entry hentry, hcs.avoids (by decide)⟩, avoids_mark hcs hopener _⟩

/-- A read of a sound query. -/
theorem avoids_read (hq : q.Sound be.dialect model) (htable : Avoids cs q.table.display)
    (hcolumns : q.Projects (Value.Avoids cs)) {s : Statement}
    (h : Statement.read be.dialect q = .ok s) : Avoids cs s.sql := by
  obtain ⟨select, order, hselect, horder, -, hsql⟩ := read_eq_ok_iff.1 h
  obtain ⟨columns, heq, hall⟩ := hcolumns.columns
  rw [heq] at hselect
  rw [hsql]
  simp only [avoids_append]
  exact ⟨⟨⟨⟨avoids_selectClause hcs htable (fun word hword ↦ hall _ hword word rfl) hselect,
    avoids_whereClause hcs hopener hq.filters 0⟩, avoids_orderClause hcs hq.orders horder⟩,
    avoids_boundClause hcs hq.limit (hcs.avoids (by decide))⟩,
    avoids_boundClause hcs hq.offset (hcs.avoids (by decide))⟩

/-- An insertion. -/
theorem avoids_insert (htable : Avoids cs q.table.display) {data : Value}
    {entries : List (Value × Value)} (hdata : IsPayload data entries) {s : Statement}
    (h : Statement.insert be.dialect q.table entries = .ok s) : Avoids cs s.sql := by
  obtain ⟨keys, hkeys, hcolumns⟩ := hdata.keys
  rw [insert_eq hkeys, Except.ok.injEq] at h
  subst h
  have hmarks : Statement.marks be.dialect 0 entries.length = be.marks 0 entries.length :=
    be.statementMarks_eq 0 entries.length
  have hkeyTexts : Avoids cs (", ".intercalate keys) := avoids_intercalate (hcs.avoids (by decide))
    fun key hkey ↦ hcs.avoids_column (hcolumns key hkey)
  have hmarkTexts : Avoids cs (", ".intercalate (be.marks 0 entries.length)) :=
    avoids_intercalate (hcs.avoids (by decide)) (avoids_marks hcs hopener 0 _)
  simp only [hmarks, avoids_append]
  exact ⟨⟨⟨⟨⟨⟨hcs.avoids (by decide), htable⟩, hcs.avoids (by decide)⟩, hkeyTexts⟩,
    hcs.avoids (by decide)⟩, hmarkTexts⟩, hcs.avoids (by decide)⟩

/-- Every request of a sound query avoids what its table and its projection avoid. -/
theorem avoids_of_requests (hq : q.Sound be.dialect model) (htable : Avoids cs q.table.display)
    (hcolumns : q.Projects (Value.Avoids cs)) {op : Terminal} {r : Request}
    (h : q.Requests be.dialect op r) : Avoids cs r.sql := by
  have hwhere := avoids_whereClause hcs hopener hq.filters
  cases h with
  | get h => exact avoids_read hcs hopener hq htable hcolumns h
  | first h => exact avoids_read hcs hopener hq htable hcolumns h
  | count _ =>
    exact avoids_append.2 ⟨avoids_append.2 ⟨hcs.avoids (by decide), htable⟩, hwhere 0⟩
  | create hdata h => exact avoids_insert hcs hopener htable hdata h
  | update hdata _ =>
    simp only [Statement.update, avoids_append]
    exact ⟨⟨⟨⟨hcs.avoids (by decide), htable⟩, hcs.avoids (by decide)⟩,
      avoids_intercalate (hcs.avoids (by decide)) (avoids_assignments hcs hopener hdata 0)⟩,
      hwhere _⟩
  | delete _ =>
    exact avoids_append.2 ⟨avoids_append.2 ⟨hcs.avoids (by decide), htable⟩, hwhere 0⟩

end

end Backend

/-! ### Runs -/

/-- The characters that could end a name and start something else: the three quotation marks, the
end of a statement, the escape, the starts of comments, and the end of a text of some databases. -/
def hazards : List Char :=
  ['\x27', '\x22', '\x60', ';', '\\', '-', '/', '#', '\x00']

/-- The text has none of these characters. -/
def Harmless (s : String) : Prop :=
  Avoids hazards s

instance (s : String) : Decidable (Harmless s) :=
  inferInstanceAs (Decidable (Avoids _ s))

theorem foreign_hazards : Foreign hazards := by
  decide

namespace Builder

/-- **Every text of a run avoids** the foreign characters that its table and the selected columns
avoid, if no mark starts with one. -/
theorem avoids_of_run {be : Backend} {cs : List Char} (hcs : Foreign cs) (hopener : be.opener ∉ cs)
    {σ : Type} (execute : Executor σ) (s : σ) (model : Option RowModel) {table : Value}
    (htable : Avoids cs table.display) {calls : List Call}
    (hcalls : ∀ call ∈ calls, call.Selects (Value.Avoids cs)) {r : Request}
    (hr : r ∈ ((fresh be.dialect model table).performAll execute s calls).sent) :
    Avoids cs r.sql := by
  obtain ⟨history, op, hhistory, hrequest⟩ := request_of_mem_sent hr
  have hsound := ((fresh_sound be.dialect model table).foldl_after history).focus op
  have hprojects := projects_focus (projects_of_fresh hcs.avoids_star be.dialect model table
    fun call hcall ↦ hcalls call (hhistory.subset hcall)) op
  have hname : Avoids cs
      ((history.foldl after (fresh be.dialect model table)).focus op).query.table.display := by
    rw [focus_table, foldl_after_table]
    exact htable
  rw [request, foldl_after_dialect, Query.request_eq_ok_iff] at hrequest
  rw [foldl_after_dialect] at hsound
  exact Backend.avoids_of_requests hcs hopener hsound hname hprojects hrequest.2

/-- **Nothing is injected.** No text that a run of calls sends has a character that could end a name
and start something else, whatever the calls were given as columns, operators, directions, values,
payload keys and numbers. Of the callers only this is asked, that the table and the columns that
they select have no such characters. -/
theorem harmless_of_run (be : Backend) {σ : Type} (execute : Executor σ) (s : σ)
    (model : Option RowModel) {table : Value} (htable : Harmless table.display)
    {calls : List Call}
    (hcalls : ∀ call ∈ calls,
      call.Selects fun v ↦ ∀ word : String, v = .text word → Harmless word) :
    ∀ r ∈ ((fresh be.dialect model table).performAll execute s calls).sent, Harmless r.sql := by
  have hopener : be.opener ∉ hazards := by cases be <;> decide
  exact fun r hr ↦ avoids_of_run foreign_hazards hopener execute s model htable hcalls hr

/-- A filter that tries to end the statement is refused, and what is sent after it is harmless. -/
theorem harmless_of_refused_column :
    let filter : Fluent := .filter (.text "id = 1; DROP TABLE users --") (.text "=") (.int 1)
    let sent := ((fresh Backend.postgres.dialect none (.text "users")).performAll
      (fun _ s ↦ (.ok (.list []), s)) () [.fluent filter, .terminal .get]).sent
    sent = [{ sql := "SELECT * FROM users", params := [] }] ∧ ∀ r ∈ sent, Harmless r.sql := by
  intro filter sent
  refine ⟨rfl, harmless_of_run .postgres _ () none (by decide) ?_⟩
  intro call hcall
  simp only [List.mem_cons, List.not_mem_nil, or_false] at hcall
  rcases hcall with rfl | rfl <;> trivial

end Builder

end FluentSql
