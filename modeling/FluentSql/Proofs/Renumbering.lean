import FluentSql.Proofs.Clauses

/-!
# One text of conditions for every statement

A read, a count, a deletion and an update with the same filters must be about the same rows. Their
conditions are written by one clause, and all that this clause is told of the statement is how many
marks come before it. So what has to be known is what the number does to the text.

* Where marks are numbered, it is added to the number of every mark and does nothing else
  (`whereClause_postgres_eq`). The marks are found in the text for this, as `Backend.marksIn` does:
  `renumber` reads a text from left to right and takes every opening character together with all
  digits right after it. So the law holds where numbers get another digit as well.
* Where marks have no numbers, it does nothing (`whereClause_sqlite_eq`).
* Filters that are split into two lists are written by two clauses, the second of which has the
  filters of the first counted among the marks before it (`whereClause_append`). That goes for every
  dialect.

For the first law a filter is needed as a text around its mark that does not depend on the number
(`exists_filterText_postgres`). The column and the operator are arbitrary there but for the opening
character, which the guards let through in neither. So the law holds of the filters of every builder
(`Sound.whereClause_eq`), and its statements share their conditions (`SharesConditions`).
-/

namespace FluentSql

open Statement

/-! ### Renumbering -/

/-- The digits of a number increased by `k`. No digits are no number, and stay. -/
def increased (k : ℕ) (digits : List Char) : List Char :=
  if digits.isEmpty then [] else (Nat.ofDigitChars 10 digits 0 + k).repr.toList

/-- Characters with `k` added to the number of every mark. -/
def renumbered (k : ℕ) : List Char → List Char
  | [] => []
  | c :: rest =>
    if c = '$' then
      '$' :: (increased k (rest.takeWhile Char.isDigit) ++
        renumbered k (rest.dropWhile Char.isDigit))
    else c :: renumbered k rest
termination_by s => s.length
decreasing_by
  · exact Nat.lt_succ_of_le (List.dropWhile_sublist _).length_le
  · exact Nat.lt_succ_self _

/-- A text with `k` added to the number of every mark, where marks have numbers. -/
def Backend.renumber : Backend → ℕ → String → String
  | .postgres, k, s => String.ofList (renumbered k s.toList)
  | .sqlite, _, s => s

theorem increased_repr (k n : ℕ) : increased k n.repr.toList = (n + k).repr.toList := by
  have hchars : n.repr.toList = Nat.toDigits 10 n := String.toList_ofList
  have hne : (Nat.toDigits 10 n).isEmpty = false := by simp
  rw [increased, hchars, hne, if_neg Bool.false_ne_true, Nat.ofDigitChars_ten_toDigits]

theorem renumbered_append_of_not_mem (k : ℕ) {l : List Char} (h : '$' ∉ l) (r : List Char) :
    renumbered k (l ++ r) = l ++ renumbered k r := by
  induction l with
  | nil => rfl
  | cons c rest ih =>
    rw [List.mem_cons, not_or] at h
    rw [List.cons_append, renumbered, if_neg (Ne.symm h.1), ih h.2]
    rfl

/-- A mark gets another number, and what follows it is renumbered if it does not go on with it. -/
theorem renumbered_mark_append (k n : ℕ) {r : List Char} (h : ∀ c ∈ r.head?, c.isDigit = false) :
    renumbered k ('$' :: (n.repr.toList ++ r)) =
      '$' :: ((n + k).repr.toList ++ renumbered k r) := by
  have hdigits : ∀ c ∈ n.repr.toList, c.isDigit = true := fun _ ↦ isDigit_of_mem_repr
  have htake : (n.repr.toList ++ r).takeWhile Char.isDigit = n.repr.toList := by
    rw [Backend.takeWhile_append_of_head? h, List.takeWhile_eq_self_iff.2 hdigits]
  have hdrop : (n.repr.toList ++ r).dropWhile Char.isDigit = r := by
    rw [List.dropWhile_append_of_pos hdigits]
    cases r with
    | nil => rfl
    | cons c rest => rw [List.dropWhile_cons, h c rfl, if_neg Bool.false_ne_true]
  rw [renumbered, if_pos rfl, htake, hdrop, increased_repr]

namespace Backend

@[simp]
theorem renumber_empty (be : Backend) (k : ℕ) : be.renumber k "" = "" := by
  cases be with
  | postgres => rw [renumber, String.toList_empty, renumbered, String.ofList_nil]
  | sqlite => rfl

theorem renumber_postgres_append {s : String} (hs : '$' ∉ s.toList) (k : ℕ) (t : String) :
    postgres.renumber k (s ++ t) = s ++ postgres.renumber k t := by
  simp only [renumber, ← String.toList_inj, String.toList_append, String.toList_ofList]
  exact renumbered_append_of_not_mem k hs t.toList

theorem renumber_postgres_mark_append (k n : ℕ) {t : String} (ht : Detached t) :
    postgres.renumber k (postgres.mark n ++ t) =
      postgres.mark (n + k) ++ postgres.renumber k t := by
  have hmark : ∀ m : ℕ, (postgres.mark m).toList = '$' :: m.repr.toList := fun m ↦ by
    rw [mark, String.toList_append]
    rfl
  simp only [renumber, ← String.toList_inj, String.toList_append, String.toList_ofList, hmark,
    List.cons_append]
  exact renumbered_mark_append k n ht

end Backend

/-! ### Conditions -/

/-- No numbered mark starts in the column or in the operator. -/
structure Filter.Unnumbered (f : Filter) : Prop where
  column : '$' ∉ f.column.display.toList
  operator : '$' ∉ f.operator.display.toList

/-- The guards let through no character that a mark starts with. -/
theorem Filter.Sound.unnumbered {model : Option RowModel} {f : Filter} (hf : f.Sound model) :
    f.Unnumbered where
  column := hf.column.unmarked.1
  operator := by
    obtain ⟨word, hword, hoperator⟩ := hf.operator
    rw [hoperator]
    exact (unmarked_of_mem_allowedOperators hword).1

/-- A filter is written as a text around its mark, without another one, and the text that follows
the mark does not go on with it. -/
theorem Filter.Unnumbered.exists_filterText_postgres {f : Filter} (hf : f.Unnumbered) :
    ∃ front back : String, '$' ∉ front.toList ∧ '$' ∉ back.toList ∧ Detached back ∧
      ∀ n : ℕ, Backend.postgres.dialect.filterText f (label n) =
        front ++ (Backend.postgres.mark n ++ back) := by
  by_cases hop : Dialect.isMembership f = true
  · refine ⟨f.column.display ++ " = ANY(", ")", ?_, by decide, by decide, fun n ↦ ?_⟩
    · rw [String.toList_append, List.mem_append, not_or]
      exact ⟨hf.column, by decide⟩
    · rw [Dialect.filterText, Backend.mark_label]
      simp only [Backend.dialect, Dialect.postgres, Dialect.withArrays, hop, if_true,
        String.append_assoc]
  · refine ⟨f.column.display ++ " " ++ f.operator.display ++ " ", "", ?_, by decide, by decide,
      fun n ↦ ?_⟩
    · simp only [String.toList_append, List.mem_append, not_or]
      exact ⟨⟨⟨hf.column, by decide⟩, hf.operator⟩, by decide⟩
    · rw [Dialect.filterText, Backend.mark_label, String.append_empty]
      simp only [Backend.dialect, Dialect.postgres, Dialect.withArrays, hop, Bool.false_eq_true,
        if_false, Dialect.comparison]

namespace Statement

/-- A filter gets another number, and what follows it is renumbered if it does not go on with the
mark. -/
theorem renumber_filterText_append (k n : ℕ) {f : Filter} (hf : f.Unnumbered) {t : String}
    (ht : Detached t) :
    Backend.postgres.renumber k (Backend.postgres.dialect.filterText f (label n) ++ t) =
      Backend.postgres.dialect.filterText f (label (n + k : ℕ)) ++
        Backend.postgres.renumber k t := by
  obtain ⟨front, back, hfront, hback, hdetached, htext⟩ := hf.exists_filterText_postgres
  rw [htext, htext, String.append_assoc, String.append_assoc,
    Backend.renumber_postgres_append hfront,
    Backend.renumber_postgres_mark_append k n (hdetached.append ht),
    Backend.renumber_postgres_append hback]
  simp only [String.append_assoc]

/-- Conditions with other numbers are the conditions renumbered. -/
theorem renumber_intercalate_predicates (k before : ℕ) {filters : List Filter}
    (h : ∀ f ∈ filters, f.Unnumbered) :
    Backend.postgres.renumber k
        (" AND ".intercalate (predicates Backend.postgres.dialect before filters)) =
      " AND ".intercalate (predicates Backend.postgres.dialect (before + k : ℕ) filters) := by
  have hlabel : ∀ n : ℕ, label (n + 1) = label (n + 1 : ℕ) := fun n ↦ by rw [Int.natCast_succ]
  induction filters generalizing before with
  | nil => exact Backend.postgres.renumber_empty k
  | cons f rest ih =>
    obtain ⟨hf, hrest⟩ := List.forall_mem_cons.1 h
    have hnext : before + 1 + k = before + k + 1 := by omega
    rw [predicates, predicates, hlabel, hlabel, ← Int.natCast_succ, ← Int.natCast_succ]
    cases rest with
    | nil =>
      have hlast := renumber_filterText_append k (before + 1) hf (t := "") (by decide)
      rw [Backend.renumber_empty, String.append_empty, String.append_empty] at hlast
      rw [predicates, predicates, String.intercalate_singleton, String.intercalate_singleton, hlast,
        hnext]
    | cons g rest =>
      have hdetached : Detached " AND " := by decide
      rw [predicates, predicates, String.intercalate_cons_cons, String.intercalate_cons_cons,
        String.append_assoc, String.append_assoc,
        renumber_filterText_append k (before + 1) hf (hdetached.append_of_ne (by decide) _),
        Backend.renumber_postgres_append (by decide), hnext]
      have ih := ih (before + 1) hrest
      rw [predicates, predicates, hnext] at ih
      rw [ih]

/-- **Where marks are numbered, the marks before the conditions are added to their numbers.** -/
theorem whereClause_postgres_eq (k : ℕ) {filters : List Filter} (h : ∀ f ∈ filters, f.Unnumbered) :
    whereClause Backend.postgres.dialect k filters =
      Backend.postgres.renumber k (whereClause Backend.postgres.dialect 0 filters) := by
  have hconditions := renumber_intercalate_predicates k 0 h
  rw [Nat.zero_add] at hconditions
  unfold whereClause
  split
  · rw [Backend.renumber_empty]
  · rw [Backend.renumber_postgres_append (by decide), ← hconditions]
    rfl

/-- **Where marks have no numbers, the marks before the conditions do not matter.** -/
theorem whereClause_sqlite_eq (before : ℤ) (filters : List Filter) :
    whereClause Backend.sqlite.dialect before filters =
      whereClause Backend.sqlite.dialect 0 filters := by
  have hpredicates : ∀ before before' : ℤ, predicates Backend.sqlite.dialect before filters =
      predicates Backend.sqlite.dialect before' filters := by
    induction filters with
    | nil => exact fun _ _ ↦ rfl
    | cons f rest ih =>
      intro before before'
      rw [predicates, predicates, ih (before + 1) (before' + 1)]
      rfl
  unfold whereClause
  rw [hpredicates before 0]

/-- Conditions are written one after the other. -/
theorem predicates_append (d : Dialect) (before : ℤ) (filters more : List Filter) :
    predicates d before (filters ++ more) =
      predicates d before filters ++ predicates d (before + filters.length) more := by
  induction filters generalizing before with
  | nil => simp [predicates]
  | cons f rest ih =>
    have hlength : before + 1 + rest.length = before + (f :: rest).length := by
      rw [List.length_cons, Int.natCast_succ]
      omega
    rw [List.cons_append, predicates, ih, predicates, List.cons_append, hlength]

theorem predicates_ne_nil (d : Dialect) (before : ℤ) {filters : List Filter} (h : filters ≠ []) :
    predicates d before filters ≠ [] := by
  obtain ⟨f, rest, rfl⟩ := List.exists_cons_of_ne_nil h
  exact List.cons_ne_nil _ _

/-- **Filters are written in two parts as they are written together**: the second part counts the
filters of the first among the marks before it. -/
theorem whereClause_append (d : Dialect) (before : ℤ) {filters more : List Filter}
    (hfilters : filters ≠ []) (hmore : more ≠ []) :
    ∃ conditions, whereClause d (before + filters.length) more = " WHERE " ++ conditions ∧
      whereClause d before (filters ++ more) =
        whereClause d before filters ++ " AND " ++ conditions := by
  have hclause : ∀ before {filters : List Filter}, filters ≠ [] →
      whereClause d before filters =
        " WHERE " ++ " AND ".intercalate (predicates d before filters) :=
    fun before filters h ↦ if_neg (by simpa using h)
  refine ⟨_, hclause _ hmore, ?_⟩
  rw [hclause _ hfilters, hclause _ (List.append_ne_nil_of_left_ne_nil hfilters more),
    predicates_append, String.intercalate_append_of_ne_nil (predicates_ne_nil d _ hfilters)
      (predicates_ne_nil d _ hmore)]
  simp only [String.append_assoc]

end Statement

/-! ### The statements of a builder -/

namespace Builder

/-- The conditions of a builder, with no marks before them. -/
def conditions (b : Builder) : String :=
  whereClause b.dialect 0 b.query.filters

/-- The statements of a builder about the rows of its filters have the same conditions: a count and
a deletion end with them, a read has the other clauses around them, and an update has them
renumbered after its assignments. -/
structure SharesConditions (be : Backend) (b : Builder) : Prop where
  /-- A read has the conditions, whatever else the query holds. -/
  reads : ∀ op, op = .get ∨ op = .first → ∀ r, b.request op = .ok r →
    ∃ select order : String,
      selectClause b.query.distinct.truthy b.query.table b.query.columns = .ok select ∧
      orderClause b.query.orders = .ok order ∧
      r.sql = select ++ b.conditions ++ order ++ boundClause "LIMIT" (b.focus op).query.limit ++
        boundClause "OFFSET" b.query.offset
  /-- There is a read for every projection of texts. -/
  readable : ∀ op, op = .get ∨ op = .first →
    ∀ words : List String, b.query.columns = .list (words.map .text) → ∃ r, b.request op = .ok r
  count : ∃ r, b.request .count = .ok r ∧
    r.sql = "SELECT COUNT(*) as count FROM " ++ b.query.table.display ++ b.conditions
  delete : ∃ r, b.request .delete = .ok r ∧
    r.sql = "DELETE FROM " ++ b.query.table.display ++ b.conditions
  /-- An update has as many marks before the conditions as the payload has entries. -/
  update : ∀ data entries, IsPayload data entries →
    ∃ r, b.request (.update data) = .ok r ∧
      r.sql = "UPDATE " ++ b.query.table.display ++ " SET " ++
        ", ".intercalate (assignments be.dialect 0 entries) ++
        be.renumber entries.length b.conditions

section

variable {be : Backend} {b : Builder}

/-- The conditions of a sound builder after some marks are its conditions, renumbered. -/
theorem Sound.whereClause_eq (hb : b.Sound) (hdialect : b.dialect = be.dialect) (k : ℕ) :
    whereClause be.dialect k b.query.filters = be.renumber k b.conditions := by
  rw [conditions, hdialect]
  cases be with
  | postgres => exact whereClause_postgres_eq k fun f hf ↦ (hb.filters f hf).unnumbered
  | sqlite => exact whereClause_sqlite_eq k b.query.filters

/-- A sound builder with a table and a projection of texts can read. -/
theorem Sound.exists_request_read (hb : b.Sound) (htable : b.query.table.truthy = true)
    {op : Terminal} (hop : op = .get ∨ op = .first) {words : List String}
    (hcolumns : b.query.columns = .list (words.map .text)) : ∃ r, b.request op = .ok r := by
  obtain ⟨s, hs⟩ := (hb.focus op).exists_read ((b.focus_columns op).trans hcolumns)
  have htable : (b.focus op).query.table.truthy = true := (b.focus_table op).symm ▸ htable
  rcases hop with rfl | rfl
  · exact ⟨_, Query.request_eq_ok_iff.2 ⟨htable, .get hs⟩⟩
  · exact ⟨_, Query.request_eq_ok_iff.2 ⟨htable, .first hs⟩⟩

/-- The statements of a sound builder with a table share their conditions. -/
theorem Sound.sharesConditions (hb : b.Sound) (hdialect : b.dialect = be.dialect)
    (htable : b.query.table.truthy = true) : b.SharesConditions be where
  reads op hop r hr := by
    obtain ⟨-, hrequests⟩ := Query.request_eq_ok_iff.1 hr
    rcases hop with rfl | rfl
    · cases hrequests with
      | get hread =>
        obtain ⟨select, order, hselect, horder, -, hsql⟩ := read_eq_ok_iff.1 hread
        exact ⟨select, order, hselect, horder, hsql⟩
    · cases hrequests with
      | first hread =>
        obtain ⟨select, order, hselect, horder, -, hsql⟩ := read_eq_ok_iff.1 hread
        exact ⟨select, order, hselect, horder, hsql⟩
  readable _ hop _ hcolumns := hb.exists_request_read htable hop hcolumns
  count := by
    obtain ⟨values, hvalues⟩ := hb.exists_members
    exact ⟨_, Query.request_eq_ok_iff.2 ⟨htable, .count hvalues⟩, rfl⟩
  delete := by
    obtain ⟨values, hvalues⟩ := hb.exists_members
    exact ⟨_, Query.request_eq_ok_iff.2 ⟨htable, .delete hvalues⟩, rfl⟩
  update := by
    intro data entries hdata
    obtain ⟨values, hvalues⟩ := hb.exists_members
    refine ⟨_, Query.request_eq_ok_iff.2 ⟨htable, .update hdata hvalues⟩, ?_⟩
    show (Statement.update b.dialect b.query.table entries b.query.filters).sql = _
    rw [Statement.update, hdialect, hb.whereClause_eq hdialect]

end

/-- **The conditions are one text in all statements, up to renumbering**: after `k` marks they are
written with `k` added to each number, or as they are where marks have no numbers; in two parts they
are written as in one; and the statements of every builder, after any calls, have the same
conditions. -/
theorem same_conditions_of_run :
    (∀ (k : ℕ) (filters : List Filter), (∀ f ∈ filters, f.Unnumbered) →
      whereClause Backend.postgres.dialect k filters =
        Backend.postgres.renumber k (whereClause Backend.postgres.dialect 0 filters)) ∧
    (∀ (k : ℕ) (filters : List Filter),
      whereClause Backend.sqlite.dialect k filters =
        whereClause Backend.sqlite.dialect 0 filters) ∧
    (∀ (be : Backend) (k : ℕ) (filters more : List Filter), filters ≠ [] → more ≠ [] →
      ∃ conditions, whereClause be.dialect (k + filters.length) more = " WHERE " ++ conditions ∧
        whereClause be.dialect k (filters ++ more) =
          whereClause be.dialect k filters ++ " AND " ++ conditions) ∧
    ∀ (be : Backend) (model : Option RowModel) (table : Value) (calls : List Call),
      table.truthy = true →
        (calls.foldl after (fresh be.dialect model table)).SharesConditions be := by
  refine ⟨fun k _ h ↦ whereClause_postgres_eq k h, fun k filters ↦ whereClause_sqlite_eq k filters,
    fun be k _ _ hfilters hmore ↦ whereClause_append be.dialect k hfilters hmore,
    fun be model table calls htable ↦ ?_⟩
  refine ((fresh_sound be.dialect model table).foldl_after calls).sharesConditions ?_ ?_
  · rw [foldl_after_dialect]
    rfl
  · rw [foldl_after_table]
    exact htable

/-- After nine marks, a number gets a second digit. -/
theorem same_conditions_after_nine :
    let adult : Filter := { column := .text "age", operator := .text ">", value := .int 18 }
    (∀ f ∈ [adult], f.Unnumbered) ∧
      Backend.postgres.renumber 9 (whereClause Backend.postgres.dialect 0 [adult]) =
        " WHERE age > $10" := by
  intro adult
  have hadult : ∀ f ∈ [adult], f.Unnumbered := by
    intro f hf
    obtain rfl := List.mem_singleton.1 hf
    exact ⟨by decide, by decide⟩
  refine ⟨hadult, ?_⟩
  rw [← same_conditions_of_run.1 9 [adult] hadult]
  have hcomparison : Dialect.isMembership adult = false := by
    simp [adult, Dialect.isMembership, Guard.membership, Value.same]
  simp only [whereClause, predicates, Dialect.filterText, Backend.dialect, Dialect.postgres,
    Dialect.withArrays, hcomparison]
  rfl

end Builder

end FluentSql
