import FluentSql.Proofs.Marks
import FluentSql.Proofs.Request
import FluentSql.Proofs.Sound

/-!
# The marks of clauses

Which marks the clauses of a statement bring, for the filters and sort terms of a sound query.

* The conditions bring one mark for each filter, and a filter holds its mark whatever its operator
  is (`marksIn_filterText`); the same goes for the assignments of an update and for the marks of an
  insertion. All three are lists of pieces that are `Numbered`.
* What comes from columns, operators, directions and natural numbers brings none, as the guards let
  no opening character through. That goes for all foreign characters and is shown for these
  (`SortTerm.Sound.avoids`, `Statement.avoids_orderClause`). So the clauses after the conditions are
  an `IsTail`, which can be left out of the reading.

The numbers of a statement are integers and those of the reading are natural numbers; `mark_label`
is the only place where the two meet.
-/

namespace FluentSql

open FluentSql.Number

/-! ### Clauses without foreign characters -/

section

variable {cs : List Char} {model : Option RowModel}

theorem IsColumnOf.avoids (hcs : Foreign cs) {v : Value} (h : IsColumnOf model v) :
    Avoids cs v.display := by
  obtain ⟨s, rfl, hs, -⟩ := h
  exact hcs.avoids_column hs

theorem IsPayload.avoids (hcs : Foreign cs) {data : Value} {entries : List (Value × Value)}
    (h : IsPayload data entries) : ∀ entry ∈ entries, Avoids cs entry.1.display := by
  obtain ⟨keys, hkeys, hcolumns⟩ := h.keys
  intro entry hentry
  have hkey : entry.1 ∈ keys.map Value.text := hkeys ▸ List.mem_map_of_mem hentry
  obtain ⟨key, hmem, htext⟩ := List.mem_map.1 hkey
  rw [← htext]
  exact hcs.avoids_column (hcolumns key hmem)

/-- A sound sort term is written as its column and its direction in capitals. -/
theorem SortTerm.Sound.sortTerm_eq {t : SortTerm} (ht : t.Sound model) :
    Statement.sortTerm t = .ok (t.column.display ++ " " ++ Text.upper t.direction.display) := by
  rcases ht.direction with h | h <;> rw [Statement.sortTerm, h] <;> rfl

/-- A sound query whose columns are texts can be read, with the values of its bindings. -/
theorem Query.Sound.exists_read {d : Dialect} {q : Query} (hq : q.Sound d model)
    {words : List String} (hcolumns : q.columns = .list (words.map .text)) :
    ∃ s, Statement.read d q = .ok s := by
  obtain ⟨bindings, hbindings, -⟩ := hq.bound
  have hterms : List.Forall₂ (fun t s ↦ Statement.sortTerm t = .ok s) q.orders
      (q.orders.map fun t ↦ t.column.display ++ " " ++ Text.upper t.direction.display) := by
    simp only [List.forall₂_map_right_iff, List.forall₂_same]
    exact fun t ht ↦ (hq.orders t ht).sortTerm_eq
  obtain ⟨select, hselect⟩ : ∃ select,
      Statement.selectClause q.distinct.truthy q.table q.columns = .ok select := by
    rw [hcolumns]
    exact ⟨_, Statement.selectClause_eq_ok_iff.2 ⟨words, rfl, rfl⟩⟩
  have hmembers : q.bindings.members = .ok bindings := by rw [hbindings]; rfl
  exact ⟨⟨_, bindings⟩, Statement.read_eq_ok_iff.2
    ⟨_, _, hselect, Statement.orderClause_eq_ok_iff.2 ⟨_, hterms, rfl⟩, hmembers, rfl⟩⟩

theorem SortTerm.Sound.avoids (hcs : Foreign cs) {t : SortTerm} (ht : t.Sound model) {s : String}
    (hs : Statement.sortTerm t = .ok s) : Avoids cs s := by
  obtain rfl := Except.ok.inj (ht.sortTerm_eq.symm.trans hs)
  have hdirection : Avoids cs (Text.upper t.direction.display) := by
    rcases ht.direction with h | h <;> rw [h] <;> exact hcs.avoids (by decide)
  simp only [avoids_append]
  exact ⟨⟨ht.column.avoids hcs, hcs.avoids (by decide)⟩, hdirection⟩

namespace Statement

theorem avoids_orderClause (hcs : Foreign cs) {orders : List SortTerm} {sql : String}
    (horders : ∀ t ∈ orders, t.Sound model) (h : orderClause orders = .ok sql) : Avoids cs sql := by
  obtain ⟨terms, hterms, rfl⟩ := orderClause_eq_ok_iff.1 h
  split
  · exact hcs.avoids (by decide)
  · refine avoids_append.2 ⟨hcs.avoids (by decide),
      avoids_intercalate (hcs.avoids (by decide)) fun s hs ↦ ?_⟩
    obtain ⟨j, hj⟩ := List.mem_iff_getElem?.1 hs
    obtain ⟨t, ht, hts⟩ := exists_of_forall₂ hterms.flip hj
    exact (horders t (List.mem_of_getElem? ht)).avoids hcs hts

theorem avoids_boundClause (hcs : Foreign cs) {v : Value} (hv : IsPagination v) {keyword : String}
    (hkeyword : Avoids cs keyword) : Avoids cs (boundClause keyword v) := by
  rcases hv with rfl | ⟨n, hn, rfl⟩
  · exact hcs.avoids (s := "") (by decide)
  · obtain ⟨k, rfl⟩ := Int.eq_ofNat_of_zero_le hn
    show Avoids cs (" " ++ keyword ++ " " ++ k.repr)
    simp only [avoids_append]
    exact ⟨⟨⟨hcs.avoids (by decide), hkeyword⟩, hcs.avoids (by decide)⟩, hcs.avoids_repr k⟩

/-- What is read, and from where, brings only the characters of the columns and of the table. -/
theorem avoids_selectClause (hcs : Foreign cs) {distinct : Bool} {table : Value}
    (htable : Avoids cs table.display) {columns : List Value}
    (hcolumns : ∀ word : String, .text word ∈ columns → Avoids cs word) {sql : String}
    (h : selectClause distinct table (.list columns) = .ok sql) : Avoids cs sql := by
  obtain ⟨words, rfl, rfl⟩ := selectClause_eq_ok_iff.1 h
  have hprojection : Avoids cs (if words.isEmpty then "*" else ", ".intercalate words) := by
    split
    · exact hcs.avoids (by decide)
    · exact avoids_intercalate (hcs.avoids (by decide)) fun word hword ↦
        hcolumns word (List.mem_map_of_mem hword)
  have hdistinct : Avoids cs (if distinct then "DISTINCT " else "") := by
    split <;> exact hcs.avoids (by decide)
  simp only [avoids_append]
  exact ⟨⟨⟨⟨hcs.avoids (by decide), hdistinct⟩, hprojection⟩, hcs.avoids (by decide)⟩, htable⟩

end Statement

end

/-! ### Clauses without marks -/

theorem IsColumnOf.unmarked {model : Option RowModel} {v : Value} (h : IsColumnOf model v) :
    Unmarked v.display :=
  unmarked_iff_avoids.2 (h.avoids foreign_openers)

theorem unmarked_of_mem_allowedOperators {word : String} (h : word ∈ Guard.allowedOperators) :
    Unmarked word :=
  unmarked_iff_avoids.2 (foreign_openers.avoids_operator h)

/-- The keys of a payload bring no marks. -/
theorem IsPayload.unmarked {data : Value} {entries : List (Value × Value)}
    (h : IsPayload data entries) : ∀ entry ∈ entries, Unmarked entry.1.display :=
  fun entry hentry ↦ unmarked_iff_avoids.2 (h.avoids foreign_openers entry hentry)

/-! ### Clauses after the conditions -/

namespace Statement

/-- A clause that stands after the conditions: it brings no marks, and leaves those before it
alone. -/
structure IsTail (s : String) : Prop where
  unmarked : Unmarked s
  detached : Detached s

theorem IsTail.append {s t : String} (hs : IsTail s) (ht : IsTail t) : IsTail (s ++ t) :=
  ⟨unmarked_append.2 ⟨hs.unmarked, ht.unmarked⟩, hs.detached.append ht.detached⟩

theorem isTail_empty : IsTail "" :=
  ⟨by decide, by decide⟩

theorem isTail_orderClause {model : Option RowModel} {orders : List SortTerm} {sql : String}
    (horders : ∀ t ∈ orders, t.Sound model) (h : orderClause orders = .ok sql) : IsTail sql := by
  refine ⟨unmarked_iff_avoids.2 (avoids_orderClause foreign_openers horders h), ?_⟩
  obtain ⟨terms, -, rfl⟩ := orderClause_eq_ok_iff.1 h
  split
  · decide
  · exact Detached.append_of_ne (by decide) (by decide) _

theorem isTail_boundClause {v : Value} (hv : IsPagination v) {keyword : String}
    (hkeyword : Unmarked keyword) : IsTail (boundClause keyword v) := by
  refine ⟨unmarked_iff_avoids.2
    (avoids_boundClause foreign_openers hv (unmarked_iff_avoids.1 hkeyword)), ?_⟩
  rcases hv with rfl | ⟨n, -, rfl⟩
  · exact isTail_empty.detached
  · rw [boundClause, String.append_assoc, String.append_assoc]
    · exact Detached.append_of_ne (by decide) (by decide) _
    · nofun

end Statement

/-! ### Marks with numbers -/

namespace Backend

open Statement

variable (be : Backend) {model : Option RowModel}

/-- The dialect writes the mark with the number of the label. -/
theorem mark_label (n : ℕ) : be.dialect.mark (label n) = be.mark n := by
  have hlabel : label n = n.repr := by
    rw [label, writeInteger, if_neg (by omega), Int.natAbs_natCast]
  cases be with
  | postgres => exact congrArg ("$" ++ ·) hlabel
  | sqlite => rfl

theorem statementMarks_eq (before count : ℕ) :
    Statement.marks be.dialect before count = be.marks before count := by
  induction count generalizing before with
  | zero => rfl
  | succ count ih =>
    rw [Statement.marks, marks_succ, ← mark_label, ← ih (before + 1), Int.natCast_succ]

theorem numbered_marks (before count : ℕ) : be.Numbered before (be.marks before count) := by
  induction count generalizing before with
  | zero => trivial
  | succ count ih =>
    rw [marks_succ]
    exact ⟨be.marksIn_mark _, ih (before + 1)⟩

/-- A filter holds its mark and no other, and writes no member of a collection. -/
theorem marksIn_filterText {f : Filter} (hf : f.Sound model) (n : ℕ) :
    be.marksIn (be.dialect.filterText f (label n)) = [be.mark n] := by
  obtain ⟨word, hword, hoperator⟩ := hf.operator
  have hcolumn : Unmarked f.column.display := hf.column.unmarked
  have hcomparison : be.marksIn (Dialect.comparison f (be.mark n)) = [be.mark n] := by
    have hdisplay : f.operator.display = word := by rw [hoperator]; rfl
    have hbefore : Unmarked (f.column.display ++ " " ++ f.operator.display ++ " ") := by
      simp only [unmarked_append, hdisplay]
      exact ⟨⟨⟨hcolumn, by decide⟩, unmarked_of_mem_allowedOperators hword⟩, by decide⟩
    rw [Dialect.comparison, be.marksIn_append_of_unmarked hbefore, marksIn_mark]
  -- The forms other than the comparison have fixed texts on both sides of the mark.
  have haround : ∀ before after : String, Unmarked before → Unmarked after → Detached after →
      be.marksIn (f.column.display ++ before ++ be.mark n ++ after) = [be.mark n] :=
    fun before after hb ha hd ↦ be.marksIn_around (unmarked_append.2 ⟨hcolumn, hb⟩) ha hd n
  rw [Dialect.filterText, mark_label]
  cases be with
  | postgres =>
    simp only [dialect, Dialect.postgres, Dialect.withArrays]
    split
    · exact haround " = ANY(" ")" (by decide) (by decide) (by decide)
    · exact hcomparison
  | sqlite =>
    simp only [dialect, Dialect.sqlite]
    split
    · exact haround " IN (SELECT value FROM json_each(" "))" (by decide) (by decide) (by decide)
    · split
      · have hlike : Unmarked (f.column.display ++ " LIKE ") :=
          unmarked_append.2 ⟨hcolumn, by decide⟩
        rw [marksIn_append_of_unmarked .sqlite hlike, marksIn_mark]
      · exact hcomparison

/-- The conditions are the filters, each written with its own number. -/
theorem predicates_eq (before : ℕ) (filters : List Filter) :
    predicates be.dialect before filters =
      filters.mapIdx fun i f ↦ be.dialect.filterText f (label (before + i + 1 : ℕ)) := by
  induction filters generalizing before with
  | nil => rfl
  | cons f rest ih =>
    rw [predicates, ← Int.natCast_succ, ih, List.mapIdx_cons]
    simp only [Nat.add_zero, Nat.add_right_comm before 1, Nat.add_assoc before]

/-- The assignments are the keys, each with its own mark. -/
theorem assignments_eq (before : ℕ) (entries : List (Value × Value)) :
    assignments be.dialect before entries =
      entries.mapIdx fun i entry ↦ entry.1.display ++ " = " ++ be.mark (before + i + 1) := by
  induction entries generalizing before with
  | nil => rfl
  | cons entry rest ih =>
    rw [assignments, ← Int.natCast_succ, ih, mark_label, List.mapIdx_cons]
    simp only [Nat.add_zero, Nat.add_right_comm before 1, Nat.add_assoc before]

/-- Things that are written with one mark each, one after the other. -/
theorem numbered_mapIdx {α : Type} (write : α → ℕ → String) {things : List α}
    (h : ∀ a ∈ things, ∀ n, be.marksIn (write a n) = [be.mark n]) (before : ℕ) :
    be.Numbered before (things.mapIdx fun i a ↦ write a (before + i + 1)) := by
  induction things generalizing before with
  | nil => trivial
  | cons a rest ih =>
    obtain ⟨ha, hrest⟩ := List.forall_mem_cons.1 h
    rw [List.mapIdx_cons]
    refine ⟨ha _, ?_⟩
    simpa only [Nat.add_right_comm before 1, Nat.add_assoc before] using ih hrest (before + 1)

theorem numbered_predicates {filters : List Filter} (h : ∀ f ∈ filters, f.Sound model)
    (before : ℕ) : be.Numbered before (predicates be.dialect before filters) := by
  rw [predicates_eq]
  exact be.numbered_mapIdx (fun f n ↦ be.dialect.filterText f (label n))
    (fun f hf n ↦ be.marksIn_filterText (h f hf) n) before

theorem numbered_assignments {entries : List (Value × Value)}
    (h : ∀ entry ∈ entries, Unmarked entry.1.display) (before : ℕ) :
    be.Numbered before (assignments be.dialect before entries) := by
  rw [assignments_eq]
  refine be.numbered_mapIdx (fun (entry : Value × Value) n ↦
    entry.1.display ++ " = " ++ be.mark n) ?_ before
  intro entry hentry n
  have hkey : Unmarked (entry.1.display ++ " = ") := unmarked_append.2 ⟨h entry hentry, by decide⟩
  rw [be.marksIn_append_of_unmarked hkey, marksIn_mark]

/-- The assignments bring the marks of their keys. -/
theorem marksIn_assignments {entries : List (Value × Value)}
    (h : ∀ entry ∈ entries, Unmarked entry.1.display) (before : ℕ) :
    be.marksIn (", ".intercalate (assignments be.dialect before entries)) =
      be.marks before entries.length := by
  rw [(be.numbered_assignments h before).marksIn_intercalate (by decide) (by decide) (by decide),
    assignments_eq, List.length_mapIdx]

/-- Each assignment holds the mark of its key. -/
theorem holds_assignments {entries : List (Value × Value)}
    (h : ∀ entry ∈ entries, Unmarked entry.1.display) (before : ℕ) {k : ℕ} {key value : Value}
    (hentry : entries[k]? = some (key, value)) :
    be.Holds before (", ".intercalate (assignments be.dialect before entries)) k
      (key.display ++ " = " ++ be.mark (before + k + 1)) := by
  have hpiece : (assignments be.dialect before entries)[k]? =
      some (key.display ++ " = " ++ be.mark (before + k + 1)) := by
    rw [assignments_eq, List.getElem?_mapIdx, hentry]
    rfl
  exact (be.numbered_assignments h before).holds_intercalate (by decide) (by decide) (by decide)
    hpiece

/-! ### Conditions in a statement -/

theorem detached_whereClause (d : Dialect) (before : ℤ) (filters : List Filter) :
    Detached (whereClause d before filters) := by
  unfold whereClause
  split
  · decide
  · exact Detached.append_of_ne (by decide) (by decide) _

variable {be} {filters : List Filter} {before : ℕ} {head tail : String}

theorem marksIn_whereClause (hfilters : ∀ f ∈ filters, f.Sound model) (before : ℕ) :
    be.marksIn (whereClause be.dialect before filters) = be.marks before filters.length := by
  unfold whereClause
  split
  · next hempty =>
    rw [List.isEmpty_iff.1 hempty]
    exact marksIn_of_unmarked be (by decide)
  · have hnumbered := be.numbered_predicates hfilters before
    rw [marksIn_append_of_unmarked be (by decide),
      hnumbered.marksIn_intercalate (by decide) (by decide) (by decide), predicates_eq,
      List.length_mapIdx]

theorem holds_whereClause (hfilters : ∀ f ∈ filters, f.Sound model) {j : ℕ} {f : Filter}
    (hf : filters[j]? = some f) :
    be.Holds before (whereClause be.dialect before filters) j
      (be.dialect.filterText f (label (before + j + 1 : ℕ))) := by
  have hpiece : (predicates be.dialect before filters)[j]? =
      some (be.dialect.filterText f (label (before + j + 1 : ℕ))) := by
    rw [predicates_eq, List.getElem?_mapIdx, hf]
    rfl
  have hne : filters.isEmpty = false := by
    cases filters with
    | nil => simp at hf
    | cons f rest => rfl
  have hnumbered := be.numbered_predicates hfilters before
  rw [whereClause, hne, if_neg Bool.false_ne_true]
  exact (hnumbered.holds_intercalate (by decide) (by decide) (by decide) hpiece).after_unmarked
    (by decide)

/-- A statement whose conditions come after the first marks and before a tail has no other marks. -/
theorem marksIn_conditions (hfilters : ∀ f ∈ filters, f.Sound model)
    (hhead : be.marksIn head = be.marks 0 before) (htail : IsTail tail) :
    be.marksIn (head ++ whereClause be.dialect before filters ++ tail) =
      be.marks 0 (before + filters.length) := by
  have happend := be.marks_append 0 before filters.length
  rw [Nat.zero_add] at happend
  rw [be.marksIn_append_right _ htail.detached htail.unmarked,
    be.marksIn_append_of_detached _ (detached_whereClause _ _ _), hhead,
    marksIn_whereClause hfilters, happend]

/-- In a statement whose conditions come after the first marks, each filter holds its own mark. -/
theorem holds_conditions (hfilters : ∀ f ∈ filters, f.Sound model)
    (hhead : be.marksIn head = be.marks 0 before) {j : ℕ} {f : Filter}
    (hf : filters[j]? = some f) (tail : String) :
    be.Holds 0 (head ++ whereClause be.dialect before filters ++ tail) (before + j)
      (be.dialect.filterText f (label (before + j + 1 : ℕ))) :=
  ((holds_whereClause hfilters hf).prepend hhead (detached_whereClause _ _ _)).append tail

end Backend

end FluentSql
