import FluentSql.Proofs.Fluent
import FluentSql.Proofs.Run

/-!
# The invariant of gathered queries

A query holds values as they came, so its type admits queries that no statement can be written for.
`Query.Sound` says which queries there are after calls on a builder: every filter and every sort
term has passed its guards, limit and offset are natural numbers or absent, and filter by filter the
bindings are what the dialect binds.

The last part is the one that could break, as filters and bindings are two lists. A filter and its
binding are added together or not at all (`Builder.configure_cases`), and a call that sends anything
empties both lists; what is left is that the two new members belong together, which is what the
check of a filter ends with.
-/

namespace FluentSql

/-- A filter that has passed its guards. -/
structure Filter.Sound (model : Option RowModel) (f : Filter) : Prop where
  /-- The column has the right shape, and the row model knows it. -/
  column : IsColumnOf model f.column
  /-- The operator is spelled as in the list of operators. -/
  operator : ∃ word ∈ Guard.allowedOperators, f.operator = .text word
  /-- A test of membership has a list, tuple, queue, set or frozen set, a range, or a changeable
  byte string. -/
  members : f.operator = .text "IN" →
    (∃ kind members, kind ≠ .stream ∧ f.value = .collection kind members) ∨
      (∃ start stop step, f.value = .range start stop step) ∨ ∃ data, f.value = .buffer data

/-- A sort term that has passed its guards. -/
structure SortTerm.Sound (model : Option RowModel) (t : SortTerm) : Prop where
  column : IsColumnOf model t.column
  direction : t.direction = .text "asc" ∨ t.direction = .text "desc"

/-- A limit or an offset that is absent or a natural number. -/
def IsPagination (v : Value) : Prop :=
  v = .null ∨ ∃ n : Int, 0 ≤ n ∧ v = .int n

/-- What every query is that was gathered by calls on a builder. -/
structure Query.Sound (d : Dialect) (model : Option RowModel) (q : Query) : Prop where
  /-- There is one binding for each filter, the one that the dialect binds for it. -/
  bound : ∃ bindings, q.bindings = .list bindings ∧
    List.Forall₂ (fun f v ↦ d.bind f = .ok v) q.filters bindings
  filters : ∀ f ∈ q.filters, f.Sound model
  orders : ∀ t ∈ q.orders, t.Sound model
  limit : IsPagination q.limit
  offset : IsPagination q.offset

namespace Query.Sound

variable {d : Dialect} {model : Option RowModel} {q : Query}

/-- A query with nothing but a table is sound. -/
theorem of_table (table : Value) : Query.Sound d model { table } where
  bound := ⟨[], rfl, .nil⟩
  filters := by simp
  orders := by simp
  limit := Or.inl rfl
  offset := Or.inl rfl

/-- The bindings of a sound query have members. -/
theorem exists_members (hq : q.Sound d model) : ∃ values, q.bindings.members = .ok values := by
  obtain ⟨bindings, hbindings, -⟩ := hq.bound
  exact ⟨bindings, by rw [hbindings]; rfl⟩

theorem addFilter (hq : q.Sound d model) {f : Filter} {binding : Value} {bindings : List Value}
    (hf : f.Sound model) (hbind : d.bind f = .ok binding)
    (hbindings : q.bindings = .list bindings) :
    Query.Sound d model
      { q with filters := q.filters ++ [f], bindings := .list (bindings ++ [binding]) } where
  bound := by
    obtain ⟨bound, hbound, hall⟩ := hq.bound
    have heq : bound = bindings := by simpa [hbindings, eq_comm] using hbound
    subst heq
    exact ⟨bound ++ [binding], rfl, List.rel_append hall (.cons hbind .nil)⟩
  filters := by
    intro g hg
    rcases List.mem_append.1 hg with hold | hnew
    · exact hq.filters g hold
    · exact List.mem_singleton.1 hnew ▸ hf
  orders := hq.orders
  limit := hq.limit
  offset := hq.offset

theorem addSortTerm (hq : q.Sound d model) {t : SortTerm} (ht : t.Sound model) :
    Query.Sound d model { q with orders := q.orders ++ [t] } where
  bound := hq.bound
  filters := hq.filters
  orders := by
    intro u hu
    rcases List.mem_append.1 hu with hold | hnew
    · exact hq.orders u hold
    · exact List.mem_singleton.1 hnew ▸ ht
  limit := hq.limit
  offset := hq.offset

theorem setLimit (hq : q.Sound d model) {v : Value} (hv : IsPagination v) :
    Query.Sound d model { q with limit := v } where
  bound := hq.bound
  filters := hq.filters
  orders := hq.orders
  limit := hv
  offset := hq.offset

theorem setOffset (hq : q.Sound d model) {v : Value} (hv : IsPagination v) :
    Query.Sound d model { q with offset := v } where
  bound := hq.bound
  filters := hq.filters
  orders := hq.orders
  limit := hq.limit
  offset := hv

end Query.Sound

namespace Builder

/-- The query of the builder is sound for its dialect and its model. -/
def Sound (b : Builder) : Prop :=
  b.query.Sound b.dialect b.model

theorem fresh_sound (d : Dialect) (model : Option RowModel) (table : Value) :
    (fresh d model table).Sound :=
  Query.Sound.of_table table

/-- The checks of a filter make it sound. -/
theorem sound_of_checkFilter {b : Builder} {column operator value binding : Value} {f : Filter}
    (h : b.checkFilter column operator value = .ok (f, binding)) :
    f.Sound b.model ∧ b.dialect.bind f = .ok binding := by
  obtain ⟨hcolumn, hop, hvalue, hf, hbind⟩ := checkFilter_eq_ok_iff.1 h
  obtain ⟨s, -, hword, hs⟩ := Guard.operator_eq_ok_iff.1 hop
  have hcol : f.column = column := by rw [hf]
  have hval : f.value = value := by rw [hf]
  refine ⟨⟨hcol ▸ hcolumn, ⟨_, hword, hs⟩, fun hin ↦ ?_⟩, hbind⟩
  exact hval ▸ Guard.isMembershipList_iff.1 (hvalue hin)

/-- The checks of a sort term make it sound. -/
theorem sound_of_checkSortTerm {b : Builder} {column direction : Value} {t : SortTerm}
    (h : b.checkSortTerm column direction = .ok t) : t.Sound b.model := by
  obtain ⟨hcolumn, hcol, hdirection⟩ := checkSortTerm_eq_ok_iff.1 h
  obtain ⟨hword, hs⟩ := Guard.direction_eq_ok_iff.1 hdirection
  refine ⟨hcol ▸ hcolumn, ?_⟩
  rw [hs]
  simpa [Guard.directions] using hword

/-- One call that succeeds keeps the invariant. -/
theorem Gathers.sound {b : Builder} {c : Fluent} {q : Query} (h : Gathers b c q) (hb : b.Sound) :
    q.Sound b.dialect b.model := by
  cases h with
  | select columns => exact ⟨hb.bound, hb.filters, hb.orders, hb.limit, hb.offset⟩
  | distinct => exact ⟨hb.bound, hb.filters, hb.orders, hb.limit, hb.offset⟩
  | filter hcheck hbindings =>
    obtain ⟨hf, hbind⟩ := sound_of_checkFilter hcheck
    exact Query.Sound.addFilter hb hf hbind hbindings
  | orderBy hcheck => exact Query.Sound.addSortTerm hb (sound_of_checkSortTerm hcheck)
  | limit hn => exact Query.Sound.setLimit hb (Or.inr ⟨_, hn, rfl⟩)
  | offset hn => exact Query.Sound.setOffset hb (Or.inr ⟨_, hn, rfl⟩)

/-- Every call keeps the invariant, whether it succeeds or not. -/
theorem Sound.after {b : Builder} (hb : b.Sound) (call : Call) : (b.after call).Sound := by
  cases call with
  | fluent c =>
    -- That the bindings are a list is part of the invariant: only so can a binding be added.
    obtain ⟨bindings, hbindings, -⟩ := hb.bound
    rcases configure_cases hbindings c with ⟨f, hrefused⟩ | ⟨q, hq, hdone⟩
    · show (b.configure c).1.Sound
      rw [hrefused]
      exact hb
    · show (b.configure c).1.Sound
      rw [hdone]
      exact hq.sound hb
  | terminal op => exact Query.Sound.of_table b.query.table
  | createMany items => exact Query.Sound.of_table b.query.table

theorem Sound.foldl_after {b : Builder} (hb : b.Sound) (calls : List Call) :
    (calls.foldl Builder.after b).Sound := by
  induction calls generalizing b with
  | nil => exact hb
  | cons call rest ih => exact ih (hb.after call)

theorem Sound.performAll {σ : Type} {b : Builder} (hb : b.Sound) (execute : Executor σ) (s : σ)
    (calls : List Call) : (b.performAll execute s calls).builder.Sound := by
  rw [performAll_builder]
  exact hb.foldl_after calls

theorem sound_of_fresh (d : Dialect) (model : Option RowModel) (table : Value)
    (calls : List Call) :
    (calls.foldl Builder.after (fresh d model table)).query.Sound d model := by
  have hsound := (fresh_sound d model table).foldl_after calls
  rwa [Sound, foldl_after_dialect, foldl_after_model] at hsound

/-- The limit that reading the first row sets is a natural number. -/
theorem Sound.focus {b : Builder} (hb : b.Sound) (op : Terminal) :
    (b.focus op).query.Sound b.dialect b.model := by
  cases op with
  | first => exact Query.Sound.setLimit hb (Or.inr ⟨1, by decide, rfl⟩)
  | _ => exact hb

/-- **Every query is sound** that a run of calls leaves on a builder, whatever the arguments of the
calls were, whether they succeeded, and what the replies were. -/
theorem query_sound_of_run {σ : Type} (execute : Executor σ) (s : σ) (d : Dialect)
    (model : Option RowModel) (table : Value) (calls : List Call) :
    ((fresh d model table).performAll execute s calls).builder.query.Sound d model := by
  rw [performAll_builder]
  exact sound_of_fresh d model table calls

end Builder

end FluentSql
