import FluentSql.Builder
import FluentSql.Proofs.Guard

/-!
# Calls that change a query

`Builder.configure` makes all checks of a call before its first change. So a call has two outcomes
only (`configure_cases`): it is refused and the builder stays as it was, or it succeeds and the
query becomes the one that `Gathers` describes, call by call. The laws of queries are derived from
these two outcomes.

What the checks of a call establish is in `checkFilter_eq_ok_iff` and `checkSortTerm_eq_ok_iff`,
which are the characterizations of the single guards put together.
-/

namespace FluentSql

/-- The value names a column: it is a text of the right shape, and what follows its last point is a
field of the row model, if there is one. -/
def IsColumnOf (model : Option RowModel) (v : Value) : Prop :=
  ∃ s, v = .text s ∧ Column.isColumn s.toList = true ∧
    ∀ m, model = some m → String.ofList (Column.unqualified s.toList) ∈ m.columns

namespace Builder

/-! ### Checks -/

/-- The check of a column returns it as it came, and accepts it if guard and model do. -/
theorem checkColumn_eq_ok_iff {model : Option RowModel} {v w : Value} :
    checkColumn model v = .ok w ↔ IsColumnOf model v ∧ w = v := by
  have hfield : ∀ s : String, checkField model (.text s) = .ok w ↔
      (∀ m, model = some m → String.ofList (Column.unqualified s.toList) ∈ m.columns) ∧
        w = .text s := by
    intro s
    cases model with
    | none => simp [checkField, eq_comm (b := w)]
    | some m =>
      by_cases hm : String.ofList (Column.unqualified s.toList) ∈ m.columns
      · simp [checkField, hm, eq_comm (b := w)]
      · simp [checkField, hm]
  simp only [checkColumn, bind_eq_ok_iff, Guard.column_eq_ok_iff]
  constructor
  · rintro ⟨_, ⟨s, rfl, hs, rfl⟩, hw⟩
    obtain ⟨hm, rfl⟩ := (hfield s).1 hw
    exact ⟨⟨s, rfl, hs, hm⟩, rfl⟩
  · rintro ⟨⟨s, rfl, hs, hm⟩, rfl⟩
    exact ⟨.text s, ⟨s, rfl, hs, rfl⟩, (hfield s).2 ⟨hm, rfl⟩⟩

/-- What the checks of a filter establish. -/
theorem checkFilter_eq_ok_iff {b : Builder} {column operator value binding : Value} {f : Filter} :
    b.checkFilter column operator value = .ok (f, binding) ↔
      IsColumnOf b.model column ∧ Guard.operator operator = .ok f.operator ∧
        (f.operator = .text Guard.membership → Guard.isMembershipList value = true) ∧
        f = { column, operator := f.operator, value } ∧ b.dialect.bind f = .ok binding := by
  simp only [checkFilter, bind_eq_ok_iff, checkColumn_eq_ok_iff, Guard.value_eq_ok_iff, pure,
    Except.pure, Except.ok.injEq, Prod.mk.injEq]
  constructor
  · rintro ⟨_, ⟨hcolumn, rfl⟩, op, hop, _, hvalue, v, hbind, rfl, rfl⟩
    exact ⟨hcolumn, hop, hvalue, rfl, hbind⟩
  · rintro ⟨hcolumn, hop, hvalue, hf, hbind⟩
    exact ⟨column, ⟨hcolumn, rfl⟩, f.operator, hop, (), hvalue, binding, hf ▸ hbind, hf.symm, rfl⟩

/-- What the checks of a sort term establish. -/
theorem checkSortTerm_eq_ok_iff {b : Builder} {column direction : Value} {t : SortTerm} :
    b.checkSortTerm column direction = .ok t ↔
      IsColumnOf b.model column ∧ t.column = column ∧
        Guard.direction direction = .ok t.direction := by
  simp only [checkSortTerm, bind_eq_ok_iff, checkColumn_eq_ok_iff, pure, Except.pure,
    Except.ok.injEq]
  constructor
  · rintro ⟨_, ⟨hcolumn, rfl⟩, d, hd, rfl⟩
    exact ⟨hcolumn, rfl, hd⟩
  · rintro ⟨hcolumn, rfl, hd⟩
    exact ⟨t.column, ⟨hcolumn, rfl⟩, t.direction, hd, rfl⟩

/-! ### Outcomes -/

/-- What a call that succeeds makes of the query of a builder. -/
inductive Gathers (b : Builder) : Fluent → Query → Prop
  | select (columns : List Value) :
    Gathers b (.select columns) { b.query with columns := .list columns }
  | distinct : Gathers b .distinct { b.query with distinct := .bool true }
  | filter {column operator value binding : Value} {f : Filter} {bindings : List Value}
    (hcheck : b.checkFilter column operator value = .ok (f, binding))
    (hbindings : b.query.bindings = .list bindings) :
    Gathers b (.filter column operator value)
      { b.query with filters := b.query.filters ++ [f], bindings := .list (bindings ++ [binding]) }
  | orderBy {column direction : Value} {t : SortTerm}
    (hcheck : b.checkSortTerm column direction = .ok t) :
    Gathers b (.orderBy column direction) { b.query with orders := b.query.orders ++ [t] }
  | limit {n : Int} (hn : 0 ≤ n) : Gathers b (.limit (.int n)) { b.query with limit := .int n }
  | offset {n : Int} (hn : 0 ≤ n) : Gathers b (.offset (.int n)) { b.query with offset := .int n }

/-- A call is refused and changes nothing, or it succeeds and gathers its part of the query. -/
theorem configure_cases {b : Builder} {bindings : List Value}
    (hbindings : b.query.bindings = .list bindings) (c : Fluent) :
    (∃ f, b.configure c = (b, .error f)) ∨
      ∃ q, Gathers b c q ∧ b.configure c = ({ b with query := q }, .ok ()) := by
  cases c with
  | select columns => exact Or.inr ⟨_, .select columns, rfl⟩
  | distinct => exact Or.inr ⟨_, .distinct, rfl⟩
  | filter column operator value =>
    rcases hcheck : b.checkFilter column operator value with fault | ⟨f, binding⟩
    · exact Or.inl ⟨fault, by simp [configure, changeWith, hcheck]⟩
    · refine Or.inr ⟨_, .filter hcheck hbindings, ?_⟩
      simp [configure, changeWith, hcheck, Query.addFilter, hbindings, Value.append]
  | orderBy column direction =>
    rcases hcheck : b.checkSortTerm column direction with fault | t
    · exact Or.inl ⟨fault, by simp [configure, changeWith, hcheck]⟩
    · exact Or.inr ⟨_, .orderBy hcheck, by simp [configure, changeWith, hcheck]⟩
  | limit v =>
    rcases hcheck : Guard.pagination (.text "limit") v with fault | w
    · exact Or.inl ⟨fault, by simp [configure, changeWith, hcheck]⟩
    · obtain ⟨n, hn, rfl, rfl⟩ := Guard.pagination_eq_ok_iff.1 hcheck
      exact Or.inr ⟨_, .limit hn, by simp [configure, changeWith, hcheck]⟩
  | offset v =>
    rcases hcheck : Guard.pagination (.text "offset") v with fault | w
    · exact Or.inl ⟨fault, by simp [configure, changeWith, hcheck]⟩
    · obtain ⟨n, hn, rfl, rfl⟩ := Guard.pagination_eq_ok_iff.1 hcheck
      exact Or.inr ⟨_, .offset hn, by simp [configure, changeWith, hcheck]⟩

end Builder

end FluentSql
