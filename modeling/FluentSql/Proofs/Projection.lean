import FluentSql.Proofs.Sound

/-!
# What a query reads

A projection becomes part of the text of a statement as it is given: no guard looks at it. So a law
about texts has to ask something of the columns that callers select. `Call.Selects P` asks it of one
call, and `Query.Projects P` is what a query keeps of it; that a run of calls leads from the one to
the other is `projects_foldl_after`, for whatever property a law needs.

The star that a query starts with is in the place of selected columns, so it must have the property
as well.
-/

namespace FluentSql

/-- The query reads a list of columns that have the property, and the flag for duplicates is a
truth value. -/
structure Query.Projects (P : Value → Prop) (q : Query) : Prop where
  columns : ∃ columns, q.columns = .list columns ∧ ∀ v ∈ columns, P v
  distinct : ∃ distinct, q.distinct = .bool distinct

/-- The columns that a call selects, if it does, have the property. -/
def Call.Selects (P : Value → Prop) : Call → Prop
  | .fluent (.select columns) => ∀ v ∈ columns, P v
  | _ => True

variable {P : Value → Prop}

theorem Call.selects_of_forall (h : ∀ v, P v) (call : Call) : call.Selects P := by
  cases call with
  | fluent c =>
    cases c with
    | select columns => exact fun v _ ↦ h v
    | _ => trivial
  | _ => trivial

/-- A query with nothing but a table reads everything. -/
theorem Query.projects_of_table (hstar : P (.text "*")) (table : Value) :
    Query.Projects P { table } where
  columns := ⟨[.text "*"], rfl, fun _ hv ↦ List.mem_singleton.1 hv ▸ hstar⟩
  distinct := ⟨false, rfl⟩

namespace Builder

variable {b : Builder}

/-- A call that succeeds changes no projection unless it selects one. -/
theorem Gathers.projects {c : Fluent} {q : Query} (h : Gathers b c q) (hb : b.query.Projects P)
    (hc : (Call.fluent c).Selects P) : q.Projects P := by
  cases h with
  | select columns => exact ⟨⟨columns, rfl, hc⟩, hb.distinct⟩
  | distinct => exact ⟨hb.columns, true, rfl⟩
  | filter hcheck hbindings => exact ⟨hb.columns, hb.distinct⟩
  | orderBy hcheck => exact ⟨hb.columns, hb.distinct⟩
  | limit hn => exact ⟨hb.columns, hb.distinct⟩
  | offset hn => exact ⟨hb.columns, hb.distinct⟩

/-- Every call that selects what has the property keeps it, whether it succeeds or not. -/
theorem projects_after (hstar : P (.text "*")) (hsound : b.Sound) (hb : b.query.Projects P)
    {call : Call} (hcall : call.Selects P) : (b.after call).query.Projects P := by
  cases call with
  | fluent c =>
    obtain ⟨bindings, hbindings, -⟩ := hsound.bound
    show (b.configure c).1.query.Projects P
    rcases configure_cases hbindings c with ⟨f, hrefused⟩ | ⟨q, hq, hdone⟩
    · rw [hrefused]
      exact hb
    · rw [hdone]
      exact hq.projects hb hcall
  | terminal op => exact Query.projects_of_table hstar b.query.table
  | createMany items => exact Query.projects_of_table hstar b.query.table

theorem projects_foldl_after (hstar : P (.text "*")) {calls : List Call} (hsound : b.Sound)
    (hb : b.query.Projects P) (hcalls : ∀ call ∈ calls, call.Selects P) :
    (calls.foldl after b).query.Projects P := by
  induction calls generalizing b with
  | nil => exact hb
  | cons call rest ih =>
    obtain ⟨hcall, hrest⟩ := List.forall_mem_cons.1 hcalls
    exact ih (hsound.after call) (projects_after hstar hsound hb hcall) hrest

/-- **Projections of runs.** After calls that select what has the property, a query reads nothing
else. -/
theorem projects_of_fresh (hstar : P (.text "*")) (d : Dialect) (model : Option RowModel)
    (table : Value) {calls : List Call} (hcalls : ∀ call ∈ calls, call.Selects P) :
    (calls.foldl after (fresh d model table)).query.Projects P :=
  projects_foldl_after hstar (fresh_sound d model table) (Query.projects_of_table hstar table)
    hcalls

/-- Whatever the columns are that are selected, the projection is a list, and the flag for duplicates
is a truth value. -/
theorem projects_any_of_fresh (d : Dialect) (model : Option RowModel) (table : Value)
    (calls : List Call) :
    (calls.foldl after (fresh d model table)).query.Projects fun _ ↦ True :=
  projects_of_fresh trivial d model table fun call _ ↦ call.selects_of_forall fun _ ↦ trivial

/-- Reading the first row sets a limit, and leaves the projection as it is. -/
theorem projects_focus (hb : b.query.Projects P) (op : Terminal) :
    (b.focus op).query.Projects P := by
  cases op <;> exact ⟨hb.columns, hb.distinct⟩

end Builder

end FluentSql
