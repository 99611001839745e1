import FluentSql.Proofs.Fluent
import FluentSql.Proofs.Marks
import FluentSql.Proofs.Request

/-!
# No value reaches the text of a statement

Two runs of calls that differ in nothing but the values of filters and payloads send the same
texts. So what a caller gives as a value, whatever it is, shows only among the values of a request.

The proof is that values can be left out. A builder without the values of its filters and without
its bindings (`Builder.blank`) knows all that the text of a statement depends on, and a call makes
of it what it makes of the builder with values (`after_blank`): it is enough to follow the blank
builders, and those of the two runs are equal.

* A filter is written without looking at its value (`Backend.filterText_blank`). This is where a
  membership test could break the law, as it would if its members were written one by one.
* A value has an influence on whether a filter is accepted, and a filter that is not accepted is not
  in the text. So two filters with different values are alike only if both are accepted; which
  operator they are then written with depends on the operator given and not on the value.
* Payloads are written by their keys (`Statement.assignments_eq_of_keys`).
-/

namespace FluentSql

/-! ### Leaving values out -/

/-- The filter without its value. -/
def Filter.blank (f : Filter) : Filter :=
  { f with value := .null }

/-- The query without the values of its filters and what is bound for them. -/
def Query.blank (q : Query) : Query :=
  { q with filters := q.filters.map Filter.blank, bindings := .list [] }

/-- The builder without the values of its filters and what is bound for them. -/
def Builder.blank (b : Builder) : Builder :=
  { b with query := b.query.blank }

@[simp]
theorem Filter.blank_blank (f : Filter) : f.blank.blank = f.blank :=
  rfl

/-! ### Texts -/

namespace Backend

variable (be : Backend)

/-- A filter is written without its value. -/
theorem filterText_blank (f : Filter) (label : String) :
    be.dialect.filterText f.blank label = be.dialect.filterText f label := by
  cases be <;> rfl

theorem predicates_blank (before : ℤ) (filters : List Filter) :
    Statement.predicates be.dialect before (filters.map Filter.blank) =
      Statement.predicates be.dialect before filters := by
  induction filters generalizing before with
  | nil => rfl
  | cons f rest ih =>
    rw [List.map_cons, Statement.predicates, Statement.predicates, filterText_blank, ih]

/-- Conditions are written without the values of the filters. -/
theorem whereClause_blank (before : ℤ) (filters : List Filter) :
    Statement.whereClause be.dialect before (filters.map Filter.blank) =
      Statement.whereClause be.dialect before filters := by
  rw [Statement.whereClause, Statement.whereClause, List.isEmpty_map, predicates_blank]

end Backend

/-- Assignments are written by the keys of the payload. -/
theorem Statement.assignments_eq_of_keys {d : Dialect} {entries entries' : List (Value × Value)}
    (h : entries.map Prod.fst = entries'.map Prod.fst) (before : ℤ) :
    assignments d before entries = assignments d before entries' := by
  induction entries generalizing entries' before with
  | nil =>
    rw [List.map_nil, eq_comm, List.map_eq_nil_iff] at h
    rw [h]
  | cons entry rest ih =>
    cases entries' with
    | nil => simp at h
    | cons entry' rest' =>
      obtain ⟨hkey, hrest⟩ := List.cons.inj h
      rw [assignments, assignments, ih hrest, hkey]

/-! ### Calls with different values -/

/-- Two data for a payload have the same keys in the same order, if both have any. -/
def SameKeys (data data' : Value) : Prop :=
  ∀ entries entries', data.asPayload = .ok entries → data'.asPayload = .ok entries' →
    entries.map Prod.fst = entries'.map Prod.fst

theorem SameKeys.refl (data : Value) : SameKeys data data := by
  intro entries entries' h h'
  rw [Except.ok.inj (h.symm.trans h')]

/-- Builders of the dialect and the model accept the filter. -/
def Accepts (d : Dialect) (model : Option RowModel) (column operator value : Value) : Prop :=
  ((Builder.fresh d model (.text "")).configure (.filter column operator value)).2 = .ok ()

/-- The two calls differ in the values of their payloads at most. -/
inductive Terminal.Alike : Terminal → Terminal → Prop
  | same (op : Terminal) : Alike op op
  | create {data data' : Value} (h : SameKeys data data') : Alike (.create data) (.create data')
  | update {data data' : Value} (h : SameKeys data data') : Alike (.update data) (.update data')

/-- The two calls differ in the values of a filter or of payloads at most. If filters have different
values, both are accepted. -/
inductive Call.Alike (d : Dialect) (model : Option RowModel) : Call → Call → Prop
  | same (call : Call) : Alike d model call call
  | filter {column operator value value' : Value} (h : Accepts d model column operator value)
    (h' : Accepts d model column operator value') :
    Alike d model (.fluent (.filter column operator value))
      (.fluent (.filter column operator value'))
  | terminal {op op' : Terminal} (h : op.Alike op') : Alike d model (.terminal op) (.terminal op')
  | createMany {items items' : Value}
    (h : ∀ members members', items.members? = some members → items'.members? = some members' →
      ∀ (k : ℕ) item item', members[k]? = some item → members'[k]? = some item' →
        SameKeys item item') :
    Alike d model (.createMany items) (.createMany items')

/-- The parts of two such calls differ in the values of their payloads at most. -/
theorem Call.Alike.part {d : Dialect} {model : Option RowModel} {call call' : Call}
    (h : call.Alike d model call') {k : ℕ} {op op' : Terminal} (hop : call.part k = some op)
    (hop' : call'.part k = some op') : op.Alike op' := by
  cases h with
  | same =>
    obtain rfl := Option.some.inj (hop.symm.trans hop')
    exact .same op
  | filter h h' => simp [Call.part] at hop
  | terminal h =>
    cases k with
    | zero => exact Option.some.inj hop ▸ Option.some.inj hop' ▸ h
    | succ k => simp [Call.part] at hop
  | createMany h =>
    simp only [Call.part, Option.map_eq_some_iff, Option.bind_eq_some_iff] at hop hop'
    obtain ⟨item, ⟨members, hmembers, hitem⟩, rfl⟩ := hop
    obtain ⟨item', ⟨members', hmembers', hitem'⟩, rfl⟩ := hop'
    exact .create (h members members' hmembers hmembers' k item item' hitem hitem')

/-! ### Requests -/

theorem Query.blank_eq_iff {q q' : Query} :
    q.blank = q'.blank ↔ q.table = q'.table ∧ q.columns = q'.columns ∧
      q.filters.map Filter.blank = q'.filters.map Filter.blank ∧ q.orders = q'.orders ∧
        q.limit = q'.limit ∧ q.offset = q'.offset ∧ q.distinct = q'.distinct := by
  simp only [blank, Query.mk.injEq, and_true]

section

variable {be : Backend} {q q' : Query}

theorem whereClause_eq (be : Backend) (h : q.blank = q'.blank) (before : ℤ) :
    Statement.whereClause be.dialect before q.filters =
      Statement.whereClause be.dialect before q'.filters := by
  obtain ⟨-, -, hfilters, -⟩ := Query.blank_eq_iff.1 h
  rw [← be.whereClause_blank, hfilters, be.whereClause_blank]

/-- Two queries that differ in their values at most are read by the same text. -/
theorem read_sql_eq (h : q.blank = q'.blank) {s s' : Statement}
    (hs : Statement.read be.dialect q = .ok s) (hs' : Statement.read be.dialect q' = .ok s') :
    s.sql = s'.sql := by
  obtain ⟨htable, hcolumns, -, horders, hlimit, hoffset, hdistinct⟩ := Query.blank_eq_iff.1 h
  obtain ⟨select, order, hselect, horder, -, hsql⟩ := Statement.read_eq_ok_iff.1 hs
  obtain ⟨select', order', hselect', horder', -, hsql'⟩ := Statement.read_eq_ok_iff.1 hs'
  rw [← hdistinct, ← htable, ← hcolumns, hselect] at hselect'
  rw [← horders, horder] at horder'
  rw [hsql, hsql', Except.ok.inj hselect', Except.ok.inj horder', whereClause_eq be h, hlimit,
    hoffset]

variable {data data' : Value} {entries entries' : List (Value × Value)}

/-- Two payloads with the same keys are inserted by the same text. -/
theorem insert_sql_eq {table : Value} (hsame : SameKeys data data') (hdata : IsPayload data entries)
    (hdata' : IsPayload data' entries') {s s' : Statement}
    (hs : Statement.insert be.dialect table entries = .ok s)
    (hs' : Statement.insert be.dialect table entries' = .ok s') : s.sql = s'.sql := by
  have hkeys := hsame entries entries' hdata.asPayload hdata'.asPayload
  have hlength : entries.length = entries'.length := by
    simpa using congrArg List.length hkeys
  obtain ⟨keys, hentries, -⟩ := hdata.keys
  rw [Statement.insert_eq hentries, Except.ok.injEq] at hs
  rw [Statement.insert_eq (hkeys.symm.trans hentries), Except.ok.injEq] at hs'
  rw [← hs, ← hs', hlength]

/-- Two payloads with the same keys are set by the same text, whatever the values of the filters
are. -/
theorem update_sql_eq (be : Backend) (h : q.blank = q'.blank) (hsame : SameKeys data data')
    (hdata : IsPayload data entries) (hdata' : IsPayload data' entries') :
    (Statement.update be.dialect q.table entries q.filters).sql =
      (Statement.update be.dialect q'.table entries' q'.filters).sql := by
  have hkeys := hsame entries entries' hdata.asPayload hdata'.asPayload
  have hlength : entries.length = entries'.length := by
    simpa using congrArg List.length hkeys
  obtain ⟨htable, -⟩ := Query.blank_eq_iff.1 h
  simp only [Statement.update]
  rw [htable, Statement.assignments_eq_of_keys hkeys, hlength,
    whereClause_eq be h]

/-- Two queries that differ in their values at most, and two calls that do, have requests of the
same text. -/
theorem Query.Requests.sql_eq {op op' : Terminal} {r r' : Request} (hblank : q.blank = q'.blank)
    (hop : op.Alike op') (h : q.Requests be.dialect op r) (h' : q'.Requests be.dialect op' r') :
    r.sql = r'.sql := by
  have htable : q.table = q'.table := (Query.blank_eq_iff.1 hblank).1
  have hwhere := whereClause_eq be hblank 0
  cases hop with
  | same =>
    cases h with
    | get hs => cases h' with | get hs' => exact read_sql_eq hblank hs hs'
    | first hs => cases h' with | first hs' => exact read_sql_eq hblank hs hs'
    | count =>
      cases h' with
      | count =>
        show Statement.count be.dialect q.table q.filters =
          Statement.count be.dialect q'.table q'.filters
        unfold Statement.count
        rw [htable, hwhere]
    | create hdata hs =>
      cases h' with
      | create hdata' hs' => exact insert_sql_eq (.refl _) hdata hdata' (htable ▸ hs) hs'
    | update hdata =>
      cases h' with
      | update hdata' =>
        have hsql := update_sql_eq be hblank (.refl _) hdata hdata'
        exact hsql
    | delete =>
      cases h' with
      | delete =>
        show Statement.delete be.dialect q.table q.filters =
          Statement.delete be.dialect q'.table q'.filters
        unfold Statement.delete
        rw [htable, hwhere]
  | create hsame =>
    cases h with
    | create hdata hs =>
      cases h' with
      | create hdata' hs' => exact insert_sql_eq hsame hdata hdata' (htable ▸ hs) hs'
  | update hsame =>
    cases h with
    | update hdata =>
      cases h' with
      | update hdata' =>
        have hsql := update_sql_eq be hblank hsame hdata hdata'
        exact hsql

end

/-! ### Builders -/

namespace Builder

variable {b b' : Builder}

theorem blank_eq_iff :
    b.blank = b'.blank ↔ b.dialect = b'.dialect ∧ b.model = b'.model ∧
      b.query.blank = b'.query.blank := by
  simp only [blank, Builder.mk.injEq]

/-- Adding a filter adds it without its value to the blank query. -/
theorem addFilter_blank (q : Query) (f : Filter) (binding : Value) :
    (q.addFilter f binding).1.blank =
      { q.blank with filters := q.blank.filters ++ [f.blank] } := by
  cases hbindings : q.bindings.append binding <;>
    simp [Query.addFilter, hbindings, Query.blank]

/-- A change that needs a check makes the same of a builder and of the blank builder, if the check
does not look at the query and the change keeps to what is not blank. -/
theorem changeWith_blank {α : Type} (b : Builder) (check : Except Fault α)
    {change : Query → α → Query × Except Fault Unit}
    (h : ∀ a, (change b.query a).1.blank = (change b.query.blank a).1.blank) :
    (b.changeWith check change).1.blank = (b.blank.changeWith check change).1.blank := by
  cases check with
  | error f => simp [changeWith, blank, Query.blank]
  | ok a => exact blank_eq_iff.2 ⟨rfl, rfl, h a⟩

theorem configure_blank (b : Builder) (c : Fluent) :
    (b.configure c).1.blank = (b.blank.configure c).1.blank := by
  cases c with
  | select columns => simp [configure, blank, Query.blank]
  | distinct => simp [configure, blank, Query.blank]
  | filter column operator value =>
    refine changeWith_blank b (b.checkFilter column operator value) fun a ↦ ?_
    rw [addFilter_blank, addFilter_blank]
    simp [Query.blank]
  | orderBy column direction =>
    refine changeWith_blank b (b.checkSortTerm column direction) fun a ↦ ?_
    simp [Query.blank]
  | limit n =>
    refine changeWith_blank b _ fun a ↦ ?_
    simp [Query.blank]
  | offset n =>
    refine changeWith_blank b _ fun a ↦ ?_
    simp [Query.blank]

/-- What a call makes of a builder is known from the blank builder, up to the values. -/
theorem after_blank (b : Builder) (call : Call) :
    (b.after call).blank = (b.blank.after call).blank := by
  cases call with
  | fluent c => exact configure_blank b c
  | terminal op => rfl
  | createMany items => rfl

theorem focus_blank (b : Builder) (op : Terminal) : (b.focus op).blank = b.blank.focus op := by
  cases op <;> rfl

/-- An accepted filter is added with the operator that its guard returns, which does not depend on
the value. -/
theorem configure_filter_blank {column operator value : Value}
    (h : Accepts b.dialect b.model column operator value) :
    ∃ op, Guard.operator operator = .ok op ∧
      (b.configure (.filter column operator value)).1.blank =
        { b with query := { b.query.blank with
            filters := b.query.blank.filters ++
              [{ column, operator := op, value := .null }] } } := by
  rcases configure_cases (b := fresh b.dialect b.model (.text "")) rfl
    (.filter column operator value) with ⟨fault, hrefused⟩ | ⟨q, hq, -⟩
  · rw [Accepts, hrefused] at h
    cases h
  · cases hq with
    | @filter _ _ _ binding f _ hcheck hbindings =>
      -- The checks of a filter do not look at the query, so they come out the same for `b`.
      have hfilter : b.checkFilter column operator value = .ok (f, binding) := hcheck
      obtain ⟨-, hop, -, hf, -⟩ := checkFilter_eq_ok_iff.1 hfilter
      have hblank : f.blank = { column, operator := f.operator, value := .null } := by rw [hf]; rfl
      refine ⟨f.operator, hop, ?_⟩
      have hquery := addFilter_blank b.query f binding
      rw [configure, hfilter, ← hblank, ← hquery]
      rfl

/-- Two builders that differ in their values at most still do so after two calls that do. -/
theorem after_blank_eq (hblank : b.blank = b'.blank) {call call' : Call}
    (h : call.Alike b.dialect b.model call') : (b.after call).blank = (b'.after call').blank := by
  obtain ⟨hdialect, hmodel, hquery⟩ := blank_eq_iff.1 hblank
  have hsame : ∀ call, (b.after call).blank = (b'.after call).blank := by
    intro call
    rw [after_blank, hblank, ← after_blank]
  cases h with
  | same => exact hsame _
  | @filter column operator value value' h h' =>
    rw [hdialect, hmodel] at h'
    obtain ⟨op, hop, hafter⟩ := configure_filter_blank h
    obtain ⟨op', hop', hafter'⟩ := configure_filter_blank h'
    obtain rfl := Except.ok.inj (hop.symm.trans hop')
    show (b.configure _).1.blank = (b'.configure _).1.blank
    rw [hafter, hafter', hdialect, hmodel, hquery]
  -- Calls that send leave the reset builder, whatever was given to them.
  | terminal h => exact hsame (.terminal .get)
  | createMany h => exact hsame (.terminal .get)

/-- Two builders that differ in their values at most, and two calls that do, have requests of the
same text. -/
theorem request_sql_eq {be : Backend} (hdialect : b.dialect = be.dialect)
    (hblank : b.blank = b'.blank) {op op' : Terminal} (hop : op.Alike op') {r r' : Request}
    (h : b.request op = .ok r) (h' : b'.request op' = .ok r') : r.sql = r'.sql := by
  obtain ⟨hdialects, -, -⟩ := blank_eq_iff.1 hblank
  have hfocus : (b.focus op).query.blank = (b'.focus op').query.blank := by
    have hall : (b.focus op).blank = (b'.focus op').blank := by
      rw [focus_blank, hblank, ← focus_blank]
      cases hop <;> rfl
    exact (blank_eq_iff.1 hall).2.2
  rw [request, hdialect, Query.request_eq_ok_iff] at h
  rw [request, ← hdialects, hdialect, Query.request_eq_ok_iff] at h'
  exact h.2.sql_eq hfocus hop h'.2

/-! ### Runs -/

/-- Of what is seen of two calls: the requests in the same places have the same text. -/
def SameTexts (one other : List Request × Except Fault Value) : Prop :=
  ∀ (k : ℕ) r r', one.1[k]? = some r → other.1[k]? = some r' → r.sql = r'.sql

variable {σ τ : Type}

theorem sameTexts_of_blank_eq {be : Backend} {model : Option RowModel} (execute : Executor σ)
    (execute' : Executor τ) {calls calls' : List Call}
    (h : List.Forall₂ (Call.Alike be.dialect model) calls calls') :
    ∀ {b b' : Builder}, b.dialect = be.dialect → b.model = model → b.blank = b'.blank →
      ∀ (s : σ) (t : τ), List.Forall₂ SameTexts (b.transcript execute s calls)
        (b'.transcript execute' t calls') := by
  induction h with
  | nil => intros; exact .nil
  | @cons call call' rest rest' hcall hrest ih =>
    intro b b' hdialect hmodel hblank s t
    -- The replies may differ between the two runs, but the builders do not depend on them.
    have hafter : (b.after call).blank = (b'.after call').blank :=
      after_blank_eq hblank (hdialect ▸ hmodel ▸ hcall)
    have hdialect' : (b.after call).dialect = be.dialect :=
      (foldl_after_dialect [call] b).trans hdialect
    have hmodel' : (b.after call).model = model := (foldl_after_model [call] b).trans hmodel
    refine .cons ?_ ?_
    · intro k r r' hr hr'
      obtain ⟨op, hop, hrequest⟩ := request_of_sent hr
      obtain ⟨op', hop', hrequest'⟩ := request_of_sent hr'
      exact request_sql_eq hdialect hblank (hcall.part hop hop') hrequest hrequest'
    · rw [perform_builder, perform_builder]
      exact ih hdialect' hmodel' hafter _ _

/-- **Noninterference.** Two runs of calls on fresh builders that differ in nothing but the values
of accepted filters and of payloads send the same texts: whenever both have sent a request for the
same part of the same call, its text is the same, whatever the replies in the two runs were. -/
theorem sql_eq_of_alike (be : Backend) (model : Option RowModel) (table : Value)
    {calls calls' : List Call} (h : List.Forall₂ (Call.Alike be.dialect model) calls calls')
    (execute : Executor σ) (s : σ) (execute' : Executor τ) (t : τ) :
    List.Forall₂ SameTexts ((fresh be.dialect model table).transcript execute s calls)
      ((fresh be.dialect model table).transcript execute' t calls') :=
  sameTexts_of_blank_eq execute execute' h rfl rfl rfl s t

/-- A membership test is written the same for a list of two numbers and for a set of one text. -/
theorem sql_eq_of_other_members :
    let execute : Executor Unit := fun _ s ↦ (.ok (.list []), s)
    let calls := fun members : Value ↦
      [Call.fluent (.filter (.text "id") (.text "IN") members), .terminal .get]
    let b := fresh Backend.postgres.dialect none (.text "users")
    let numbers := b.transcript execute () (calls (.list [.int 1, .int 2]))
    let words := b.transcript execute () (calls (.collection .set [.text "x"]))
    List.Forall₂ SameTexts numbers words ∧
      numbers.map Prod.fst = [[], [{ sql := "SELECT * FROM users WHERE id = ANY($1)"
                                     params := [.list [.int 1, .int 2]] }]] := by
  intro execute calls b numbers words
  have hcolumn : Guard.column (.text "id") = .ok (.text "id") := rfl
  have hoperator : Guard.operator (.text "IN") = .ok (.text "IN") := rfl
  have hfilter : ∀ (kind : Collection) (members : List Value) (table : String), kind ≠ .stream →
      (fresh .postgres none (.text table)).configure
          (.filter (.text "id") (.text "IN") (.collection kind members)) =
        ({ dialect := .postgres
           query :=
            { table := .text table
              filters := [⟨.text "id", .text "IN", .collection kind members⟩]
              bindings := .list [.list members] } }, .ok ()) := by
    intro kind members table hkind
    have hvalue : Guard.value (.text "id") (.text "IN") (.collection kind members) = .ok () :=
      Guard.value_eq_ok_iff.2 fun _ ↦
        Guard.isMembershipList_iff.2 (Or.inl ⟨kind, members, hkind, rfl⟩)
    simp [configure, fresh, changeWith, checkFilter, checkColumn, checkField, hcolumn, hoperator,
      hvalue, bind, Except.bind, pure, Except.pure, Dialect.postgres, Dialect.withArrays,
      Dialect.isMembership, Guard.membership, Value.same, Dialect.bindList, Value.members,
      Value.members?, Query.addFilter, Value.append]
  have haccepts : ∀ (kind : Collection) (members : List Value), kind ≠ .stream →
      Accepts .postgres none (.text "id") (.text "IN") (.collection kind members) := by
    intro kind members hkind
    rw [Accepts, hfilter kind members "" hkind]
  have hcalls : List.Forall₂ (Call.Alike Backend.postgres.dialect none)
      (calls (.list [.int 1, .int 2])) (calls (.collection .set [.text "x"])) :=
    .cons (.filter (haccepts _ _ (by decide)) (haccepts _ _ (by decide))) (.cons (.same _) .nil)
  refine ⟨sql_eq_of_alike .postgres none (.text "users") hcalls execute () execute (), ?_⟩
  let filter : Filter := ⟨.text "id", .text "IN", .list [.int 1, .int 2]⟩
  let r : Request :=
    { sql := "SELECT * FROM users WHERE id = ANY($1)", params := [.list [.int 1, .int 2]] }
  let filtered : Builder :=
    { dialect := .postgres
      query :=
        { table := .text "users", filters := [filter]
          bindings := .list [.list [.int 1, .int 2]] } }
  have hwhere : Statement.whereClause .postgres 0 [filter] = " WHERE id = ANY($1)" := by
    have hmembership : Dialect.isMembership filter = true := Value.same_text_iff.2 rfl
    simp only [Statement.whereClause, Statement.predicates, Dialect.filterText, Dialect.postgres,
      Dialect.withArrays, hmembership]
    rfl
  have hrequest : filtered.request .get = .ok r := by
    have hread : Statement.read .postgres filtered.query = .ok ⟨r.sql, r.params⟩ := by
      refine Statement.read_eq_ok_iff.2 ⟨"SELECT * FROM users", "", rfl, rfl, rfl, ?_⟩
      rw [show filtered.query.filters = [filter] from rfl, hwhere]
      rfl
    exact Query.request_eq_ok_iff.2 ⟨rfl, .get hread⟩
  have hbuilder : b.configure (.filter (.text "id") (.text "IN") (.list [.int 1, .int 2])) =
      (filtered, .ok ()) := hfilter .list [.int 1, .int 2] "users" (by decide)
  have hsent : numbers.map Prod.fst = [[], ((b.configure (.filter (.text "id") (.text "IN")
      (.list [.int 1, .int 2]))).1.run execute .get ()).sent] := rfl
  rw [hsent, hbuilder, run_eq, hrequest]

end Builder

end FluentSql
