import FluentSql.Proofs.Sound

/-!
# A call that changes the query changes its own part of it, or nothing

A call that changes the query goes through up to five checks, and then it changes one or two parts
of the query. What a caller may rely on is that nothing lies between the two: a call that is refused
leaves the builder as it was, whichever check refused it, and a call that succeeds leaves alone
whatever it is not about.

* `Builder.Admits` says what the checks of a call come to. It mentions no builder but the one that
  the call is made on, and no change.
* `Fluent.Effect` says what the query is afterwards. A filter is the only call that changes two
  parts, and it adds the filter and the value that is bound for it at the ends of the two lists.

Neither of them says anything about failures halfway, because there are none on the builders that
calls can lead to. This is where the invariant of gathered queries is needed: a filter is added
before its binding, so with bindings that cannot grow the first would stay without the second.
-/

namespace FluentSql

/-- What a call makes of a query when it succeeds. All parts that are not named are as before. -/
def Fluent.Effect (d : Dialect) (q : Query) : Fluent → Query → Prop
  | .select columns, r => r = { q with columns := .list columns }
  | .distinct, r => r = { q with distinct := .bool true }
  | .filter column operator value, r =>
    ∃ (f : Filter) (binding : Value) (bindings : List Value),
      f.column = column ∧ Guard.operator operator = .ok f.operator ∧ f.value = value ∧
        d.bind f = .ok binding ∧ q.bindings = .list bindings ∧
        r = { q with filters := q.filters ++ [f], bindings := .list (bindings ++ [binding]) }
  | .orderBy column direction, r =>
    ∃ t : SortTerm, t.column = column ∧ Guard.direction direction = .ok t.direction ∧
      r = { q with orders := q.orders ++ [t] }
  | .limit n, r => r = { q with limit := n }
  | .offset n, r => r = { q with offset := n }

namespace Builder

/-- The call passes all its checks: the columns are columns that the model knows, the words are
words of their lists, the value has the kind that the operator asks for and the dialect can bind it,
and bounds are natural numbers. -/
def Admits (b : Builder) : Fluent → Prop
  | .select _ | .distinct => True
  | .filter column operator value =>
    IsColumnOf b.model column ∧ ∃ word, Guard.operator operator = .ok word ∧
      (word = .text Guard.membership → Guard.isMembershipList value = true) ∧
      ∃ binding, b.dialect.bind { column, operator := word, value } = .ok binding
  | .orderBy column direction =>
    IsColumnOf b.model column ∧ ∃ word, Guard.direction direction = .ok word
  | .limit n | .offset n => ∃ k : Int, 0 ≤ k ∧ n = .int k

variable {b : Builder} {c : Fluent} {q : Query}

/-- A filter passes the checks if there is a filter with a binding that they return. -/
theorem admits_filter_iff {column operator value : Value} :
    b.Admits (.filter column operator value) ↔
      ∃ f binding, b.checkFilter column operator value = .ok (f, binding) := by
  simp only [checkFilter_eq_ok_iff, Admits]
  constructor
  · rintro ⟨hcolumn, word, hword, hvalue, binding, hbind⟩
    exact ⟨_, binding, hcolumn, hword, hvalue, rfl, hbind⟩
  · rintro ⟨f, binding, hcolumn, hword, hvalue, hf, hbind⟩
    exact ⟨hcolumn, f.operator, hword, hvalue, binding, hf ▸ hbind⟩

/-- A sort term passes the checks if there is one that they return. -/
theorem admits_orderBy_iff {column direction : Value} :
    b.Admits (.orderBy column direction) ↔ ∃ t, b.checkSortTerm column direction = .ok t := by
  simp only [checkSortTerm_eq_ok_iff, Admits]
  constructor
  · rintro ⟨hcolumn, word, hword⟩
    exact ⟨⟨column, word⟩, hcolumn, rfl, hword⟩
  · rintro ⟨t, hcolumn, -, hword⟩
    exact ⟨hcolumn, t.direction, hword⟩

/-- What is gathered has passed the checks. -/
theorem Gathers.admits (h : Gathers b c q) : b.Admits c := by
  cases h with
  | select columns => trivial
  | distinct => trivial
  | filter hcheck hbindings => exact admits_filter_iff.2 ⟨_, _, hcheck⟩
  | orderBy hcheck => exact admits_orderBy_iff.2 ⟨_, hcheck⟩
  | limit hn => exact ⟨_, hn, rfl⟩
  | offset hn => exact ⟨_, hn, rfl⟩

/-- What is gathered is the part that the call is about. -/
theorem Gathers.effect (h : Gathers b c q) : c.Effect b.dialect b.query q := by
  cases h with
  | select columns => rfl
  | distinct => rfl
  | filter hcheck hbindings =>
    obtain ⟨-, hword, -, hf, hbind⟩ := checkFilter_eq_ok_iff.1 hcheck
    exact ⟨_, _, _, by rw [hf], hword, by rw [hf], hbind, hbindings, rfl⟩
  | orderBy hcheck =>
    obtain ⟨-, hcolumn, hword⟩ := checkSortTerm_eq_ok_iff.1 hcheck
    exact ⟨_, hcolumn, hword, rfl⟩
  | limit hn => rfl
  | offset hn => rfl

/-- A call that passes its checks succeeds, if the bindings can grow. -/
theorem configure_of_admits {bindings : List Value} (hbindings : b.query.bindings = .list bindings)
    (h : b.Admits c) : (b.configure c).2 = .ok () := by
  cases c with
  | select columns => rfl
  | distinct => rfl
  | filter column operator value =>
    obtain ⟨f, binding, hcheck⟩ := admits_filter_iff.1 h
    simp [configure, changeWith, hcheck, Query.addFilter, hbindings, Value.append]
  | orderBy column direction =>
    obtain ⟨t, hcheck⟩ := admits_orderBy_iff.1 h
    simp [configure, changeWith, hcheck]
  | limit v | offset v =>
    have hcheck : ∀ clause, Guard.pagination clause v = .ok v := by
      obtain ⟨n, hn, rfl⟩ := h
      exact fun clause ↦ Guard.pagination_eq_ok_iff.2 ⟨n, hn, rfl, rfl⟩
    simp [configure, changeWith, hcheck]

/-- A call either passes its checks and has its effect, or it fails and changes nothing. -/
theorem Sound.configure_cases (hb : b.Sound) (c : Fluent) :
    (b.Admits c ∧ ∃ q, c.Effect b.dialect b.query q ∧
        b.configure c = ({ b with query := q }, .ok ())) ∨
      (¬ b.Admits c ∧ ∃ f, b.configure c = (b, .error f)) := by
  obtain ⟨bindings, hbindings, -⟩ := hb.bound
  rcases Builder.configure_cases hbindings c with ⟨f, hrefused⟩ | ⟨q, hq, hdone⟩
  · refine Or.inr ⟨fun h ↦ ?_, f, hrefused⟩
    have hok := configure_of_admits hbindings h
    rw [hrefused] at hok
    cases hok
  · exact Or.inl ⟨hq.admits, q, hq.effect, hdone⟩

/-- **Calls that change the query are atomic.** After any run of calls, one more call that changes
the query sends nothing. If it passes its checks, it succeeds and has the effect that is described
for it, on the query and on nothing else; and if it does not, it fails, for whatever reason, and the
builder is the one of before. -/
theorem configure_atomic_of_run {σ : Type} (execute : Executor σ) (s : σ) (d : Dialect)
    (model : Option RowModel) (table : Value) (calls : List Call) (c : Fluent) :
    let before := (fresh d model table).performAll execute s calls
    let b := before.builder
    let after := b.perform execute (.fluent c) before.state
    after.sent = [] ∧ after.state = before.state ∧
      ((b.Admits c ∧ after.result = .ok .null ∧
          ∃ q, c.Effect d b.query q ∧ after.builder = { b with query := q }) ∨
        (¬ b.Admits c ∧ (∃ f, after.result = .error f) ∧ after.builder = b)) := by
  intro before b after
  have hdialect : b.dialect = d := by
    show before.builder.dialect = d
    rw [performAll_builder, foldl_after_dialect]
    rfl
  have hsound : b.Sound := (fresh_sound d model table).performAll execute s calls
  have hafter : after =
      { builder := (b.configure c).1, state := before.state, sent := []
        result := (b.configure c).2.map fun _ ↦ .null } := rfl
  rw [hafter]
  refine ⟨rfl, rfl, ?_⟩
  rcases hsound.configure_cases c with ⟨hadmits, q, heffect, hdone⟩ | ⟨hrefused, f, hfailed⟩
  · refine Or.inl ⟨hadmits, ?_, q, hdialect ▸ heffect, ?_⟩
    · rw [hdone]
      rfl
    · rw [hdone]
  · refine Or.inr ⟨hrefused, ⟨f, ?_⟩, ?_⟩
    · rw [hfailed]
      rfl
    · rw [hfailed]

end Builder

end FluentSql
