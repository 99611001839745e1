import FluentSql.Proofs.Footprint

/-!
# The order of calls about different parts

A query is gathered by calls that come in any order. Some of them add to a part of it, a filter or a
sort term; the others replace a part, the projection, a limit, an offset, or set a flag. So of a
list of calls no more should matter than its `parts`: the filters in their order, the sort terms in
theirs, and the last call of each other kind. How the calls were interleaved, and which calls were
overridden, should not.

`Builder.assemble` makes a query of parts at once, and is the normal form that this is shown by: the
calls of a list that succeed leave a reset builder with the query that is assembled of their parts
(`configureAll_eq_assemble`). For that, a single call changes the parts as it changes the query
(`Gathers.assemble_concat`). The checks of a filter or a sort term are the same before and after all
other calls, as they read dialect and model only. So it does not depend on the order either whether
all calls of a list succeed (`Sound.exists_configureAll_iff`).
-/

namespace FluentSql

/-! ### Parts -/

namespace Fluent

/-- Column, operator and value of a filter that a call adds. -/
def filter? : Fluent → Option (Value × Value × Value)
  | .filter column operator value => some (column, operator, value)
  | _ => none

/-- Column and direction of a sort term that a call adds. -/
def sortTerm? : Fluent → Option (Value × Value)
  | .orderBy column direction => some (column, direction)
  | _ => none

/-- The columns that a call selects. -/
def columns? : Fluent → Option (List Value)
  | .select columns => some columns
  | _ => none

/-- The limit that a call sets. -/
def limit? : Fluent → Option Value
  | .limit n => some n
  | _ => none

/-- The offset that a call sets. -/
def offset? : Fluent → Option Value
  | .offset n => some n
  | _ => none

/-- The call leaves out duplicates. -/
def isDistinct : Fluent → Bool
  | .distinct => true
  | _ => false

end Fluent

/-- What calls say of each part of a query. -/
structure Parts where
  filters : List (Value × Value × Value)
  orders : List (Value × Value)
  columns : Option (List Value)
  limit : Option Value
  offset : Option Value
  distinct : Bool

/-- The parts of some calls: all filters and all sort terms in their order, the last projection, the
last limit and the last offset if there are any, and whether duplicates are left out. -/
def parts (calls : List Fluent) : Parts where
  filters := calls.filterMap Fluent.filter?
  orders := calls.filterMap Fluent.sortTerm?
  columns := (calls.filterMap Fluent.columns?).getLast?
  limit := (calls.filterMap Fluent.limit?).getLast?
  offset := (calls.filterMap Fluent.offset?).getLast?
  distinct := calls.any Fluent.isDistinct

/-- The parts with one more call: it is added to its part, or replaces it. -/
def Parts.add (p : Parts) : Fluent → Parts
  | .select columns => { p with columns := some columns }
  | .distinct => { p with distinct := true }
  | .filter column operator value => { p with filters := p.filters ++ [(column, operator, value)] }
  | .orderBy column direction => { p with orders := p.orders ++ [(column, direction)] }
  | .limit n => { p with limit := some n }
  | .offset n => { p with offset := some n }

theorem parts_concat (calls : List Fluent) (c : Fluent) :
    parts (calls ++ [c]) = (parts calls).add c := by
  cases c <;> simp [parts, Parts.add, Fluent.filter?, Fluent.sortTerm?, Fluent.columns?,
    Fluent.limit?, Fluent.offset?, Fluent.isDistinct]

namespace Builder

/-- The query that a builder makes of parts, if they pass its checks. -/
def assemble (b : Builder) (p : Parts) : Except Fault Query := do
  let filters ← p.filters.mapM fun (column, operator, value) ↦ b.checkFilter column operator value
  let orders ← p.orders.mapM fun (column, direction) ↦ b.checkSortTerm column direction
  return {
    table := b.query.table
    columns := .list (p.columns.getD [.text "*"])
    filters := filters.map Prod.fst
    orders
    limit := p.limit.getD .null
    offset := p.offset.getD .null
    distinct := .bool p.distinct
    bindings := .list (filters.map Prod.snd) }

/-- The builder after calls that change its query, if all of them succeed. -/
def configureAll (b : Builder) : List Fluent → Except Fault Builder
  | [] => .ok b
  | c :: rest =>
    match b.configure c with
    | (b, .ok ()) => b.configureAll rest
    | (_, .error f) => .error f

variable {b : Builder} {q r : Query}

theorem assemble_eq_ok_iff {p : Parts} :
    b.assemble p = .ok q ↔
      ∃ (checked : List (Filter × Value)) (orders : List SortTerm),
        List.Forall₂ (fun f c ↦ b.checkFilter f.1 f.2.1 f.2.2 = .ok c) p.filters checked ∧
        List.Forall₂ (fun o t ↦ b.checkSortTerm o.1 o.2 = .ok t) p.orders orders ∧
        q = { table := b.query.table
              columns := .list (p.columns.getD [.text "*"])
              filters := checked.map Prod.fst
              orders
              limit := p.limit.getD .null
              offset := p.offset.getD .null
              distinct := .bool p.distinct
              bindings := .list (checked.map Prod.snd) } := by
  simp only [assemble, bind_eq_ok_iff, mapM_eq_ok_iff, pure, Except.pure, Except.ok.injEq,
    eq_comm (b := q)]
  constructor
  · rintro ⟨checked, hchecked, orders, horders, rfl⟩
    exact ⟨checked, orders, hchecked, horders, rfl⟩
  · rintro ⟨checked, orders, hchecked, horders, rfl⟩
    exact ⟨checked, hchecked, orders, horders, rfl⟩

/-- A builder in its reset state has the query of no parts. -/
theorem assemble_nil (hreset : b.reset = b) : b.assemble (parts []) = .ok b.query := by
  have hquery : b.query.reset = b.query := congrArg Builder.query hreset
  rw [← hquery]
  rfl

/-- One more call that succeeds makes the query of one more part. -/
theorem Gathers.assemble_concat {before : List Fluent} {c : Fluent}
    (hq : b.assemble (parts before) = .ok q) (h : Gathers { b with query := q } c r) :
    b.assemble (parts (before ++ [c])) = .ok r := by
  obtain ⟨checked, orders, hchecked, horders, rfl⟩ := assemble_eq_ok_iff.1 hq
  rw [parts_concat]
  refine assemble_eq_ok_iff.2 ?_
  cases h with
  | select columns => exact ⟨checked, orders, hchecked, horders, rfl⟩
  | distinct => exact ⟨checked, orders, hchecked, horders, rfl⟩
  | @filter column operator value binding f bindings hcheck hbindings =>
    obtain rfl : checked.map Prod.snd = bindings := by simpa using hbindings
    refine ⟨checked ++ [(f, binding)], orders, List.rel_append hchecked (.cons ?_ .nil), horders,
      by simp [Parts.add]⟩
    exact hcheck
  | @orderBy column direction t hcheck =>
    exact ⟨checked, orders ++ [t], hchecked, List.rel_append horders (.cons hcheck .nil), rfl⟩
  | limit hn => exact ⟨checked, orders, hchecked, horders, rfl⟩
  | offset hn => exact ⟨checked, orders, hchecked, horders, rfl⟩

/-- Calls that all succeed make the query of their parts, after those of the calls before. -/
theorem configureAll_eq_assemble_append {calls : List Fluent} {b' : Builder} {before : List Fluent}
    (hq : b.assemble (parts before) = .ok q)
    (h : ({ b with query := q } : Builder).configureAll calls = .ok b') :
    ∃ r, b.assemble (parts (before ++ calls)) = .ok r ∧ b' = { b with query := r } := by
  induction calls generalizing before q with
  | nil => exact ⟨q, by rwa [List.append_nil], (Except.ok.inj h).symm⟩
  | cons c rest ih =>
    obtain ⟨checked, orders, -, -, hshape⟩ := assemble_eq_ok_iff.1 hq
    have hbindings : ({ b with query := q } : Builder).query.bindings =
        .list (checked.map Prod.snd) := by rw [hshape]
    rw [configureAll] at h
    rcases configure_cases hbindings c with ⟨f, hrefused⟩ | ⟨r, hr, hdone⟩
    · rw [hrefused] at h
      cases h
    · rw [hdone] at h
      have hrest := ih (hr.assemble_concat hq) h
      rwa [List.append_assoc, List.singleton_append] at hrest

/-- **Calls that all succeed leave a reset builder with the query of their parts.** -/
theorem configureAll_eq_assemble {calls : List Fluent} {b' : Builder} (hreset : b.reset = b)
    (h : b.configureAll calls = .ok b') :
    ∃ r, b.assemble (parts calls) = .ok r ∧ b' = { b with query := r } :=
  configureAll_eq_assemble_append (assemble_nil hreset) h

/-- Calls all succeed if each of them passes the checks of the builder that they begin with. -/
theorem Sound.exists_configureAll_iff (hb : b.Sound) {calls : List Fluent} :
    (∃ b', b.configureAll calls = .ok b') ↔ ∀ c ∈ calls, b.Admits c := by
  induction calls generalizing b with
  | nil => simp [configureAll]
  | cons c rest ih =>
    rw [List.forall_mem_cons, configureAll]
    rcases hb.configure_cases c with ⟨hadmits, q, -, hdone⟩ | ⟨hrefused, f, hfailed⟩
    · have hafter : ({ b with query := q } : Builder).Sound := by
        have h := hb.after (.fluent c)
        rwa [Builder.after, hdone] at h
      -- What a call is checked for is dialect and model, which are the same after the first call.
      have hsame : ∀ d, ({ b with query := q } : Builder).Admits d ↔ b.Admits d := by
        intro d
        cases d <;> exact Iff.rfl
      simp only [hdone, ih hafter, hsame, hadmits, true_and]
    · simp [hfailed, hrefused]

/-- **The order of calls about different parts does not matter.** Lists of calls with the same parts
that succeed on a reset builder leave the same builder, and every call that follows sends the same
requests. -/
theorem configureAll_eq_of_parts {calls calls' : List Fluent} {b₁ b₂ : Builder}
    (hreset : b.reset = b) (h₁ : b.configureAll calls = .ok b₁)
    (h₂ : b.configureAll calls' = .ok b₂) (hparts : parts calls = parts calls') :
    b₁ = b₂ ∧ ∀ {σ : Type} (execute : Executor σ) (call : Call) (s : σ),
      (b₁.perform execute call s).sent = (b₂.perform execute call s).sent := by
  obtain ⟨q₁, hq₁, rfl⟩ := configureAll_eq_assemble hreset h₁
  obtain ⟨q₂, hq₂, rfl⟩ := configureAll_eq_assemble hreset h₂
  obtain rfl : q₁ = q₂ := by
    rw [hparts, hq₂] at hq₁
    exact (Except.ok.inj hq₁).symm
  exact ⟨rfl, fun _ _ _ ↦ rfl⟩

/-- A projection and a limit that are overridden leave no trace, wherever the other calls stand. -/
theorem configureAll_eq_of_overridden :
    let users := fresh .postgres none (.text "users")
    let adult : Fluent := .filter (.text "age") (.text ">") (.int 18)
    let calls : List Fluent := [.limit (.int 5), adult, .select [.text "name"],
      .orderBy (.text "name") (.text "asc"), .limit (.int 10), .distinct]
    let calls' : List Fluent := [.distinct, .select [.text "id"], .limit (.int 10),
      .orderBy (.text "name") (.text "asc"), .distinct, adult, .select [.text "name"]]
    parts calls = parts calls' ∧ ∃ b₁ b₂, users.configureAll calls = .ok b₁ ∧
      users.configureAll calls' = .ok b₂ ∧ b₁ = b₂ := by
  intro users adult calls calls'
  have hsound : users.Sound := fresh_sound .postgres none (.text "users")
  have hcolumn : ∀ s : String, Column.isColumn s.toList = true → IsColumnOf none (.text s) :=
    fun s hs ↦ ⟨s, rfl, hs, nofun⟩
  have hadult : users.Admits adult := by
    refine ⟨hcolumn "age" (by decide), .text ">", rfl, by simp [Guard.membership], .int 18, ?_⟩
    simp [users, fresh, Dialect.postgres, Dialect.withArrays, Dialect.isMembership,
      Guard.membership, Value.same]
  have hname : users.Admits (.orderBy (.text "name") (.text "asc")) :=
    ⟨hcolumn "name" (by decide), .text "asc", rfl⟩
  have hlimit : ∀ n : ℕ, users.Admits (.limit (.int n)) := fun n ↦ ⟨n, by omega, rfl⟩
  have hcalls : ∀ c ∈ calls, users.Admits c := by
    simp only [calls, List.forall_mem_cons]
    exact ⟨hlimit 5, hadult, trivial, hname, hlimit 10, trivial, List.forall_mem_nil _⟩
  have hcalls' : ∀ c ∈ calls', users.Admits c := by
    simp only [calls', List.forall_mem_cons]
    exact ⟨trivial, trivial, hlimit 10, hname, trivial, hadult, trivial, List.forall_mem_nil _⟩
  obtain ⟨b₁, h₁⟩ := hsound.exists_configureAll_iff.2 hcalls
  obtain ⟨b₂, h₂⟩ := hsound.exists_configureAll_iff.2 hcalls'
  exact ⟨rfl, b₁, b₂, h₁, h₂, (configureAll_eq_of_parts rfl h₁ h₂ rfl).1⟩

end Builder

end FluentSql
