import FluentSql.Builder.Call
import FluentSql.Proofs.Guard

/-!
# What calls do to a builder, and what they send

A call leaves a builder behind and sends requests. The two are separate matters.

* The builder that a call leaves depends on the call alone, and not on the replies (`after`,
  `perform_builder`). A call that sends anything resets the query however it ends, so a run of calls
  is a fold of `after` (`performAll_builder`), and the builder after it is a function of the calls
  since the last reset.
* Every request of a call belongs to one call of a single statement, its `Call.part`, and is the one
  that the builder makes for that part (`request_of_sent`). For an insertion of many rows this rests
  on the request of an insertion depending on nothing in the query but the table
  (`request_create_reset`): so it does not matter that the query is reset between the items.

Dialect, model and table of a builder never change. As `reset` keeps these three and nothing else,
that is the one equation `foldl_after_reset`.
-/

namespace FluentSql

/-- The call of a single statement that a request of a call belongs to, by the place of the request
among those of the call. -/
def Call.part : Call → Nat → Option Terminal
  | .fluent _, _ => none
  | .terminal op, 0 => some op
  | .terminal _, _ + 1 => none
  | .createMany items, k => (items.members?.bind (·[k]?)).map .create

/-- The call sends requests, unless it fails before. -/
def Call.Sends : Call → Prop
  | .fluent _ => False
  | .terminal _ | .createMany _ => True

/-- Nothing is lost when a mismatch is read as a fault. -/
theorem liftMismatch_eq_ok_iff {α : Type} {x : Except Mismatch α} {a : α} :
    liftMismatch x = .ok a ↔ x = .ok a := by
  cases x <;> simp [liftMismatch]

theorem Value.members_eq_ok_iff {v : Value} {members : List Value} :
    v.members = .ok members ↔ v.members? = some members := by
  unfold Value.members
  cases v.members? <;> simp

namespace Builder

/-- A builder on which no call has been made yet: the root builder of a session, or one that is
derived by choosing a table. -/
def fresh (d : Dialect) (model : Option RowModel) (table : Value) : Builder :=
  { dialect := d, model, query := { table } }

/-- The builder that a call leaves behind. -/
def after (b : Builder) : Call → Builder
  | .fluent c => (b.configure c).1
  | .terminal _ | .createMany _ => b.reset

/-- The request that a builder makes for a call of a single statement. -/
def request (b : Builder) (op : Terminal) : Except Fault Request :=
  (b.focus op).query.request b.dialect op

variable {σ : Type}

/-! ### The builder that a call leaves -/

@[simp]
theorem reset_reset (b : Builder) : b.reset.reset = b.reset :=
  rfl

/-- The reset builder is the one that is derived for the same table and model. -/
theorem reset_eq_table (b : Builder) : b.reset = b.table b.query.table b.model :=
  rfl

@[simp]
theorem focus_reset (b : Builder) (op : Terminal) : (b.focus op).reset = b.reset := by
  cases op <;> rfl

@[simp]
theorem focus_table (b : Builder) (op : Terminal) : (b.focus op).query.table = b.query.table := by
  cases op <;> rfl

@[simp]
theorem focus_columns (b : Builder) (op : Terminal) :
    (b.focus op).query.columns = b.query.columns := by
  cases op <;> rfl

@[simp]
theorem focus_dialect (b : Builder) (op : Terminal) : (b.focus op).dialect = b.dialect := by
  cases op <;> rfl

@[simp]
theorem focus_model (b : Builder) (op : Terminal) : (b.focus op).model = b.model := by
  cases op <;> rfl

theorem after_of_sends {call : Call} (h : call.Sends) (b : Builder) : b.after call = b.reset := by
  cases call with
  | fluent c => exact h.elim
  | terminal op => rfl
  | createMany items => rfl

/-- A change that needs a check keeps what every outcome of the change keeps. -/
theorem changeWith_reset {α : Type} {b : Builder} {check : Except Fault α}
    {change : Query → α → Query × Except Fault Unit}
    (h : ∀ a, (change b.query a).1.table = b.query.table) :
    (b.changeWith check change).1.reset = b.reset := by
  cases check with
  | error f => rfl
  | ok a =>
    show ({ b with query := (change b.query a).1 } : Builder).reset = b.reset
    simp [reset, Query.reset, h a]

theorem addFilter_table (q : Query) (f : Filter) (binding : Value) :
    (q.addFilter f binding).1.table = q.table := by
  cases hbindings : q.bindings.append binding <;> simp [Query.addFilter, hbindings]

/-- A call that changes the query changes neither dialect nor model nor table. -/
@[simp]
theorem configure_reset (b : Builder) (c : Fluent) : (b.configure c).1.reset = b.reset := by
  cases c with
  | select columns => rfl
  | distinct => rfl
  | filter column operator value =>
    exact changeWith_reset fun a ↦ addFilter_table b.query a.1 a.2
  | orderBy column direction => exact changeWith_reset fun _ ↦ rfl
  | limit n => exact changeWith_reset fun _ ↦ rfl
  | offset n => exact changeWith_reset fun _ ↦ rfl

@[simp]
theorem after_reset (b : Builder) (call : Call) : (b.after call).reset = b.reset := by
  cases call with
  | fluent c => exact b.configure_reset c
  | terminal op => rfl
  | createMany items => rfl

/-- No run of calls changes dialect, model or table. -/
@[simp]
theorem foldl_after_reset (calls : List Call) (b : Builder) :
    (calls.foldl after b).reset = b.reset := by
  induction calls generalizing b with
  | nil => rfl
  | cons call rest ih => rw [List.foldl_cons, ih, after_reset]

@[simp]
theorem foldl_after_dialect (calls : List Call) (b : Builder) :
    (calls.foldl after b).dialect = b.dialect := by
  have h := congrArg Builder.dialect (foldl_after_reset calls b)
  exact h

@[simp]
theorem foldl_after_model (calls : List Call) (b : Builder) :
    (calls.foldl after b).model = b.model := by
  have h := congrArg Builder.model (foldl_after_reset calls b)
  exact h

@[simp]
theorem foldl_after_table (calls : List Call) (b : Builder) :
    (calls.foldl after b).query.table = b.query.table := by
  have h := congrArg (·.query.table) (foldl_after_reset calls b)
  exact h

/-- A whole call of a single statement: if there is a request, it is sent and the reply is read; in
any case the query is reset. -/
theorem run_eq (execute : Executor σ) (b : Builder) (op : Terminal) (s : σ) :
    b.run execute op s =
      match b.request op with
      | .error f => { builder := b.reset, state := s, sent := [], result := .error f }
      | .ok r =>
        { builder := b.reset
          state := (execute r s).2
          sent := [r]
          result := rowsOf (execute r s).1 >>= op.answer b.model b.query.table } := by
  unfold run prepare absorb
  rcases hrequest : b.request op with f | r
  all_goals
    rw [request] at hrequest
    simp only [focus_dialect, hrequest, focus_reset, focus_model, focus_table]

/-- A call of a single statement resets the query, whatever comes of it. -/
theorem run_builder (execute : Executor σ) (b : Builder) (op : Terminal) (s : σ) :
    (b.run execute op s).builder = b.reset := by
  rw [run_eq]
  cases b.request op <;> rfl

theorem createEach_builder_reset (execute : Executor σ) (items : List Value) :
    ∀ (b : Builder) (s : σ) (created : List Value),
      (createEach execute b s created items).builder.reset = b.reset := by
  induction items with
  | nil => intro b s created; rfl
  | cons item rest ih =>
    intro b s created
    -- The items after this one are inserted by a reset builder, which is what a reset would make of
    -- the builder anyway.
    have hone := run_builder execute b (.create item) s
    unfold createEach
    cases hresult : (b.run execute (.create item) s).result with
    | error f => simp [hresult, hone]
    | ok row => simp [hresult, ih, hone]

theorem createMany_builder (execute : Executor σ) (b : Builder) (items : Value) (s : σ) :
    (b.createMany execute items s).builder = b.reset := by
  unfold createMany
  cases b.itemsToCreate items with
  | error f => rfl
  | ok members => exact createEach_builder_reset execute members b s []

/-- The builder that a call leaves does not depend on the replies. -/
@[simp]
theorem perform_builder (execute : Executor σ) (b : Builder) (call : Call) (s : σ) :
    (b.perform execute call s).builder = b.after call := by
  cases call with
  | fluent c => rfl
  | terminal op => exact b.run_builder execute op s
  | createMany items => exact b.createMany_builder execute items s

/-! ### Runs -/

theorem performAll_cons_builder (execute : Executor σ) (b : Builder) (s : σ) (call : Call)
    (rest : List Call) :
    (b.performAll execute s (call :: rest)).builder =
      ((b.after call).performAll execute (b.perform execute call s).state rest).builder := by
  cases rest with
  | nil => exact b.perform_builder execute call s
  | cons next rest => rw [← perform_builder execute b call s]; rfl

theorem performAll_cons_state (execute : Executor σ) (b : Builder) (s : σ) (call : Call)
    (rest : List Call) :
    (b.performAll execute s (call :: rest)).state =
      ((b.after call).performAll execute (b.perform execute call s).state rest).state := by
  cases rest with
  | nil => rfl
  | cons next rest => rw [← perform_builder execute b call s]; rfl

/-- The builder after a run of calls. -/
theorem performAll_builder (execute : Executor σ) (calls : List Call) (b : Builder) (s : σ) :
    (b.performAll execute s calls).builder = calls.foldl after b := by
  induction calls generalizing b s with
  | nil => rfl
  | cons call rest ih => rw [performAll_cons_builder, ih, List.foldl_cons]

/-- What is seen of some calls, one by one: the requests that each has sent, and its result. -/
def transcript (execute : Executor σ) (b : Builder) (s : σ) :
    List Call → List (List Request × Except Fault Value)
  | [] => []
  | call :: rest =>
    let one := b.perform execute call s
    (one.sent, one.result) :: transcript execute one.builder one.state rest

/-- The requests of a run are those of its calls, in their order. -/
theorem performAll_sent (execute : Executor σ) (calls : List Call) (b : Builder) (s : σ) :
    (b.performAll execute s calls).sent = (b.transcript execute s calls).flatMap Prod.fst := by
  induction calls generalizing b s with
  | nil => rfl
  | cons call rest ih =>
    rw [transcript, List.flatMap_cons, ← ih]
    cases rest with
    | nil => exact (List.append_nil _).symm
    | cons next rest => rfl

/-! ### Requests -/

/-- The request of an insertion depends on nothing in the query but the table. -/
theorem request_create_reset (b : Builder) (item : Value) :
    b.reset.request (.create item) = b.request (.create item) :=
  rfl

theorem request_of_sent_run {execute : Executor σ} {b : Builder} {op : Terminal} {s : σ} {k : ℕ}
    {r : Request} (h : (b.run execute op s).sent[k]? = some r) : k = 0 ∧ b.request op = .ok r := by
  rw [run_eq] at h
  rcases hrequest : b.request op with f | r'
  · simp [hrequest] at h
  · cases k with
    | zero => simpa [hrequest] using h
    | succ k => simp [hrequest] at h

theorem request_of_sent_createEach {execute : Executor σ} {items : List Value} {k : ℕ}
    {r : Request} :
    ∀ {b : Builder} {s : σ} {created : List Value},
      (createEach execute b s created items).sent[k]? = some r →
        ∃ item, items[k]? = some item ∧ b.request (.create item) = .ok r := by
  induction items generalizing k with
  | nil => intro b s created h; simp [createEach] at h
  | cons item rest ih =>
    intro b s created h
    have hone := run_eq execute b (.create item) s
    unfold createEach at h
    rcases hrequest : b.request (.create item) with f | r'
    · simp [hone, hrequest] at h
    · simp only [hone, hrequest] at h
      cases k with
      | zero =>
        refine ⟨item, rfl, ?_⟩
        split at h
        · simpa [hrequest] using h
        · simpa [hrequest] using h
      | succ k =>
        -- A request after the first one belongs to the rest of the items. It is made by the reset
        -- builder, but for an insertion that is the same request.
        split at h
        · simp at h
        · obtain ⟨x, hx, hr⟩ := ih (by simpa using h)
          exact ⟨x, hx, hr⟩

/-- Every request of a call is the one that the builder makes for its part. -/
theorem request_of_sent {execute : Executor σ} {b : Builder} {call : Call} {s : σ} {k : ℕ}
    {r : Request} (h : (b.perform execute call s).sent[k]? = some r) :
    ∃ op, call.part k = some op ∧ b.request op = .ok r := by
  cases call with
  | fluent c => simp [perform, runFluent] at h
  | terminal op =>
    obtain ⟨rfl, hr⟩ := request_of_sent_run h
    exact ⟨op, rfl, hr⟩
  | createMany items =>
    unfold perform createMany at h
    rcases hitems : b.itemsToCreate items with f | members
    · simp [hitems] at h
    · simp only [hitems] at h
      obtain ⟨item, hitem, hr⟩ := request_of_sent_createEach h
      simp only [itemsToCreate, bind_eq_ok_iff, liftMismatch_eq_ok_iff,
        Value.members_eq_ok_iff] at hitems
      obtain ⟨_, _, hmembers⟩ := hitems
      exact ⟨.create item, by simp [Call.part, hmembers, hitem], hr⟩

/-- Every request of a run is made by the builder that the calls before have left. -/
theorem request_of_mem_sent {execute : Executor σ} {calls : List Call} {b : Builder} {s : σ}
    {r : Request} (h : r ∈ (b.performAll execute s calls).sent) :
    ∃ history op, history <+: calls ∧ (history.foldl after b).request op = .ok r := by
  rw [performAll_sent] at h
  induction calls generalizing b s with
  | nil => simp [transcript] at h
  | cons call rest ih =>
    rw [transcript, List.flatMap_cons, List.mem_append] at h
    rcases h with hfirst | hrest
    · obtain ⟨k, hk⟩ := List.mem_iff_getElem?.1 hfirst
      obtain ⟨op, -, hr⟩ := request_of_sent hk
      exact ⟨[], op, List.nil_prefix, hr⟩
    · obtain ⟨history, op, hhistory, hr⟩ := ih hrest
      rw [perform_builder] at hr
      exact ⟨call :: history, op, List.cons_prefix_cons.2 ⟨rfl, hhistory⟩, hr⟩

end Builder

end FluentSql
