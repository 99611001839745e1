import FluentSql.Proofs.Run

/-!
# A builder forgets

After a call that sends requests, a builder is the one that would be derived afresh for its table
and its model, however the call ended. So nothing that happened before such a call can be seen in
the calls after it: not in the requests, and not in the results.

Two facts come together in this.

* The two builders are equal (`performAll_builder_of_sends`), which is more than that the parts of
  the query are at their defaults one by one.
* What is seen of a run depends on what executes its requests through the replies only
  (`transcript_eq_of_sameReplies`). This is needed because the executor has a history as well: it is
  in another state than the one that the derived builder would begin with, and all that is asked of
  the two states is that they reply the same.
-/

namespace FluentSql.Builder

variable {σ τ : Type}

/-! ### Replies -/

/-- The replies to some requests that are made one after the other. -/
def replies (execute : Executor σ) (s : σ) : List Request → List (Except Fault Value)
  | [] => []
  | r :: rest => (execute r s).1 :: replies execute (execute r s).2 rest

/-- Two executors, each in a state of its own, reply the same to whatever they are asked. -/
def SameReplies (execute : Executor σ) (s : σ) (execute' : Executor τ) (t : τ) : Prop :=
  ∀ requests, replies execute s requests = replies execute' t requests

namespace SameReplies

variable {execute : Executor σ} {execute' : Executor τ} {s : σ} {t : τ}

theorem reply_eq (h : SameReplies execute s execute' t) (r : Request) :
    (execute r s).1 = (execute' r t).1 :=
  List.head_eq_of_cons_eq (h [r])

/-- After one more request the two still reply the same. -/
theorem next (h : SameReplies execute s execute' t) (r : Request) :
    SameReplies execute (execute r s).2 execute' (execute' r t).2 := fun requests ↦
  List.tail_eq_of_cons_eq (h (r :: requests))

end SameReplies

/-- Two runs that cannot be told apart: they leave the same builder, have sent the same requests,
end with the same result, and leave executors that reply the same. -/
structure Run.Alike (execute : Executor σ) (execute' : Executor τ) (x : Run σ) (y : Run τ) :
    Prop where
  builder : x.builder = y.builder
  sent : x.sent = y.sent
  result : x.result = y.result
  state : SameReplies execute x.state execute' y.state

variable {execute : Executor σ} {execute' : Executor τ} {s : σ} {t : τ}

theorem run_alike (h : SameReplies execute s execute' t) (b : Builder) (op : Terminal) :
    Run.Alike execute execute' (b.run execute op s) (b.run execute' op t) := by
  rw [run_eq, run_eq]
  cases b.request op with
  | error f => exact ⟨rfl, rfl, rfl, h⟩
  | ok r =>
    have hreply := congrArg (fun reply ↦ rowsOf reply >>= op.answer b.model b.query.table)
      (h.reply_eq r)
    exact ⟨rfl, rfl, hreply, h.next r⟩

theorem createEach_alike (items : List Value) :
    ∀ {s : σ} {t : τ}, SameReplies execute s execute' t → ∀ (b : Builder) (created : List Value),
      Run.Alike execute execute' (createEach execute b s created items)
        (createEach execute' b t created items) := by
  induction items with
  | nil => intro s t h b created; exact ⟨rfl, rfl, rfl, h⟩
  | cons item rest ih =>
    intro s t h b created
    obtain ⟨hbuilder, hsent, hresult, hstate⟩ := run_alike h b (.create item)
    -- The results are the same, so both runs stop at this item or both go on.
    simp only [createEach, ← hresult]
    cases (b.run execute (.create item) s).result with
    | error f => exact ⟨hbuilder, hsent, rfl, hstate⟩
    | ok row =>
      have hrest := ih hstate (b.run execute (.create item) s).builder (created ++ [row])
      rw [hbuilder] at hrest ⊢
      exact ⟨hrest.builder, congrArg₂ (· ++ ·) hsent hrest.sent, hrest.result, hrest.state⟩

theorem createMany_alike (h : SameReplies execute s execute' t) (b : Builder) (items : Value) :
    Run.Alike execute execute' (b.createMany execute items s) (b.createMany execute' items t) := by
  unfold createMany
  cases b.itemsToCreate items with
  | error f => exact ⟨rfl, rfl, rfl, h⟩
  | ok members =>
    have hall := createEach_alike members h b []
    exact ⟨congrArg reset hall.builder, hall.sent, hall.result, hall.state⟩

/-- A call depends on what executes its requests through the replies only. -/
theorem perform_alike (h : SameReplies execute s execute' t) (b : Builder) (call : Call) :
    Run.Alike execute execute' (b.perform execute call s) (b.perform execute' call t) := by
  cases call with
  | fluent c => exact ⟨rfl, rfl, rfl, h⟩
  | terminal op => exact run_alike h b op
  | createMany items => exact createMany_alike h b items

/-- A run depends on what executes its requests through the replies only. -/
theorem transcript_eq_of_sameReplies (calls : List Call) :
    ∀ {s : σ} {t : τ}, SameReplies execute s execute' t → ∀ b : Builder,
      b.transcript execute s calls = b.transcript execute' t calls := by
  induction calls with
  | nil => intro s t h b; rfl
  | cons call rest ih =>
    intro s t h b
    obtain ⟨hbuilder, hsent, hresult, hstate⟩ := perform_alike h b call
    simp only [transcript]
    rw [hsent, hresult, ih hstate, hbuilder]

/-! ### History -/

/-- The builder after a run that ends with a call that sends requests. -/
theorem performAll_builder_of_sends {last : Call} (hlast : last.Sends) (execute : Executor σ)
    (b : Builder) (s : σ) (calls : List Call) :
    (b.performAll execute s (calls ++ [last])).builder = b.table b.query.table b.model := by
  rw [performAll_builder, List.foldl_append, List.foldl_cons, List.foldl_nil,
    after_of_sends hlast, foldl_after_reset, reset_eq_table]

/-- **History independence.** After a run of calls that ends with one that sends requests, the query
holds the table of before and nothing else. Every further run of calls is seen as on a builder that
is derived for the table, if the replies are the same. -/
theorem reset_after_sending {last : Call} (hlast : last.Sends) (execute : Executor σ) (b : Builder)
    (s : σ) (calls : List Call) :
    let left := b.performAll execute s (calls ++ [last])
    left.builder.query = { table := b.query.table } ∧
      ∀ {τ : Type} (execute' : Executor τ) (t : τ), SameReplies execute left.state execute' t →
        ∀ further : List Call,
          left.builder.transcript execute left.state further =
            (b.table b.query.table b.model).transcript execute' t further := by
  intro left
  have hleft : left.builder = b.table b.query.table b.model :=
    performAll_builder_of_sends hlast execute b s calls
  refine ⟨by rw [hleft, table], ?_⟩
  intro τ execute' t hreplies further
  rw [hleft]
  exact transcript_eq_of_sameReplies further hreplies _

/-- A count that fails takes the filter and the limit before it along. -/
theorem reset_after_failing_count :
    let fault : Fault := .raised "OperationalError" "no such column: age"
    let execute : Executor Unit := fun _ s ↦ (.error fault, s)
    let calls : List Call :=
      [.fluent (.filter (.text "age") (.text ">") (.int 18)), .fluent (.limit (.int 5))]
    let left := (fresh .postgres none (.text "users")).performAll execute ()
      (calls ++ [.terminal .count])
    left.builder.query = { table := .text "users" } ∧
      left.builder.transcript execute left.state [.terminal .get] =
        [([{ sql := "SELECT * FROM users", params := [] }], .error fault)] := by
  intro fault execute calls left
  have hlast : (Call.terminal .count).Sends := trivial
  obtain ⟨hquery, hfurther⟩ :=
    reset_after_sending hlast execute (fresh .postgres none (.text "users")) () calls
  refine ⟨hquery, ?_⟩
  rw [hfurther execute () (fun _ ↦ rfl) [.terminal .get]]
  rfl

end FluentSql.Builder
