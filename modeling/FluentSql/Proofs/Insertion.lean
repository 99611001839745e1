import FluentSql.Proofs.Run

/-!
# Inserting many is inserting one by one

An insertion of many items is compared with what a caller could do instead: insert the items by
calls of their own, one after the other on the same builder (`insertions`), and look at what each of
these calls has sent and how it has ended (`transcript`).

* If all of them succeed, the insertion of many sends the same requests and answers with the rows in
  the order of the items (`InsertsUntil.all`).
* Otherwise it goes as far as the first of them that fails, and ends with its failure
  (`InsertsUntil.first`). The items before have each been sent once. The failing item has been sent
  if there was a request for it, so if it was the gateway or the reply that failed
  (`FailsAfter`). Of the items behind it nothing has been sent.

The loop resets the builder with every item, and each item can fail before its statement is written,
in the gateway, or when the row is read. The induction goes through all the same, as what is left
of a builder after an item is `Builder.reset`, and that makes the requests of the items behind
no others (`request_create_reset`). For the same reason nothing that was called on the builder
before can show in any of the statements (`InsertsMany.configured`).
-/

namespace FluentSql.Builder

variable {σ : Type}

/-- The calls that insert some items one after the other. -/
def insertions (items : List Value) : List Call :=
  items.map fun item ↦ .terminal (.create item)

/-! ### What the loop is compared with -/

/-- All calls that insert some items one after the other succeed. Each sends the request that the
builder makes for its item, and each brings a row. -/
structure InsertsAll (execute : Executor σ) (b : Builder) (s : σ) (items : List Value)
    (requests : List Request) (rows : List Value) : Prop where
  requested : items.map (fun item ↦ b.request (.create item)) = requests.map .ok
  sent : (b.transcript execute s (insertions items)).map Prod.fst = requests.map ([·])
  results : (b.transcript execute s (insertions items)).map Prod.snd = rows.map .ok

/-- How a call of a single statement fails, what it has sent, and the executor after it. -/
inductive FailsAfter (execute : Executor σ) (b : Builder) (op : Terminal) (s : σ) :
    List Request → σ → Fault → Prop
  /-- There is no request for it, and nothing is sent. -/
  | unsent {f : Fault} (h : b.request op = .error f) : FailsAfter execute b op s [] s f
  /-- Its request is sent, and then the gateway fails, or the reply cannot be answered. -/
  | sent {r : Request} {f : Fault} (h : b.request op = .ok r)
    (hreply : rowsOf (execute r s).1 >>= op.answer b.model b.query.table = .error f) :
    FailsAfter execute b op s [r] (execute r s).2 f

/-- How the insertions of some items go that are made one after the other until one fails: the
requests that are sent, the executor after them, and the rows or the failure. -/
inductive InsertsUntil (execute : Executor σ) (b : Builder) (s : σ) :
    List Value → List Request → σ → Except Fault (List Value) → Prop
  /-- None of the calls that insert the items one by one fails. -/
  | all {items : List Value} {requests : List Request} {rows : List Value}
    (h : InsertsAll execute b s items requests rows) :
    InsertsUntil execute b s items requests (b.performAll execute s (insertions items)).state
      (.ok rows)
  /-- The call that inserts `item` is the first of them that fails. -/
  | first {before after : List Value} {item : Value} {requests sent : List Request} {t : σ}
    {rows : List Value} {f : Fault} (hbefore : InsertsAll execute b s before requests rows)
    (hresult : let left := b.performAll execute s (insertions before)
      (left.builder.run execute (.create item) left.state).result = .error f)
    (hitem : FailsAfter execute b (.create item)
      (b.performAll execute s (insertions before)).state sent t f) :
    InsertsUntil execute b s (before ++ item :: after) (requests ++ sent) t (.error f)

/-! ### One more item in front -/

/-- A call of a single statement that fails, fails in one of the two ways. -/
theorem failsAfter_of_run {execute : Executor σ} {b : Builder} {op : Terminal} {s : σ} {f : Fault}
    (h : (b.run execute op s).result = .error f) :
    FailsAfter execute b op s (b.run execute op s).sent (b.run execute op s).state f := by
  rw [run_eq] at h ⊢
  rcases hrequest : b.request op with f' | r
  · simp only [hrequest, Except.error.injEq] at h
    exact .unsent (h ▸ hrequest)
  · simp only [hrequest] at h
    exact .sent hrequest h

/-- A call of a single statement that succeeds has sent the request of the builder. -/
theorem request_of_run_ok {execute : Executor σ} {b : Builder} {op : Terminal} {s : σ} {v : Value}
    (h : (b.run execute op s).result = .ok v) :
    ∃ r, b.request op = .ok r ∧ (b.run execute op s).sent = [r] := by
  rw [run_eq] at h ⊢
  rcases hrequest : b.request op with f | r
  · simp [hrequest] at h
  · exact ⟨r, rfl, rfl⟩

section Cons

variable {execute : Executor σ} {b : Builder} {s : σ} {item : Value} {r : Request} {row : Value}
  {items : List Value} {requests : List Request}

theorem InsertsAll.cons {rows : List Value} (hrequest : b.request (.create item) = .ok r)
    (hsent : (b.run execute (.create item) s).sent = [r])
    (hresult : (b.run execute (.create item) s).result = .ok row)
    (h : InsertsAll execute b.reset (b.run execute (.create item) s).state items requests rows) :
    InsertsAll execute b s (item :: items) (r :: requests) (row :: rows) := by
  have hseen : b.transcript execute s (insertions (item :: items)) =
      ([r], .ok row) ::
        b.reset.transcript execute (b.run execute (.create item) s).state (insertions items) := by
    rw [← hsent, ← hresult, ← run_builder execute b (.create item) s]
    rfl
  refine ⟨?_, ?_, ?_⟩
  · rw [List.map_cons, List.map_cons, hrequest]
    exact congrArg _ h.requested
  · rw [hseen, List.map_cons, List.map_cons, h.sent]
  · rw [hseen, List.map_cons, List.map_cons, h.results]

theorem InsertsUntil.cons {sent : List Request} {t : σ} {result : Except Fault (List Value)}
    (hrequest : b.request (.create item) = .ok r)
    (hsent : (b.run execute (.create item) s).sent = [r])
    (hresult : (b.run execute (.create item) s).result = .ok row)
    (h : InsertsUntil execute b.reset (b.run execute (.create item) s).state items sent t result) :
    InsertsUntil execute b s (item :: items) (r :: sent) t (result.map (row :: ·)) := by
  -- The calls for the items behind are made where this one has left builder and executor.
  have hleft : ∀ before : List Value,
      (b.performAll execute s (insertions (item :: before))).state =
          (b.reset.performAll execute (b.run execute (.create item) s).state
            (insertions before)).state ∧
        (b.performAll execute s (insertions (item :: before))).builder =
          (b.reset.performAll execute (b.run execute (.create item) s).state
            (insertions before)).builder := fun before ↦
    ⟨performAll_cons_state .., performAll_cons_builder ..⟩
  cases h with
  | all hall =>
    rw [← (hleft _).1]
    exact .all (hall.cons hrequest hsent hresult)
  | @first before after last requests sent t rows f hbefore hlast hfails =>
    have hall := hbefore.cons hrequest hsent hresult
    rw [← (hleft before).1] at hfails
    show InsertsUntil execute b s ((item :: before) ++ last :: after) ((r :: requests) ++ sent) t
      (.error f)
    refine .first hall ?_ ?_
    · intro left
      rw [← hlast, (hleft before).1, (hleft before).2]
    · cases hfails with
      | unsent h => exact .unsent h
      | sent h hreply => exact .sent h hreply

end Cons

/-! ### The loop -/

/-- Some items are inserted one by one up to the first that fails; the rows of the items before come
in front of theirs. -/
theorem createEach_inserts (execute : Executor σ) (items : List Value) :
    ∀ (b : Builder) (s : σ) (created : List Value),
      let all := createEach execute b s created items
      ∃ result, InsertsUntil execute b s items all.sent all.state result ∧
        all.result = result.map fun rows ↦ .list (created ++ rows) := by
  induction items with
  | nil =>
    intro b s created
    exact ⟨.ok [], .all ⟨rfl, rfl, rfl⟩, by simp [createEach, Except.map]⟩
  | cons item rest ih =>
    intro b s created
    cases hresult : (b.run execute (.create item) s).result with
    | error f =>
      simp only [createEach, hresult]
      have hnone : InsertsAll execute b s [] [] [] := ⟨rfl, rfl, rfl⟩
      exact ⟨.error f, .first hnone hresult (failsAfter_of_run hresult), rfl⟩
    | ok row =>
      obtain ⟨r, hrequest, hsent⟩ := request_of_run_ok hresult
      obtain ⟨result, hrest, heq⟩ :=
        ih b.reset (b.run execute (.create item) s).state (created ++ [row])
      simp only [createEach, hresult, run_builder, hsent, List.singleton_append]
      refine ⟨result.map (row :: ·), hrest.cons hrequest hsent hresult, ?_⟩
      rw [heq]
      cases result <;> simp [Except.map]

/-- An insertion depends on nothing in the query but the table. -/
theorem run_create_reset (execute : Executor σ) (b : Builder) (item : Value) (s : σ) :
    b.reset.run execute (.create item) s = b.run execute (.create item) s := by
  rw [run_eq, run_eq, request_create_reset]
  rfl

theorem createMany_reset (execute : Executor σ) (b : Builder) (items : Value) (s : σ) :
    b.reset.createMany execute items s = b.createMany execute items s := by
  have hitems : b.reset.itemsToCreate items = b.itemsToCreate items := rfl
  unfold createMany
  rw [hitems]
  rcases b.itemsToCreate items with f | _ | ⟨item, rest⟩
  · rfl
  · rfl
  · simp only [createEach, run_create_reset]

/-- How an insertion of many goes. -/
structure InsertsMany (execute : Executor σ) (b : Builder) (items : Value) (s : σ) : Prop where
  /-- Without a table nothing is sent. -/
  noTable : b.query.table.truthy = false →
    b.createMany execute items s =
      { builder := b.reset, state := s, sent := []
        result := .error (.misuse (.noTable (.text "create_many"))) }
  /-- What has no members cannot be inserted, and nothing is sent. -/
  noMembers : b.query.table.truthy = true → items.members? = none →
    b.createMany execute items s =
      { builder := b.reset, state := s, sent := []
        result := .error (.mismatch (.notIterable items.kindName)) }
  /-- The members are inserted in their order up to the first that fails. -/
  inserts : b.query.table.truthy = true → ∀ members, items.members? = some members →
    ∃ result,
      InsertsUntil execute b s members (b.createMany execute items s).sent
          (b.createMany execute items s).state result ∧
        (b.createMany execute items s).result = result.map .list
  /-- What was called on the builder before makes no difference: builders with one dialect, model and
  table insert alike. -/
  configured : ∀ b' : Builder, b'.reset = b.reset →
    b'.createMany execute items s = b.createMany execute items s

/-- **Inserting many is inserting one by one**, with the exact prefix on failure: on every builder,
whatever the items are, whatever was called before, and whatever the replies are. -/
theorem insertsMany (execute : Executor σ) (b : Builder) (items : Value) (s : σ) :
    InsertsMany execute b items s where
  noTable := by
    intro htable
    simp [createMany, itemsToCreate, Query.requireTable, htable, bind, Except.bind]
  noMembers := by
    intro htable hmembers
    simp [createMany, itemsToCreate, Query.requireTable, htable, Value.members, hmembers,
      liftMismatch, bind, Except.bind]
  inserts := by
    intro htable members hmembers
    have hitems : b.itemsToCreate items = .ok members := by
      simp [itemsToCreate, Query.requireTable, htable, Value.members, hmembers, liftMismatch, bind,
        Except.bind]
    simp only [createMany, hitems]
    exact createEach_inserts execute members b s []
  configured := by
    intro b' hreset
    rw [← createMany_reset execute b', hreset, createMany_reset]

/-- Of three items the second fails in the gateway: the first two have been sent, without the limit
that was set before, and the third has not. -/
theorem insertsMany_of_second_failing :
    let fault : Fault := .raised "UniqueViolationError" "duplicate key value"
    let named : String → Value := fun name ↦ .dictionary [(.text "name", .text name)]
    let execute : Executor Nat := fun r n ↦
      (if n = 1 then .error fault else .ok (.list [.dictionary [(.text "name", .list r.params)]]),
        n + 1)
    let b := ((fresh .postgres none (.text "users")).configure (.limit (.int 5))).1
    let items := Value.list [named "Ada", named "Bob", named "Eve"]
    InsertsMany execute b items 0 ∧
      (b.createMany execute items 0).sent =
        [{ sql := "INSERT INTO users (name) VALUES ($1) RETURNING *", params := [.text "Ada"] },
          { sql := "INSERT INTO users (name) VALUES ($1) RETURNING *", params := [.text "Bob"] }] ∧
        (b.createMany execute items 0).result = .error fault := by
  intro fault named execute b items
  exact ⟨insertsMany execute b items 0, rfl, rfl⟩

end FluentSql.Builder
