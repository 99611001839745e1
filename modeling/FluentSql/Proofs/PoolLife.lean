import FluentSql.Proofs.Custody

/-!
# The life cycle of a pool

A gateway with a pool keeps one pool at a time (`Pool.keeper`), so that the life cycle of a keeper
is its life cycle: a pool whose opening failed is not kept, and nothing is ever asked of it. What is
left is what a statement does to the pool that is kept (`Pool.Runs`), and above all that the
connection it has taken goes back.
-/

namespace FluentSql.Gateway

open FluentSql

namespace Pool

/-- What can be seen of a gateway with a pool. -/
def ledger : Ledger Pool where
  held := held
  count := count
  trace := trace
  refusal := notConnected

/-- What a statement does on a connection that was taken from a pool, with the response that the
database gives: its result, and what happens meanwhile. -/
inductive Answers (id : ℕ) (sql params : Value) (response : Response) :
    Except Fault Value → List Event → Prop
  /-- The parameters cannot be listed, and the database is not reached. -/
  | unread {m : Mismatch} (hparams : params.members = .error m) :
    Answers id sql params response (.error (.mismatch m)) []
  | failed {values : List Value} {f : Failure} (hparams : params.members = .ok values)
    (hfailure : response.failure = some f) :
    Answers id sql params response (.error f.fault) [.executed id sql values]
  /-- The statement has no columns, and so no rows to read. -/
  | bare {values : List Value} (hparams : params.members = .ok values)
    (hfailure : response.failure = none) (hcolumns : response.columns = none) :
    Answers id sql params response (.ok (.list [])) [.executed id sql values]
  | unfetched {values : List Value} {columns : List String} {f : Failure}
    (hparams : params.members = .ok values) (hfailure : response.failure = none)
    (hcolumns : response.columns = some columns) (hfetch : response.fetchFailure = some f) :
    Answers id sql params response (.error f.fault) [.executed id sql values, .fetched id]
  | read {values : List Value} {columns : List String} (hparams : params.members = .ok values)
    (hfailure : response.failure = none) (hcolumns : response.columns = some columns)
    (hfetch : response.fetchFailure = none) :
    Answers id sql params response (.ok (.list (response.rows.map (rowOf columns))))
      [.executed id sql values, .fetched id]

/-- What a statement does to a pool, if asking for a connection may fail. -/
inductive Runs (id : ℕ) (sql params : Value) (response : Response) :
    Option Failure → Except Fault Value → List Event → Prop
  /-- There is no connection to be had. -/
  | unacquired (f : Failure) :
    Runs id sql params response (some f) (.error f.fault) [.acquired id]
  /-- A connection is taken, and whatever happens to it, it goes back. -/
  | acquired {result : Except Fault Value} {events : List Event}
    (h : Answers id sql params response result events) :
    Runs id sql params response none result
      (.acquired id :: events ++ [.released id (failureClass result)])

theorem moves_connect (p : Pool) : ledger.Moves p .connect p.connect.1 p.connect.2 := by
  rcases hheld : p.held with _ | id
  · rcases hopen : p.script.nextOpen.1 with _ | f
    · simp only [connect, hheld, openNew, hopen]
      exact .opened hheld rfl rfl rfl (by simp) (by simp [Event.opens, Event.id, ledger])
    · simp only [connect, hheld, openNew, hopen]
      exact .refused hheld rfl rfl rfl (by simp) (by simp [Event.opens, Event.id, ledger])
  · simp only [connect, hheld]
    exact .kept hheld

theorem moves_disconnect (p : Pool) :
    ledger.Moves p .disconnect p.disconnect.1 p.disconnect.2 := by
  rcases hheld : p.held with _ | id
  · simp only [disconnect, hheld]
    exact .idle hheld
  · rcases hclose : p.script.nextClose.1 with _ | f
    · simp only [disconnect, hheld, closeOld, hclose]
      exact .closed hheld rfl rfl rfl
    · simp only [disconnect, hheld, closeOld, hclose]
      exact .closed hheld rfl rfl rfl

/-- On a connection that was taken, only what happens is added. -/
theorem runStatement_answers (p : Pool) (id : ℕ) (sql : Value) {params : Value}
    {values : List Value} (hparams : params.members = .ok values) :
    ∃ events,
      Answers id sql params p.script.nextResponse.1 (p.runStatement id sql values).1 events ∧
      (p.runStatement id sql values).2.held = p.held ∧
      (p.runStatement id sql values).2.count = p.count ∧
      (p.runStatement id sql values).2.trace = p.trace ++ events := by
  rcases hfailure : p.script.nextResponse.1.failure with _ | f
  · rcases hcolumns : p.script.nextResponse.1.columns with _ | columns
    · simp only [runStatement, hfailure, hcolumns]
      exact ⟨_, .bare hparams hfailure hcolumns, rfl, rfl, rfl⟩
    · rcases hfetch : p.script.nextResponse.1.fetchFailure with _ | f
      · simp only [runStatement, hfailure, hcolumns, hfetch]
        exact ⟨_, .read hparams hfailure hcolumns hfetch, rfl, rfl, List.append_assoc ..⟩
      · simp only [runStatement, hfailure, hcolumns, hfetch]
        exact ⟨_, .unfetched hparams hfailure hcolumns hfetch, rfl, rfl, List.append_assoc ..⟩
  · simp only [runStatement, hfailure]
    exact ⟨_, .failed hparams hfailure, rfl, rfl, rfl⟩

theorem execute_of_held {p : Pool} {id : ℕ} (hheld : p.held = some id) (sql params : Value) :
    ∃ events, Runs id sql params p.script.nextResponse.1 p.script.nextAcquire.1
        (p.execute sql params).1 events ∧
      (p.execute sql params).2.held = some id ∧ (p.execute sql params).2.count = p.count ∧
      (p.execute sql params).2.trace = p.trace ++ events := by
  obtain ⟨settings, script, held, count, trace, log⟩ := p
  obtain rfl : held = some id := hheld
  rcases hacquire : script.nextAcquire.1 with _ | f
  · rcases hparams : params.members with m | values
    · simp only [execute, hacquire, hparams]
      exact ⟨_, .acquired (.unread hparams), rfl, rfl, List.append_assoc ..⟩
    · obtain ⟨events, hanswers, hheld, hcount, htrace⟩ := runStatement_answers
        ⟨settings, script.nextAcquire.2, some id, count, trace ++ [.acquired id], log⟩
        id sql hparams
      simp only [execute, hacquire, hparams]
      refine ⟨_, .acquired hanswers, hheld, hcount, ?_⟩
      simp [release, note, htrace]
  · simp only [execute, hacquire]
    exact ⟨_, .unacquired f, rfl, rfl, rfl⟩

theorem Answers.uses {id : ℕ} {sql params : Value} {response : Response}
    {result : Except Fault Value} {events : List Event}
    (h : Answers id sql params response result events) :
    (∀ e ∈ events, e.opens = false ∧ e.closes = false ∧ e.id = id) ∧
      result ≠ .error notConnected := by
  cases h <;> simp [Event.opens, Event.closes, Event.id, Failure.fault, notConnected]

theorem Runs.uses {id : ℕ} {sql params : Value} {response : Response} {acquire : Option Failure}
    {result : Except Fault Value} {events : List Event}
    (h : Runs id sql params response acquire result events) :
    (∀ e ∈ events, e.opens = false ∧ e.closes = false ∧ e.id = id) ∧
      result ≠ .error notConnected := by
  cases h with
  | unacquired f => simp [Event.opens, Event.closes, Event.id, Failure.fault, notConnected]
  | acquired h =>
    obtain ⟨hevents, hresult⟩ := h.uses
    refine ⟨fun e he ↦ ?_, hresult⟩
    simp only [List.cons_append, List.mem_cons, List.mem_append, List.not_mem_nil, or_false] at he
    rcases he with rfl | he | rfl
    · exact ⟨rfl, rfl, rfl⟩
    · exact hevents e he
    · exact ⟨rfl, rfl, rfl⟩

theorem moves_execute (p : Pool) (sql params : Value) :
    ledger.Moves p (.execute sql params) (p.execute sql params).1 (p.execute sql params).2 := by
  rcases hheld : p.held with _ | id
  · simp only [execute, hheld]
    exact .unconnected hheld
  · obtain ⟨events, hruns, hheld', hcount, htrace⟩ := execute_of_held hheld sql params
    obtain ⟨hevents, hresult⟩ := hruns.uses
    exact .used hheld hheld' hcount htrace hevents hresult

/-- A gateway with a pool keeps one pool at a time. -/
def keeper : Keeper Pool where
  toLedger := ledger
  perform := perform
  moves
    | p, .connect => p.moves_connect
    | p, .disconnect => p.moves_disconnect
    | p, .execute sql params => p.moves_execute sql params

/-- What a statement does if there is a pool to take a connection from. -/
def Statements (m : Made Pool) : Prop :=
  ∀ id sql params, m.before.held = some id → m.task = .execute sql params →
    Runs id sql params m.before.script.nextResponse.1 m.before.script.nextAcquire.1 m.result
      (keeper.events m)

theorem statements_make (p : Pool) (t : Task) : Statements (make perform p t) := by
  rintro id sql params hheld rfl
  obtain ⟨events, hruns, -, -, htrace⟩ := execute_of_held hheld sql params
  rw [keeper.events_eq (m := make perform p (.execute sql params)) htrace]
  exact hruns

/-- **The life cycle of a pool.** Whatever is done with the gateway, whatever fails. -/
theorem pool_lifeCycle_of_run (settings : PoolSettings) (script : Script) (usage : Usage) :
    keeper.LifeCycle { settings, script } usage ∧
      ∀ m ∈ (usage.run keeper.perform { settings, script }).calls, Statements m := by
  have hlife : keeper.LifeCycle { settings, script } usage := Keeper.lifeCycle rfl rfl usage
  refine ⟨hlife, fun m hm ↦ ?_⟩
  rw [hlife.eq_make hm]
  exact statements_make _ _

end Pool

end FluentSql.Gateway
