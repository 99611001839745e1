import FluentSql.Proofs.Custody

/-!
# The life cycle of a shared connection

A shared connection keeps one connection at a time (`Connection.keeper`), so that the life cycle of
a keeper is its life cycle. What is left is a matter of this kind of gateway alone: what a statement
does on the connection that is kept (`Connection.Runs`), and above all that the cursor it has got is
closed, whatever becomes of its rows.
-/

namespace FluentSql.Gateway

open FluentSql

namespace Connection

/-- What can be seen of a shared connection. -/
def ledger : Ledger Connection where
  held := held
  count := count
  trace := trace
  refusal := notConnected

/-- What a statement does on a connection, with the response that the database gives: its result,
and what happens meanwhile. -/
inductive Runs (id : ℕ) (sql params : Value) (response : Response) :
    Except Fault Value → List Event → Prop
  /-- The parameters cannot be listed, and the database is not reached. -/
  | unread {m : Mismatch} (hparams : params.members = .error m) :
    Runs id sql params response (.error (.mismatch m)) []
  /-- The statement fails, and there is no cursor. -/
  | failed {values : List Value} {f : Failure} (hparams : params.members = .ok values)
    (hfailure : response.failure = some f) :
    Runs id sql params response (.error f.fault) [.rowsNamed id, .executed id sql values]
  /-- There is a cursor. Its rows are read, and whether or not this succeeds, it is closed. -/
  | read {values : List Value} (hparams : params.members = .ok values)
    (hfailure : response.failure = none) :
    Runs id sql params response (rowsOf response)
      [.rowsNamed id, .executed id sql values, .fetched id, .cursorClosed id]

theorem moves_connect (c : Connection) : ledger.Moves c .connect c.connect.1 c.connect.2 := by
  rcases hheld : c.held with _ | id
  · rcases hopen : c.script.nextOpen.1 with _ | f
    · simp only [connect, hheld, carryOut, work, openOne, hopen]
      exact .opened hheld rfl rfl rfl (by simp) (by simp [Event.opens, Event.id, ledger])
    · simp only [connect, hheld, carryOut, work, openOne, hopen, conclude]
      exact .refused hheld rfl rfl rfl (by simp) (by simp [Event.opens, Event.id, ledger])
  · simp only [connect, hheld]
    exact .kept hheld

theorem moves_disconnect (c : Connection) :
    ledger.Moves c .disconnect c.disconnect.1 c.disconnect.2 := by
  rcases hheld : c.held with _ | id
  · simp only [disconnect, hheld]
    exact .idle hheld
  · rcases hclose : c.script.nextClose.1 with _ | f
    · simp only [disconnect, hheld, carryOut, work, closeOne, hclose]
      exact .closed hheld rfl rfl rfl
    · simp only [disconnect, hheld, carryOut, work, closeOne, hclose]
      exact .closed hheld rfl rfl rfl

/-- A statement leaves everything of a connection as it is but what has happened. -/
theorem execute_of_held {c : Connection} {id : ℕ} (hheld : c.held = some id) (sql params : Value) :
    ∃ events, Runs id sql params c.script.nextResponse.1 (c.execute sql params).1 events ∧
      (c.execute sql params).2.held = some id ∧ (c.execute sql params).2.count = c.count ∧
      (c.execute sql params).2.trace = c.trace ++ events := by
  rcases hparams : params.members with m | values
  · simp only [execute, hheld, hparams]
    exact ⟨[], .unread hparams, by simp⟩
  · rcases hfailure : c.script.nextResponse.1.failure with _ | f
    · simp only [execute, hheld, hparams, carryOut, work, runStatement, hfailure, conclude]
      exact ⟨_, .read hparams hfailure, rfl, rfl, List.append_assoc ..⟩
    · simp only [execute, hheld, hparams, carryOut, work, runStatement, hfailure, conclude]
      exact ⟨_, .failed hparams hfailure, rfl, rfl, rfl⟩

theorem Runs.uses {id : ℕ} {sql params : Value} {response : Response}
    {result : Except Fault Value} {events : List Event}
    (h : Runs id sql params response result events) :
    (∀ e ∈ events, e.opens = false ∧ e.closes = false ∧ e.id = id) ∧
      result ≠ .error notConnected := by
  cases h with
  | unread => simp [notConnected]
  | failed => simp [Event.opens, Event.closes, Event.id, Failure.fault, notConnected]
  | read =>
    refine ⟨by simp [Event.opens, Event.closes, Event.id], ?_⟩
    rcases response with ⟨_, _, _, _ | f, _ | f⟩ <;> simp [rowsOf, Failure.fault, notConnected]

theorem moves_execute (c : Connection) (sql params : Value) :
    ledger.Moves c (.execute sql params) (c.execute sql params).1 (c.execute sql params).2 := by
  rcases hheld : c.held with _ | id
  · simp only [execute, hheld]
    exact .unconnected hheld
  · obtain ⟨events, hruns, hheld', hcount, htrace⟩ := execute_of_held hheld sql params
    obtain ⟨hevents, hresult⟩ := hruns.uses
    exact .used hheld hheld' hcount htrace hevents hresult

/-- A shared connection keeps one connection at a time. -/
def keeper : Keeper Connection where
  toLedger := ledger
  perform := perform
  moves
    | c, .connect => c.moves_connect
    | c, .disconnect => c.moves_disconnect
    | c, .execute sql params => c.moves_execute sql params

/-- What a statement does if there is a connection to run it on. -/
def Statements (m : Made Connection) : Prop :=
  ∀ id sql params, m.before.held = some id → m.task = .execute sql params →
    Runs id sql params m.before.script.nextResponse.1 m.result (keeper.events m)

theorem statements_make (c : Connection) (t : Task) : Statements (make perform c t) := by
  rintro id sql params hheld rfl
  obtain ⟨events, hruns, -, -, htrace⟩ := execute_of_held hheld sql params
  rw [keeper.events_eq (m := make perform c (.execute sql params)) htrace]
  exact hruns

/-- **The life cycle of a shared connection.** Whatever is done with it, whatever fails. -/
theorem connection_lifeCycle_of_run (settings : ConnectionSettings) (script : Script)
    (usage : Usage) :
    keeper.LifeCycle { settings, script } usage ∧
      ∀ m ∈ (usage.run keeper.perform { settings, script }).calls, Statements m := by
  have hlife : keeper.LifeCycle { settings, script } usage := Keeper.lifeCycle rfl rfl usage
  refine ⟨hlife, fun m hm ↦ ?_⟩
  rw [hlife.eq_make hm]
  exact statements_make _ _

end Connection

end FluentSql.Gateway
