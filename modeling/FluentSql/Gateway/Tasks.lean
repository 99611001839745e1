import FluentSql.Gateway.Connection

/-!
# Tasks on a shared connection

Several tasks that use one shared connection at the same time. Whatever touches the database is done
by a worker, and a lock lets one worker at a time touch a connection that is in use. A task picks up
the connection when it enters, before it waits for the lock, and the lock is granted in the order in
which it was asked for.

A task goes through phases (`Phase`), and what moves it on is a turn (`Turn`): of the loop that
resumes tasks, or of a worker that ends. Between the end of a worker and the moment at which its
task goes on, and between the release of the lock and the moment at which the next task takes it,
anything else can happen. So a course of events is a list of turns, in any order in which each is
possible (`Tasks.run?`).

* A free lock is not up for grabs as long as a task waits for it. The task that has waited longest
  takes it when it goes on (`wake`), and whoever asks in the meantime waits behind the others.
* Opening a connection needs no lock, because nobody can use a connection that is not open yet.

`together` follows one course: all tasks enter in turn, and then workers end in the order in which
they began, each followed at once by whatever it lets go on.
-/

namespace FluentSql.Gateway

open FluentSql

/-- What a task does on the gateway. -/
inductive Task where
  | connect
  | disconnect
  | execute (sql params : Value)
deriving Repr

/-- The job of a task on a connection that it has picked up. Before there is one, the parameters of
a statement are listed. -/
def Task.jobOn (id : Nat) : Task → Except Mismatch Job
  | .execute sql params => do
    let values ← params.members
    return .statement id sql values
  | _ => .ok (.closing id)

/-- How far a task has come. -/
inductive Phase where
  | fresh
  /-- The task has picked up a connection and waits for the lock. -/
  | waiting (id : Nat)
  /-- A worker has been given a job for the task. Unless it opens a connection, the task holds the
  lock. -/
  | working (job : Job)
  /-- The worker has ended, but the task has not gone on yet. -/
  | worked (job : Job) (result : Except Fault Value)
  | done (result : Except Fault Value)

/-- Some tasks on one gateway. `holder` is the task that holds the lock, and `queue` lists the tasks
that wait for it. `picked` and `begun` tell what has been: which tasks have picked up a connection,
and which jobs workers have been given, in that order. -/
structure Tasks where
  gateway : Connection
  tasks : List (Task × Phase)
  holder : Option Nat := none
  queue : List Nat := []
  picked : List (Nat × Nat) := []
  begun : List (Nat × Job) := []

namespace Tasks

/-- The tasks before any of them has entered. -/
def start (gateway : Connection) (tasks : List Task) : Tasks :=
  { gateway, tasks := tasks.map fun t ↦ (t, .fresh) }

/-- Put a task into a phase. -/
def setPhase (s : Tasks) (i : Nat) (phase : Phase) : Tasks :=
  { s with tasks := s.tasks.modify i fun t ↦ (t.1, phase) }

/-- Give a job to a worker. -/
def begin (s : Tasks) (i : Nat) (job : Job) : Tasks :=
  { s.setPhase i (.working job) with begun := s.begun ++ [(i, job)] }

/-- Give the lock, which is free, to a task that has picked up a connection. A task for which there
is no job ends here and leaves the lock free. -/
def grant (s : Tasks) (i id : Nat) (t : Task) : Tasks :=
  match t.jobOn id with
  | .error m => s.setPhase i (.done (.error (.mismatch m)))
  | .ok job => { s.begin i job with holder := some i }

/-- Let the task that has waited longest take the lock, if the lock is free. -/
def wake (s : Tasks) : Option Tasks :=
  match s.holder, s.queue with
  | none, i :: rest =>
    match s.tasks[i]? with
    | some (t, .waiting id) => some ({ s with queue := rest }.grant i id t)
    | _ => none
  | _, _ => none

/-- Pick up a connection and get in line for the lock. -/
def pick (s : Tasks) (i id : Nat) : Tasks :=
  { s.setPhase i (.waiting id) with queue := s.queue ++ [i], picked := s.picked ++ [(i, id)] }

/-- Pick up a connection and ask for the lock. It is granted at once if it is free and nobody waits
for it. -/
def acquire (s : Tasks) (i id : Nat) : Tasks :=
  let asked := s.pick i id
  if s.holder.isNone && s.queue.isEmpty then asked.wake.getD asked else asked

/-- Start a task, up to its first wait. -/
def enter (s : Tasks) (i : Nat) : Option Tasks :=
  match s.tasks[i]? with
  | some (.connect, .fresh) =>
    match s.gateway.held with
    | some _ => some (s.setPhase i (.done (.ok .null)))
    | none =>
      let id := s.gateway.count
      some ({ s with gateway := { s.gateway with count := id + 1 } }.begin i (.opening id))
  | some (.disconnect, .fresh) =>
    match s.gateway.held with
    | none => some (s.setPhase i (.done (.ok .null)))
    | some id => some ({ s with gateway := { s.gateway with held := none } }.acquire i id)
  | some (.execute .., .fresh) =>
    match s.gateway.held with
    | none => some (s.setPhase i (.done (.error Connection.notConnected)))
    | some id => some (s.acquire i id)
  | _ => none

/-- End the worker of a task. -/
def finish (s : Tasks) (i : Nat) : Option Tasks :=
  match s.tasks[i]? with
  | some (_, .working job) =>
    let (result, gateway) := s.gateway.work job
    some ({ s with gateway }.setPhase i (.worked job result))
  | _ => none

/-- Who holds the lock once the task of a job has gone on. -/
def holderAfter (s : Tasks) : Job → Option Nat
  | .opening _ => s.holder
  | _ => none

/-- Let a task go on whose worker has ended. -/
def resume (s : Tasks) (i : Nat) : Option Tasks :=
  match s.tasks[i]? with
  | some (_, .worked job result) =>
    some { s.setPhase i (.done result) with
      gateway := s.gateway.conclude job result, holder := s.holderAfter job }
  | _ => none

/-! ### Courses of events -/

/-- What moves a task on. -/
inductive Turn where
  /-- The task starts. -/
  | enter (i : Nat)
  /-- The task that has waited longest takes the lock. -/
  | wake
  /-- The worker of the task ends. -/
  | finish (i : Nat)
  /-- The task goes on after its worker. -/
  | resume (i : Nat)
deriving Repr, DecidableEq

/-- The tasks after a turn, if it is possible. -/
def step? (s : Tasks) : Turn → Option Tasks
  | .enter i => s.enter i
  | .wake => s.wake
  | .finish i => s.finish i
  | .resume i => s.resume i

/-- The tasks after some turns, if they are possible one after the other. -/
def run? (s : Tasks) (turns : List Turn) : Option Tasks :=
  turns.foldlM step? s

/-! ### All at once -/

/-- Let tasks take the lock as long as it is free, so many at most. -/
def wakeAll : Nat → Tasks → Tasks
  | 0, s => s
  | n + 1, s =>
    match s.wake with
    | some s => wakeAll n s
    | none => s

/-- End the worker of a task, and let go on what it lets go on. -/
def complete (s : Tasks) (i : Nat) : Option Tasks := do
  let s ← s.finish i
  let s ← s.resume i
  return wakeAll s.queue.length s

/-- The worker of a task has a job and has not ended. -/
def isBusy (s : Tasks) (i : Nat) : Bool :=
  match s.tasks[i]? with
  | some (_, .working _) => true
  | _ => false

/-- End workers in the order in which they began, as often as the given number. -/
def settle : Nat → Tasks → Tasks
  | 0, s => s
  | n + 1, s =>
    match s.begun.find? fun b ↦ s.isBusy b.1 with
    | some (i, _) => settle n ((s.complete i).getD s)
    | none => s

/-- The result of a task that has come to its end. -/
def resultOf : Task × Phase → Except Fault Value
  | (_, .done result) => result
  | _ => .ok .null

/-- Run some tasks at the same time: start them in turn, then let workers end in the order in which
they began. The results are in the order of the tasks. -/
def together (gateway : Connection) (tasks : List Task) :
    List (Except Fault Value) × Connection :=
  let entered := (List.range tasks.length).foldl (fun s i ↦ (s.enter i).getD s)
    (start gateway tasks)
  let s := settle tasks.length entered
  (s.tasks.map resultOf, s.gateway)

end Tasks

end FluentSql.Gateway
